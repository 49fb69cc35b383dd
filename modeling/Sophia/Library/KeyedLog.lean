import Sophia.Library.PyDict

namespace Sophia.KeyedLog

-- What a dict holds after a log of writes
variable {κ α : Type}

-- Of two writes under different keys one comes first.
theorem earlier_write {writes : List (κ × α)} {one other : κ × α} (apart : one.1 ≠ other.1) (first : writes = before ++ one :: later)
    (second : writes = front ++ other :: back) :
    (∃ between, later = between ++ other :: back) ∨ ∃ between, back = between ++ one :: later := by
  rw [first] at second
  rcases List.append_eq_append_iff.mp second with ⟨between,rfl,tail⟩ | ⟨between,rfl,tail⟩
  · cases between with
    | nil =>
      obtain ⟨same,_⟩ := List.cons_eq_cons.mp tail
      exact absurd (congrArg Prod.fst same) apart
    | cons w between =>
      obtain ⟨rfl,rfl⟩ := List.cons_eq_cons.mp tail
      exact .inl ⟨between,rfl⟩
  · cases between with
    | nil =>
      obtain ⟨same,_⟩ := List.cons_eq_cons.mp tail
      exact absurd (congrArg Prod.fst same).symm apart
    | cons w between =>
      obtain ⟨rfl,rfl⟩ := List.cons_eq_cons.mp tail
      exact .inr ⟨between,rfl⟩

variable [DecidableEq κ]

def store (d : PyDict κ α) (writes : List (κ × α)) : PyDict κ α := writes.foldl (fun d entry => d.set entry.1 entry.2) d

-- The value is the last one written under the key, or it was there and nothing was written over it.
def Standing (d : PyDict κ α) (writes : List (κ × α)) (key : κ) (value : α) : Prop :=
  (∃ before later, writes = before ++ (key,value) :: later ∧ key ∉ later.map Prod.fst) ∨
    (key ∉ writes.map Prod.fst ∧ d.get key = some value)

variable {d : PyDict κ α} {writes : List (κ × α)} {key : κ} {value : α}

theorem get_store : (store d writes).get key = some value ↔ Standing d writes key value := by
  induction writes generalizing d with
  | nil => simp [store,Standing]
  | cons entry rest ih =>
    change (store (d.set entry.1 entry.2) rest).get key = some value ↔ _
    rw [ih]
    constructor
    · rintro (⟨before,later,rfl,last⟩ | ⟨untouched,held⟩)
      · exact .inl ⟨entry :: before,later,rfl,last⟩
      · rw [PyDict.get_set] at held
        split at held
        · next same =>
          cases held
          exact .inl ⟨[],rest,by rw [same]; rfl,untouched⟩
        · next other => exact .inr ⟨by simp_all,held⟩
    · rintro (⟨before,later,shape,last⟩ | ⟨untouched,held⟩)
      · cases before with
        | nil =>
          obtain ⟨rfl,rfl⟩ := List.cons_eq_cons.mp shape
          exact .inr ⟨last,PyDict.get_set_same⟩
        | cons first before =>
          obtain ⟨rfl,rfl⟩ := List.cons_eq_cons.mp shape
          exact .inl ⟨before,later,rfl,last⟩
      · rw [List.map_cons,List.mem_cons,not_or] at untouched
        exact .inr ⟨untouched.2,by rw [PyDict.get_set_other untouched.1]; exact held⟩

-- A part of a state that a log of events writes to
theorem store_view {σ ω : Type} {apply : σ → ω → σ} (look : σ → PyDict κ α) {view : ω → Option (κ × α)}
    (writes : ∀ s event, look (apply s event) = match view event with
      | some entry => (look s).set entry.1 entry.2
      | none => look s) (events : List ω) (s : σ) :
    look (events.foldl apply s) = store (look s) (events.filterMap view) := by
  induction events generalizing s with
  | nil => rfl
  | cons event rest ih =>
    rw [List.foldl_cons,ih,writes,List.filterMap_cons]
    cases view event <;> rfl

section
variable {R : α → α → Prop}

-- Related values stand under one key only.
def OneEach (R : α → α → Prop) (d : PyDict κ α) : Prop :=
  ∀ key other a b, d.get key = some a → d.get other = some b → R a b → key = other

-- Of two related writes the later one takes the key of the earlier, or that key was taken in between.
def Merged (R : α → α → Prop) (writes : List (κ × α)) : Prop :=
  ∀ before one between other after, writes = before ++ one :: (between ++ other :: after) → R one.2 other.2 →
    one.1 = other.1 ∨ one.1 ∈ between.map Prod.fst

theorem standing_empty : Standing .empty writes key value ↔
    ∃ before later, writes = before ++ (key,value) :: later ∧ key ∉ later.map Prod.fst := by
  constructor
  · rintro (written | ⟨_,held⟩)
    · exact written
    · cases held
  · exact .inl

theorem oneEach_of_merged (symm : ∀ a b, R a b → R b a) (merged : Merged R writes) : OneEach R (store .empty writes) := by
  intro key other a b one two related
  obtain ⟨before,later,first,last⟩ := standing_empty.mp (get_store.mp one)
  obtain ⟨front,back,second,final⟩ := standing_empty.mp (get_store.mp two)
  by_contra apart
  rcases earlier_write apart first second with ⟨between,rfl⟩ | ⟨between,rfl⟩
  · rcases merged before (key,a) between (other,b) back first related with same | taken
    · exact apart same
    · exact last (by simp_all)
  · rcases merged front (other,b) between (key,a) later second (symm a b related) with same | taken
    · exact apart same.symm
    · exact final (by simp_all)

theorem oneEach_throughout (symm : ∀ a b, R a b → R b a) :
    (∀ earlier later, writes = earlier ++ later → OneEach R (store .empty earlier)) ↔ Merged R writes := by
  constructor
  · intro throughout before one between other after shape related
    by_contra neither
    rw [not_or] at neither
    have early := throughout (before ++ one :: (between ++ [other])) after (by simp [shape])
    have first : (store .empty (before ++ one :: (between ++ [other]))).get one.1 = some one.2 := by
      refine get_store.mpr (.inl ⟨before,between ++ [other],rfl,?_⟩)
      rw [List.map_append,List.mem_append,not_or]
      exact ⟨neither.2,by simpa using neither.1⟩
    have second : (store .empty (before ++ one :: (between ++ [other]))).get other.1 = some other.2 := by
      exact get_store.mpr (.inl ⟨before ++ one :: between,[],by simp,by simp⟩)
    exact neither.1 (early _ _ _ _ first second related)
  · intro merged earlier later split
    refine oneEach_of_merged symm fun before one between other after shape related => ?_
    exact merged before one between other (after ++ later) (by simp [split,shape]) related

end

end Sophia.KeyedLog
