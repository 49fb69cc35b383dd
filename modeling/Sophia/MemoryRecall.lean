import Sophia.Memory

namespace Sophia.Memory
open PyText

-- What the message names
def mentions (runtime : Runtime) (message : String) (entity : Entity) : Bool :=
  match entity.name with
  | .str name => name ≠ "" && hasSubstring (runtime.lower name) (runtime.lower message)
  | _ => false

def mentioned (runtime : Runtime) (memory : MockMemoryProvider) (message : String) : List Entity :=
  memory.entities.values.filter (mentions runtime message)

def inName (runtime : Runtime) (query : String) (entity : Entity) : Bool :=
  match entity.name with
  | .str name => textMatches runtime query name
  | _ => false

def inAttributes (runtime : Runtime) (query : String) (entity : Entity) : Bool :=
  match entity.attributes with
  | .obj fields => fields.any fun entry => textMatches runtime query (runtime.str entry.2)
  | _ => false

def finds (runtime : Runtime) (query : String) (entity : Entity) : Bool :=
  inName runtime query entity || inAttributes runtime query entity

-- The name is a text, and where the query is not part of it the attributes are an object.
def Readable (runtime : Runtime) (query : String) (entity : Entity) : Prop :=
  (∃ name, entity.name = .str name) ∧ (inName runtime query entity = true ∨ ∃ fields, entity.attributes = .obj fields)

def Searchable (runtime : Runtime) (memory : MockMemoryProvider) (message : String) : Prop :=
  ∀ entity ∈ memory.entities.values, Readable runtime message entity

-- The message as a whole is the entity's name, or part of one of its attributes.
def Echoes (runtime : Runtime) (message : String) (entity : Entity) : Prop :=
  (∃ name, entity.name = .str name ∧ runtime.lower name = runtime.lower message) ∨ inAttributes runtime message entity = true

-- Fewer than five entities that the search finds are stored before it.
def Early (runtime : Runtime) (memory : MockMemoryProvider) (message : String) (entity : Entity) : Prop :=
  ∃ before after, memory.entities.values = before ++ entity :: after ∧ (before.filter (finds runtime message)).length < 5

section
variable {runtime : Runtime} {memory : MockMemoryProvider} {message : String} {entity : Entity}

theorem mem_take_filter {α : Type} {p : α → Bool} {xs : List α} {n : Nat} {x : α} : x ∈ (xs.filter p).take n ↔
    p x = true ∧ ∃ before after, xs = before ++ x :: after ∧ (before.filter p).length < n := by
  induction xs generalizing n with
  | nil => simp
  | cons first rest ih =>
    constructor
    · intro taken
      by_cases passes : p first = true
      · rw [List.filter_cons_of_pos passes] at taken
        cases n with
        | zero => simp at taken
        | succ n =>
          rcases List.mem_cons.mp taken with rfl | later
          · exact ⟨passes,[],rest,rfl,Nat.succ_pos n⟩
          · obtain ⟨found,before,after,rfl,few⟩ := ih.mp later
            exact ⟨found,first :: before,after,rfl,by simpa [passes] using few⟩
      · rw [List.filter_cons_of_neg passes] at taken
        obtain ⟨found,before,after,rfl,few⟩ := ih.mp taken
        exact ⟨found,first :: before,after,rfl,by simpa [passes] using few⟩
    · rintro ⟨found,before,after,shape,few⟩
      cases before with
      | nil =>
        obtain ⟨rfl,rfl⟩ := List.cons_eq_cons.mp shape
        obtain ⟨n,rfl⟩ := Nat.exists_eq_succ_of_ne_zero (Nat.ne_of_gt few)
        simp [found]
      | cons other before =>
        obtain ⟨rfl,rfl⟩ := List.cons_eq_cons.mp shape
        by_cases passes : p first = true
        · rw [List.filter_cons_of_pos passes] at few ⊢
          obtain ⟨n,rfl⟩ := Nat.exists_eq_succ_of_ne_zero (Nat.ne_of_gt (Nat.lt_of_le_of_lt (Nat.zero_le _) few))
          exact List.mem_cons_of_mem _ (ih.mpr ⟨found,before,after,rfl,Nat.lt_of_succ_lt_succ few⟩)
        · rw [List.filter_cons_of_neg passes] at few ⊢
          exact ih.mpr ⟨found,before,after,rfl,few⟩

theorem substring_both {a b : String} (inside : hasSubstring a b = true) : hasSubstring b a = true ↔ a = b := by
  unfold hasSubstring at *
  rw [decide_eq_true_iff] at *
  constructor
  · intro around
    have length := Nat.le_antisymm inside.length_le around.length_le
    exact String.toList_injective (inside.eq_of_length length)
  · rintro rfl
    exact List.infix_rfl

theorem gather_entities (memory : MockMemoryProvider) (entities : List Entity) (context : Recalled) :
    (gather memory entities context).entities = context.entities := by
  induction entities generalizing context with
  | nil => rfl
  | cons entity rest ih =>
    unfold gather
    cases recallByEntity memory entity.name 3 with
    | error e => rfl
    | ok episodes => exact ih _

theorem matches_readable (readable : Readable runtime query entity) :
    entityMatches runtime query entity = .ok (finds runtime query entity) := by
  obtain ⟨⟨name,named⟩,rest⟩ := readable
  unfold inName at rest
  rw [named] at rest
  unfold entityMatches finds inName inAttributes
  rw [named]
  dsimp only at rest ⊢
  cases inside : textMatches runtime query name with
  | true => simp
  | false =>
    rcases rest with impossible | ⟨fields,shape⟩
    · simp [inside] at impossible
    · simp [shape]

theorem readable_of_matches (answered : entityMatches runtime query entity = .ok b) : Readable runtime query entity := by
  unfold entityMatches at answered
  unfold Readable inName
  split at answered
  · next name named =>
    rw [named]
    refine ⟨⟨name,rfl⟩,?_⟩
    split at answered
    · next inside => exact .inl inside
    · split at answered
      · next fields shape => exact .inr ⟨fields,shape⟩
      · cases answered
  · cases answered

theorem search_searchable (searchable : Searchable runtime memory message) (limit : Nat) :
    searchEntities runtime memory message limit =
      .ok ((memory.entities.values.filter (finds runtime message)).take limit) := by
  unfold searchEntities
  rw [filterM_answers fun entity present => matches_readable (searchable entity present)]
  rfl

theorem search_raises (unreadable : ¬ Searchable runtime memory message) (limit : Nat) :
    ∃ e, searchEntities runtime memory message limit = .error e := by
  obtain ⟨entity,unreadable⟩ := not_forall.mp unreadable
  obtain ⟨present,bad⟩ := Classical.not_imp.mp unreadable
  obtain ⟨e,raised⟩ := filterM_raises ⟨entity,present,fun b answered => bad (readable_of_matches answered)⟩
  exact ⟨e,except_raises raised⟩

-- An entity that the message names is found when it echoes the whole message.
theorem mentioned_finds (named : mentions runtime message entity = true) :
    finds runtime message entity = true ↔ Echoes runtime message entity := by
  unfold mentions at named
  unfold finds inName Echoes
  split at named
  · next name shape =>
    have inside : hasSubstring (runtime.lower name) (runtime.lower message) = true := (Bool.and_eq_true_iff.mp named).2
    rw [shape,Bool.or_eq_true]
    simp only [textMatches,substring_both inside,Json.str.injEq,exists_eq_left']
  · cases named

theorem recalled_iff (named : mentions runtime message entity = true) :
    entity ∈ (recallMemory runtime memory message).entities ↔
      Searchable runtime memory message ∧ Echoes runtime message entity ∧ Early runtime memory message entity := by
  unfold recallMemory
  by_cases searchable : Searchable runtime memory message
  · rw [search_searchable searchable,gather_entities,mem_take_filter,mentioned_finds named,
      and_iff_right searchable]
    rfl
  · obtain ⟨e,raised⟩ := search_raises searchable 5
    rw [raised]
    simp [searchable]

end

theorem recall_exact (runtime : Runtime) (memory : MockMemoryProvider) (message : String) :
    ((mentioned runtime memory message).length ≤ 5 →
      ∀ entity ∈ mentioned runtime memory message, entity ∈ (recallMemory runtime memory message).entities) ↔
    ((mentioned runtime memory message).length ≤ 5 →
      ∀ entity ∈ mentioned runtime memory message, Searchable runtime memory message ∧
        Echoes runtime message entity ∧ Early runtime memory message entity) := by
  refine forall_congr' fun few => forall_congr' fun entity => forall_congr' fun member => ?_
  exact recalled_iff (List.mem_filter.mp member).2

def abbie : Entity where
  id := "ent_1"
  entityType := .str "person"
  name := .str "Abbie"
  attributes := .obj [("email",.str "abbie@example.com")]

theorem abbie_forgotten : (mentioned .ascii {entities := .ofList [("ent_1",abbie)]} "Where is Abbie's order?").length ≤ 5 ∧
    abbie ∈ mentioned .ascii {entities := .ofList [("ent_1",abbie)]} "Where is Abbie's order?" ∧
    abbie ∉ (recallMemory .ascii {entities := .ofList [("ent_1",abbie)]} "Where is Abbie's order?").entities := by
  have named : mentions .ascii "Where is Abbie's order?" abbie = true := by decide +kernel
  have missed : finds .ascii "Where is Abbie's order?" abbie = false := by decide +kernel
  refine ⟨?_,List.mem_filter.mpr ⟨List.mem_singleton_self _,named⟩,?_⟩
  · exact Nat.le_trans (List.length_filter_le _ _) (by decide +kernel : (PyDict.values _).length ≤ 5)
  · intro recalled
    have echoes := ((recalled_iff named).mp recalled).2.1
    rw [(mentioned_finds named).mpr echoes] at missed
    cases missed

end Sophia.Memory
