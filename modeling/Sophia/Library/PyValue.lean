import Sophia.Library.PyText
import Mathlib.Data.Rat.Defs
import Mathlib.Algebra.Order.Ring.Rat

namespace Sophia

-- The exceptions of the language, and those of code outside the model.
inductive PyError where
  | typeError
  | valueError
  | valueErrorOf (text : String)
  | keyError
  | attributeError
  | raised (source : String)
  deriving DecidableEq, Repr

-- The shape of every returned sequence of raising steps
theorem except_bind {x : Except ε α} {f : α → Except ε β} :
    (x >>= f) = .ok b ↔ ∃ a, x = .ok a ∧ f a = .ok b := by
  cases x with
  | error e => simp [bind,Except.bind]
  | ok a => simp [bind,Except.bind]

theorem except_returns {x : Except ε α} {f : α → Except ε β} (first : x = .ok a) (second : ∃ b, f a = .ok b) :
    ∃ b, (x >>= f) = .ok b := by
  obtain ⟨b,later⟩ := second
  exact ⟨b,except_bind.mpr ⟨a,first,later⟩⟩

theorem except_raises {x : Except ε α} {f : α → Except ε β} (raised : x = .error e) : (x >>= f) = .error e := by
  rw [raised]
  rfl

-- What a computed answer says about the steps it came from
theorem toOption_bind {x : Except ε α} {f : α → Except ε β} :
    (x.bind f).toOption = some b ↔ ∃ a, x = .ok a ∧ (f a).toOption = some b := by
  cases x with
  | error e => simp [Except.bind,Except.toOption]
  | ok a => simp [Except.bind]

theorem toOption_map {x : Except ε α} {f : α → β} : (x.map f).toOption = some b ↔ ∃ a, x = .ok a ∧ f a = b := by
  cases x with
  | error e => simp [Except.map,Except.toOption]
  | ok a => simp [Except.map,Except.toOption]

-- A list of raising steps that returned, position by position
theorem mapM_get {f : α → Except ε β} {xs : List α} {ys : List β} {k : Nat} (returned : xs.mapM f = .ok ys)
    (present : xs[k]? = some x) : ∃ y, ys[k]? = some y ∧ f x = .ok y := by
  induction xs generalizing k ys with
  | nil => cases present
  | cons first rest ih =>
    rw [List.mapM_cons] at returned
    obtain ⟨y,one,returned⟩ := except_bind.mp returned
    obtain ⟨others,later,returned⟩ := except_bind.mp returned
    cases returned
    cases k with
    | zero => cases present; exact ⟨y,rfl,one⟩
    | succ k =>
      rw [List.getElem?_cons_succ] at present ⊢
      exact ih later present

-- A list of raising steps returns when each of them does.
theorem mapM_returns {f : α → Except ε β} {xs : List α} : (∃ ys, xs.mapM f = .ok ys) ↔ ∀ x ∈ xs, ∃ y, f x = .ok y := by
  induction xs with
  | nil => simp [pure,Except.pure]
  | cons x rest ih =>
    rw [List.forall_mem_cons,← ih,List.mapM_cons]
    constructor
    · intro returned
      obtain ⟨ys,returned⟩ := returned
      obtain ⟨y,first,returned⟩ := except_bind.mp returned
      obtain ⟨others,later,_⟩ := except_bind.mp returned
      exact ⟨⟨y,first⟩,others,later⟩
    · intro both
      obtain ⟨⟨y,first⟩,others,later⟩ := both
      exact ⟨y :: others,except_bind.mpr ⟨y,first,except_bind.mpr ⟨others,later,rfl⟩⟩⟩

theorem except_raised {x : Except ε α} : (∃ e, x = .error e) ↔ ¬ ∃ a, x = .ok a := by cases x <;> simp

theorem mapM_raises {f : α → Except ε β} {xs : List α} :
    (∃ e, xs.mapM f = .error e) ↔ ∃ x ∈ xs, ∃ e, f x = .error e := by
  simp only [except_raised,mapM_returns,not_forall,exists_prop]

-- A list of raising steps that agree on its elements
theorem mapM_agrees {f g : α → Except ε β} {xs : List α} (same : ∀ x ∈ xs, f x = g x) : xs.mapM f = xs.mapM g := by
  induction xs with
  | nil => rfl
  | cons x rest ih =>
    obtain ⟨first,later⟩ := List.forall_mem_cons.mp same
    rw [List.mapM_cons,List.mapM_cons,first,ih later]

-- A filter whose test answers throughout, and one whose test raises somewhere
theorem filterM_answers {p : α → Except ε Bool} {f : α → Bool} {xs : List α} (answers : ∀ x ∈ xs, p x = .ok (f x)) :
    xs.filterM p = .ok (xs.filter f) := by
  have aux : ∀ taken, xs.filterAuxM p taken = .ok ((xs.filter f).reverse ++ taken) := by
    induction xs with
    | nil => exact fun taken => rfl
    | cons x rest ih =>
      intro taken
      obtain ⟨first,later⟩ := List.forall_mem_cons.mp answers
      rw [List.filterAuxM,first]
      change rest.filterAuxM p (cond (f x) (x :: taken) taken) = _
      rw [ih later]
      cases kept : f x <;> simp [kept]
  unfold List.filterM
  rw [aux []]
  change Except.ok _ = _
  simp

theorem filterM_raises {p : α → Except ε Bool} {xs : List α} (bad : ∃ x ∈ xs, ∀ b, p x ≠ .ok b) :
    ∃ e, xs.filterM p = .error e := by
  have aux : ∀ taken, ∃ e, xs.filterAuxM p taken = .error e := by
    induction xs with
    | nil => simp at bad
    | cons x rest ih =>
      intro taken
      rw [List.filterAuxM]
      cases first : p x with
      | error e => exact ⟨e,rfl⟩
      | ok b =>
        obtain ⟨y,present,fails⟩ := bad
        rcases List.mem_cons.mp present with rfl | later
        · exact absurd first (fails b)
        · exact ih ⟨y,later,fails⟩ _
  obtain ⟨e,raised⟩ := aux []
  refine ⟨e,?_⟩
  unfold List.filterM
  rw [raised]
  rfl

-- A value json.loads can return, but for NaN, Infinity and texts with a lone surrogate. An object keeps its keys
-- in order; they are distinct, and every access below reads the first.
inductive Json where
  | null
  | bool (value : Bool)
  | int (value : Int)
  | float (value : ℚ)
  | str (value : String)
  | arr (items : List Json)
  | obj (fields : List (String × Json))

namespace Json

-- type(value).__name__
def typeName : Json → String
  | .null => "NoneType"
  | .bool _ => "bool"
  | .int _ => "int"
  | .float _ => "float"
  | .str _ => "str"
  | .arr _ => "list"
  | .obj _ => "dict"

def truthy : Json → Bool
  | .null => false
  | .bool value => value
  | .int value => decide (value ≠ 0)
  | .float value => decide (value ≠ 0)
  | .str value => decide (value ≠ "")
  | .arr items => !items.isEmpty
  | .obj fields => !fields.isEmpty

-- bool is a subclass of int, so it compares and adds as 0 or 1.
def number? : Json → Option ℚ
  | .bool value => some (if value then 1 else 0)
  | .int value => some value
  | .float value => some value
  | _ => none

def isStr (text : String) : Json → Bool
  | .str value => value == text
  | _ => false

-- d.get(key, default); only dict has the method.
def get : Json → String → Json → Except PyError Json
  | .obj fields,key,default => .ok ((fields.lookup key).getD default)
  | _,_,_ => .error .attributeError

-- d[key]; only dict takes a string there.
def item : Json → String → Except PyError Json
  | .obj fields,key => match fields.lookup key with
    | some value => .ok value
    | none => .error .keyError
  | _,_ => .error .typeError

-- d.items()
def entries : Json → Except PyError (List (String × Json))
  | .obj fields => .ok fields
  | _ => .error .attributeError

-- a list or an object cannot be hashed.
def hashable : Json → Except PyError Unit
  | .arr _ => .error .typeError
  | .obj _ => .error .typeError
  | _ => .ok ()

-- a == b of values that can be hashed
def sameScalar (a b : Json) : Bool :=
  match a.number?,b.number? with
  | some x,some y => x == y
  | none,none => match a,b with
    | .str x,.str y => x == y
    | .null,.null => true
    | _,_ => false
  | _,_ => false

-- a == b; objects compare without the order of their keys.
mutual

def equals : Json → Json → Bool
  | .arr items,.arr others => equalItems items others
  | .obj fields,.obj others => fields.length == others.length && equalFields fields others
  | a,b => sameScalar a b

def equalItems : List Json → List Json → Bool
  | [],[] => true
  | item :: rest,other :: others => equals item other && equalItems rest others
  | _,_ => false

def equalFields : List (String × Json) → List (String × Json) → Bool
  | [],_ => true
  | (key,value) :: rest,others => match others.lookup key with
    | some other => equals value other && equalFields rest others
    | none => false

end

-- the items a for loop or list.extend takes
def iterate : Json → Except PyError (List Json)
  | .arr items => .ok items
  | .str text => .ok (text.toList.map fun c => .str (String.ofList [c]))
  | .obj fields => .ok (fields.map fun field => .str field.1)
  | _ => .error .typeError

theorem get_other {data : Json} (other : ∀ fields, data ≠ .obj fields) (key : String) (default : Json) :
    data.get key default = .error .attributeError := by
  cases data with
  | obj fields => exact absurd rfl (other fields)
  | _ => rfl

-- text in value: an element of a list, a substring of a string, a key of a dict
def contains (text : String) : Json → Except PyError Bool
  | .arr items => .ok (items.any (isStr text))
  | .str value => .ok (PyText.hasSubstring text value)
  | .obj fields => .ok (fields.any (·.1 == text))
  | _ => .error .typeError

-- value.append(item); only list has the method.
def append : Json → Json → Except PyError Json
  | .arr items,item => .ok (.arr (items ++ [item]))
  | _,_ => .error .attributeError

-- max(lo, min(hi, value)): comparing a value that is no number with one raises.
def clamp (lo hi : ℚ) (value : Json) : Except PyError ℚ :=
  match value.number? with
  | some x => .ok (max lo (min hi x))
  | none => .error .typeError

theorem isStr_iff : isStr text value = true ↔ value = .str text := by
  cases value <;> simp [isStr]

theorem any_isStr : List.any items (isStr text) = true ↔ Json.str text ∈ items := by
  rw [List.any_eq_true]
  constructor
  · intro found
    obtain ⟨item,present,same⟩ := found
    exact isStr_iff.mp same ▸ present
  · exact fun present => ⟨_,present,isStr_iff.mpr rfl⟩

theorem clamp_bounds (ordered : lo ≤ hi) (clamped : clamp lo hi value = .ok x) : lo ≤ x ∧ x ≤ hi := by
  unfold clamp at clamped
  split at clamped
  · cases clamped
    exact ⟨le_max_left _ _,max_le ordered (min_le_left _ _)⟩
  · cases clamped

-- The items of a string are single characters, never a longer text.
theorem str_iterate_absent (long : 1 < text.length) (taken : iterate (.str value) = .ok items) :
    Json.str text ∉ items := by
  cases taken
  intro present
  obtain ⟨c,_,same⟩ := List.mem_map.mp present
  have equal : String.ofList [c] = text := by simpa using same
  rw [← equal,String.length_ofList] at long
  simp at long

end Json
end Sophia
