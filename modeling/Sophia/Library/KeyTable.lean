import Mathlib.Data.List.Basic

namespace Sophia

-- A test of keys that finds an entry: symmetric and transitive, but a key that cannot be one need not pass with itself.
structure KeyTest (κ : Type) where
  same : κ → κ → Bool
  symm : ∀ {a b}, same a b = true → same b a = true
  trans : ∀ {a b c}, same a b = true → same b c = true → same a c = true

-- A dict whose keys are compared by the test: an entry found by another key keeps its own.
structure KeyTable {κ : Type} (test : KeyTest κ) (α : Type) where
  entries : List (κ × α)
  apart : (entries.map Prod.fst).Pairwise fun first second => test.same first second = false

namespace KeyTable

variable {κ α : Type} {test : KeyTest κ}

def setEntry (test : KeyTest κ) (key : κ) (value : α) : List (κ × α) → List (κ × α)
  | [] => [(key,value)]
  | entry :: rest => if test.same key entry.1 then (entry.1,value) :: rest else entry :: setEntry test key value rest

theorem setEntry_keys (test : KeyTest κ) (key : κ) (value : α) (entries : List (κ × α)) :
    (setEntry test key value entries).map Prod.fst = if (entries.map Prod.fst).any (test.same key)
      then entries.map Prod.fst else entries.map Prod.fst ++ [key] := by
  induction entries with
  | nil => rfl
  | cons entry rest ih =>
    rw [setEntry]
    by_cases same : test.same key entry.1 = true
    · simp [same]
    · simp only [Bool.not_eq_true] at same
      rw [List.map_cons,List.any_cons,same,Bool.false_or,if_neg (by decide),List.map_cons,ih]
      split <;> rfl

theorem setEntry_apart {entries : List (κ × α)} (key : κ) (value : α)
    (apart : (entries.map Prod.fst).Pairwise fun first second => test.same first second = false) :
    ((setEntry test key value entries).map Prod.fst).Pairwise fun first second => test.same first second = false := by
  rw [setEntry_keys]
  split
  · exact apart
  · next fresh =>
    refine List.pairwise_append.mpr ⟨apart,List.pairwise_singleton _ _,?_⟩
    intro first present second last
    cases List.mem_singleton.mp last
    by_contra found
    simp only [Bool.not_eq_false] at found
    exact fresh (List.any_eq_true.mpr ⟨first,present,test.symm found⟩)

def empty : KeyTable test α := ⟨[],List.Pairwise.nil⟩

def set (table : KeyTable test α) (key : κ) (value : α) : KeyTable test α :=
  ⟨setEntry test key value table.entries,setEntry_apart key value table.apart⟩

def get (table : KeyTable test α) (key : κ) : Option α := (table.entries.find? (test.same key ·.1)).map Prod.snd

def keys (table : KeyTable test α) : List κ := table.entries.map Prod.fst

-- The entries set one after the other
def store (table : KeyTable test α) (writes : List (κ × α)) : KeyTable test α :=
  writes.foldl (fun table write => table.set write.1 write.2) table

variable {table : KeyTable test α} {key other : κ} {value : α} {writes : List (κ × α)}

theorem keys_set : (table.set key value).keys =
    if table.keys.any (test.same key) then table.keys else table.keys ++ [key] := setEntry_keys _ _ _ _

@[simp] theorem get_empty : (empty : KeyTable test α).get key = none := rfl

-- A key is in the table when the lookup finds something.
theorem mem_keys : table.keys.any (test.same key) = (table.get key).isSome := by
  unfold keys get
  rw [List.any_map,Option.isSome_map,List.isSome_find?]
  rfl

theorem get_set_same (found : test.same other key = true) : (table.set key value).get other = some value := by
  unfold set get
  dsimp only
  induction table.entries with
  | nil => simp [setEntry,found]
  | cons entry rest ih =>
    rw [setEntry]
    split
    · next first => simp [test.trans found first]
    · next differs =>
      have passed : test.same other entry.1 = false := by
        by_contra reached
        simp only [Bool.not_eq_false] at reached
        exact differs (test.trans (test.symm found) reached)
      rw [List.find?_cons,passed]
      exact ih

theorem get_set_other (differs : test.same other key = false) : (table.set key value).get other = table.get other := by
  unfold set get
  dsimp only
  induction table.entries with
  | nil => simp [setEntry,differs]
  | cons entry rest ih =>
    rw [setEntry]
    split
    · next found =>
      have passed : test.same other entry.1 = false := by
        by_contra reached
        simp only [Bool.not_eq_false] at reached
        rw [test.trans reached (test.symm found)] at differs
        cases differs
      rw [List.find?_cons,List.find?_cons,passed]
    · rw [List.find?_cons,List.find?_cons]
      split
      · rfl
      · exact ih

theorem get_set : (table.set key value).get other = if test.same other key then some value else table.get other := by
  split
  · next found => exact get_set_same found
  · next differs => exact get_set_other (by simpa using differs)

-- The last write under a key stands, or else what the table held.
theorem get_store : (table.store writes).get other =
    ((writes.reverse.find? (test.same other ·.1)).map Prod.snd).or (table.get other) := by
  induction writes generalizing table with
  | nil => simp [store]
  | cons write rest ih =>
    change ((table.set write.1 write.2).store rest).get other = _
    rw [ih,get_set,List.reverse_cons,List.find?_append]
    cases later : rest.reverse.find? (test.same other ·.1) with
    | some found => rfl
    | none =>
      cases found : test.same other write.1 with
      | true => simp [found]
      | false => simp [found]

end KeyTable
end Sophia
