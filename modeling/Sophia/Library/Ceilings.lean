import Mathlib.Order.Lattice
import Mathlib.Order.MinMax
import Mathlib.Data.List.Basic

namespace Sophia.Ceilings
variable {α κ : Type}

-- The ceilings of a table that apply
def applying (applies : κ → Bool) (table : List (κ × α)) : List α := (table.filter (applies ·.1)).map Prod.snd

theorem mem_applying {applies : κ → Bool} {table : List (κ × α)} :
    x ∈ applying applies table ↔ ∃ key, (key,x) ∈ table ∧ applies key = true := by
  simp [applying]

variable [LinearOrder α] {ceilings others : List α} {x y : α}

-- A value under some ceilings
def lowest (ceilings : List α) (x : α) : α := ceilings.foldr min x

@[simp] theorem lowest_nil : lowest [] x = x := rfl
@[simp] theorem lowest_cons : lowest (y :: ceilings) x = min y (lowest ceilings x) := rfl

theorem lowest_append : lowest (ceilings ++ others) x = lowest ceilings (lowest others x) := List.foldr_append

theorem lowest_le : lowest ceilings x ≤ x := by
  induction ceilings with
  | nil => exact le_refl x
  | cons ceiling rest ih => exact le_trans (min_le_right _ _) ih

theorem lowest_le_of_mem (present : y ∈ ceilings) : lowest ceilings x ≤ y := by
  induction ceilings with
  | nil => cases present
  | cons ceiling rest ih =>
    rcases List.mem_cons.mp present with rfl | later
    · exact min_le_left _ _
    · exact le_trans (min_le_right _ _) (ih later)

theorem lowest_attained (ceilings : List α) (x : α) : lowest ceilings x = x ∨ lowest ceilings x ∈ ceilings := by
  induction ceilings with
  | nil => exact .inl rfl
  | cons ceiling rest ih =>
    rcases min_choice ceiling (lowest rest x) with own | below
    · exact .inr (by simp [own])
    · rcases ih with first | among
      · exact .inl (below.trans first)
      · exact .inr (by simp [below,among])

theorem le_lowest (below : y ≤ x) (all : ∀ ceiling ∈ ceilings, y ≤ ceiling) : y ≤ lowest ceilings x := by
  rcases lowest_attained ceilings x with own | present
  · rwa [own]
  · exact all _ present

theorem lt_lowest (below : y < x) (all : ∀ ceiling ∈ ceilings, y < ceiling) : y < lowest ceilings x := by
  rcases lowest_attained ceilings x with own | present
  · rwa [own]
  · exact all _ present

-- A value already under all of them stays as it is.
theorem lowest_under (under : ∀ ceiling ∈ ceilings, x ≤ ceiling) : lowest ceilings x = x :=
  le_antisymm lowest_le (le_lowest (le_refl x) under)

theorem lowest_min : lowest ceilings (min y x) = min y (lowest ceilings x) := by
  induction ceilings with
  | nil => rfl
  | cons ceiling rest ih => rw [lowest_cons,lowest_cons,ih,min_left_comm]

-- The same ceilings taken one after the other
def capOne (applies : κ → Bool) (x : α) (entry : κ × α) : α := if applies entry.1 then min entry.2 x else x

theorem capped_lowest (applies : κ → Bool) (table : List (κ × α)) (x : α) :
    table.foldl (capOne applies) x = lowest (applying applies table) x := by
  induction table generalizing x with
  | nil => rfl
  | cons entry rest ih =>
    rw [List.foldl_cons,ih]
    unfold applying capOne
    by_cases here : applies entry.1 = true
    · rw [if_pos here,List.filter_cons,if_pos here,List.map_cons,lowest_cons,lowest_min]
    · rw [if_neg here,List.filter_cons,if_neg here]

end Sophia.Ceilings
