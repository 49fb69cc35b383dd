import Mathlib.Data.List.Perm.Basic
import Mathlib.Data.List.Count
import Mathlib.Algebra.BigOperators.Group.List.Basic
import Mathlib.Algebra.Order.Ring.Nat

namespace Sophia.PairCount

variable {α : Type} (related : α → α → Bool)

-- How many of the unordered pairs of positions hold related elements
def pairCount : List α → Nat
  | [] => 0
  | x :: rest => rest.countP (related x) + pairCount rest

-- The same number as a double loop over indices i < j computes it
def pairLoop [Inhabited α] (xs : List α) : Nat :=
  ((List.range xs.length).map fun i =>
    (List.range' (i + 1) (xs.length - (i + 1))).countP fun j => related xs[i]! xs[j]!).sum

theorem countP_positions [Inhabited α] (p : α → Bool) (xs : List α) :
    (List.range xs.length).countP (fun i => p xs[i]!) = xs.countP p := by
  induction xs with
  | nil => rfl
  | cons x xs ih =>
    rw [List.length_cons,List.range_succ_eq_map,List.countP_cons,List.countP_map,List.countP_cons]
    have tail : (List.range xs.length).countP ((fun i => p (x :: xs)[i]!) ∘ Nat.succ) = xs.countP p := by
      rw [← ih]; rfl
    rw [tail]; rfl

theorem pairLoop_eq [Inhabited α] (xs : List α) : pairLoop related xs = pairCount related xs := by
  induction xs with
  | nil => rfl
  | cons x xs ih =>
    have first : (List.range' 1 xs.length).countP (fun j => related x (x :: xs)[j]!) = xs.countP (related x) := by
      rw [← countP_positions (related x) xs,List.range'_eq_map_range,List.countP_map]
      apply List.countP_congr
      intro j _
      simp [Nat.add_comm 1 j]
    have others : (List.range xs.length).map (fun i => (List.range' (i + 1 + 1) (xs.length - (i + 1))).countP
        fun j => related (x :: xs)[i + 1]! (x :: xs)[j]!) = (List.range xs.length).map (fun i =>
        (List.range' (i + 1) (xs.length - (i + 1))).countP fun j => related xs[i]! xs[j]!) := by
      apply List.map_congr_left
      intro i _
      rw [List.range'_succ_left,List.countP_map]
      rfl
    unfold pairLoop at ih ⊢
    rw [List.length_cons,List.range_succ_eq_map,List.map_cons,List.sum_cons,List.map_map,pairCount,← ih,← others,
      ← first]
    congr 2
    apply List.map_congr_left
    intro i _
    simp only [Function.comp_apply,Nat.succ_eq_add_one]
    rw [show xs.length + 1 - (i + 1 + 1) = xs.length - (i + 1) by omega]

-- A symmetric relation counts the same pairs in any order.
theorem pairCount_perm (symmetric : ∀ a b, related a b = related b a) (same : xs.Perm ys) :
    pairCount related xs = pairCount related ys := by
  induction same with
  | nil => rfl
  | cons x same ih => simp only [pairCount,ih,same.countP_eq]
  | swap x y rest =>
    simp only [pairCount,List.countP_cons,symmetric x y]
    omega
  | trans _ _ first second => exact first.trans second

end Sophia.PairCount
