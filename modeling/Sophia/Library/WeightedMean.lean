import Mathlib.Algebra.Order.Field.Basic
import Mathlib.Algebra.Order.BigOperators.Group.List
import Mathlib.Algebra.BigOperators.Ring.List
import Mathlib.Data.List.Forall2

namespace Sophia.WeightedMean

section
variable {K α : Type} [Field K]

def total (weight value : α → K) (xs : List α) : K := (xs.map fun x => value x * weight x).sum
def mass (weight : α → K) (xs : List α) : K := (xs.map weight).sum

-- Division by zero gives zero, the value of a mean with no mass.
def mean (weight value : α → K) (xs : List α) : K := total weight value xs / mass weight xs

theorem total_perm (same : xs.Perm ys) (weight value : α → K) : total weight value xs = total weight value ys :=
  (same.map _).sum_eq

theorem total_append (weight value : α → K) (xs ys : List α) :
    total weight value (xs ++ ys) = total weight value xs + total weight value ys := by
  unfold total
  rw [List.map_append,List.sum_append]

theorem total_const (weight : α → K) (c : K) (xs : List α) : total weight (fun _ => c) xs = c * mass weight xs :=
  List.sum_map_mul_left ..

theorem mass_perm (same : xs.Perm ys) (weight : α → K) : mass weight xs = mass weight ys := (same.map _).sum_eq

theorem mean_perm (same : xs.Perm ys) (weight value : α → K) : mean weight value xs = mean weight value ys := by
  rw [mean,mean,total_perm same,mass_perm same]

-- Only the proportions of the weights count.
theorem mean_scale {c : K} (nonzero : c ≠ 0) (weight value : α → K) (xs : List α) :
    mean (fun x => c * weight x) value xs = mean weight value xs := by
  have scaled : total (fun x => c * weight x) value xs = c * total weight value xs := by
    simp only [total,mul_left_comm _ c]
    exact List.sum_map_mul_left ..
  have heavier : mass (fun x => c * weight x) xs = c * mass weight xs := List.sum_map_mul_left ..
  rw [mean,mean,scaled,heavier,mul_div_mul_left _ _ nonzero]

end

section
variable {K α : Type} [Field K] [LinearOrder K]

-- Item by item the same weight and at most the value
def Below (weight value : α → K) (x y : α) : Prop := weight x = weight y ∧ value x ≤ value y

theorem mass_below {weight value : α → K} (below : List.Forall₂ (Below weight value) xs ys) :
    mass weight xs = mass weight ys := by
  induction below with
  | nil => rfl
  | cons first _ ih =>
    simp only [mass,List.map_cons,List.sum_cons] at ih ⊢
    rw [first.1,ih]

variable [IsStrictOrderedRing K]

theorem mass_nonneg {weight : α → K} (nonneg : ∀ x ∈ xs, 0 ≤ weight x) : 0 ≤ mass weight xs := by
  apply List.sum_nonneg
  intro _ present
  obtain ⟨x,inside,rfl⟩ := List.mem_map.mp present
  exact nonneg x inside

theorem total_below {weight value : α → K} (nonneg : ∀ x, 0 ≤ weight x)
    (below : List.Forall₂ (Below weight value) xs ys) : total weight value xs ≤ total weight value ys := by
  induction below with
  | nil => rfl
  | @cons x y _ _ first _ ih =>
    have one : value x * weight x ≤ value y * weight y := by
      rw [first.1]
      exact mul_le_mul_of_nonneg_right first.2 (nonneg y)
    simp only [total,List.map_cons,List.sum_cons] at ih ⊢
    exact add_le_add one ih

theorem mean_below {weight value : α → K} (nonneg : ∀ x, 0 ≤ weight x)
    (below : List.Forall₂ (Below weight value) xs ys) : mean weight value xs ≤ mean weight value ys := by
  rw [mean,mean,mass_below below]
  exact div_le_div_of_nonneg_right (total_below nonneg below) (mass_nonneg fun y _ => nonneg y)

theorem total_mono {weight value other : α → K} (nonneg : ∀ x ∈ xs, 0 ≤ weight x) (less : ∀ x ∈ xs, value x ≤ other x) :
    total weight value xs ≤ total weight other xs :=
  List.sum_le_sum fun x present => mul_le_mul_of_nonneg_right (less x present) (nonneg x present)

theorem mass_pos {weight : α → K} (nonneg : ∀ x ∈ xs, 0 ≤ weight x) : 0 < mass weight xs ↔ ∃ x ∈ xs, 0 < weight x := by
  induction xs with
  | nil => simp [mass]
  | cons x rest ih =>
    obtain ⟨first,later⟩ := List.forall_mem_cons.mp nonneg
    have remaining := mass_nonneg later
    rw [List.exists_mem_cons_iff,← ih later]
    change 0 < weight x + mass weight rest ↔ _
    constructor
    · intro heavy
      rcases first.lt_or_eq with own | none
      · exact .inl own
      · rw [← none,zero_add] at heavy
        exact .inr heavy
    · rintro (own | others)
      · exact add_pos_of_pos_of_nonneg own remaining
      · exact add_pos_of_nonneg_of_pos first others

-- What has no weight does not count.
theorem total_mono_weighing {weight value other : α → K} (nonneg : ∀ x ∈ xs, 0 ≤ weight x)
    (less : ∀ x ∈ xs, 0 < weight x → value x ≤ other x) : total weight value xs ≤ total weight other xs := by
  refine List.sum_le_sum fun x present => ?_
  rcases (nonneg x present).lt_or_eq with weighs | none
  · exact mul_le_mul_of_nonneg_right (less x present weighs) weighs.le
  · rw [← none,mul_zero,mul_zero]

theorem le_mean {weight value : α → K} (nonneg : ∀ x ∈ xs, 0 ≤ weight x) (weighs : ∃ x ∈ xs, 0 < weight x)
    (above : ∀ x ∈ xs, 0 < weight x → lo ≤ value x) : lo ≤ mean weight value xs := by
  rw [mean,le_div_iff₀ ((mass_pos nonneg).mpr weighs),← total_const]
  exact total_mono_weighing nonneg above

theorem mean_le {weight value : α → K} (nonneg : ∀ x ∈ xs, 0 ≤ weight x) (weighs : ∃ x ∈ xs, 0 < weight x)
    (below : ∀ x ∈ xs, 0 < weight x → value x ≤ hi) : mean weight value xs ≤ hi := by
  rw [mean,div_le_iff₀ ((mass_pos nonneg).mpr weighs),← total_const]
  exact total_mono_weighing nonneg below

theorem mean_weightless {weight : α → K} (nonneg : ∀ x ∈ xs, 0 ≤ weight x) (none : ¬ ∃ x ∈ xs, 0 < weight x)
    (value : α → K) : mean weight value xs = 0 := by
  rw [← mass_pos nonneg,not_lt] at none
  rw [mean,le_antisymm none (mass_nonneg nonneg),div_zero]

-- Weights that do not fill up to one pull the sum towards zero.
theorem total_within {weight value : α → K} (nonneg : ∀ x ∈ xs, 0 ≤ weight x) (light : mass weight xs ≤ 1)
    (between : ∀ x ∈ xs, lo ≤ value x ∧ value x ≤ hi) :
    min 0 lo ≤ total weight value xs ∧ total weight value xs ≤ max 0 hi := by
  have heavy : 0 ≤ mass weight xs := mass_nonneg nonneg
  constructor
  · calc min 0 lo ≤ lo * mass weight xs := by
          rcases le_total 0 lo with up | down
          · exact le_trans (min_le_left _ _) (mul_nonneg up heavy)
          · exact le_trans (min_le_right _ _) (le_mul_of_le_one_right down light)
      _ = total weight (fun _ => lo) xs := (total_const weight lo xs).symm
      _ ≤ total weight value xs := total_mono nonneg fun x present => (between x present).1
  · calc total weight value xs ≤ total weight (fun _ => hi) xs := total_mono nonneg fun x present => (between x present).2
      _ = hi * mass weight xs := total_const weight hi xs
      _ ≤ max 0 hi := by
          rcases le_total 0 hi with up | down
          · exact le_trans (mul_le_of_le_one_right up light) (le_max_right _ _)
          · exact le_trans (mul_nonpos_of_nonpos_of_nonneg down heavy) (le_max_left _ _)

end

end Sophia.WeightedMean
