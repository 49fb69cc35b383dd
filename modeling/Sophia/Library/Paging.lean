import Mathlib.Data.List.Sort

namespace Sophia.Paging

-- OFFSET k * limit LIMIT limit
def page {α : Type} (limit k : Nat) (xs : List α) : List α := (xs.drop (k * limit)).take limit

-- The rows of a query that names no order
structure Arrangement (α : Type) where
  arrange : List α → List α
  same : ∀ rows, (arrange rows).Perm rows

-- The rows of a query with ORDER BY key DESC, which leaves the order of equal keys open
structure Descending {α κ : Type} [LinearOrder κ] (key : α → κ) extends Arrangement α where
  sorted : ∀ rows, (arrange rows).Pairwise fun a b => key b ≤ key a

def Arrangement.stored (α : Type) : Arrangement α := ⟨fun rows => rows,List.Perm.refl⟩

section
variable {α κ : Type} [LinearOrder κ] {key : α → κ} {xs ys : List α} {x : α} {limit k : Nat}

def Descending.stable (key : α → κ) : Descending key where
  arrange rows := rows.insertionSort fun a b => key b ≤ key a
  same rows := List.perm_insertionSort _ rows
  sorted rows := by
    have : IsTrans α fun a b => key b ≤ key a := ⟨fun _ _ _ first second => le_trans second first⟩
    have : Std.Total fun a b : α => key b ≤ key a := ⟨fun a b => le_total (key b) (key a)⟩
    exact List.pairwise_insertionSort _ rows

theorem Arrangement.length (order : Arrangement α) (rows : List α) : (order.arrange rows).length = rows.length :=
  (order.same rows).length_eq

-- How many rows come before one for certain
def ahead (key : α → κ) (xs : List α) (x : α) : Nat := xs.countP fun y => key x < key y

-- A row whose key no other row has stands behind the greater keys.
theorem alone_position (sorted : xs.Pairwise fun a b => key b ≤ key a) (present : x ∈ xs)
    (alone : ∀ y ∈ xs, key y = key x → y = x) : xs[ahead key xs x]? = some x := by
  induction xs with
  | nil => cases present
  | cons y rest ih =>
    obtain ⟨below,sorted⟩ := List.pairwise_cons.mp sorted
    unfold ahead at ih ⊢
    rw [List.countP_cons]
    by_cases greater : key x < key y
    · have later : x ∈ rest := (List.mem_cons.mp present).resolve_left fun same => absurd greater (same ▸ lt_irrefl _)
      simpa [greater] using ih sorted later fun z among => alone z (List.mem_cons_of_mem _ among)
    · have own : y = x := by
        rcases List.mem_cons.mp present with same | later
        · exact same.symm
        · exact alone y List.mem_cons_self (le_antisymm (not_lt.mp greater) (below x later))
      subst own
      have none_ : rest.countP (fun z => key y < key z) = 0 :=
        List.countP_eq_zero.mpr fun z among => by simpa using below z among
      simp [none_]

theorem mem_page {i : Nat} (found : xs[i]? = some x) (least : k * limit ≤ i) (below : i < (k + 1) * limit) :
    x ∈ page limit k xs := by
  rw [Nat.succ_mul] at below
  have shown : (page limit k xs)[i - k * limit]? = some x := by
    rw [page,List.getElem?_take_of_lt (by omega),List.getElem?_drop,Nat.add_sub_cancel' least,found]
  exact List.mem_of_getElem? shown

-- Page after page of lists in which an element only moves back shows it.
theorem moving_shown {lists : Nat → List α} {position : Nat → Nat} {n : Nat}
    (found : ∀ k ≤ n, (lists k)[position k]? = some x) (back : ∀ k, position k ≤ position (k + 1)) (limit : Nat)
    (ends : (lists n).length ≤ (n + 1) * limit) : ∃ k ≤ n, x ∈ page limit k (lists k) := by
  have read (k : Nat) (upto : k ≤ n) : (∃ j ≤ k, x ∈ page limit j (lists j)) ∨ (k + 1) * limit ≤ position k := by
    induction k with
    | zero =>
      by_cases below : position 0 < (0 + 1) * limit
      · exact .inl ⟨0,Nat.le_refl _,mem_page (found 0 upto) (by simp) below⟩
      · exact .inr (Nat.le_of_not_lt below)
    | succ k ih =>
      rcases ih (Nat.le_of_succ_le upto) with ⟨j,before,shown⟩ | least
      · exact .inl ⟨j,Nat.le_succ_of_le before,shown⟩
      · by_cases below : position (k + 1) < (k + 1 + 1) * limit
        · exact .inl ⟨k + 1,Nat.le_refl _,mem_page (found (k + 1) upto) (least.trans (back k)) below⟩
        · exact .inr (Nat.le_of_not_lt below)
  rcases read n (Nat.le_refl n) with shown | beyond
  · exact shown
  · have inside := (List.getElem?_eq_some_iff.mp (found n (Nat.le_refl n))).1
    omega

-- Each page is queried anew, from rows that have grown, and may put equal keys in another order.
theorem grown_pages {rows : Nat → List α} {n : Nat} (orders : Nat → Descending key)
    (grows : ∀ k, (rows k).Sublist (rows (k + 1))) (limit : Nat) (ends : (rows n).length ≤ (n + 1) * limit)
    (first : x ∈ rows 0) (alone : ∀ y ∈ rows n, key y = key x → y = x) :
    ∃ k ≤ n, x ∈ page limit k ((orders k).arrange (rows k)) := by
  have present (k : Nat) : x ∈ rows k := by
    induction k with
    | zero => exact first
    | succ k ih => exact (grows k).subset ih
  have upto (k : Nat) (before : k ≤ n) : (rows k).Sublist (rows n) :=
    Nat.le_induction (P := fun m _ => (rows k).Sublist (rows m)) (List.Sublist.refl _) (fun m _ ih => ih.trans (grows m)) n before
  have back (k : Nat) : ahead key (rows k) x ≤ ahead key (rows (k + 1)) x := (grows k).countP_le
  refine moving_shown (fun k before => ?_) back limit (by rw [(orders n).length]; exact ends)
  have same := (orders k).same (rows k)
  rw [ahead,← same.countP_eq]
  refine alone_position ((orders k).sorted _) (same.mem_iff.mpr (present k)) fun y among => ?_
  exact alone y ((upto k before).subset (same.mem_iff.mp among))

end

end Sophia.Paging
