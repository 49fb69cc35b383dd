import Mathlib.Data.List.Count

namespace Sophia.Quota

-- An offer is granted while its key was granted fewer than limit times. A view of the offers need not be one of the keys.
variable {α κ : Type} [DecidableEq κ]

def used (past : List κ) (k : κ) : Nat := past.count k

def grants (key : α → κ) (limit : Nat) : (past : List κ) → List α → List α
  | _,[] => []
  | past,offer :: rest =>
    if used past (key offer) < limit then offer :: grants key limit (key offer :: past) rest
    else grants key limit past rest

variable {key : α → κ} {limit : Nat} {past : List κ} {offers : List α} {view : α → Bool}

@[simp] theorem used_nil (k : κ) : used [] k = 0 := rfl

theorem used_new {k : κ} (new : k ∉ past) : used past k = 0 := List.count_eq_zero.mpr new

@[simp] theorem used_cons (j k : κ) : used (j :: past) k = used past k + if j = k then 1 else 0 := by
  simp [used,List.count_cons]

theorem grants_none : grants key 0 past offers = [] := by
  induction offers generalizing past with
  | nil => rfl
  | cons offer rest ih => simpa [grants] using ih

theorem grants_sublist : (grants key limit past offers).Sublist offers := by
  induction offers generalizing past with
  | nil => exact List.Sublist.refl _
  | cons offer rest ih =>
    unfold grants
    split
    · exact ih.cons_cons offer
    · exact ih.cons offer

-- A key is granted up to the limit, whatever else is offered.
theorem grants_count (k : κ) : (grants key limit past offers).countP (key · = k) =
    min (limit - used past k) (offers.countP (key · = k)) := by
  induction offers generalizing past with
  | nil => simp [grants]
  | cons offer rest ih =>
    unfold grants
    by_cases same : key offer = k
    · subst same
      by_cases room : used past (key offer) < limit
      · simp [room,ih]
        omega
      · simp [room,ih]
        omega
    · by_cases room : used past (key offer) < limit <;> simp [room,ih,same]

-- What one key accounts for stays within the limit, and so does what is offered no more often.
theorem within_of_one (k : κ) (one : ∀ offer ∈ offers, view offer = true → key offer = k) :
    (grants key limit [] offers).countP view ≤ limit := by
  have counted : (grants key limit [] offers).countP (key · = k) = min (limit - used [] k) (offers.countP (key · = k)) :=
    grants_count k
  have under : (grants key limit [] offers).countP view ≤ (grants key limit [] offers).countP (key · = k) := by
    refine List.countP_mono_left fun offer member seen => ?_
    simpa using one offer (grants_sublist.subset member) seen
  simp at counted
  omega

theorem within_of_few (few : offers.countP view ≤ limit) : (grants key limit past offers).countP view ≤ limit :=
  Nat.le_trans (grants_sublist.countP_le) few

-- Where no key of the view runs out of room, all of the view is granted.
theorem grants_all (room : ∀ offer ∈ offers, view offer = true →
      used past (key offer) + offers.countP (key · = key offer) ≤ limit) :
    (grants key limit past offers).countP view = offers.countP view := by
  induction offers generalizing past with
  | nil => rfl
  | cons first rest ih =>
    have later (offer : α) (member : offer ∈ rest) (seen : view offer = true) :=
      room offer (List.mem_cons_of_mem _ member) seen
    unfold grants
    by_cases granted : used past (key first) < limit
    · rw [if_pos granted]
      rw [List.countP_cons,List.countP_cons,ih]
      intro offer member seen
      have fits := later offer member seen
      by_cases same : key first = key offer <;> simp_all [List.countP_cons]
      omega
    · rw [if_neg granted,List.countP_cons,ih]
      · by_cases seen : view first = true
        · have fits := room first (List.mem_cons_self ..) seen
          simp at fits
          omega
        · simp [seen]
      · intro offer member seen
        have fits := later offer member seen
        by_cases same : key first = key offer <;> simp_all [List.countP_cons]
        omega

theorem countP_apart {offers : List α} {k l : κ} (apart : k ≠ l)
    (covered : ∀ offer ∈ offers, key offer = k ∨ key offer = l → view offer = true) :
    offers.countP (key · = k) + offers.countP (key · = l) ≤ offers.countP view := by
  induction offers with
  | nil => simp
  | cons first rest ih =>
    have later := ih fun offer member => covered offer (List.mem_cons_of_mem _ member)
    have here := covered first (List.mem_cons_self ..)
    by_cases one : key first = k <;> by_cases other : key first = l <;> by_cases seen : view first = true <;>
      simp_all <;> omega

-- Where the view has its keys for itself, it stays within the limit only in these two ways.
theorem one_or_few (open_ : 0 < limit)
    (unshared : ∀ a ∈ offers, ∀ b ∈ offers, key a = key b → view a = true → view b = true)
    (within : (grants key limit [] offers).countP view ≤ limit) :
    (∃ k, ∀ offer ∈ offers, view offer = true → key offer = k) ∨ offers.countP view ≤ limit := by
  by_contra neither
  rw [not_or,not_exists,Nat.not_le] at neither
  obtain ⟨several,many⟩ := neither
  by_cases room : ∀ offer ∈ offers, view offer = true → offers.countP (key · = key offer) ≤ limit
  · have all : (grants key limit [] offers).countP view = offers.countP view :=
      grants_all fun offer member seen => by simpa using room offer member seen
    omega
  · push Not at room
    obtain ⟨full,member,seen,crowded⟩ := room
    have other := several (key full)
    push Not at other
    obtain ⟨second,among,looked,apart⟩ := other
    have granted (k : κ) : (grants key limit [] offers).countP (key · = k) =
        min (limit - used [] k) (offers.countP (key · = k)) := grants_count k
    have taken := granted (key full)
    have more := granted (key second)
    have some_ : 0 < offers.countP (key · = key second) := List.countP_pos_iff.mpr ⟨second,among,by simp⟩
    have both : (grants key limit [] offers).countP (key · = key full) +
        (grants key limit [] offers).countP (key · = key second) ≤ (grants key limit [] offers).countP view := by
      refine countP_apart (Ne.symm apart) fun offer granted named => ?_
      have inside := grants_sublist.subset granted
      rcases named with same | same
      · exact unshared full member offer inside same.symm seen
      · exact unshared second among offer inside same.symm looked
    simp at taken more
    omega

end Sophia.Quota
