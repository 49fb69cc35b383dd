import Mathlib.Data.List.Basic

namespace Sophia.Retry

-- Tries are made one after another until one settles the matter or none is left. Between a try that
-- does not settle it and the next there is a pause, which can end the tries.
variable {γ : Type} (settles : γ → Bool) (resumes : Nat → Bool) (fate : Nat → γ)

def made : Nat → Nat → List γ
  | 0,_ => []
  | left + 1,i => fate i :: if settles (fate i) || !resumes (i + 1) then [] else made left (i + 1)

-- The try is made if there are tries enough.
def Reached (first i : Nat) : Prop := ∀ k, first ≤ k → k < i → settles (fate k) = false ∧ resumes (k + 1) = true

variable {settles resumes fate}

theorem Reached.step (goes : settles (fate first) = false ∧ resumes (first + 1) = true) :
    Reached settles resumes fate (first + 1) i ↔ Reached settles resumes fate first i := by
  constructor
  · intro reached k lower upper
    by_cases same : k = first
    · exact same ▸ goes
    · exact reached k (by omega) upper
  · exact fun reached k lower upper => reached k (by omega) upper

theorem made_goes (goes : settles (fate first) = false ∧ resumes (first + 1) = true) :
    made settles resumes fate (left + 1) first = fate first :: made settles resumes fate left (first + 1) := by
  rw [made,if_neg (by simp [goes])]

theorem made_ends (ends : ¬ (settles (fate first) = false ∧ resumes (first + 1) = true)) :
    made settles resumes fate (left + 1) first = [fate first] := by
  have ended : (settles (fate first) || !resumes (first + 1)) = true := by
    cases settled : settles (fate first) <;> cases resumed : resumes (first + 1) <;> simp_all
  rw [made,if_pos ended]

theorem mem_made : a ∈ made settles resumes fate left first ↔
    ∃ i, first ≤ i ∧ i < first + left ∧ Reached settles resumes fate first i ∧ fate i = a := by
  induction left generalizing first with
  | zero =>
    simp only [made,List.not_mem_nil,false_iff]
    intro found
    obtain ⟨i,lower,upper,_⟩ := found
    omega
  | succ left ih =>
    have start : Reached settles resumes fate first first := fun k lower upper => by omega
    by_cases goes : settles (fate first) = false ∧ resumes (first + 1) = true
    · rw [made_goes goes,List.mem_cons,ih]
      constructor
      · intro found
        rcases found with same | ⟨i,lower,upper,reached,same⟩
        · exact ⟨first,Nat.le_refl _,by omega,start,same.symm⟩
        · exact ⟨i,by omega,by omega,(Reached.step goes).mp reached,same⟩
      · intro found
        obtain ⟨i,lower,upper,reached,same⟩ := found
        by_cases one : i = first
        · exact .inl (one ▸ same.symm)
        · exact .inr ⟨i,by omega,by omega,(Reached.step goes).mpr reached,same⟩
    · rw [made_ends goes,List.mem_singleton]
      constructor
      · exact fun same => ⟨first,Nat.le_refl _,by omega,start,same.symm⟩
      · intro found
        obtain ⟨i,lower,_,reached,same⟩ := found
        by_cases one : i = first
        · exact one ▸ same.symm
        · exact absurd (reached first (Nat.le_refl _) (by omega)) goes

-- No two tries that are made are related when no two of the fates that can be reached are.
theorem made_pairwise {R : γ → γ → Prop} : (made settles resumes fate left first).Pairwise R ↔
    ∀ i j, first ≤ i → i < j → j < first + left → Reached settles resumes fate first j → R (fate i) (fate j) := by
  induction left generalizing first with
  | zero =>
    constructor
    · intro _ i j lower between upper
      omega
    · exact fun _ => List.Pairwise.nil
  | succ left ih =>
    by_cases goes : settles (fate first) = false ∧ resumes (first + 1) = true
    · rw [made_goes goes,List.pairwise_cons,ih]
      constructor
      · intro both i j lower between upper reached
        have reached := (Reached.step goes).mpr reached
        by_cases one : i = first
        · rw [one]
          exact both.1 _ (mem_made.mpr ⟨j,by omega,by omega,reached,rfl⟩)
        · exact both.2 i j (by omega) between (by omega) reached
      · intro apart
        refine ⟨fun a member => ?_,fun i j lower between upper reached => ?_⟩
        · obtain ⟨j,lower,upper,reached,same⟩ := mem_made.mp member
          rw [← same]
          exact apart first j (Nat.le_refl _) (by omega) (by omega) ((Reached.step goes).mp reached)
        · exact apart i j (by omega) between (by omega) ((Reached.step goes).mp reached)
    · rw [made_ends goes]
      constructor
      · intro _ i j lower between upper reached
        exact absurd (reached first (Nat.le_refl _) (by omega)) goes
      · exact fun _ => List.pairwise_singleton _ _

-- No pause that comes ends the tries.
def Undisturbed (settles : γ → Bool) (resumes : Nat → Bool) (fate : Nat → γ) (bound : Nat) : Prop :=
  ∀ i, i + 1 < bound → Reached settles resumes fate 0 i → settles (fate i) = false → resumes (i + 1) = true

theorem reached_of_quiet (undisturbed : Undisturbed settles resumes fate bound) (within : i < bound)
    (quiet : ∀ k, k < i → settles (fate k) = false) : Reached settles resumes fate 0 i := by
  induction i with
  | zero => exact fun k _ upper => absurd upper (Nat.not_lt_zero k)
  | succ i ih =>
    have here := ih (by omega) fun k upper => quiet k (by omega)
    intro k lower upper
    by_cases last : k = i
    · subst last
      exact ⟨quiet k upper,undisturbed k within here (quiet k upper)⟩
    · exact here k lower (by omega)

-- The tries settle the matter somewhere or are all made.
theorem settled_or_all (settles : γ → Bool) (fate : Nat → γ) (bound : Nat) :
    (∃ i, i < bound ∧ settles (fate i) = true ∧ ∀ k, k < i → settles (fate k) = false) ∨
      ∀ k, k < bound → settles (fate k) = false := by
  induction bound with
  | zero => exact .inr fun k upper => absurd upper (Nat.not_lt_zero k)
  | succ bound ih =>
    rcases ih with ⟨i,upper,settled,quiet⟩ | quiet
    · exact .inl ⟨i,by omega,settled,quiet⟩
    · cases last : settles (fate bound) with
      | true => exact .inl ⟨bound,by omega,last,quiet⟩
      | false =>
        refine .inr fun k upper => ?_
        by_cases same : k = bound
        · rw [same,last]
        · exact quiet k (by omega)

theorem filter_le_one {p : γ → Bool} {l : List γ} :
    (l.filter p).length ≤ 1 ↔ l.Pairwise fun a b => ¬ (p a = true ∧ p b = true) := by
  induction l with
  | nil => simp
  | cons a rest ih =>
    rw [List.pairwise_cons,← ih]
    cases hit : p a with
    | false => simp [hit]
    | true =>
      rw [List.filter_cons_of_pos hit,List.length_cons]
      constructor
      · intro few
        have none : rest.filter p = [] := List.eq_nil_of_length_eq_zero (by omega)
        refine ⟨fun b member both => ?_,by rw [none]; simp⟩
        exact List.filter_eq_nil_iff.mp none b member both.2
      · intro both
        have none : rest.filter p = [] := List.filter_eq_nil_iff.mpr fun b member hit' => both.1 b member ⟨rfl,hit'⟩
        rw [none]
        simp

end Sophia.Retry
