import Mathlib.Logic.Basic

namespace Sophia

-- A raising computation whose outcome is known: it returns exactly where p holds, and elsewhere its error is bad.
structure Guarded {ε α : Type} (bad : ε → Prop) (x : Except ε α) (p : Prop) : Prop where
  returns : p → ∃ a, x = .ok a
  raises : ¬ p → ∃ e, x = .error e ∧ bad e

namespace Guarded
variable {ε α β : Type} {bad : ε → Prop} {x : Except ε α} {f : α → Except ε β} {p q : Prop}

theorem returned (a : α) (holds : p) : Guarded bad (.ok a : Except ε α) p :=
  ⟨fun _ => ⟨a,rfl⟩,fun fails => absurd holds fails⟩

theorem raised {e : ε} (harmful : bad e) (fails : ¬ p) : Guarded bad (.error e : Except ε α) p :=
  ⟨fun holds => absurd holds fails,fun _ => ⟨e,rfl,harmful⟩⟩

theorem ok (a : α) : Guarded bad (.ok a : Except ε α) True := returned a trivial

theorem congr (guarded : Guarded bad x p) (same : p ↔ q) : Guarded bad x q :=
  ⟨fun holds => guarded.returns (same.mpr holds),fun fails => guarded.raises fun holds => fails (same.mp holds)⟩

theorem andThen (first : Guarded bad x p) (second : ∀ a, x = .ok a → Guarded bad (f a) q) : Guarded bad (x >>= f) (p ∧ q) := by
  by_cases holds : p
  · obtain ⟨a,returned⟩ := first.returns holds
    have later := second a returned
    refine ⟨fun both => ?_,fun fails => ?_⟩
    · obtain ⟨b,done⟩ := later.returns both.2
      exact ⟨b,by rw [returned]; exact done⟩
    · obtain ⟨e,raised,harmful⟩ := later.raises fun rest => fails ⟨holds,rest⟩
      exact ⟨e,by rw [returned]; exact raised,harmful⟩
  · obtain ⟨e,raised,harmful⟩ := first.raises holds
    exact ⟨fun both => absurd both.1 holds,fun _ => ⟨e,by rw [raised]; rfl,harmful⟩⟩

-- What the later steps ask for is said of the first one's result.
theorem opened {q : α → Prop} (first : Guarded bad x (∃ a, x = .ok a)) (later : ∀ a, Guarded bad (f a) (q a)) :
    Guarded bad (x >>= f) (∃ a, x = .ok a ∧ q a) := by
  cases taken : x with
  | error e =>
    obtain ⟨other,failed,harmful⟩ := first.raises (by simp [taken])
    rw [taken] at failed
    cases failed
    exact raised harmful (by simp)
  | ok a => exact (later a).congr (by simp)

-- A step whose result is known
theorem known {a : α} (returned : x = .ok a) (rest : Guarded bad (f a) p) : Guarded bad (x >>= f) p := by
  rw [returned]
  exact rest

-- Only the first step can fail.
theorem last (first : Guarded bad x p) (rest : ∀ a, Guarded bad (f a) True) : Guarded bad (x >>= f) p :=
  (andThen first fun a _ => rest a).congr (and_iff_left trivial)

theorem mapM {f : α → Except ε β} {p : α → Prop} (each : ∀ a, Guarded bad (f a) (p a)) (items : List α) :
    Guarded bad (items.mapM f) (∀ a ∈ items, p a) := by
  induction items with
  | nil => exact (ok []).congr (by simp)
  | cons a rest ih =>
    rw [List.mapM_cons]
    refine (andThen (each a) fun b _ => andThen ih fun bs _ => ok (b :: bs)).congr ?_
    simp

theorem ite {c : Prop} [Decidable c] {y : Except ε α} (yes : c → Guarded bad x p) (no : ¬ c → Guarded bad y q) :
    Guarded bad (if c then x else y) (if c then p else q) := by
  by_cases holds : c
  · simp only [if_pos holds]
    exact yes holds
  · simp only [if_neg holds]
    exact no holds

end Guarded
end Sophia
