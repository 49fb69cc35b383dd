import Sophia.Library.TracedRun

namespace Sophia.TracedRun

variable {ε σ τ ω α β γ δ : Type}

-- n is what the eye that sees look of the state and answer of the result sees of m, event by event.
def Refines (look : σ → τ) (answer : α → β) (m : Run ε σ ω α) (n : Run ε τ ω β) : Prop :=
  ∀ s, n (look s) = ⟨(m s).value.map answer,look (m s).state,(m s).trace⟩

variable {look : σ → τ} {answer : α → β} {m : Run ε σ ω α} {n : Run ε τ ω β}

theorem Refines.value (refines : Refines look answer m n) (s : σ) : (n (look s)).value = (m s).value.map answer := by
  rw [refines s]

theorem Refines.state (refines : Refines look answer m n) (s : σ) : (n (look s)).state = look (m s).state := by
  rw [refines s]

theorem Refines.trace (refines : Refines look answer m n) (s : σ) : (n (look s)).trace = (m s).trace := by
  rw [refines s]

theorem Refines.pure (a : α) : Refines look answer (Pure.pure a : Run ε σ ω α) (Pure.pure (answer a)) := fun _ => rfl

theorem Refines.lift (x : Except ε α) :
    Refines look answer (TracedRun.lift x : Run ε σ ω α) (TracedRun.lift (x.map answer)) := fun _ => rfl

-- A raising step that both make alike
theorem Refines.lifted (x : Except ε α) : Refines look id (TracedRun.lift x : Run ε σ ω α) (TracedRun.lift x) := by
  intro s
  cases x <;> rfl

theorem Refines.change {next : σ → σ} {other : τ → τ} (same : ∀ s, look (next s) = other (look s)) :
    Refines look id (TracedRun.change next : Run ε σ ω Unit) (TracedRun.change other) := by
  intro s
  change (⟨.ok (),other (look s),[]⟩ : Outcome ε τ ω Unit) = ⟨.ok (),look (next s),[]⟩
  rw [same]

theorem Refines.bind {pass : α → β} {f : α → Run ε σ ω γ} {g : β → Run ε τ ω δ} {answer : γ → δ}
    (first : Refines look pass m n) (second : ∀ a, Refines look answer (f a) (g (pass a))) :
    Refines look answer (m >>= f) (n >>= g) := by
  intro s
  cases value : (m s).value with
  | error e =>
    have raised : (n (look s)).value = .error e := by rw [first.value,value]; rfl
    rw [bind_error value,bind_error raised,first.state,first.trace]
    rfl
  | ok a =>
    have returned : (n (look s)).value = .ok (pass a) := by rw [first.value,value]; rfl
    rw [bind_ok value,bind_ok returned,first.state,first.trace,second a]

theorem Refines.rescue {handler : ε → Except ε β} {caught : ε → Except ε α} (refines : Refines look answer m n)
    (same : ∀ e, handler e = (caught e).map answer) :
    Refines look answer (TracedRun.rescue caught m) (TracedRun.rescue handler n) := by
  intro s
  unfold TracedRun.rescue
  rw [refines s]
  cases (m s).value with
  | ok a => rfl
  | error e => exact congrArg (fun x => Outcome.mk x _ _) (same e)

-- A computation on what is seen, when the rest of the state fits what it leaves.
theorem Refines.focus {put : τ → σ → σ} {n : Run ε τ ω α} (fits : ∀ s, look (put (n (look s)).state s) = (n (look s)).state) :
    Refines look id (TracedRun.focus look put n) n := by
  intro s
  unfold TracedRun.focus
  rw [fits s]
  cases value : (n (look s)).value <;> rw [← value] <;> exact congrArg (fun x => Outcome.mk x _ _) (by rw [value]; rfl)

end Sophia.TracedRun
