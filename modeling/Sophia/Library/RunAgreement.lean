import Sophia.Library.TracedRun

namespace Sophia.TracedRun

variable {ε σ ω α β γ δ : Type} {counts : ω → Bool} {related : β → δ → Prop}

-- Two computations that part only where it does not count: they end in the same state, the events that count are
-- the same, and what both return is related. Either may raise where the other returns.
def Agree (counts : ω → Bool) (related : β → δ → Prop) (m : Run ε σ ω β) (n : Run ε σ ω δ) : Prop :=
  ∀ s, (m s).state = (n s).state ∧ (m s).trace.filter counts = (n s).trace.filter counts ∧
    ∀ b d, (m s).value = .ok b → (n s).value = .ok d → related b d

-- A computation that changes no state and leaves nothing that counts
structure Quiet (counts : ω → Bool) (m : Run ε σ ω α) : Prop where
  keeps : Keeps m
  silent : Emits (fun event => counts event = false) m

theorem Quiet.pure (a : α) : Quiet counts (Pure.pure a : Run ε σ ω α) := ⟨.pure a,.pure a⟩
theorem Quiet.lift (x : Except ε α) : Quiet counts (TracedRun.lift x : Run ε σ ω α) := ⟨.lift x,.lift x⟩

theorem Quiet.emit (uncounted : counts event = false) : Quiet counts (TracedRun.emit event : Run ε σ ω Unit) :=
  ⟨.emit event,.emit uncounted⟩

theorem Quiet.bind {m : Run ε σ ω α} {f : α → Run ε σ ω β} (first : Quiet counts m) (second : ∀ a, Quiet counts (f a)) :
    Quiet counts (m >>= f) :=
  ⟨first.keeps.bind fun a => (second a).keeps,first.silent.bind fun a => (second a).silent⟩

theorem Quiet.trace {m : Run ε σ ω α} (quiet : Quiet counts m) (s : σ) : (m s).trace.filter counts = [] := by
  rw [List.filter_eq_nil_iff]
  intro event present counted
  rw [quiet.silent s event present] at counted
  cases counted

theorem Quiet.agree {m : Run ε σ ω β} {n : Run ε σ ω δ} (left : Quiet counts m) (right : Quiet counts n)
    (values : ∀ s b d, (m s).value = .ok b → (n s).value = .ok d → related b d) : Agree counts related m n :=
  fun s => ⟨(left.keeps s).trans (right.keeps s).symm,(left.trace s).trans (right.trace s).symm,values s⟩

-- What both do first they do alike.
theorem Agree.bind {f : α → Run ε σ ω β} {g : α → Run ε σ ω δ} (m : Run ε σ ω α)
    (rest : ∀ a, Agree counts related (f a) (g a)) : Agree counts related (m >>= f) (m >>= g) := by
  intro s
  cases value : (m s).value with
  | error e =>
    rw [bind_error value,bind_error value]
    exact ⟨rfl,rfl,fun b d returned => (nomatch returned)⟩
  | ok a =>
    obtain ⟨state,events,values⟩ := rest a (m s).state
    rw [bind_ok value,bind_ok value]
    exact ⟨state,by rw [List.filter_append,List.filter_append,events],values⟩

theorem bind_pure_outcome (m : Run ε σ ω β) (f : β → α) (s : σ) :
    (m >>= fun b => Pure.pure (f b)) s = ⟨(m s).value.map f,(m s).state,(m s).trace⟩ := by
  cases value : (m s).value with
  | error e => rw [bind_error value]; rfl
  | ok b => rw [bind_ok value]; exact congrArg _ (List.append_nil _)

theorem Agree.map {other : α → γ → Prop} {m : Run ε σ ω β} {n : Run ε σ ω δ} {f : β → α} {g : δ → γ}
    (agree : Agree counts related m n) (values : ∀ b d, related b d → other (f b) (g d)) :
    Agree counts other (m >>= fun b => Pure.pure (f b)) (n >>= fun d => Pure.pure (g d)) := by
  intro s
  obtain ⟨state,events,both⟩ := agree s
  rw [bind_pure_outcome,bind_pure_outcome]
  refine ⟨state,events,fun x y left right => ?_⟩
  cases first : (m s).value with
  | error e => rw [first] at left; cases left
  | ok b =>
    cases second : (n s).value with
    | error e => rw [second] at right; cases right
    | ok d =>
      rw [first] at left
      rw [second] at right
      cases left
      cases right
      exact values b d (both b d first second)

end Sophia.TracedRun
