import Sophia.Library.TracedRun

namespace Sophia.TracedRun

variable {ε σ ω α β γ : Type} {phase : ω → Nat} {low middle high : Nat} {m : Run ε σ ω α} {f : α → Run ε σ ω β}

-- The events come in the order of their phases, and all phases are within the bounds.
structure Phased (phase : ω → Nat) (low high : Nat) (m : Run ε σ ω α) : Prop where
  sorted : ∀ s, ((m s).trace.map phase).Pairwise (· ≤ ·)
  within : Emits (fun event => low ≤ phase event ∧ phase event ≤ high) m

theorem Phased.silent (silent : ∀ s, (m s).trace = []) : Phased phase low high m := by
  constructor
  · intro s
    rw [silent s]
    exact List.Pairwise.nil
  · intro s event present
    rw [silent s] at present
    cases present

theorem Phased.single (each : Emits (fun event => phase event = low) m) : Phased phase low low m := by
  constructor
  · intro s
    refine List.pairwise_map.mpr (List.pairwise_of_forall_mem_list fun a first b second => ?_)
    exact Nat.le_of_eq ((each s a first).trans (each s b second).symm)
  · intro s event present
    rw [each s event present]
    exact ⟨Nat.le_refl _,Nat.le_refl _⟩

theorem Phased.widen (phased : Phased phase low high m) (below : least ≤ low) (above : high ≤ most) :
    Phased phase least most m := by
  refine ⟨phased.sorted,fun s event present => ?_⟩
  obtain ⟨lower,upper⟩ := phased.within s event present
  exact ⟨Nat.le_trans below lower,Nat.le_trans upper above⟩

-- What follows is of no earlier phase.
theorem Phased.bind (first : Phased phase low middle m) (second : ∀ a, Phased phase middle high (f a)) (below : low ≤ middle)
    (above : middle ≤ high) : Phased phase low high (m >>= f) := by
  constructor
  · intro s
    cases value : (m s).value with
    | error e =>
      rw [bind_error value]
      exact first.sorted s
    | ok a =>
      rw [bind_ok value]
      dsimp only
      rw [List.map_append]
      refine List.pairwise_append.mpr ⟨first.sorted s,(second a).sorted _,fun x early y late => ?_⟩
      obtain ⟨one,present,rfl⟩ := List.mem_map.mp early
      obtain ⟨two,later,rfl⟩ := List.mem_map.mp late
      exact Nat.le_trans (first.within s one present).2 ((second a).within _ two later).1
  · exact Emits.bind (first.widen (Nat.le_refl _) above).within fun a => ((second a).widen below (Nat.le_refl _)).within

theorem Phased.ite {p : Prop} [Decidable p] {left right : Run ε σ ω α} (yes : Phased phase low high left)
    (no : Phased phase low high right) : Phased phase low high (if p then left else right) := by
  split
  · exact yes
  · exact no

-- Of tasks in list order each leaves its mark, up to the first that raises.
theorem Stateless.seen_gather {run : α → Run ε σ ω β} {answer : α → Except ε β} {view : ω → Option γ} {mark : α → γ}
    (stateless : Stateless run answer) (each : ∀ a s, seen view (run a) s = if (answer a).isOk then [mark a] else [])
    (tasks : List α) (s : σ) :
    seen view (TracedRun.gather (tasks.map run)) s = (tasks.takeWhile fun a => (answer a).isOk).map mark := by
  induction tasks with
  | nil => rfl
  | cons task rest ih =>
    rw [List.map_cons,TracedRun.gather,seen_bind,each,stateless.value task s,stateless.state task s]
    cases answered : answer task with
    | error e => simp [answered,Except.isOk,Except.toBool]
    | ok b =>
      dsimp only
      rw [seen_then_silent fun _ => Emits.pure _,ih]
      simp [answered,Except.isOk,Except.toBool]

end Sophia.TracedRun
