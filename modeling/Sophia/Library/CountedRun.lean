import Sophia.Library.TracedRun
import Mathlib.Data.List.Range

namespace Sophia.TracedRun

variable {ε σ ω α β : Type} {m n : Run ε σ ω α} {f g : α → Run ε σ ω β}

-- At most so many of the events are of one kind.
def AtMost (p : ω → Bool) (k : Nat) (m : Run ε σ ω α) : Prop := ∀ s, (m s).trace.countP p ≤ k

section
variable {p : ω → Bool} {j k : Nat}

theorem AtMost.pure (a : α) : AtMost p k (Pure.pure a : Run ε σ ω α) := fun _ => Nat.zero_le _
theorem AtMost.lift (x : Except ε α) : AtMost p k (TracedRun.lift x : Run ε σ ω α) := fun _ => Nat.zero_le _
theorem AtMost.overState (step : σ → σ × Except ε α) : AtMost p k (TracedRun.overState step : Run ε σ ω α) :=
  fun _ => Nat.zero_le _

theorem AtMost.emit (event : ω) : AtMost p 1 (TracedRun.emit event : Run ε σ ω Unit) := by
  intro s
  rw [emit_trace]
  exact List.countP_le_length

theorem AtMost.mono (few : AtMost p j m) (le : j ≤ k) : AtMost p k m := fun s => (few s).trans le

theorem AtMost.bind (first : AtMost p j m) (second : ∀ a, AtMost p k (f a)) : AtMost p (j + k) (m >>= f) := by
  intro s
  cases value : (m s).value with
  | error e =>
    rw [bind_error value]
    exact (first s).trans (Nat.le_add_right _ _)
  | ok a =>
    rw [bind_ok value]
    dsimp only
    rw [List.countP_append]
    exact Nat.add_le_add (first s) (second a _)

theorem AtMost.silent (first : AtMost p 0 m) (second : ∀ a, AtMost p k (f a)) : AtMost p k (m >>= f) := by
  have both := first.bind second
  rwa [Nat.zero_add] at both

theorem AtMost.ite {c : Prop} [Decidable c] (yes : AtMost p k m) (no : AtMost p k n) : AtMost p k (if c then m else n) := by
  split
  · exact yes
  · exact no

theorem AtMost.rescue {handler : ε → Except ε α} (few : AtMost p k m) : AtMost p k (TracedRun.rescue handler m) := few

end

-- Every event takes the next number of a counter in the state.
def Numbered (counter : σ → Nat) (number : ω → Nat) (m : Run ε σ ω α) : Prop := ∀ s,
  (m s).trace.map number = List.range' (counter s + 1) (m s).trace.length ∧
    counter (m s).state = counter s + (m s).trace.length

section
variable {counter : σ → Nat} {number : ω → Nat}

theorem Numbered.lift (x : Except ε α) : Numbered counter number (TracedRun.lift x : Run ε σ ω α) := fun _ => ⟨rfl,rfl⟩
theorem Numbered.pure (a : α) : Numbered counter number (Pure.pure a : Run ε σ ω α) := fun _ => ⟨rfl,rfl⟩

theorem Numbered.overState {step : σ → σ × Except ε α} (kept : ∀ s, counter (step s).1 = counter s) :
    Numbered counter number (TracedRun.overState step : Run ε σ ω α) := fun s => ⟨rfl,kept s⟩

theorem Numbered.bind (first : Numbered counter number m) (second : ∀ a, Numbered counter number (f a)) :
    Numbered counter number (m >>= f) := by
  intro s
  cases value : (m s).value with
  | error e =>
    rw [bind_error value]
    exact first s
  | ok a =>
    rw [bind_ok value]
    obtain ⟨early,middle⟩ := first s
    obtain ⟨late,last⟩ := second a (m s).state
    dsimp only
    rw [List.map_append,List.length_append,early,late,last,middle,← Nat.add_assoc]
    refine ⟨?_,rfl⟩
    rw [Nat.add_right_comm,List.range'_append_1]

theorem Numbered.ite {c : Prop} [Decidable c] (yes : Numbered counter number m) (no : Numbered counter number n) :
    Numbered counter number (if c then m else n) := by
  split
  · exact yes
  · exact no

theorem Numbered.rescue {handler : ε → Except ε α} (numbered : Numbered counter number m) :
    Numbered counter number (TracedRun.rescue handler m) := numbered

theorem Numbered.increasing (numbered : Numbered counter number m) (s : σ) :
    ((m s).trace.map number).Pairwise (· < ·) := by
  rw [(numbered s).1]
  exact List.pairwise_lt_range'

end

-- The computation without its events
def mute (m : Run ε σ ω α) : Run ε σ ω α := fun s => ⟨(m s).value,(m s).state,[]⟩

theorem AtMost.mute (m : Run ε σ ω α) : AtMost p 0 (mute m) := fun _ => Nat.zero_le _

-- One computation does what another does and leaves some of its events.
def Echoes (n m : Run ε σ ω α) : Prop :=
  ∀ s, (n s).value = (m s).value ∧ (n s).state = (m s).state ∧ (n s).trace.Sublist (m s).trace

theorem Echoes.refl (m : Run ε σ ω α) : Echoes m m := fun _ => ⟨rfl,rfl,List.Sublist.refl _⟩

theorem Echoes.mute (m : Run ε σ ω α) : Echoes (mute m) m := fun _ => ⟨rfl,rfl,List.nil_sublist _⟩

theorem Echoes.bind (first : Echoes n m) (second : ∀ a, Echoes (g a) (f a)) : Echoes (n >>= g) (m >>= f) := by
  intro s
  obtain ⟨value,state,early⟩ := first s
  cases returned : (m s).value with
  | error e =>
    rw [bind_error returned,bind_error (value.trans returned)]
    exact ⟨rfl,state,early⟩
  | ok a =>
    rw [bind_ok returned,bind_ok (value.trans returned),state]
    obtain ⟨same,final,late⟩ := second a (m s).state
    exact ⟨same,final,early.append late⟩

theorem Echoes.ite {c : Prop} [Decidable c] {yes no yes' no' : Run ε σ ω α} (left : Echoes yes' yes) (right : Echoes no' no) :
    Echoes (if c then yes' else no') (if c then yes else no) := by
  split
  · exact left
  · exact right

end Sophia.TracedRun
