import Mathlib.Data.List.Basic
import Mathlib.Data.List.Induction

namespace Sophia.StepRun

-- A system that takes one input after another
variable {σ ι : Type}

section
variable (step : σ → ι → σ)

def after (s : σ) (inputs : List ι) : σ := inputs.foldl step s

-- P holds in every state of the run, Q of every step of it and the state it is taken in.
def Always (P : σ → Prop) (s : σ) (inputs : List ι) : Prop :=
  ∀ earlier later, inputs = earlier ++ later → P (after step s earlier)

def Along (Q : σ → ι → Prop) (s : σ) (inputs : List ι) : Prop :=
  ∀ earlier input later, inputs = earlier ++ input :: later → Q (after step s earlier) input

end

variable {step : σ → ι → σ} {P I : σ → Prop} {Q : σ → ι → Prop} {s : σ} {input : ι} {inputs : List ι}

@[simp] theorem after_nil : after step s [] = s := rfl
@[simp] theorem after_cons : after step s (input :: inputs) = after step (step s input) inputs := rfl

theorem after_append {later : List ι} : after step s (inputs ++ later) = after step (after step s inputs) later :=
  List.foldl_append

theorem after_last : after step s (inputs ++ [input]) = step (after step s inputs) input := after_append

@[simp] theorem always_nil : Always step P s [] ↔ P s := by
  constructor
  · exact fun always => always [] [] rfl
  · intro holds earlier later split
    simp_all

theorem always_cons : Always step P s (input :: inputs) ↔ P s ∧ Always step P (step s input) inputs := by
  constructor
  · intro always
    exact ⟨always [] _ rfl,fun earlier later split => always (input :: earlier) later (by simp [split])⟩
  · rintro ⟨here,rest⟩ earlier later split
    cases earlier with
    | nil => exact here
    | cons first earlier =>
      obtain ⟨rfl,tails⟩ := List.cons_eq_cons.mp split
      exact rest earlier later tails

@[simp] theorem along_nil : Along step Q s [] := by
  intro earlier input later split
  simp_all

theorem along_cons : Along step Q s (input :: inputs) ↔ Q s input ∧ Along step Q (step s input) inputs := by
  constructor
  · intro along
    exact ⟨along [] _ _ rfl,fun earlier next later split => along (input :: earlier) next later (by simp [split])⟩
  · rintro ⟨here,rest⟩ earlier next later split
    cases earlier with
    | nil =>
      obtain ⟨rfl,_⟩ := List.cons_eq_cons.mp split
      exact here
    | cons first earlier =>
      obtain ⟨rfl,tails⟩ := List.cons_eq_cons.mp split
      exact rest earlier next later tails

theorem invariant (kept : ∀ s input, I s → I (step s input)) (start : I s) : I (after step s inputs) := by
  induction inputs generalizing s with
  | nil => exact start
  | cons input rest ih => exact ih (kept s input start)

-- A relation that every step respects relates the first state of a run to its last.
theorem related {R : σ → σ → Prop} (refl : ∀ s, R s s) (trans : ∀ a b c, R a b → R b c → R a c)
    (kept : ∀ s input, I s → I (step s input)) (steps : ∀ s input, I s → R s (step s input)) (start : I s) :
    R s (after step s inputs) := by
  induction inputs generalizing s with
  | nil => exact refl s
  | cons input rest ih => exact trans _ _ _ (steps s input start) (ih (kept s input start))

-- Where one step keeps P exactly under Q, a run keeps it exactly when each of its steps meets Q.
theorem exact (kept : ∀ s input, I s → I (step s input)) (steps : ∀ s input, I s → P s → (P (step s input) ↔ Q s input))
    (start : I s) (holds : P s) : Always step P s inputs ↔ Along step Q s inputs := by
  induction inputs generalizing s with
  | nil => simp [holds]
  | cons input rest ih =>
    rw [always_cons,along_cons,and_iff_right holds]
    constructor
    · intro always
      have next : P (step s input) := always [] _ rfl
      exact ⟨(steps s input start holds).mp next,(ih (kept s input start) next).mp always⟩
    · rintro ⟨here,along⟩
      have next : P (step s input) := (steps s input start holds).mpr here
      exact (ih (kept s input start) next).mpr along

-- The answers of a run, each beside the input that it answers
section
variable {β : Type} (step : σ → ι → σ) (answer : σ → ι → β)

def answers : σ → List ι → List (ι × β)
  | _,[] => []
  | s,input :: rest => (input,answer s input) :: answers (step s input) rest

variable {step answer}

theorem answers_last : answers step answer s (inputs ++ [input]) =
    answers step answer s inputs ++ [(input,answer (after step s inputs) input)] := by
  induction inputs generalizing s with
  | nil => rfl
  | cons first rest ih => exact congrArg _ ih

-- A run that is ordered is so up to each of its inputs, and with some of them left out.
theorem pairwise_upto {R : ι → ι → Prop} {earlier later : List ι} (ordered : (earlier ++ input :: later).Pairwise R) :
    (earlier ++ [input]).Pairwise R :=
  ordered.sublist (List.Sublist.append_left (List.singleton_sublist.mpr List.mem_cons_self) _)

theorem pairwise_without {R : ι → ι → Prop} {earlier between later : List ι} {last : ι}
    (ordered : (earlier ++ input :: (between ++ last :: later)).Pairwise R) :
    (earlier ++ input :: between ++ [last]).Pairwise R ∧ (earlier ++ between ++ [last]).Pairwise R := by
  have grouped : (earlier ++ input :: between ++ last :: later).Pairwise R := by simpa using ordered
  have upto := pairwise_upto grouped
  exact ⟨upto,upto.sublist (List.Sublist.append_right (List.Sublist.append_left (List.sublist_cons_self ..) _) _)⟩

-- Inputs that are answered as if there were only inputs of their own kind
theorem answers_own (own : ι → Bool)
    (alone : ∀ earlier input later, inputs = earlier ++ input :: later → own input = true →
      answer (after step s earlier) input = answer (after step s (earlier.filter own)) input) :
    (answers step answer s inputs).filter (fun answered => own answered.1) = answers step answer s (inputs.filter own) := by
  induction inputs using List.reverseRecOn with
  | nil => rfl
  | append_singleton inputs last ih =>
    have before := ih fun earlier input later split => alone earlier input (later ++ [last]) (by simp [split])
    rw [answers_last,List.filter_append,List.filter_append,before,List.filter_cons,List.filter_cons]
    by_cases mine : own last = true
    · rw [if_pos mine,if_pos mine,List.filter_nil,List.filter_nil,answers_last,alone inputs last [] rfl mine]
    · rw [if_neg mine,if_neg mine,List.filter_nil,List.filter_nil,List.append_nil,List.append_nil]

-- An input that later answers do not depend on
theorem answers_without (earlier later : List ι)
    (same : ∀ between next rest, later = between ++ next :: rest →
      answer (after step s (earlier ++ input :: between)) next = answer (after step s (earlier ++ between)) next) :
    answers step answer (after step s (earlier ++ [input])) later = answers step answer (after step s earlier) later := by
  induction later using List.reverseRecOn with
  | nil => rfl
  | append_singleton later last ih =>
    have before := ih fun between next rest split => same between next (rest ++ [last]) (by simp [split])
    rw [answers_last,answers_last,before,← after_append,← after_append,List.append_assoc,List.singleton_append,
      same later last [] rfl]

end

end Sophia.StepRun
