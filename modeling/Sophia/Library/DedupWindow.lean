import Mathlib.Logic.Function.Basic
import Mathlib.Data.List.Pairwise
import Mathlib.Data.Option.Basic

namespace Sophia.DedupWindow

-- When each key was last accepted. An arrival within the window of that time is a duplicate and is forgotten;
-- any other is accepted, and what is older than the window is dropped.
abbrev Memory (κ : Type) := κ → Option Int

variable {κ : Type}

section
variable (window : Int)

def recent (now accepted : Int) : Bool := decide (now - accepted < window)

def duplicate (memory : Memory κ) (key : κ) (now : Int) : Bool := (memory key).any (recent window now)

end

variable {window : Int} {memory : Memory κ} {key : κ} {now : Int} {arrival : κ × Int} {rest : List (κ × Int)}

theorem duplicate_iff_recent : duplicate window memory key now = true ↔ ∃ p, memory key = some p ∧ now - p < window := by
  unfold duplicate recent
  cases memory key <;> simp

-- The key is remembered: accepted before the arrivals, or one of them came too late after that to be a duplicate.
def Remembered (window : Int) (memory : Memory κ) (arrivals : List (κ × Int)) (key : κ) (now : Int) : Prop :=
  (∃ p, memory key = some p ∧ now - p < window) ∨
    ∃ arrival ∈ arrivals, arrival.1 = key ∧ ∀ p, memory key = some p → window ≤ arrival.2 - p

theorem remembered_skip (skipped : arrival.1 = key → ∃ p, memory key = some p ∧ arrival.2 - p < window) :
    Remembered window memory (arrival :: rest) key now ↔ Remembered window memory rest key now := by
  constructor
  · intro remembered
    rcases remembered with before | ⟨found,member,same,late⟩
    · exact .inl before
    · rcases List.mem_cons.mp member with rfl | inRest
      · obtain ⟨p,accepted,soon⟩ := skipped same
        have := late p accepted
        omega
      · exact .inr ⟨found,inRest,same,late⟩
  · intro remembered
    rcases remembered with before | ⟨found,member,same,late⟩
    · exact .inl before
    · exact .inr ⟨found,List.mem_cons_of_mem _ member,same,late⟩

variable [DecidableEq κ]

section
variable (window : Int)

def accept (memory : Memory κ) (key : κ) (now : Int) : Memory κ :=
  fun other => (Function.update memory key (some now) other).filter (recent window now)

def offer (memory : Memory κ) (arrival : κ × Int) : Memory κ :=
  if duplicate window memory arrival.1 arrival.2 then memory else accept window memory arrival.1 arrival.2

end

theorem accept_same (open_ : 0 < window) : accept window memory key now key = some now := by
  simp [accept,recent,open_]

theorem accept_other {other : κ} (apart : other ≠ key) :
    accept window memory key now other = (memory other).filter (recent window now) := by
  simp [accept,apart]

-- Accepting another key forgets this one only when it is too old to matter any more.
theorem remembered_accept (other : key ≠ arrival.1) (ordered : ∀ later ∈ rest, arrival.2 ≤ later.2) (past : arrival.2 ≤ now) :
    Remembered window (accept window memory arrival.1 arrival.2) rest key now ↔ Remembered window memory rest key now := by
  unfold Remembered
  rw [accept_other other]
  cases before : memory key with
  | none => simp
  | some p =>
    by_cases soon : arrival.2 - p < window
    · simp [Option.filter,recent,soon]
    · simp only [Option.filter,recent,soon,decide_false,Bool.false_eq_true,if_false]
      constructor
      · intro remembered
        rcases remembered with ⟨_,impossible,_⟩ | ⟨found,member,same,_⟩
        · cases impossible
        · refine .inr ⟨found,member,same,fun q accepted => ?_⟩
          cases accepted
          have := ordered found member
          omega
      · intro remembered
        rcases remembered with ⟨q,accepted,young⟩ | ⟨found,member,same,_⟩
        · cases accepted
          omega
        · exact .inr ⟨found,member,same,fun q impossible => (nomatch impossible)⟩

theorem duplicate_iff (open_ : 0 < window) (arrivals : List (κ × Int)) (ordered : arrivals.Pairwise fun a b => a.2 ≤ b.2)
    (past : ∀ arrival ∈ arrivals, arrival.2 ≤ now) (close : ∀ arrival ∈ arrivals, now - arrival.2 < window) :
    duplicate window (arrivals.foldl (offer window) memory) key now = true ↔
      Remembered window memory arrivals key now := by
  induction arrivals generalizing memory with
  | nil =>
    rw [List.foldl_nil,duplicate_iff_recent]
    simp [Remembered]
  | cons arrival rest ih =>
    obtain ⟨first,later⟩ := List.pairwise_cons.mp ordered
    have step := @ih (offer window memory arrival) later (fun other member => past other (List.mem_cons_of_mem _ member))
      (fun other member => close other (List.mem_cons_of_mem _ member))
    rw [List.foldl_cons,step]
    unfold offer
    by_cases again : duplicate window memory arrival.1 arrival.2 = true
    · rw [if_pos again]
      apply (remembered_skip _).symm
      intro same
      rw [← same]
      exact duplicate_iff_recent.mp again
    · rw [if_neg again]
      by_cases same : key = arrival.1
      · have here : Remembered window memory (arrival :: rest) key now := by
          refine .inr ⟨arrival,List.mem_cons_self ..,same.symm,fun p accepted => ?_⟩
          rw [duplicate_iff_recent] at again
          rw [same] at accepted
          have := not_and.mp (not_exists.mp again p) accepted
          omega
        refine iff_of_true (.inl ⟨arrival.2,?_,close arrival (List.mem_cons_self ..)⟩) here
        rw [same]
        exact accept_same open_
      · rw [remembered_accept same first (past arrival (List.mem_cons_self ..)),remembered_skip]
        exact fun impossible => absurd impossible.symm same

-- What was accepted so far, the latest first
abbrev Log (κ : Type) := List (κ × Int)

def register (window : Int) (history : Memory κ × Log κ) (arrival : κ × Int) : Memory κ × Log κ :=
  (offer window history.1 arrival,
    if duplicate window history.1 arrival.1 arrival.2 then history.2 else arrival :: history.2)

-- The memory holds the last acceptance of each key, but for those that were too old at some time before now.
def Tracks (window : Int) (history : Memory κ × Log κ) (now : Int) : Prop :=
  ∃ purged, purged ≤ now ∧ ∀ key, history.1 key = (history.2.lookup key).filter (recent window purged)

section
variable {history : Memory κ × Log κ}

theorem tracks_fresh (now : Int) : Tracks window ((fun _ => none : Memory κ),[]) now :=
  ⟨now,Int.le_refl _,fun _ => rfl⟩

theorem Tracks.later (tracks : Tracks window history before) (ordered : before ≤ now) : Tracks window history now := by
  obtain ⟨purged,past,same⟩ := tracks
  exact ⟨purged,by omega,same⟩

-- What is recent now was not too old before.
theorem Tracks.recent (tracks : Tracks window history now) (key : κ) :
    (history.1 key).filter (recent window now) = (history.2.lookup key).filter (recent window now) := by
  obtain ⟨purged,past,same⟩ := tracks
  rw [same]
  cases history.2.lookup key with
  | none => rfl
  | some t =>
    by_cases young : now - t < window
    · have before : purged - t < window := by omega
      simp [Option.filter,DedupWindow.recent,young,before]
    · by_cases before : purged - t < window <;> simp [Option.filter,DedupWindow.recent,young,before]

theorem Tracks.duplicate (tracks : Tracks window history now) (key : κ) : duplicate window history.1 key now = true ↔
    ∃ t, history.2.lookup key = some t ∧ now - t < window := by
  have same := tracks.recent key
  rw [duplicate_iff_recent]
  constructor
  · rintro ⟨t,kept,young⟩
    have found : (history.2.lookup key).filter (DedupWindow.recent window now) = some t := by
      rw [← same,kept]
      simp [Option.filter,DedupWindow.recent,young]
    exact ⟨t,(Option.filter_eq_some_iff.mp found).1,young⟩
  · rintro ⟨t,logged,young⟩
    have found : (history.1 key).filter (DedupWindow.recent window now) = some t := by
      rw [same,logged]
      simp [Option.filter,DedupWindow.recent,young]
    exact ⟨t,(Option.filter_eq_some_iff.mp found).1,young⟩

-- An acceptance leaves exactly the last acceptances that are recent.
theorem Tracks.accept (open_ : 0 < window) (tracks : Tracks window history now) (key other : κ) :
    accept window history.1 key now other = (((key,now) :: history.2).lookup other).filter (DedupWindow.recent window now) := by
  by_cases same : other = key
  · subst same
    simp [accept_same open_,Option.filter,DedupWindow.recent,open_]
  · have differs : (other == key) = false := by simpa using same
    simp [accept_other same,List.lookup_cons,differs,tracks.recent]

theorem Tracks.register (open_ : 0 < window) (tracks : Tracks window history arrival.2) :
    Tracks window (register window history arrival) arrival.2 := by
  unfold DedupWindow.register offer
  by_cases again : DedupWindow.duplicate window history.1 arrival.1 arrival.2 = true
  · simpa [again] using tracks
  · simp only [if_neg again]
    exact ⟨arrival.2,Int.le_refl _,tracks.accept open_ arrival.1⟩

theorem tracks_run (open_ : 0 < window) (tracks : Tracks window history start) (arrivals : List (κ × Int))
    (ordered : arrivals.Pairwise fun a b => a.2 ≤ b.2) (begun : ∀ arrival ∈ arrivals, start ≤ arrival.2)
    (past : ∀ arrival ∈ arrivals, arrival.2 ≤ now) (ends : start ≤ now) :
    Tracks window (arrivals.foldl (DedupWindow.register window) history) now := by
  induction arrivals generalizing history start with
  | nil => exact tracks.later ends
  | cons arrival rest ih =>
    obtain ⟨first,later⟩ := List.pairwise_cons.mp ordered
    rw [List.forall_mem_cons] at begun past
    exact ih ((tracks.later begun.1).register open_) later first past.2 past.1

-- Arrivals of other keys make no difference to what is logged of a key.
theorem register_own (open_ : 0 < window) {alone : Memory κ × Log κ} (tracks : Tracks window history start)
    (apart : Tracks window alone start) (same : history.2.lookup key = alone.2.lookup key) (arrivals : List (κ × Int))
    (ordered : arrivals.Pairwise fun a b => a.2 ≤ b.2) (begun : ∀ arrival ∈ arrivals, start ≤ arrival.2) :
    (arrivals.foldl (DedupWindow.register window) history).2.lookup key =
      ((arrivals.filter (·.1 = key)).foldl (DedupWindow.register window) alone).2.lookup key := by
  induction arrivals generalizing history alone start with
  | nil => exact same
  | cons arrival rest ih =>
    obtain ⟨offered,time⟩ := arrival
    obtain ⟨first,later⟩ := List.pairwise_cons.mp ordered
    rw [List.forall_mem_cons] at begun
    have here := tracks.later begun.1
    have there := apart.later begun.1
    by_cases own : offered = key
    · subst own
      rw [List.filter_cons_of_pos (by simp),List.foldl_cons,List.foldl_cons]
      refine ih (here.register open_) (there.register open_) ?_ later first
      have agree : DedupWindow.duplicate window history.1 offered time =
          DedupWindow.duplicate window alone.1 offered time := by
        rw [Bool.eq_iff_iff,here.duplicate,there.duplicate,same]
      by_cases again : DedupWindow.duplicate window alone.1 offered time = true
      · simpa [DedupWindow.register,agree,again] using same
      · simp [DedupWindow.register,agree,again]
    · rw [List.filter_cons_of_neg (by simpa using own),List.foldl_cons]
      refine ih (here.register open_) there ?_ later first
      have differs : (key == offered) = false := by simpa using Ne.symm own
      by_cases again : DedupWindow.duplicate window history.1 offered time = true
      · simpa [DedupWindow.register,again] using same
      · simpa [DedupWindow.register,again,List.lookup_cons,differs] using same

end

end Sophia.DedupWindow
