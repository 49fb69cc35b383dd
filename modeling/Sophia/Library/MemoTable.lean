import Mathlib.Algebra.Order.Group.Defs
import Mathlib.Data.List.Forall2

namespace Sophia.MemoTable

-- A memo table whose entries age. A request for a job that misses is suspended while its
-- value is made and comes back later; other requests run in between. Jobs of one key share
-- an entry.
structure Entry (V T : Type) where
  value : V
  storedAt : T

structure Table (K J V T : Type) where
  entries : K → Option (Entry V T)
  waiting : Nat → Option (J × T)
  clock : T
  calls : Nat

-- What one step did. Every request carries the lifetime it was made under.
inductive Event (J V T : Type) where
  | hit (call : Nat) (job : J) (ttl now : T) (value : V)
  | miss (call : Nat) (job : J) (ttl now : T)
  | fill (call : Nat) (job : J) (ttl now : T) (value : V)
  | drop (call : Nat)
  | clear

variable {K J V T : Type}

def put {α β : Type} [DecidableEq α] (f : α → β) (a : α) (b : β) : α → β := fun x => if x = a then b else f x

variable [AddCommGroup T] [LinearOrder T]

def empty (start : T) : Table K J V T := ⟨fun _ => none,fun _ => none,start,0⟩

-- Every entry was filled in for a job of its key, under a positive lifetime, at the time it bears.
structure Sound (keyOf : J → K) (history : List (Event J V T)) (t : Table K J V T) : Prop where
  filled : ∀ key entry, t.entries key = some entry → entry.storedAt ≤ t.clock ∧
    ∃ call job ttl, keyOf job = key ∧ 0 < ttl ∧ .fill call job ttl entry.storedAt entry.value ∈ history
  asked : ∀ call job ttl, t.waiting call = some (job,ttl) → ∃ now, .miss call job ttl now ∈ history

theorem empty_sound (keyOf : J → K) (start : T) : Sound keyOf [] (empty start : Table K J V T) :=
  ⟨fun _ _ found => (nomatch found),fun _ _ _ found => (nomatch found)⟩

theorem Sound.later {t : Table K J V T} (sound : Sound keyOf history t) (event : Event J V T) :
    Sound keyOf (history ++ [event]) t where
  filled key entry found := by
    obtain ⟨past,call,job,ttl,same,positive,present⟩ := sound.filled key entry found
    exact ⟨past,call,job,ttl,same,positive,List.mem_append_left _ present⟩
  asked call job ttl found := by
    obtain ⟨now,present⟩ := sound.asked call job ttl found
    exact ⟨now,List.mem_append_left _ present⟩

theorem Sound.tick {t : Table K J V T} (sound : Sound keyOf history t) (later : t.clock ≤ now) (calls : Nat) :
    Sound keyOf history {t with clock := now,calls} where
  filled key entry found := by
    obtain ⟨past,filled⟩ := sound.filled key entry found
    exact ⟨le_trans past later,filled⟩
  asked := sound.asked

variable [DecidableEq K] {keyOf : J → K}

-- A value is kept only under a positive lifetime.
def keep (t : Table K J V T) (key : K) (ttl now : T) (value : V) : K → Option (Entry V T) :=
  if 0 < ttl then put t.entries key (some ⟨value,now⟩) else t.entries

inductive Step (keyOf : J → K) : Table K J V T → Event J V T → Table K J V T → Prop where
  | hit : t.clock ≤ now → t.entries (keyOf job) = some entry → now - entry.storedAt < ttl →
      Step keyOf t (.hit t.calls job ttl now entry.value) {t with clock := now,calls := t.calls + 1}
  | miss : t.clock ≤ now → (∀ entry, t.entries (keyOf job) = some entry → ¬ now - entry.storedAt < ttl) →
      Step keyOf t (.miss t.calls job ttl now)
        {t with clock := now,calls := t.calls + 1,waiting := put t.waiting t.calls (some (job,ttl))}
  | fill : t.clock ≤ now → t.waiting call = some (job,ttl) →
      Step keyOf t (.fill call job ttl now value)
        {t with clock := now,entries := keep t (keyOf job) ttl now value,waiting := put t.waiting call none}
  | drop : Step keyOf t (.drop call) {t with waiting := put t.waiting call none}
  | clear : Step keyOf t .clear {t with entries := fun _ => none}

inductive Run (keyOf : J → K) : Table K J V T → List (Event J V T) → Table K J V T → Prop where
  | nil : Run keyOf t [] t
  | snoc : Run keyOf t history middle → Step keyOf middle event next → Run keyOf t (history ++ [event]) next

theorem step_sound {t next : Table K J V T} (sound : Sound keyOf history t) (step : Step keyOf t event next) :
    Sound keyOf (history ++ [event]) next := by
  cases step with
  | hit later found fresh => exact (sound.tick later _).later _
  | miss later stale =>
    have old := (sound.tick later (t.calls + 1)).later
    refine ⟨(old _).filled,?_⟩
    intro call job ttl found
    simp only [put] at found
    split at found
    · next own =>
      subst own
      cases found
      exact ⟨_,List.mem_append_right _ (List.mem_singleton_self _)⟩
    · exact (old _).asked call job ttl found
  | fill later pending =>
    rename_i now job ttl call value
    have old := (sound.tick later t.calls).later (.fill call job ttl now value)
    refine ⟨?_,?_⟩
    · intro key entry found
      simp only [keep] at found
      split at found
      · next positive =>
        simp only [put] at found
        split at found
        · next own =>
          cases found
          exact ⟨le_refl _,call,job,ttl,own.symm,positive,List.mem_append_right _ (List.mem_singleton_self _)⟩
        · exact old.filled key entry found
      · exact old.filled key entry found
    · intro other job' ttl' found
      simp only [put] at found
      split at found
      · cases found
      · exact old.asked other job' ttl' found
  | drop =>
    have old := sound.later
    refine ⟨(old _).filled,?_⟩
    intro other job ttl found
    simp only [put] at found
    split at found
    · cases found
    · exact (old _).asked other job ttl found
  | clear => exact ⟨fun _ _ found => (nomatch found),(sound.later .clear).asked⟩

theorem run_sound {start : T} {t : Table K J V T} (run : Run keyOf (empty start) history t) : Sound keyOf history t := by
  induction run with
  | nil => exact empty_sound keyOf start
  | snoc _ step ih => exact step_sound ih step

theorem fill_asked {t next : Table K J V T} (sound : Sound keyOf history t)
    (step : Step keyOf t (.fill call job ttl now value) next) : ∃ asked, .miss call job ttl asked ∈ history := by
  cases step with
  | fill later pending => exact sound.asked call job ttl pending

theorem forall₂_mem {R : α → β → Prop} (all : List.Forall₂ R xs ys) (present : y ∈ ys) : ∃ x ∈ xs, R x y := by
  induction all with
  | nil => cases present
  | cons first _ ih =>
    rcases List.mem_cons.mp present with rfl | later
    · exact ⟨_,List.mem_cons_self,first⟩
    · obtain ⟨x,member,related⟩ := ih later
      exact ⟨x,List.mem_cons_of_mem _ member,related⟩

variable [IsOrderedAddMonoid T]

-- A hit returns a value filled in for a job of its key less than the asked lifetime ago.
theorem hit_origin {t next : Table K J V T} (sound : Sound keyOf history t)
    (step : Step keyOf t (.hit call job ttl now value) next) :
    0 < ttl ∧ ∃ other source kept stored, keyOf source = keyOf job ∧ 0 < kept ∧
      .fill other source kept stored value ∈ history ∧ now - stored < ttl := by
  cases step with
  | hit later found fresh =>
    rename_i entry
    obtain ⟨past,other,source,kept,same,positive,present⟩ := sound.filled _ _ found
    have age : 0 ≤ now - entry.storedAt := sub_nonneg.mpr (le_trans past later)
    exact ⟨lt_of_le_of_lt age fresh,other,source,kept,entry.storedAt,same,positive,present,fresh⟩

end Sophia.MemoTable
