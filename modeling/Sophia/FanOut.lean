import Sophia.Exits
import Sophia.CacheSoundness

namespace Sophia.FanOut
open Consequence ConsequenceEngine CacheSoundness AgentLoop

section
variable (agent : Agent) (env : Environment)

-- The first part of one task as a step of the engine: the event and the state after it
def begunAs (s : State) (now : ℚ) (candidate : CandidateAction) : Event :=
  match (analyzeBegin agent.engine now candidate s.cache).2 with
  | .inl tree => .hit s.calls candidate (effectiveTtl agent.engine candidate) now tree
  | .inr _ => .missed s.calls candidate (effectiveTtl agent.engine candidate) now

def begun (s : State) (now : ℚ) (candidate : CandidateAction) : State where
  cache := (analyzeBegin agent.engine now candidate s.cache).1
  waiting := match (analyzeBegin agent.engine now candidate s.cache).2 with
    | .inl _ => s.waiting
    | .inr call => MemoTable.put s.waiting s.calls (some call)
  clock := now
  calls := s.calls + 1

-- The first parts of all tasks, one after the other
def begunEvents : Nat → List CandidateAction → State → List Event
  | _,[],_ => []
  | i,candidate :: rest,s =>
    begunAs agent s (env.lookupClock i) candidate :: begunEvents (i + 1) rest (begun agent s (env.lookupClock i) candidate)

def begunAll : Nat → List CandidateAction → State → State
  | _,[],s => s
  | i,candidate :: rest,s => begunAll (i + 1) rest (begun agent s (env.lookupClock i) candidate)

end

section
variable {agent : Agent} {env : Environment}

theorem begun_step (agent : Agent) (later : s.clock ≤ now) (candidate : CandidateAction) :
    Step agent.hat agent.treeMaxDepth s (begunAs agent s now candidate) (begun agent s now candidate) := by
  unfold begunAs begun
  cases started : analyzeBegin agent.engine now candidate s.cache with
  | mk cache outcome =>
    cases outcome with
    | inl tree => exact .hit agent.engine candidate now rfl later started
    | inr call => exact .missed agent.engine candidate now rfl later started

theorem begun_run (forward : Monotone env.lookupClock) (candidates : List CandidateAction) (i : Nat) (s : State)
    (later : s.clock ≤ env.lookupClock i) : Run agent.hat agent.treeMaxDepth s (begunEvents agent env i candidates s)
      (begunAll agent env i candidates s) := by
  induction candidates generalizing i s with
  | nil => exact .nil
  | cons candidate rest ih =>
    have first := Run.snoc .nil (begun_step agent later candidate)
    exact first.append (ih (i + 1) _ (forward (Nat.le_succ i)))

theorem begunAll_cache (candidates : List CandidateAction) (i : Nat) (s : State) :
    (begunAll agent env i candidates s).cache = (beginAll agent env i candidates s.cache).1 := by
  induction candidates generalizing i s with
  | nil => rfl
  | cons candidate rest ih => exact ih (i + 1) _

theorem begunAll_clock {t : ℚ} (candidates : List CandidateAction) (i : Nat) (s : State) (late : s.clock ≤ t)
    (before : ∀ j, i ≤ j → j < i + candidates.length → env.lookupClock j ≤ t) :
    (begunAll agent env i candidates s).clock ≤ t := by
  induction candidates generalizing i s with
  | nil => exact late
  | cons candidate rest ih =>
    rw [List.length_cons] at before
    apply ih (i + 1)
    · exact before i (Nat.le_refl i) (by omega)
    · intro j above below
      exact before j (by omega) (by omega)

-- Starting a task leaves the earlier calls waiting as they were.
theorem begun_kept (agent : Agent) (other : n ≠ s.calls) (now : ℚ) (candidate : CandidateAction) :
    (begun agent s now candidate).waiting n = s.waiting n := by
  unfold begun
  cases (analyzeBegin agent.engine now candidate s.cache).2 with
  | inl tree => rfl
  | inr call => exact if_neg other

theorem begunAll_kept (candidates : List CandidateAction) (i : Nat) (s : State) (earlier : n < s.calls) :
    (begunAll agent env i candidates s).waiting n = s.waiting n := by
  induction candidates generalizing i s with
  | nil => rfl
  | cons candidate rest ih =>
    have kept := begun_kept agent (Nat.ne_of_lt earlier) (env.lookupClock i) candidate
    exact (ih (i + 1) _ (Nat.lt_succ_of_lt earlier)).trans kept

theorem begunAll_waits (candidates : List CandidateAction) (i : Nat) (s : State)
    (suspended : (beginAll agent env i candidates s.cache).2[k]? = some (.inr call)) :
    (begunAll agent env i candidates s).waiting (s.calls + k) = some call := by
  induction candidates generalizing i k s with
  | nil => cases suspended
  | cons candidate rest ih =>
    rw [beginAll] at suspended
    cases k with
    | zero =>
      have outcome : (analyzeBegin agent.engine (env.lookupClock i) candidate s.cache).2 = .inr call := by
        simpa using suspended
      rw [begunAll,begunAll_kept rest (i + 1) _ (Nat.lt_succ_self s.calls)]
      simp only [begun,outcome,Nat.add_zero,MemoTable.put,if_true]
    | succ k =>
      rw [List.getElem?_cons_succ] at suspended
      have later := ih (i + 1) (begun agent s (env.lookupClock i) candidate) suspended
      have shift : s.calls + (k + 1) = (begun agent s (env.lookupClock i) candidate).calls + k := by
        simp only [begun]
        omega
      rw [begunAll,shift]
      exact later

-- An answer that comes back is a step, whether it makes a tree or raises.
theorem finish_step (agent : Agent) (pending : s.waiting n = some task.2) (later : s.clock ≤ env.answerClock task.1) :
    ∃ event next, Step agent.hat agent.treeMaxDepth s event next ∧ next.cache = storeAnswer agent env s.cache task ∧
      next.waiting = MemoTable.put s.waiting n none ∧ next.clock ≤ env.answerClock task.1 := by
  cases finished : analyzeFinish agent.engine (env.ids task.1) (env.answerClock task.1) task.2
      (env.consequences task.1 task.2.candidate) s.cache with
  | mk after outcome =>
    have stored : storeAnswer agent env s.cache task = after := by rw [storeAnswer,finished]
    rw [stored]
    cases outcome with
    | ok tree =>
      obtain ⟨⟨parsed,answered,_⟩,_⟩ := analyzeFinish_ok finished
      rw [answered] at finished
      exact ⟨_,_,.generated agent.engine n task.2 _ _ parsed tree rfl rfl later pending finished,rfl,rfl,le_refl _⟩
    | error e => exact ⟨_,_,.failed agent.engine n pending finished,rfl,rfl,later⟩

theorem finish_run (tasks : List (Nat × Suspended)) (s : State)
    (pending : ∀ task ∈ tasks, s.waiting (first + task.1) = some task.2) (distinct : (tasks.map Prod.fst).Nodup)
    (ordered : tasks.Pairwise fun a b => env.answerClock a.1 ≤ env.answerClock b.1)
    (later : ∀ task ∈ tasks, s.clock ≤ env.answerClock task.1) : ∃ history next,
      Run agent.hat agent.treeMaxDepth s history next ∧ next.cache = tasks.foldl (storeAnswer agent env) s.cache := by
  induction tasks generalizing s with
  | nil => exact ⟨[],s,.nil,rfl⟩
  | cons task rest ih =>
    obtain ⟨event,middle,step,cache,waiting,clock⟩ :=
      finish_step agent (pending task List.mem_cons_self) (later task List.mem_cons_self)
    rw [List.map_cons,List.nodup_cons] at distinct
    rw [List.pairwise_cons] at ordered
    have others : ∀ other ∈ rest, middle.waiting (first + other.1) = some other.2 := by
      intro other present
      have apart : first + other.1 ≠ first + task.1 := by
        intro same
        apply distinct.1
        rw [← Nat.add_left_cancel same]
        exact List.mem_map_of_mem present
      rw [waiting,MemoTable.put,if_neg apart]
      exact pending other (List.mem_cons_of_mem _ present)
    obtain ⟨history,next,run,same⟩ := ih middle others distinct.2 ordered.2 fun other present =>
      le_trans clock (ordered.1 other present)
    refine ⟨event :: history,next,?_,?_⟩
    · exact (Run.snoc .nil step).append run
    · rw [same,cache,List.foldl_cons]

theorem waiting_task {outcomes : List (ConsequenceTree ⊕ Suspended)}
    (present : task ∈ outcomes.zipIdx.filterMap waitingTask) : outcomes[task.1]? = some (.inr task.2) := by
  obtain ⟨⟨outcome,i⟩,inside,same⟩ := List.mem_filterMap.mp present
  cases outcome with
  | inl tree => cases same
  | inr call =>
    cases same
    exact List.mk_mem_zipIdx_iff_getElem?.mp inside

theorem waitingTask_index (waits : task ∈ waitingTask entry) : task.1 = entry.2 := by
  obtain ⟨outcome,i⟩ := entry
  cases outcome with
  | inl tree => cases waits
  | inr call => cases waits; rfl

theorem waiting_distinct (outcomes : List (ConsequenceTree ⊕ Suspended)) :
    ((outcomes.zipIdx.filterMap waitingTask).map Prod.fst).Nodup := by
  have positions : (outcomes.zipIdx.map Prod.snd).Nodup := by
    rw [List.zipIdx_map_snd]
    exact List.nodup_range'
  rw [List.Nodup,List.pairwise_map] at positions ⊢
  refine positions.filterMap waitingTask ?_
  intro a b apart one first two second
  rw [waitingTask_index first,waitingTask_index second]
  exact apart

-- The clock goes forward through the lookups, and the answers come after all of them.
structure Forward (env : Environment) (count : Nat) : Prop where
  lookups : Monotone env.lookupClock
  answers : ∀ i j, i < count → j < count → env.lookupClock i ≤ env.answerClock j

theorem beginAll_length (candidates : List CandidateAction) (i : Nat) (cache : Cache) :
    (beginAll agent env i candidates cache).2.length = candidates.length := by
  induction candidates generalizing i cache with
  | nil => rfl
  | cons candidate rest ih => rw [beginAll,List.length_cons,List.length_cons,ih]

instance : Std.Total fun a b : Nat × Suspended => env.answerClock a.1 ≤ env.answerClock b.1 := ⟨fun _ _ => le_total _ _⟩
instance : IsTrans (Nat × Suspended) fun a b => env.answerClock a.1 ≤ env.answerClock b.1 := ⟨fun _ _ _ => le_trans⟩

-- One call of process drives the engine through a run of its own.
theorem fanOut_run (candidates : List CandidateAction) (s : State) (forward : Forward env candidates.length)
    (later : s.clock ≤ env.lookupClock 0) : ∃ late next,
      Run agent.hat agent.treeMaxDepth s (begunEvents agent env 0 candidates s ++ late) next ∧
        next.cache = (analyzeAll agent env candidates s.cache).1 := by
  let waiting := (beginAll agent env 0 candidates s.cache).2.zipIdx.filterMap waitingTask
  have same : (byAnswer env waiting).Perm waiting := List.perm_insertionSort _ _
  have suspended : ∀ task ∈ byAnswer env waiting,
      (beginAll agent env 0 candidates s.cache).2[task.1]? = some (.inr task.2) :=
    fun task present => waiting_task (same.mem_iff.mp present)
  have inside : ∀ task ∈ byAnswer env waiting, task.1 < candidates.length := by
    intro task present
    obtain ⟨bound,_⟩ := List.getElem?_eq_some_iff.mp (suspended task present)
    rw [beginAll_length] at bound
    exact bound
  have clock : ∀ task ∈ byAnswer env waiting, (begunAll agent env 0 candidates s).clock ≤ env.answerClock task.1 := by
    intro task present
    have bound := inside task present
    apply begunAll_clock
    · exact le_trans later (forward.answers 0 task.1 (by omega) bound)
    · intro j _ below
      exact forward.answers j task.1 (by omega) bound
  obtain ⟨history,next,run,cache⟩ := finish_run (byAnswer env waiting) (begunAll agent env 0 candidates s)
    (fun task present => begunAll_waits candidates 0 s (suspended task present))
    ((same.map Prod.fst).nodup_iff.mpr (waiting_distinct _)) (List.pairwise_insertionSort _ _) clock
  refine ⟨history,next,(begun_run forward.lookups candidates 0 s later).append run,?_⟩
  rw [cache,begunAll_cache]
  rfl

-- A step that starts a call and puts nothing into the cache
def Starts : Event → Prop
  | .hit .. => True
  | .missed .. => True
  | _ => False

theorem begunAs_starts (agent : Agent) (s : State) (now : ℚ) (candidate : CandidateAction) :
    Starts (begunAs agent s now candidate) := by
  unfold begunAs
  split <;> trivial

theorem beginAll_hit (forward : Monotone env.lookupClock) (candidates : List CandidateAction) (i : Nat) (s : State)
    (present : candidates[k]? = some candidate)
    (found : (beginAll agent env i candidates s.cache).2[k]? = some (.inl tree)) (later : s.clock ≤ env.lookupClock i) :
    ∃ history middle next, Run agent.hat agent.treeMaxDepth s history middle ∧ (∀ event ∈ history, Starts event) ∧
      Step agent.hat agent.treeMaxDepth middle
        (.hit (s.calls + k) candidate (effectiveTtl agent.engine candidate) (env.lookupClock (i + k)) tree) next := by
  induction candidates generalizing i k s with
  | nil => cases present
  | cons first rest ih =>
    rw [beginAll] at found
    have step := begun_step agent later first
    cases k with
    | zero =>
      cases present
      have outcome : (analyzeBegin agent.engine (env.lookupClock i) candidate s.cache).2 = .inl tree := by
        simpa using found
      simp only [begunAs,outcome] at step
      exact ⟨[],s,_,.nil,by simp,step⟩
    | succ k =>
      rw [List.getElem?_cons_succ] at present found
      obtain ⟨history,middle,next,run,starts,hit⟩ := ih (i + 1) (begun agent s (env.lookupClock i) first) present found
        (forward (Nat.le_succ i))
      refine ⟨begunAs agent s (env.lookupClock i) first :: history,middle,next,(Run.snoc .nil step).append run,?_,?_⟩
      · intro event inside
        rcases List.mem_cons.mp inside with rfl | later
        · exact begunAs_starts agent s _ first
        · exact starts event later
      · have shift : s.calls + (k + 1) = (begun agent s (env.lookupClock i) first).calls + k := by
          simp only [begun]
          omega
        rw [shift,show i + (k + 1) = i + 1 + k by omega]
        exact hit

theorem beginAll_miss {call : Suspended} {k : Nat} (candidates : List CandidateAction) (i : Nat) (cache : Cache)
    (present : candidates[k]? = some candidate)
    (found : (beginAll agent env i candidates cache).2[k]? = some (.inr call)) : call.candidate = candidate := by
  induction candidates generalizing i k cache with
  | nil => cases present
  | cons first rest ih =>
    rw [beginAll] at found
    cases k with
    | zero =>
      cases present
      have outcome : (analyzeBegin agent.engine (env.lookupClock i) candidate cache).2 = .inr call := by simpa using found
      obtain ⟨_,rfl,_⟩ := analyzeBegin_miss (Prod.ext rfl outcome)
      rfl
    | succ k =>
      rw [List.getElem?_cons_succ] at present found
      exact ih (i + 1) _ present found

-- Every tree of the fan-out is its own candidate's: made from the answer to that candidate's own call,
-- or taken over, young enough, from a call of the same shape that was answered before the fan-out began.
theorem fanOut_trees (past : Run agent.hat agent.treeMaxDepth (initial start) before s)
    (forward : Monotone env.lookupClock) (later : s.clock ≤ env.lookupClock 0)
    (built : (analyzeAll agent env candidates s.cache).2 = .ok trees) (present : candidates[k]? = some candidate) :
    ∃ tree, trees[k]? = some tree ∧ tree.candidateAction = candidate ∧
      ((∃ parsed, env.consequences k candidate = .ok parsed ∧
          treeOf agent.hat agent.treeMaxDepth candidate (env.ids k) parsed = .ok tree) ∨
        ∃ other source kept stored ids answer old, .generated other source kept stored ids answer old ∈ before ∧
          env.lookupClock k - stored < effectiveTtl agent.engine candidate ∧ SameShape source candidate ∧
          SameTree tree old) := by
  simp only [analyzeAll] at built
  split at built
  · cases built
  have bound : k < (beginAll agent env 0 candidates s.cache).2.length := by
    rw [beginAll_length]
    exact (List.getElem?_eq_some_iff.mp present).1
  obtain ⟨outcome,found⟩ : ∃ outcome, (beginAll agent env 0 candidates s.cache).2[k]? = some outcome :=
    ⟨_,List.getElem?_eq_getElem bound⟩
  have indexed : (beginAll agent env 0 candidates s.cache).2.zipIdx[k]? = some (outcome,k) := by
    rw [List.getElem?_zipIdx,found,Option.map_some,Nat.zero_add]
  obtain ⟨tree,there,made⟩ := mapM_get built indexed
  refine ⟨tree,there,?_⟩
  cases outcome with
  | inl cached =>
    cases made
    obtain ⟨history,middle,next,run,starts,hit⟩ := beginAll_hit forward candidates 0 s present found later
    rw [Nat.zero_add] at hit
    obtain ⟨bound,_,other,source,kept,stored,ids,answer,old,origin,_,fresh,_,shape,same⟩ := hit_sound (past.append run) hit
    refine ⟨bound,.inr ⟨other,source,kept,stored,ids,answer,old,?_,fresh,shape,same⟩⟩
    rcases List.mem_append.mp origin with before | during
    · exact before
    · exact absurd (starts _ during) (fun impossible => impossible)
  | inr call =>
    obtain rfl := beginAll_miss candidates 0 s.cache present found
    obtain ⟨parsed,answered,grown⟩ := except_bind.mp made
    exact ⟨treeOf_candidate grown,.inl ⟨parsed,answered,grown⟩⟩

end

end Sophia.FanOut
