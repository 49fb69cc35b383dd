import Sophia.ConsequenceEngine
import Sophia.Library.MemoTable

namespace Sophia.CacheSoundness
open Consequence ConsequenceEngine

-- One engine over time: its cache, the calls that wait for the LLM, the monotonic clock.
structure State where
  cache : Cache
  waiting : Nat → Option Suspended
  clock : ℚ
  calls : Nat

def initial (start : ℚ) : State := ⟨∅,fun _ => none,start,0⟩

inductive Event where
  | hit (call : Nat) (candidate : CandidateAction) (ttl now : ℚ) (tree : ConsequenceTree)
  | missed (call : Nat) (candidate : CandidateAction) (ttl now : ℚ)
  | generated (call : Nat) (candidate : CandidateAction) (ttl now : ℚ) (ids : List Nat → String) (answer : Json)
      (tree : ConsequenceTree)
  | failed (call : Nat)
  | cleared

-- Calls start, come back from the LLM and clear the cache in any order. Hat and depth are
-- those of the one engine; the lifetimes it and its registry give may differ at every call.
inductive Step (hat : Option HatConfig) (maxDepth : Int) : State → Event → State → Prop where
  | hit (engine : Engine) (candidate : CandidateAction) (now : ℚ) : engine.hat = hat → s.clock ≤ now →
      analyzeBegin engine now candidate s.cache = (cache,.inl tree) →
      Step hat maxDepth s (.hit s.calls candidate (effectiveTtl engine candidate) now tree)
        {s with cache,clock := now,calls := s.calls + 1}
  | missed (engine : Engine) (candidate : CandidateAction) (now : ℚ) : engine.hat = hat → s.clock ≤ now →
      analyzeBegin engine now candidate s.cache = (cache,.inr call) →
      Step hat maxDepth s (.missed s.calls candidate (effectiveTtl engine candidate) now)
        {s with cache,clock := now,calls := s.calls + 1,waiting := MemoTable.put s.waiting s.calls (some call)}
  | generated (engine : Engine) (call : Nat) (suspended : Suspended) (now : ℚ) (ids : List Nat → String) (answer : Json)
      (tree : ConsequenceTree) : engine.hat = hat → engine.maxDepth = maxDepth → s.clock ≤ now →
      s.waiting call = some suspended →
      analyzeFinish engine ids now suspended (.ok answer) s.cache = (cache,.ok tree) →
      Step hat maxDepth s (.generated call suspended.candidate suspended.ttl now ids answer tree)
        {s with cache,clock := now,waiting := MemoTable.put s.waiting call none}
  | failed (engine : Engine) (call : Nat) : s.waiting call = some suspended →
      analyzeFinish engine ids now suspended answer s.cache = (cache,.error e) →
      Step hat maxDepth s (.failed call) {s with cache,waiting := MemoTable.put s.waiting call none}
  | cleared : Step hat maxDepth s .cleared {s with cache := clearCache s.cache}

inductive Run (hat : Option HatConfig) (maxDepth : Int) : State → List Event → State → Prop where
  | nil : Run hat maxDepth s [] s
  | snoc : Run hat maxDepth s history middle → Step hat maxDepth middle event next →
      Run hat maxDepth s (history ++ [event]) next

theorem Run.append (first : Run hat maxDepth s early middle) (second : Run hat maxDepth middle late next) :
    Run hat maxDepth s (early ++ late) next := by
  induction second with
  | nil => rw [List.append_nil]; exact first
  | snoc _ step ih => rw [← List.append_assoc]; exact .snoc ih step

-- The memo table that a state is: hit counts and locals beside candidate and lifetime are hidden.
def viewEntry (cached : CachedTree) : MemoTable.Entry ConsequenceTree ℚ := ⟨cached.tree,cached.cachedAt⟩

def view (s : State) : MemoTable.Table String CandidateAction ConsequenceTree ℚ where
  entries key := (s.cache.lookup key).map viewEntry
  waiting call := (s.waiting call).map fun suspended => (suspended.candidate,suspended.ttl)
  clock := s.clock
  calls := s.calls

-- The event of the table that an event of the engine is
inductive Matches (hat : Option HatConfig) (maxDepth : Int) :
    Event → MemoTable.Event CandidateAction ConsequenceTree ℚ → Prop where
  | hit : Matches hat maxDepth (.hit call candidate ttl now (rebindCandidate value candidate))
      (.hit call candidate ttl now value)
  | missed : Matches hat maxDepth (.missed call candidate ttl now) (.miss call candidate ttl now)
  | generated : treeOf hat maxDepth candidate ids answer = .ok tree →
      Matches hat maxDepth (.generated call candidate ttl now ids answer tree) (.fill call candidate ttl now tree)
  | failed : Matches hat maxDepth (.failed call) (.drop call)
  | cleared : Matches hat maxDepth .cleared .clear

-- A suspended call keeps the key of its own candidate.
def Keyed (hat : Option HatConfig) (s : State) : Prop :=
  ∀ call suspended, s.waiting call = some suspended → suspended.key = cacheKey hat suspended.candidate

-- Counting a hit is invisible.
theorem view_touch {cache : Cache} (found : cache.lookup key = some cached) (count : Nat) :
    (fun other => ((AList.insert key {cached with hitCount := count} cache).lookup other).map viewEntry) =
      fun other => (AList.lookup other cache).map viewEntry := by
  funext other
  by_cases same : other = key
  · subst same
    rw [AList.lookup_insert,found]; rfl
  · rw [AList.lookup_insert_ne same]

theorem view_store (cache : Cache) (key : String) (tree : ConsequenceTree) (now : ℚ) :
    (fun other => ((AList.insert key {tree,cachedAt := now} cache).lookup other).map viewEntry) =
      MemoTable.put (fun other => (AList.lookup other cache).map viewEntry) key (some ⟨tree,now⟩) := by
  funext other
  by_cases same : other = key
  · subst same
    rw [AList.lookup_insert,MemoTable.put,if_pos rfl]; rfl
  · rw [AList.lookup_insert_ne same,MemoTable.put,if_neg same]

theorem view_put (waiting : Nat → Option Suspended) (call : Nat) (suspended : Option Suspended) :
    (fun other => ((MemoTable.put waiting call suspended) other).map fun w => (w.candidate,w.ttl)) =
      MemoTable.put (fun other => (waiting other).map fun w => (w.candidate,w.ttl)) call
        (suspended.map fun w => (w.candidate,w.ttl)) := by
  funext other
  simp only [MemoTable.put]
  split <;> rfl

-- A call that no longer waits keeps no key.
theorem keyed_answered (keyed : Keyed hat s) (call : Nat) (other : Nat) (held : Suspended)
    (found : MemoTable.put s.waiting call none other = some held) : held.key = cacheKey hat held.candidate := by
  simp only [MemoTable.put] at found
  split at found
  · cases found
  · exact keyed other held found

theorem step_simulates (keyed : Keyed hat s) (step : Step hat maxDepth s event next) :
    Keyed hat next ∧ ∃ seen, Matches hat maxDepth event seen ∧ MemoTable.Step (cacheKey hat) (view s) seen (view next) := by
  cases step with
  | hit engine candidate now own later begun =>
    subst own
    obtain ⟨cached,found,fresh,rfl,rfl⟩ := analyzeBegin_hit begun
    refine ⟨keyed,_,.hit,?_⟩
    have entry : (view s).entries (cacheKey engine.hat candidate) = some (viewEntry cached) := by
      simp only [view,found,Option.map_some]
    have table := MemoTable.Step.hit (show (view s).clock ≤ now from later) entry fresh
    simp only [view,view_touch found] at table ⊢
    exact table
  | missed engine candidate now own later begun =>
    subst own
    obtain ⟨rfl,rfl,stale⟩ := analyzeBegin_miss begun
    refine ⟨?_,_,.missed,?_⟩
    · intro call suspended found
      simp only [MemoTable.put] at found
      split at found
      · cases found; rfl
      · exact keyed call suspended found
    · have expired : ∀ entry, (view s).entries (cacheKey engine.hat candidate) = some entry →
          ¬ now - entry.storedAt < effectiveTtl engine candidate := by
        intro entry found
        obtain ⟨cached,held,rfl⟩ := Option.map_eq_some_iff.mp found
        exact stale cached held
      have table := MemoTable.Step.miss (show (view s).clock ≤ now from later) expired
      simp only [view,view_put,Option.map_some] at table ⊢
      exact table
  | generated engine call suspended now ids answer tree own depth later pending finished =>
    subst own depth
    obtain ⟨⟨parsed,same,built⟩,rfl⟩ := analyzeFinish_ok finished
    cases same
    refine ⟨?_,_,.generated built,?_⟩
    · exact keyed_answered keyed call
    · have waits : (view s).waiting call = some (suspended.candidate,suspended.ttl) := by
        simp only [view,pending,Option.map_some]
      have table : MemoTable.Step (cacheKey engine.hat) (view s)
          (.fill call suspended.candidate suspended.ttl now tree) _ := .fill later waits
      have entries : (fun key => ((if 0 < suspended.ttl then
          AList.insert suspended.key {tree,cachedAt := now} s.cache else s.cache).lookup key).map viewEntry) =
          MemoTable.keep (view s) (cacheKey engine.hat suspended.candidate) suspended.ttl now tree := by
        rw [MemoTable.keep,← keyed call suspended pending]
        split
        · exact view_store _ _ _ _
        · rfl
      simp only [← entries] at table
      simp only [view,view_put,Option.map_none] at table ⊢
      exact table
  | failed engine call pending finished =>
    obtain rfl := analyzeFinish_error finished
    refine ⟨?_,_,.failed,?_⟩
    · exact keyed_answered keyed call
    · have table : MemoTable.Step (cacheKey hat) (view s) (.drop call) _ := .drop
      simp only [view,view_put,Option.map_none] at table ⊢
      exact table
  | cleared => exact ⟨keyed,_,.cleared,.clear⟩

theorem run_simulates (run : Run hat maxDepth (initial start) history s) : Keyed hat s ∧
    ∃ seen, List.Forall₂ (Matches hat maxDepth) history seen ∧
      MemoTable.Run (cacheKey hat) (MemoTable.empty start) seen (view s) := by
  induction run with
  | nil => exact ⟨fun _ _ found => (nomatch found),[],.nil,.nil⟩
  | snoc _ step ih =>
    obtain ⟨keyed,seen,all,run⟩ := ih
    obtain ⟨keyed,last,one,table⟩ := step_simulates keyed step
    exact ⟨keyed,seen ++ [last],List.rel_append all (.cons one .nil),.snoc run table⟩

-- The parts of a tree that do not name the candidate
structure SameTree (a b : ConsequenceTree) : Prop where
  rootNodes : a.rootNodes = b.rootNodes
  totalNodes : a.totalNodes = b.totalNodes
  worstTerminal : a.worstTerminal = b.worstTerminal
  bestTerminal : a.bestTerminal = b.bestTerminal

theorem hit_sound (run : Run hat maxDepth (initial start) history s)
    (step : Step hat maxDepth s (.hit call candidate ttl now tree) next) :
    tree.candidateAction = candidate ∧ 0 < ttl ∧ ∃ other source kept stored ids answer built,
      .generated other source kept stored ids answer built ∈ history ∧ 0 < kept ∧ now - stored < ttl ∧
        treeOf hat maxDepth source ids answer = .ok built ∧ SameShape source candidate ∧ SameTree tree built := by
  obtain ⟨keyed,seen,all,table⟩ := run_simulates run
  obtain ⟨_,last,one,tableStep⟩ := step_simulates keyed step
  cases one
  obtain ⟨positive,other,source,kept,stored,same,lasting,present,fresh⟩ :=
    MemoTable.hit_origin (MemoTable.run_sound table) tableStep
  obtain ⟨event,origin,matched⟩ := MemoTable.forall₂_mem all present
  cases matched with
  | generated built =>
    exact ⟨rfl,positive,other,source,kept,stored,_,_,_,origin,lasting,fresh,built,sameShape_of_key same,rfl,rfl,rfl,rfl⟩

theorem generated_sound (run : Run hat maxDepth (initial start) history s)
    (step : Step hat maxDepth s (.generated call candidate ttl now ids answer tree) next) :
    tree.candidateAction = candidate ∧ treeOf hat maxDepth candidate ids answer = .ok tree ∧
      ∃ asked, .missed call candidate ttl asked ∈ history := by
  obtain ⟨keyed,seen,all,table⟩ := run_simulates run
  obtain ⟨_,last,one,tableStep⟩ := step_simulates keyed step
  cases one with
  | generated built =>
    obtain ⟨asked,present⟩ := MemoTable.fill_asked (MemoTable.run_sound table) tableStep
    obtain ⟨event,origin,matched⟩ := MemoTable.forall₂_mem all present
    cases matched
    exact ⟨treeOf_candidate built,built,asked,origin⟩

theorem analyze_sound (hat : Option HatConfig) (maxDepth : Int) (start : ℚ) (history : List Event) (s next : State)
    (event : Event) (run : Run hat maxDepth (initial start) history s) (step : Step hat maxDepth s event next) :
    (∀ call candidate ttl now tree, event = .hit call candidate ttl now tree →
      tree.candidateAction = candidate ∧ 0 < ttl ∧ ∃ other source kept stored ids answer built,
        .generated other source kept stored ids answer built ∈ history ∧ 0 < kept ∧ now - stored < ttl ∧
          treeOf hat maxDepth source ids answer = .ok built ∧ SameShape source candidate ∧ SameTree tree built) ∧
    (∀ call candidate ttl now ids answer tree, event = .generated call candidate ttl now ids answer tree →
      tree.candidateAction = candidate ∧ treeOf hat maxDepth candidate ids answer = .ok tree ∧
        (∃ asked, .missed call candidate ttl asked ∈ history) ∧ (ttl ≤ 0 → next.cache = s.cache)) ∧
    (∀ call candidate ttl now, event = .missed call candidate ttl now → next.cache = s.cache) ∧
    (∀ call, event = .failed call → next.cache = s.cache) := by
  refine ⟨?_,?_,?_,?_⟩
  · intro call candidate ttl now tree same
    subst same
    exact hit_sound run step
  · intro call candidate ttl now ids answer tree same
    subst same
    obtain ⟨bound,built,asked⟩ := generated_sound run step
    refine ⟨bound,built,asked,fun nonpositive => ?_⟩
    cases step with
    | generated engine call suspended now ids answer tree own depth later pending finished =>
      rw [(analyzeFinish_ok finished).2,if_neg (not_lt.mpr nonpositive)]
  · intro call candidate ttl now same
    subst same
    cases step with
    | missed engine candidate now own later begun => exact (analyzeBegin_miss begun).1
  · intro call same
    subst same
    cases step with
    | failed engine call pending finished => exact analyzeFinish_error finished

-- A lookup asked twice: the second call is answered from the first one's tree.
def lookUp : CandidateAction := {toolName := "look_up_order",parameters := AList.singleton "order_id" (.str "ORD-1")}

def bareTree : ConsequenceTree := ⟨lookUp,[],3,0,none,none⟩

def onceAsked : State :=
  ⟨∅,MemoTable.put (fun _ => none) 0 (some ⟨lookUp,cacheKey none lookUp,3600⟩),0,1⟩

def onceAnswered : State :=
  ⟨AList.insert (cacheKey none lookUp) ⟨bareTree,1,0⟩ ∅,MemoTable.put onceAsked.waiting 0 none,1,1⟩

def plainEngine : Engine := {hat := none}

theorem onceAnswered_run (ids : List Nat → String) : Run none 3 (initial 0)
    [.missed 0 lookUp 3600 0,.generated 0 lookUp 3600 1 ids (.obj []) bareTree] onceAnswered := by
  have asked : Step none 3 (initial 0) (.missed 0 lookUp 3600 0) onceAsked :=
    .missed plainEngine lookUp 0 rfl (le_refl _) rfl
  have built : treeOf none 3 lookUp ids (.obj []) = .ok bareTree := rfl
  have finished : analyzeFinish plainEngine ids 1 ⟨lookUp,cacheKey none lookUp,3600⟩ (.ok (.obj [])) ∅ =
      (AList.insert (cacheKey none lookUp) ⟨bareTree,1,0⟩ ∅,.ok bareTree) := by
    have positive : (0 : ℚ) < 3600 := by norm_num
    simp [analyzeFinish,generate,plainEngine,Except.bind,built,positive]
  have answered : Step none 3 onceAsked (.generated 0 lookUp 3600 1 ids (.obj []) bareTree) onceAnswered :=
    .generated plainEngine 0 ⟨lookUp,cacheKey none lookUp,3600⟩ 1 ids (.obj []) bareTree rfl rfl zero_le_one rfl finished
  exact .snoc (.snoc .nil asked) answered

theorem analyze_sound_reused : ∃ history next tree, Run none 3 (initial 0) history onceAnswered ∧
    Step none 3 onceAnswered (.hit 1 lookUp 3600 2 tree) next ∧ tree.candidateAction = lookUp := by
  have fresh : (2 : ℚ) - 1 < effectiveTtl plainEngine lookUp := by
    norm_num [effectiveTtl,plainEngine]
  have begun : analyzeBegin plainEngine 2 lookUp onceAnswered.cache =
      (onceAnswered.cache.insert (cacheKey none lookUp) ⟨bareTree,1,1⟩,.inl (rebindCandidate bareTree lookUp)) := by
    have found : onceAnswered.cache.lookup (cacheKey plainEngine.hat lookUp) = some ⟨bareTree,1,0⟩ := AList.lookup_insert _
    exact analyzeBegin_fresh found fresh
  have run := onceAnswered_run fun _ => "node"
  have step : Step none 3 onceAnswered (.hit 1 lookUp 3600 2 (rebindCandidate bareTree lookUp)) _ :=
    .hit plainEngine lookUp 2 rfl (by norm_num [onceAnswered]) begun
  exact ⟨_,_,_,run,step,((analyze_sound none 3 0 _ _ _ _ run step).1 _ _ _ _ _ rfl).1⟩

end Sophia.CacheSoundness
