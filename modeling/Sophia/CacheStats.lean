import Sophia.ConsequenceEngine
import Sophia.Library.MemoTable
import Sophia.Library.StepRun

namespace Sophia.CacheStats
open Consequence ConsequenceEngine StepRun

-- One engine's cache and the calls that wait for the LLM. The count is the reader's own: the
-- analyze calls answered from the cache since creation or the last clear.
structure State where
  cache : Cache
  waiting : Nat → Option Suspended
  calls : Nat
  hits : Nat

def initial : State := ⟨∅,fun _ => none,0,0⟩

-- A sequential caller finishes each call before it starts the next one.
inductive Input where
  | analyze (cacheTtl : ℚ) (registry : Option ToolRegistry) (now : ℚ) (candidate : CandidateAction)
  | answered (ids : List Nat → String) (now : ℚ) (call : Nat) (answer : Except PyError Json)
  | clear

section
variable (hat : Option HatConfig) (maxDepth : Int)

def step (s : State) : Input → State
  | .analyze cacheTtl registry now candidate =>
    match analyzeBegin {hat,maxDepth,cacheTtl,registry} now candidate s.cache with
    | (cache,.inl _) => {s with cache,calls := s.calls + 1,hits := s.hits + 1}
    | (cache,.inr call) => {s with cache,calls := s.calls + 1,waiting := MemoTable.put s.waiting s.calls (some call)}
  | .answered ids now call answer =>
    match s.waiting call with
    | some suspended => {s with
        cache := (analyzeFinish {hat,maxDepth} ids now suspended answer s.cache).1
        waiting := MemoTable.put s.waiting call none}
    | none => s
  | .clear => {s with cache := clearCache s.cache,hits := 0}

def totalHits (s : State) : Nat := (cacheStats s.cache).2

def Counted (s : State) : Prop := totalHits s = s.hits

-- Only a clear may lower the count.
def Kept (s : State) (input : Input) : Prop :=
  input ≠ .clear → totalHits s ≤ totalHits (step hat maxDepth s input)

-- The answer gives a tree that the lifetime lets the cache keep.
def Stores (ids : List Nat → String) (suspended : Suspended) (answer : Except PyError Json) (tree : ConsequenceTree) : Prop :=
  0 < suspended.ttl ∧ ∃ parsed, answer = .ok parsed ∧ treeOf hat maxDepth suspended.candidate ids parsed = .ok tree

-- An answer that is stored replaces no entry that was hit.
def Unhit (s : State) : Input → Prop
  | .answered ids _ call answer => ∀ suspended tree, s.waiting call = some suspended →
      Stores hat maxDepth ids suspended answer tree →
        ∀ cached, s.cache.lookup suspended.key = some cached → cached.hitCount = 0
  | _ => True

end

variable {hat : Option HatConfig} {maxDepth : Int} {s : State} {input : Input} {inputs : List Input}

def countOf (cached : CachedTree) : Nat := cached.hitCount

theorem sum_kerase (entries : List (Sigma fun _ : String => CachedTree)) (key : String) :
    (((List.dlookup key entries).map countOf).getD 0) + ((List.kerase key entries).map fun entry => countOf entry.2).sum =
      (entries.map fun entry => countOf entry.2).sum := by
  induction entries with
  | nil => rfl
  | cons entry rest ih =>
    obtain ⟨first,cached⟩ := entry
    by_cases same : key = first
    · subst same
      rw [List.dlookup_cons_eq,show List.kerase key (⟨key,cached⟩ :: rest) = rest from List.kerase_cons_eq rfl]
      rfl
    · rw [List.dlookup_cons_ne _ _ same,List.kerase_cons_ne same,List.map_cons,List.sum_cons,List.map_cons,List.sum_cons,← ih]
      omega

-- An insertion counts for the new entry in the place of the one under its key.
theorem stats_insert (cache : Cache) (key : String) (cached : CachedTree) :
    ((cache.lookup key).map countOf).getD 0 + (cacheStats (cache.insert key cached)).2 =
      (cacheStats cache).2 + cached.hitCount := by
  have whole := sum_kerase cache.entries key
  change _ + ((AList.insert key cached cache).entries.map fun entry => countOf entry.2).sum =
    (cache.entries.map fun entry => countOf entry.2).sum + _
  rw [AList.entries_insert,List.map_cons,List.sum_cons,← whole]
  change _ + (cached.hitCount + _) = _
  rw [AList.lookup]
  omega

theorem analyze_step (hat : Option HatConfig) (maxDepth : Int) (s : State) (cacheTtl : ℚ) (registry : Option ToolRegistry) (now : ℚ) (candidate : CandidateAction) :
    ∃ k, totalHits (step hat maxDepth s (.analyze cacheTtl registry now candidate)) = totalHits s + k ∧
      (step hat maxDepth s (.analyze cacheTtl registry now candidate)).hits = s.hits + k := by
  unfold step
  dsimp only
  cases begun : analyzeBegin {hat,maxDepth,cacheTtl,registry} now candidate s.cache with
  | mk cache outcome => cases outcome with
    | inl tree =>
      obtain ⟨cached,found,_,_,rfl⟩ := analyzeBegin_hit begun
      refine ⟨1,?_,rfl⟩
      have counts := stats_insert s.cache (cacheKey hat candidate) {cached with hitCount := cached.hitCount + 1}
      rw [show s.cache.lookup (cacheKey hat candidate) = some cached from found] at counts
      change cached.hitCount + _ = _ + (cached.hitCount + 1) at counts
      have total : (cacheStats (s.cache.insert (cacheKey hat candidate) {cached with hitCount := cached.hitCount + 1})).2 =
          (cacheStats s.cache).2 + 1 := by omega
      exact total
    | inr call =>
      obtain ⟨rfl,_⟩ := analyzeBegin_miss begun
      exact ⟨0,rfl,rfl⟩

theorem finish_stores (stores : Stores hat maxDepth ids suspended answer tree) (now : ℚ) (cache : Cache) :
    (analyzeFinish {hat,maxDepth} ids now suspended answer cache).1 = cache.insert suspended.key {tree,cachedAt := now} := by
  obtain ⟨lasting,parsed,rfl,built⟩ := stores
  simp only [analyzeFinish,generate,Except.bind,built,if_pos lasting]

theorem finish_leaves (none_ : ∀ tree, ¬ Stores hat maxDepth ids suspended answer tree) (now : ℚ) (cache : Cache) :
    (analyzeFinish {hat,maxDepth} ids now suspended answer cache).1 = cache := by
  cases finished : analyzeFinish {hat,maxDepth} ids now suspended answer cache with
  | mk after outcome => cases outcome with
    | error e => exact analyzeFinish_error finished
    | ok tree =>
      obtain ⟨built,rfl⟩ := analyzeFinish_ok finished
      exact if_neg fun lasting => none_ tree ⟨lasting,built⟩

-- An answer costs the count what the replaced entry had, and keeps the count exactly when it is unhit.
theorem answered_step (hat : Option HatConfig) (maxDepth : Int) (s : State) (ids : List Nat → String) (now : ℚ) (call : Nat) (answer : Except PyError Json) :
    (step hat maxDepth s (.answered ids now call answer)).hits = s.hits ∧
      totalHits (step hat maxDepth s (.answered ids now call answer)) ≤ totalHits s ∧
      (totalHits (step hat maxDepth s (.answered ids now call answer)) = totalHits s ↔
        Unhit hat maxDepth s (.answered ids now call answer)) := by
  unfold step Unhit totalHits
  dsimp only
  cases waits : s.waiting call with
  | none => exact ⟨rfl,le_refl _,fun _ _ _ held => (nomatch held),fun _ => rfl⟩
  | some suspended =>
    refine ⟨rfl,?_⟩
    dsimp only
    by_cases stored : ∃ tree, Stores hat maxDepth ids suspended answer tree
    · obtain ⟨tree,stores⟩ := stored
      have counts := stats_insert s.cache suspended.key {tree,cachedAt := now}
      rw [finish_stores stores]
      change _ = _ + 0 at counts
      refine ⟨by omega,?_⟩
      constructor
      · intro same other _ held _ cached found
        cases held
        rw [found] at counts
        change cached.hitCount + _ = _ at counts
        omega
      · intro unhit
        cases found : s.cache.lookup suspended.key with
        | none =>
          rw [found] at counts
          change 0 + _ = _ at counts
          omega
        | some cached =>
          have fresh := unhit suspended tree rfl stores cached found
          rw [found] at counts
          change cached.hitCount + _ = _ at counts
          omega
    · rw [finish_leaves (not_exists.mp stored)]
      refine ⟨le_refl _,?_⟩
      constructor
      · intro _ other tree held stores
        cases held
        exact absurd ⟨tree,stores⟩ stored
      · exact fun _ => rfl

theorem step_counted (counted : Counted s) : Counted (step hat maxDepth s input) ↔ Unhit hat maxDepth s input := by
  unfold Counted at counted ⊢
  cases input with
  | analyze cacheTtl registry now candidate =>
    obtain ⟨k,total,hits⟩ := analyze_step hat maxDepth s cacheTtl registry now candidate
    rw [total,hits,counted]
    exact ⟨fun _ => trivial,fun _ => rfl⟩
  | answered ids now call answer =>
    obtain ⟨hits,_,exact_⟩ := answered_step hat maxDepth s ids now call answer
    rw [hits,← counted]
    exact exact_
  | clear => exact ⟨fun _ => trivial,fun _ => rfl⟩

theorem step_kept (unhit : Unhit hat maxDepth s input) : Kept hat maxDepth s input := by
  intro kept
  cases input with
  | analyze cacheTtl registry now candidate =>
    obtain ⟨k,total,_⟩ := analyze_step hat maxDepth s cacheTtl registry now candidate
    omega
  | answered ids now call answer => exact ((answered_step hat maxDepth s ids now call answer).2.2.mpr unhit).ge
  | clear => exact absurd rfl kept

theorem stats_count (hat : Option HatConfig) (maxDepth : Int) (inputs : List Input) :
    Always (step hat maxDepth) Counted initial inputs ∧ Along (step hat maxDepth) (Kept hat maxDepth) initial inputs ↔
      Along (step hat maxDepth) (Unhit hat maxDepth) initial inputs := by
  have counts : Always (step hat maxDepth) Counted initial inputs ↔ Along (step hat maxDepth) (Unhit hat maxDepth) initial inputs :=
    exact (I := fun _ => True) (fun _ _ _ => trivial) (fun _ _ _ counted => step_counted counted) trivial rfl
  constructor
  · exact fun both => counts.mp both.1
  · intro unhit
    exact ⟨counts.mpr unhit,fun earlier input later split => step_kept (unhit earlier input later split)⟩

-- A lookup hit once, asked again an hour later and answered anew: its hit is gone.
def lookUp : CandidateAction := {toolName := "look_up_order",parameters := AList.singleton "order_id" (.str "ORD-1")}

def refilled : List Input :=
  [.analyze 3600 none 0 lookUp,.answered (fun _ => "node") 1 0 (.ok (.obj [])),.analyze 3600 none 2 lookUp,
    .analyze 3600 none 4000 lookUp,.answered (fun _ => "node") 4001 2 (.ok (.obj []))]

theorem stats_lost : ¬ (Always (step none 3) Counted initial refilled ∧
    Along (step none 3) (Kept none 3) initial refilled) := by
  rintro ⟨counted,_⟩
  have last : Counted (after (step none 3) initial refilled) := counted refilled [] rfl
  have gone : totalHits (after (step none 3) initial refilled) ≠ (after (step none 3) initial refilled).hits := by
    decide +kernel
  exact gone last

end Sophia.CacheStats
