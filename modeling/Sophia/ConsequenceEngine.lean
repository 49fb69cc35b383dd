import Sophia.Consequence
import Sophia.Library.JsonText
import Sophia.Library.PyDict
import Mathlib.Data.List.Sort
import Mathlib.Data.String.Basic

namespace Sophia.ConsequenceEngine
open Consequence

structure CachedTree where
  tree : ConsequenceTree
  cachedAt : ℚ
  hitCount : Nat := 0

abbrev Cache := AList (fun _ : String => CachedTree)

-- What an engine is built with. Hat and depth stay; lifetimes are read anew by each call.
structure Engine where
  hat : Option HatConfig
  maxDepth : Int := 3
  cacheTtl : ℚ := 3600
  registry : Option ToolRegistry := none

-- The tool's own lifetime takes precedence.
def effectiveTtl (engine : Engine) (candidate : CandidateAction) : ℚ :=
  ((engine.registry.bind (·.get candidate.toolName)).bind (·.consequenceCacheTtl)).getD engine.cacheTtl

def paramShape (parameters : Params) : List (String × String) :=
  (parameters.entries.insertionSort (fun a b => a.1 ≤ b.1)).map fun entry => (entry.1,entry.2.typeName)

def hatName (hat : Option HatConfig) : String := (hat.map (·.name)).getD "default"

def cacheKey (hat : Option HatConfig) (candidate : CandidateAction) : String :=
  hatName hat ++ ":" ++ candidate.toolName ++ ":" ++ String.ofList (JsonText.dumpObject (paramShape candidate.parameters))

-- The locals of a call that waits for the LLM
structure Suspended where
  candidate : CandidateAction
  key : String
  ttl : ℚ

-- analyze up to the LLM call: a tree on a hit, a suspended call otherwise
def analyzeBegin (engine : Engine) (now : ℚ) (candidate : CandidateAction) (cache : Cache) :
    Cache × (ConsequenceTree ⊕ Suspended) :=
  let ttl := effectiveTtl engine candidate
  let key := cacheKey engine.hat candidate
  match cache.lookup key with
  | some cached =>
    if now - cached.cachedAt < ttl then
      (cache.insert key {cached with hitCount := cached.hitCount + 1},.inl (rebindCandidate cached.tree candidate))
    else (cache,.inr ⟨candidate,key,ttl⟩)
  | none => (cache,.inr ⟨candidate,key,ttl⟩)

-- _generate, with the LLM's answer or what the LLM raised
def generate (engine : Engine) (ids : List Nat → String) (candidate : CandidateAction) (answer : Except PyError Json) :
    Except PyError ConsequenceTree := answer.bind (treeOf engine.hat engine.maxDepth candidate ids)

-- analyze from the LLM's answer on; what the answer raises leaves the cache alone.
def analyzeFinish (engine : Engine) (ids : List Nat → String) (now : ℚ) (call : Suspended)
    (answer : Except PyError Json) (cache : Cache) : Cache × Except PyError ConsequenceTree :=
  match generate engine ids call.candidate answer with
  | .ok tree => (if 0 < call.ttl then cache.insert call.key {tree,cachedAt := now} else cache,.ok tree)
  | .error e => (cache,.error e)

def clearCache (_ : Cache) : Cache := ∅

-- cache_stats
def cacheStats (cache : Cache) : Nat × Nat :=
  (cache.entries.length,(cache.entries.map fun entry => entry.2.hitCount).sum)

def situationAction (situation : SituationCandidate) : CandidateAction where
  toolName := "[SITUATION] " ++ situation.actionRequested
  parameters := situation.parameters
  reasoning := situation.reasoning
  expectedOutcome := situation.expectedOutcome

-- analyze_situation generates afresh and never caches.
def analyzeSituation (engine : Engine) (ids : List Nat → String) (situation : SituationCandidate)
    (answer : Except PyError Json) : Except PyError ConsequenceTree :=
  generate engine ids (situationAction situation) answer

theorem analyzeBegin_hit (begun : analyzeBegin engine now candidate cache = (after,.inl tree)) :
    ∃ cached, cache.lookup (cacheKey engine.hat candidate) = some cached ∧
      now - cached.cachedAt < effectiveTtl engine candidate ∧ tree = rebindCandidate cached.tree candidate ∧
      after = cache.insert (cacheKey engine.hat candidate) {cached with hitCount := cached.hitCount + 1} := by
  unfold analyzeBegin at begun
  dsimp only at begun
  split at begun
  · next cached found =>
    split at begun
    · next fresh => cases begun; exact ⟨cached,found,fresh,rfl,rfl⟩
    · cases begun
  · cases begun

theorem analyzeBegin_fresh (found : cache.lookup (cacheKey engine.hat candidate) = some cached)
    (fresh : now - cached.cachedAt < effectiveTtl engine candidate) : analyzeBegin engine now candidate cache =
      (cache.insert (cacheKey engine.hat candidate) {cached with hitCount := cached.hitCount + 1},
        .inl (rebindCandidate cached.tree candidate)) := by
  unfold analyzeBegin
  dsimp only
  split
  · next other same =>
    rw [found] at same
    cases same
    exact if_pos fresh
  · next missing => rw [found] at missing; cases missing

theorem analyzeBegin_miss (begun : analyzeBegin engine now candidate cache = (after,.inr call)) :
    after = cache ∧ call = ⟨candidate,cacheKey engine.hat candidate,effectiveTtl engine candidate⟩ ∧
      ∀ cached, cache.lookup (cacheKey engine.hat candidate) = some cached →
        ¬ now - cached.cachedAt < effectiveTtl engine candidate := by
  unfold analyzeBegin at begun
  dsimp only at begun
  split at begun
  · next cached found =>
    split at begun
    · cases begun
    · next stale =>
      cases begun
      refine ⟨rfl,rfl,fun other same => ?_⟩
      rw [found] at same
      cases same; exact stale
  · next missing =>
    cases begun
    refine ⟨rfl,rfl,fun other same => ?_⟩
    rw [missing] at same
    cases same

theorem analyzeFinish_ok (finished : analyzeFinish engine ids now call answer cache = (after,.ok tree)) :
    (∃ parsed, answer = .ok parsed ∧ treeOf engine.hat engine.maxDepth call.candidate ids parsed = .ok tree) ∧
      after = if 0 < call.ttl then cache.insert call.key {tree,cachedAt := now} else cache := by
  unfold analyzeFinish at finished
  split at finished
  · next built =>
    cases finished
    exact ⟨except_bind.mp built,rfl⟩
  · cases finished

theorem analyzeFinish_error (finished : analyzeFinish engine ids now call answer cache = (after,.error e)) :
    after = cache := by
  unfold analyzeFinish at finished
  split at finished
  · cases finished
  · cases finished; rfl

-- The same tool name, and under every parameter name a value of the same type or none
structure SameShape (a b : CandidateAction) : Prop where
  tool : a.toolName = b.toolName
  types : ∀ name, (a.parameters.lookup name).map Json.typeName = (b.parameters.lookup name).map Json.typeName

theorem lookup_types (entries : List (Sigma fun _ : String => Json)) (name : String) :
    (entries.map fun entry => (entry.1,entry.2.typeName)).lookup name =
      (List.dlookup name entries).map Json.typeName := by
  induction entries with
  | nil => rfl
  | cons entry rest ih =>
    obtain ⟨key,value⟩ := entry
    rw [List.map_cons,List.lookup_cons]
    by_cases same : name = key
    · subst same
      rw [List.dlookup_cons_eq]
      simp
    · rw [List.dlookup_cons_ne _ _ same,beq_eq_false_iff_ne.mpr same]
      exact ih

theorem paramShape_lookup (parameters : Params) (name : String) :
    (paramShape parameters).lookup name = (parameters.lookup name).map Json.typeName := by
  have same := List.perm_insertionSort (fun a b : Sigma fun _ : String => Json => a.1 ≤ b.1) parameters.entries
  have nodup := (List.perm_nodupKeys same).mpr parameters.nodupKeys
  rw [paramShape,lookup_types,List.perm_dlookup name nodup same]
  rfl

-- The colons of hat and tool names do not blur the parts of a key.
theorem cacheKey_inj (same : cacheKey hat a = cacheKey hat b) :
    a.toolName = b.toolName ∧ paramShape a.parameters = paramShape b.parameters := by
  have lists := congrArg String.toList same
  simp only [cacheKey,String.toList_append,String.toList_ofList,List.append_assoc] at lists
  have rest := List.append_cancel_left (List.append_cancel_left lists)
  obtain ⟨tools,shapes⟩ := JsonText.joined_inj rest
  exact ⟨String.toList_injective tools,shapes⟩

theorem sameShape_of_key (same : cacheKey hat a = cacheKey hat b) : SameShape a b := by
  obtain ⟨tool,shape⟩ := cacheKey_inj same
  refine ⟨tool,fun name => ?_⟩
  rw [← paramShape_lookup,← paramShape_lookup,shape]

-- The sorted shape lists every name once, in order.
theorem paramShape_sorted (parameters : Params) : (paramShape parameters).Pairwise fun a b => a.1 < b.1 := by
  have sorted := List.pairwise_insertionSort (fun a b : Sigma fun _ : String => Json => a.1 ≤ b.1) parameters.entries
  have same := List.perm_insertionSort (fun a b : Sigma fun _ : String => Json => a.1 ≤ b.1) parameters.entries
  have nodup := List.nodupKeys_iff_pairwise.mp ((List.perm_nodupKeys same).mpr parameters.nodupKeys)
  refine List.pairwise_map.mpr ((sorted.and nodup).imp ?_)
  rintro a b ⟨ordered,apart⟩
  exact lt_of_le_of_ne ordered apart

theorem key_of_sameShape (same : SameShape a b) : cacheKey hat a = cacheKey hat b := by
  have shapes : paramShape a.parameters = paramShape b.parameters := by
    refine PyDict.ordered_ext (r := (· < ·)) (fun _ _ => lt_asymm) (paramShape_sorted _) (paramShape_sorted _) fun name => ?_
    rw [paramShape_lookup,paramShape_lookup]
    exact same.types name
  rw [cacheKey,cacheKey,same.tool,shapes]

-- The names of the parameters agree and, name by name, the types of their values.
theorem types_iff (left right : Params) :
    (∀ name, (left.lookup name).map Json.typeName = (right.lookup name).map Json.typeName) ↔
      (∀ name, name ∈ left ↔ name ∈ right) ∧
      ∀ name value other, left.lookup name = some value → right.lookup name = some other → value.typeName = other.typeName := by
  constructor
  · intro types
    refine ⟨fun name => ?_,fun name value other held given => ?_⟩
    · have known := congrArg Option.isSome (types name)
      rw [Option.isSome_map,Option.isSome_map] at known
      rw [← AList.lookup_isSome,← AList.lookup_isSome,known]
    · have known := types name
      rw [held,given] at known
      exact Option.some.inj known
  · rintro ⟨names,types⟩ name
    have known := names name
    rw [← AList.lookup_isSome,← AList.lookup_isSome] at known
    cases held : left.lookup name with
    | none => cases given : right.lookup name with
      | none => rfl
      | some other => simp [held,given] at known
    | some value => cases given : right.lookup name with
      | none => simp [held,given] at known
      | some other => exact congrArg some (types name value other held given)

theorem cacheKey_separates (hat : Option HatConfig) (a b : CandidateAction) : cacheKey hat a = cacheKey hat b ↔
    a.toolName = b.toolName ∧ (∀ name, name ∈ a.parameters ↔ name ∈ b.parameters) ∧
      ∀ name value other, a.parameters.lookup name = some value → b.parameters.lookup name = some other →
        value.typeName = other.typeName := by
  rw [← types_iff]
  constructor
  · intro same
    obtain ⟨tool,types⟩ := sameShape_of_key same
    exact ⟨tool,types⟩
  · rintro ⟨tool,types⟩
    exact key_of_sameShape ⟨tool,types⟩

end Sophia.ConsequenceEngine
