import Sophia.Evaluators
import Sophia.Library.PairCount
import Sophia.Library.WeightedMean

namespace Sophia.RiskClassifier
open Json Evaluators PairCount

def defaultWeights : AList (fun _ : String => ℚ) :=
  [⟨"tribal",2/5⟩,⟨"domain",1/4⟩,⟨"self_interest",1/5⟩,⟨"authority",3/20⟩].toAList

def defaultThresholds : AList (fun _ : String => ℚ) :=
  [⟨"green",-1/10⟩,⟨"yellow",-2/5⟩,⟨"orange",-7/10⟩].toAList

structure RiskClassification where
  tier : Tier
  weightedScore : ℚ
  individualScores : AList (fun _ : String => ℚ) := ∅
  flags : List Json := []
  overrideReason : Option String := none
  recommendedAction : Option CandidateAction := none
  explanation : String := ""
  minTierApplied : Option String := none

-- DEFAULT.copy() with the hat's overrides, or with the manifest's table when it has none
def effectiveTable (defaults overrides manifest : AList (fun _ : String => ℚ)) : AList (fun _ : String => ℚ) :=
  (if overrides.entries.isEmpty then manifest else overrides) ∪ defaults

def effectiveWeights : Option HatConfig → AList (fun _ : String => ℚ)
  | none => defaultWeights
  | some hat => effectiveTable defaultWeights hat.evaluatorConfig.weightOverrides hat.manifest.defaultEvaluatorWeights

def effectiveThresholds : Option HatConfig → AList (fun _ : String => ℚ)
  | none => defaultThresholds
  | some hat => effectiveTable defaultThresholds hat.evaluatorConfig.riskThresholds hat.manifest.riskThresholds

def weightOf (hat : Option HatConfig) (result : EvaluatorResult) : ℚ :=
  ((effectiveWeights hat).lookup result.evaluatorName).getD 0

def computeWeightedScore (results : List EvaluatorResult) (hat : Option HatConfig) : ℚ :=
  let sums := results.foldl (fun sums r => (sums.1 + r.score * weightOf hat r,sums.2 + weightOf hat r)) ((0 : ℚ),(0 : ℚ))
  if sums.2 = 0 then 0 else sums.1 / sums.2

def scoreToTier (score : ℚ) (thresholds : AList (fun _ : String => ℚ)) : Tier :=
  if (thresholds.lookup "green").getD (-1/10) ≤ score then .green
  else if (thresholds.lookup "yellow").getD (-2/5) ≤ score then .yellow
  else if (thresholds.lookup "orange").getD (-7/10) ≤ score then .orange
  else .red

def apart (a b : ℚ) : Bool := decide (4/5 < |a - b|)

def hasSignificantDisagreement (results : List EvaluatorResult) : Bool :=
  decide (2 ≤ pairLoop apart (results.map (·.score)))

def bumpTier : Tier → Tier
  | .green => .yellow
  | .yellow => .orange
  | .orange => .red
  | .red => .red

def selectRecommendedAction (tier : Tier) (candidates : List CandidateAction) : Option CandidateAction :=
  match tier with
  | .green => candidates.head?
  | .yellow => candidates.head?
  | .orange => (candidates.find? (·.toolName == "escalate_to_human")).or candidates.head?
  | .red => none

def explainResult (runtime : Runtime) (r : EvaluatorResult) : String :=
  "  " ++ r.evaluatorName ++ ": score=" ++ PyText.fixed 2 r.score ++
    (if r.flags.truthy then " flags=" ++ runtime.str r.flags else "") ++
    (if r.keyConcerns.truthy then " concerns=" ++ runtime.str r.keyConcerns else "")

def buildExplanation (runtime : Runtime) (results : List EvaluatorResult) (tier : Tier) (note : String := "") :
    String :=
  PyText.join "\n" ((if note = "" then [] else [note]) ++ ("Risk tier: " ++ tier.name) ::
    results.map (explainResult runtime))

def individualScores (results : List EvaluatorResult) : AList (fun _ : String => ℚ) :=
  results.foldl (fun scores r => scores.insert r.evaluatorName r.score) ∅

def allFlags : List EvaluatorResult → Except PyError (List Json)
  | [] => .ok []
  | r :: rest => do
    let own ← r.flags.iterate
    let others ← allFlags rest
    return own ++ others

def severeCount (results : List EvaluatorResult) : Nat := results.countP fun r => decide (r.score ≤ -1/2)

-- One minimum tier: an absent or empty text sets none, an unknown one fails the index.
def applyFloor (floor : Option String) (current : Tier × Option String) : Except PyError (Tier × Option String) :=
  match truthyText floor with
  | none => .ok current
  | some text => do
    let bound ← Tier.index text
    return if current.1 < bound then (bound,some text) else current

def hatMinTier (hat : Option HatConfig) : Option String := hat.bind (·.evaluatorConfig.minTier)

def baseTier (results : List EvaluatorResult) (hat : Option HatConfig) : Tier :=
  scoreToTier (computeWeightedScore results hat) (effectiveThresholds hat)

def raisedTier (results : List EvaluatorResult) (hat : Option HatConfig) : Tier :=
  if hasSignificantDisagreement results then bumpTier (baseTier results hat) else baseTier results hat

def classify (runtime : Runtime) (results : List EvaluatorResult) (hat : Option HatConfig)
    (candidates : List CandidateAction) (minTier : Option String) : Except PyError RiskClassification := do
  let flags ← allFlags results
  if flags.any (isStr "catastrophic_harm") then
    return {
      tier := .red
      weightedScore := computeWeightedScore results hat
      individualScores := individualScores results
      flags := flags
      overrideReason := some "Catastrophic harm flag detected"
      explanation := buildExplanation runtime results .red "Catastrophic harm flag triggered automatic RED."}
  if 3 ≤ severeCount results then
    return {
      tier := .red
      weightedScore := computeWeightedScore results hat
      individualScores := individualScores results
      flags := flags
      overrideReason := some (toString (severeCount results) ++ " evaluators scored below -0.5")
      explanation := buildExplanation runtime results .red
        (toString (severeCount results) ++ " of " ++ toString results.length ++ " evaluators flagged severe concerns.")}
  let floored ← applyFloor minTier (raisedTier results hat,none)
  let final ← applyFloor (hatMinTier hat) floored
  return {
    tier := final.1
    weightedScore := computeWeightedScore results hat
    individualScores := individualScores results
    flags := flags
    recommendedAction := selectRecommendedAction final.1 candidates
    explanation := buildExplanation runtime results final.1
    minTierApplied := final.2}

theorem allFlags_mem (gathered : allFlags results = .ok flags) :
    .str flag ∈ flags ↔ ∃ r ∈ results, r.carries flag := by
  induction results generalizing flags with
  | nil => cases gathered; simp
  | cons r rest ih =>
    obtain ⟨own,taken,gathered⟩ := except_bind.mp gathered
    obtain ⟨others,later,gathered⟩ := except_bind.mp gathered
    cases gathered
    have first : .str flag ∈ own ↔ r.carries flag := by
      constructor
      · exact fun present => ⟨own,taken,present⟩
      · intro carried
        obtain ⟨items,same,present⟩ := carried
        rw [taken] at same
        cases same; exact present
    rw [List.mem_append,first,ih later]
    simp

theorem allFlags_returns : (∃ flags, allFlags results = .ok flags) ↔
    ∀ r ∈ results, ∃ items, r.flags.iterate = .ok items := by
  induction results with
  | nil => simp [allFlags]
  | cons r rest ih =>
    rw [List.forall_mem_cons,← ih]
    constructor
    · intro gatheredAll
      obtain ⟨flags,gathered⟩ := gatheredAll
      obtain ⟨own,taken,gathered⟩ := except_bind.mp gathered
      obtain ⟨others,later,_⟩ := except_bind.mp gathered
      exact ⟨⟨own,taken⟩,⟨others,later⟩⟩
    · intro both
      obtain ⟨⟨own,taken⟩,⟨others,later⟩⟩ := both
      exact ⟨own ++ others,by simp [allFlags,taken,later,bind,Except.bind,pure,Except.pure]⟩

-- The two overrides, as the results show them
def Overridden (results : List EvaluatorResult) : Prop :=
  (∃ r ∈ results, r.carries "catastrophic_harm") ∨ 3 ≤ severeCount results

-- The tier a minimum demands
def floorTier (floor : Option String) : Except PyError Tier :=
  match truthyText floor with
  | none => .ok .green
  | some text => Tier.index text

@[simp] theorem floorTier_name (tier : Option Tier) : floorTier (tier.map Tier.name) = .ok (tier.getD .green) := by
  cases tier with
  | none => rfl
  | some tier => simp [floorTier]

theorem applyFloor_parts : applyFloor floor current = .ok next ↔
    ∃ bound, floorTier floor = .ok bound ∧
      next = if current.1 < bound then (bound,truthyText floor) else current := by
  unfold applyFloor floorTier
  cases truthyText floor with
  | none =>
    have unchanged : (if current.1 < Tier.green then (Tier.green,none) else current) = current :=
      if_neg (not_lt.mpr (Tier.green_le _))
    simp [unchanged,eq_comm]
  | some text =>
    rw [except_bind]
    simp only [pure,Except.pure,Except.ok.injEq,eq_comm]

theorem applyFloor_tier (applied : applyFloor floor current = .ok next) :
    ∃ bound, floorTier floor = .ok bound ∧ next.1 = max current.1 bound := by
  obtain ⟨bound,demanded,rfl⟩ := applyFloor_parts.mp applied
  refine ⟨bound,demanded,?_⟩
  split
  · next below => exact (max_eq_right below.le).symm
  · next above => exact (max_eq_left (not_lt.mp above)).symm

theorem applyFloor_returns (demanded : floorTier floor = .ok bound) (current : Tier × Option String) :
    ∃ next, applyFloor floor current = .ok next := ⟨_,applyFloor_parts.mpr ⟨bound,demanded,rfl⟩⟩

-- What a classification can be, field by field. Later proofs use this and never unfold classify.
structure Classified (results : List EvaluatorResult) (hat : Option HatConfig) (candidates : List CandidateAction)
    (minTier : Option String) (c : RiskClassification) : Prop where
  flags : allFlags results = .ok c.flags
  weightedScore : c.weightedScore = computeWeightedScore results hat
  individualScores : c.individualScores = individualScores results
  overridden : Overridden results → c.tier = .red ∧ c.recommendedAction = none ∧
    c.overrideReason = some (if c.flags.any (isStr "catastrophic_harm") then "Catastrophic harm flag detected"
      else toString (severeCount results) ++ " evaluators scored below -0.5")
  floored : ¬ Overridden results → c.overrideReason = none ∧
    c.recommendedAction = selectRecommendedAction c.tier candidates ∧
    ∃ least hatLeast, floorTier minTier = .ok least ∧ floorTier (hatMinTier hat) = .ok hatLeast ∧
      c.tier = max (max (raisedTier results hat) least) hatLeast

theorem overridden_iff (gathered : allFlags results = .ok flags) :
    Overridden results ↔ flags.any (isStr "catastrophic_harm") = true ∨ 3 ≤ severeCount results := by
  rw [Overridden,any_isStr,allFlags_mem gathered]

theorem classify_parts (classified : classify runtime results hat candidates minTier = .ok c) :
    Classified results hat candidates minTier c := by
  obtain ⟨flags,gathered,classified⟩ := except_bind.mp classified
  have overridden := overridden_iff gathered
  by_cases harm : flags.any (isStr "catastrophic_harm") = true
  · rw [if_pos harm] at classified
    cases classified
    exact ⟨gathered,rfl,rfl,fun _ => ⟨rfl,rfl,by rw [if_pos harm]⟩,fun calm => absurd (overridden.mpr (.inl harm)) calm⟩
  rw [if_neg harm] at classified
  by_cases severe : 3 ≤ severeCount results
  · simp only [if_pos severe] at classified
    cases classified
    exact ⟨gathered,rfl,rfl,fun _ => ⟨rfl,rfl,by rw [if_neg harm]⟩,fun calm => absurd (overridden.mpr (.inr severe)) calm⟩
  simp only [if_neg severe] at classified
  obtain ⟨floored,first,classified⟩ := except_bind.mp classified
  obtain ⟨final,second,classified⟩ := except_bind.mp classified
  cases classified
  obtain ⟨least,demanded,raised⟩ := applyFloor_tier first
  obtain ⟨hatLeast,hatDemanded,top⟩ := applyFloor_tier second
  refine ⟨gathered,rfl,rfl,fun vetoed => absurd (overridden.mp vetoed) (not_or.mpr ⟨harm,severe⟩),fun _ => ⟨rfl,rfl,?_⟩⟩
  exact ⟨least,hatLeast,demanded,hatDemanded,by rw [top,raised]⟩

theorem classify_returns (runtime : Runtime) (candidates : List CandidateAction)
    (readable : ∀ r ∈ results, ∃ items, r.flags.iterate = .ok items)
    (least : floorTier minTier = .ok bound) (hatLeast : floorTier (hatMinTier hat) = .ok hatBound) :
    ∃ c, classify runtime results hat candidates minTier = .ok c := by
  obtain ⟨flags,gathered⟩ := allFlags_returns.mpr readable
  obtain ⟨floored,first⟩ := applyFloor_returns least (raisedTier results hat,none)
  obtain ⟨final,second⟩ := applyFloor_returns hatLeast floored
  simp only [classify,gathered,first,second,bind,Except.bind,pure,Except.pure]
  split
  · exact ⟨_,rfl⟩
  split
  · exact ⟨_,rfl⟩
  · exact ⟨_,rfl⟩

-- An override returns before the minimum tiers are read.
theorem classify_overridden (readable : ∀ r ∈ results, ∃ items, r.flags.iterate = .ok items)
    (vetoed : Overridden results) : ∃ c, classify runtime results hat candidates minTier = .ok c := by
  obtain ⟨flags,gathered⟩ := allFlags_returns.mpr readable
  simp only [classify,gathered,bind,Except.bind,pure,Except.pure]
  rcases (overridden_iff gathered).mp vetoed with harm | severe
  · rw [if_pos harm]; exact ⟨_,rfl⟩
  · rw [if_pos severe]
    split <;> exact ⟨_,rfl⟩

-- A returned tier is at least each minimum that applies.
theorem Classified.least_le (classified : Classified results hat candidates minTier c)
    (demanded : floorTier minTier = .ok least) : least ≤ c.tier := by
  by_cases vetoed : Overridden results
  · rw [(classified.overridden vetoed).1]; exact Tier.le_red _
  · obtain ⟨_,_,bound,hatBound,same,_,top⟩ := classified.floored vetoed
    rw [demanded] at same
    cases same
    rw [top]
    exact le_max_of_le_left (le_max_right _ _)

theorem Classified.hatLeast_le (classified : Classified results hat candidates minTier c)
    (demanded : floorTier (hatMinTier hat) = .ok least) : least ≤ c.tier := by
  by_cases vetoed : Overridden results
  · rw [(classified.overridden vetoed).1]; exact Tier.le_red _
  · obtain ⟨_,_,bound,hatBound,_,same,top⟩ := classified.floored vetoed
    rw [demanded] at same
    cases same
    rw [top]
    exact le_max_right _ _

end Sophia.RiskClassifier
