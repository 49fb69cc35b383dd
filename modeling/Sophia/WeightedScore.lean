import Sophia.ClassifierSpec
import Mathlib.Data.List.MinMax

namespace Sophia.ClassifierSpec
open Json Evaluators RiskClassifier WeightedMean

-- The division of the language, which raises on zero
def divide (a b : ℚ) : Except PyError ℚ := if b = 0 then .error (.raised "ZeroDivisionError") else .ok (a / b)

def weightIn (weights : AList (fun _ : String => ℚ)) (r : EvaluatorResult) : ℚ := (weights.lookup r.evaluatorName).getD 0

-- The loop of _compute_weighted_score over any table of weights, down to the division
def scoreFrom (weights : AList (fun _ : String => ℚ)) (results : List EvaluatorResult) : Except PyError ℚ :=
  let sums := results.foldl (fun sums r => (sums.1 + r.score * weightIn weights r,sums.2 + weightIn weights r))
    ((0 : ℚ),(0 : ℚ))
  if sums.2 = 0 then .ok 0 else divide sums.1 sums.2

theorem scoreFrom_mean (weights : AList (fun _ : String => ℚ)) (results : List EvaluatorResult) :
    scoreFrom weights results = .ok (mean (weightIn weights) (·.score) results) := by
  simp only [scoreFrom,sums_fold,zero_add,mean]
  split
  · next none => rw [none,div_zero]
  · next some => exact if_neg some

theorem scoreFrom_effective (results : List EvaluatorResult) (hat : Option HatConfig) :
    scoreFrom (effectiveWeights hat) results = .ok (computeWeightedScore results hat) := by
  rw [scoreFrom_mean,computeWeightedScore_mean]
  rfl

-- Every weight of the table times c
def scaleWeights (c : ℚ) (weights : AList (fun _ : String => ℚ)) : AList (fun _ : String => ℚ) :=
  ⟨weights.entries.map (Sigma.map id fun _ weight => c * weight),weights.nodupKeys.map₂ _ _⟩

theorem weightIn_scale (c : ℚ) (weights : AList (fun _ : String => ℚ)) (r : EvaluatorResult) :
    weightIn (scaleWeights c weights) r = c * weightIn weights r := by
  unfold weightIn scaleWeights AList.lookup
  rw [List.dlookup_map₂]
  cases weights.entries.dlookup r.evaluatorName with
  | none => exact (mul_zero c).symm
  | some weight => rfl

theorem scoreFrom_scale (nonzero : c ≠ 0) (weights : AList (fun _ : String => ℚ)) (results : List EvaluatorResult) :
    scoreFrom (scaleWeights c weights) results = scoreFrom weights results := by
  have scaled : weightIn (scaleWeights c weights) = fun r => c * weightIn weights r := funext (weightIn_scale c weights)
  rw [scoreFrom_mean,scoreFrom_mean,scaled,mean_scale nonzero]

-- A hat whose two tables of weights hold no negative one
def NonnegativeTables (hat : HatConfig) : Prop :=
  (∀ entry ∈ hat.evaluatorConfig.weightOverrides.entries, 0 ≤ entry.2) ∧
    ∀ entry ∈ hat.manifest.defaultEvaluatorWeights.entries, 0 ≤ entry.2

theorem defaultWeights_nonneg : ∀ entry ∈ defaultWeights.entries, 0 ≤ entry.2 := by decide +kernel

theorem effectiveWeights_nonneg (configured : ∀ config ∈ hat, NonnegativeTables config) :
    ∀ entry ∈ (effectiveWeights hat).entries, 0 ≤ entry.2 := by
  cases hat with
  | none => exact defaultWeights_nonneg
  | some config =>
    obtain ⟨overrides,manifest⟩ := configured config rfl
    intro entry present
    rcases AList.mem_lookup_union.mp (AList.mem_lookup_iff.mpr present) with own | ⟨_,left⟩
    · split at own
      · exact manifest _ (AList.mem_lookup_iff.mp own)
      · exact overrides _ (AList.mem_lookup_iff.mp own)
    · exact defaultWeights_nonneg _ (AList.mem_lookup_iff.mp left)

section
variable {results : List EvaluatorResult} {hat : Option HatConfig}

-- Some evaluator that answered has a positive weight.
def Weighed (results : List EvaluatorResult) (hat : Option HatConfig) : Prop := ∃ r ∈ results, 0 < weightOf hat r

-- The least and the greatest score of those with a positive weight
structure Extremes (results : List EvaluatorResult) (hat : Option HatConfig) (low high : EvaluatorResult) : Prop where
  least : low ∈ results ∧ 0 < weightOf hat low
  greatest : high ∈ results ∧ 0 < weightOf hat high
  between : ∀ r ∈ results, 0 < weightOf hat r → low.score ≤ r.score ∧ r.score ≤ high.score

theorem weighed_extremes (weighed : Weighed results hat) : ∃ low high, Extremes results hat low high := by
  obtain ⟨first,present,weighs⟩ := weighed
  have listed (r : EvaluatorResult) : r ∈ results.filter (fun r => 0 < weightOf hat r) ↔ r ∈ results ∧ 0 < weightOf hat r := by
    simp
  have some : results.filter (fun r => 0 < weightOf hat r) ≠ [] :=
    List.ne_nil_of_mem ((listed first).mpr ⟨present,weighs⟩)
  have lowest := mt (List.argmin_eq_none (f := EvaluatorResult.score)).mp some
  have highest := mt (List.argmax_eq_none (f := EvaluatorResult.score)).mp some
  obtain ⟨low,least⟩ := Option.ne_none_iff_exists'.mp lowest
  obtain ⟨high,greatest⟩ := Option.ne_none_iff_exists'.mp highest
  refine ⟨low,high,(listed low).mp (List.argmin_mem least),(listed high).mp (List.argmax_mem greatest),?_⟩
  intro r inside heavy
  exact ⟨List.le_of_mem_argmin ((listed r).mpr ⟨inside,heavy⟩) least,
    List.le_of_mem_argmax ((listed r).mpr ⟨inside,heavy⟩) greatest⟩

structure IsWeightedMean (results : List EvaluatorResult) (hat : Option HatConfig) : Prop where
  divides : scoreFrom (effectiveWeights hat) results = .ok (computeWeightedScore results hat)
  between : Weighed results hat → ∃ low high, Extremes results hat low high ∧
    low.score ≤ computeWeightedScore results hat ∧ computeWeightedScore results hat ≤ high.score
  scaled : ∀ c, 0 < c → scoreFrom (scaleWeights c (effectiveWeights hat)) results = .ok (computeWeightedScore results hat)
  monotone : ∀ others, List.Forall₂ Worse results others → computeWeightedScore results hat ≤ computeWeightedScore others hat
  weightless : ¬ Weighed results hat → computeWeightedScore results hat = 0
  unit : (∀ r ∈ results, -1 ≤ r.score ∧ r.score ≤ 1) →
    -1 ≤ computeWeightedScore results hat ∧ computeWeightedScore results hat ≤ 1
  threshold : Weighed results hat → ∀ least, (∀ r ∈ results, least ≤ r.score) → least ≤ computeWeightedScore results hat

theorem weighted_score_is_mean (results : List EvaluatorResult) (hat : Option HatConfig)
    (nonneg : ∀ entry ∈ (effectiveWeights hat).entries, 0 ≤ entry.2) : IsWeightedMean results hat := by
  have weights : ∀ r, 0 ≤ weightOf hat r := weightOf_nonneg nonneg
  have atLeast (weighed : Weighed results hat) (lo : ℚ) (above : ∀ r ∈ results, 0 < weightOf hat r → lo ≤ r.score) :
      lo ≤ computeWeightedScore results hat := by
    rw [computeWeightedScore_mean]
    exact le_mean (fun r _ => weights r) weighed above
  have atMost (weighed : Weighed results hat) (hi : ℚ) (below : ∀ r ∈ results, 0 < weightOf hat r → r.score ≤ hi) :
      computeWeightedScore results hat ≤ hi := by
    rw [computeWeightedScore_mean]
    exact mean_le (fun r _ => weights r) weighed below
  have nothing (weightless : ¬ Weighed results hat) : computeWeightedScore results hat = 0 := by
    rw [computeWeightedScore_mean]
    exact mean_weightless (fun r _ => weights r) weightless _
  refine ⟨scoreFrom_effective results hat,fun weighed => ?_,fun c positive => ?_,fun others higher => ?_,nothing,?_,?_⟩
  · obtain ⟨low,high,extremes⟩ := weighed_extremes weighed
    exact ⟨low,high,extremes,atLeast weighed _ fun r inside heavy => (extremes.between r inside heavy).1,
      atMost weighed _ fun r inside heavy => (extremes.between r inside heavy).2⟩
  · rw [scoreFrom_scale positive.ne',scoreFrom_effective]
  · rw [computeWeightedScore_mean,computeWeightedScore_mean]
    refine mean_below weights (higher.imp fun one other both => ⟨?_,both.2⟩)
    rw [weightOf,weightOf,both.1]
  · intro within
    by_cases weighed : Weighed results hat
    · exact ⟨atLeast weighed _ fun r inside _ => (within r inside).1,atMost weighed _ fun r inside _ => (within r inside).2⟩
    · rw [nothing weighed]
      norm_num
  · exact fun weighed least reached => atLeast weighed least fun r inside _ => reached r inside

end

-- A hat that doubts the domain evaluator and leaves the others their weights
def doubtingHat : HatConfig := {manifest := {name := "shop"},evaluatorConfig := {weightOverrides := AList.singleton "domain" (1/10)}}

def twoAnswers : List EvaluatorResult :=
  [{evaluatorName := "tribal",score := -1/2,confidence := 1},{evaluatorName := "domain",score := 1/2,confidence := 1}]

theorem weighted_score_doubting : IsWeightedMean twoAnswers (some doubtingHat) := by
  apply weighted_score_is_mean
  apply effectiveWeights_nonneg
  intro config worn
  cases worn
  exact ⟨by decide +kernel,by decide +kernel⟩

end Sophia.ClassifierSpec
