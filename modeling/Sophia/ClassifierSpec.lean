import Sophia.RiskClassifier

namespace Sophia.ClassifierSpec
open Json Evaluators RiskClassifier PairCount WeightedMean

theorem sums_fold (weight : EvaluatorResult → ℚ) (results : List EvaluatorResult) (a b : ℚ) :
    results.foldl (fun sums r => (sums.1 + r.score * weight r,sums.2 + weight r)) (a,b) =
      (a + total weight (·.score) results,b + mass weight results) := by
  induction results generalizing a b with
  | nil => simp [total,mass]
  | cons r rest ih =>
    simp only [List.foldl_cons,ih,total,mass,List.map_cons,List.sum_cons,add_assoc]

theorem computeWeightedScore_mean (results : List EvaluatorResult) (hat : Option HatConfig) :
    computeWeightedScore results hat = mean (weightOf hat) (·.score) results := by
  simp only [computeWeightedScore,sums_fold,zero_add,mean]
  split
  · next none => rw [none,div_zero]
  · rfl

theorem apart_symmetric (a b : ℚ) : apart a b = apart b a := by simp only [apart,abs_sub_comm]

theorem disagreement_iff : hasSignificantDisagreement results = true ↔
    2 ≤ pairCount apart (results.map (·.score)) := by
  rw [hasSignificantDisagreement,pairLoop_eq,decide_eq_true_iff]

theorem disagreement_perm (same : results.Perm permuted) :
    hasSignificantDisagreement results = hasSignificantDisagreement permuted := by
  rw [Bool.eq_iff_iff,disagreement_iff,disagreement_iff,pairCount_perm apart apart_symmetric (same.map _)]

theorem computeWeightedScore_perm (same : results.Perm permuted) (hat : Option HatConfig) :
    computeWeightedScore results hat = computeWeightedScore permuted hat := by
  rw [computeWeightedScore_mean,computeWeightedScore_mean,mean_perm same]

theorem raisedTier_perm (same : results.Perm permuted) (hat : Option HatConfig) :
    raisedTier results hat = raisedTier permuted hat := by
  rw [raisedTier,raisedTier,disagreement_perm same,baseTier,baseTier,computeWeightedScore_perm same]

theorem severeCount_perm (same : results.Perm permuted) : severeCount results = severeCount permuted :=
  same.countP_eq _

theorem overridden_perm (same : results.Perm permuted) : Overridden results ↔ Overridden permuted := by
  rw [Overridden,Overridden,severeCount_perm same]
  simp only [same.mem_iff]

theorem harm_perm (same : results.Perm permuted) (first : allFlags results = .ok flags)
    (second : allFlags permuted = .ok others) :
    flags.any (isStr "catastrophic_harm") = others.any (isStr "catastrophic_harm") := by
  rw [Bool.eq_iff_iff,any_isStr,any_isStr,allFlags_mem first,allFlags_mem second]
  simp only [same.mem_iff]

-- Two classifications of one list in two orders agree on all that routing reads.
theorem classified_perm (same : results.Perm permuted) (first : Classified results hat candidates minTier c)
    (second : Classified permuted hat candidates minTier d) :
    d.tier = c.tier ∧ d.weightedScore = c.weightedScore ∧ d.overrideReason = c.overrideReason ∧
      d.recommendedAction = c.recommendedAction := by
  have score : d.weightedScore = c.weightedScore := by
    rw [second.weightedScore,first.weightedScore,computeWeightedScore_perm same]
  by_cases vetoed : Overridden results
  · obtain ⟨tier,action,reason⟩ := first.overridden vetoed
    obtain ⟨tier',action',reason'⟩ := second.overridden ((overridden_perm same).mp vetoed)
    rw [tier,tier',action,action',reason,reason',harm_perm same first.flags second.flags,severeCount_perm same]
    exact ⟨rfl,score,rfl,rfl⟩
  · obtain ⟨reason,action,least,hatLeast,demanded,hatDemanded,tier⟩ := first.floored vetoed
    obtain ⟨reason',action',least',hatLeast',demanded',hatDemanded',tier'⟩ :=
      second.floored (fun late => vetoed ((overridden_perm same).mpr late))
    rw [demanded] at demanded'
    rw [hatDemanded] at hatDemanded'
    cases demanded'
    cases hatDemanded'
    have tiers : d.tier = c.tier := by rw [tier,tier',raisedTier_perm same]
    exact ⟨tiers,score,by rw [reason,reason'],by rw [action,action',tiers]⟩

-- Which candidate a tier recommends
structure Recommends (tier : Tier) (candidates : List CandidateAction) (action : Option CandidateAction) : Prop where
  refused : tier = .red ∨ candidates = [] → action = none
  escalates : ∀ first, tier = .orange → candidates.find? (·.toolName == "escalate_to_human") = some first →
    action = some first
  otherwise : tier ≠ .red → ¬ (tier = .orange ∧ ∃ c ∈ candidates, c.toolName = "escalate_to_human") →
    action = candidates.head?

theorem selectRecommendedAction_recommends (tier : Tier) (candidates : List CandidateAction) :
    Recommends tier candidates (selectRecommendedAction tier candidates) := by
  constructor
  · intro nothing
    rcases nothing with rfl | rfl
    · rfl
    · cases tier <;> rfl
  · intro first orange found
    subst orange
    simp [selectRecommendedAction,found]
  · intro notRed other
    cases tier with
    | green => rfl
    | yellow => rfl
    | orange =>
      have missing : candidates.find? (·.toolName == "escalate_to_human") = none := by
        rw [List.find?_eq_none]
        exact fun c present named => other ⟨rfl,c,present,beq_iff_eq.mp named⟩
      simp [selectRecommendedAction,missing]
    | red => exact absurd rfl notRed

theorem classified_recommends (classified : Classified results hat candidates minTier c) :
    Recommends c.tier candidates c.recommendedAction := by
  by_cases vetoed : Overridden results
  · obtain ⟨tier,action,_⟩ := classified.overridden vetoed
    rw [tier,action]
    exact ⟨fun _ => rfl,fun _ orange => (nomatch orange),fun notRed => absurd rfl notRed⟩
  · rw [(classified.floored vetoed).2.1]
    exact selectRecommendedAction_recommends _ _

theorem classify_exact (runtime : Runtime) (results : List EvaluatorResult) (hat : Option HatConfig)
    (candidates : List CandidateAction) (minTier hatMin : Option Tier)
    (configured : hatMinTier hat = hatMin.map Tier.name)
    (readable : ∀ r ∈ results, ∃ items, r.flags.iterate = .ok items) :
    ∃ c, classify runtime results hat candidates (minTier.map Tier.name) = .ok c ∧
      c.weightedScore = mean (weightOf hat) (·.score) results ∧
      (Overridden results → c.tier = .red) ∧
      (¬ Overridden results → c.tier = max (max (minTier.getD .green) (hatMin.getD .green))
        (if 2 ≤ pairCount apart (results.map (·.score)) then
          bumpTier (scoreToTier c.weightedScore (effectiveThresholds hat))
        else scoreToTier c.weightedScore (effectiveThresholds hat))) ∧
      Recommends c.tier candidates c.recommendedAction ∧
      ∀ permuted, results.Perm permuted →
        ∃ d, classify runtime permuted hat candidates (minTier.map Tier.name) = .ok d ∧
          d.tier = c.tier ∧ d.weightedScore = c.weightedScore ∧ d.overrideReason = c.overrideReason ∧
          d.recommendedAction = c.recommendedAction := by
  have hatDemanded : floorTier (hatMinTier hat) = .ok (hatMin.getD .green) := by rw [configured,floorTier_name]
  obtain ⟨c,returned⟩ := classify_returns runtime candidates readable
    (floorTier_name minTier) hatDemanded
  have classified := classify_parts returned
  refine ⟨c,returned,?_,fun vetoed => (classified.overridden vetoed).1,?_,classified_recommends classified,?_⟩
  · rw [classified.weightedScore,computeWeightedScore_mean]
  · intro calm
    obtain ⟨_,_,least,hatLeast,demanded,hatSame,tier⟩ := classified.floored calm
    rw [floorTier_name] at demanded
    rw [hatDemanded] at hatSame
    cases demanded
    cases hatSame
    rw [tier,max_assoc,max_comm,raisedTier,classified.weightedScore,baseTier]
    simp only [disagreement_iff]
  · intro permuted same
    obtain ⟨d,again⟩ := classify_returns runtime candidates
      (fun r present => readable r (same.mem_iff.mpr present)) (floorTier_name minTier) hatDemanded
    exact ⟨d,again,classified_perm same classified (classify_parts again)⟩

-- Two evaluators welcome what a third would refuse.
def divided : List EvaluatorResult :=
  [quiet "tribal" (1/2),quiet "domain" (-2/5),quiet "self_interest" (1/2),quiet "authority" 0]

def alarmed : List EvaluatorResult :=
  [quiet "tribal" (1/2),quiet "domain" (-2/5),quiet "self_interest" (1/2),
    {quiet "authority" 0 with flags := .arr [.str "catastrophic_harm"]}]

def watchful : HatConfig := {
  manifest := {name := "customer-service"}
  evaluatorConfig := {riskThresholds := AList.singleton "green" (1/4),minTier := some "YELLOW"}}

theorem divided_calm : ¬ Overridden divided := by
  rw [overridden_iff (show allFlags divided = .ok [] from rfl)]
  decide +kernel

theorem alarmed_overridden : Overridden alarmed :=
  .inl ⟨_,.tail _ (.tail _ (.tail _ (.head _))),_,rfl,.head _⟩

theorem classify_exact_panel :
    (∃ c, classify Runtime.ascii divided (some watchful) [{toolName := "converse"},{toolName := "escalate_to_human"}]
        (some "GREEN") = .ok c ∧
      c.weightedScore = 1/5 ∧ c.tier = .orange ∧ c.recommendedAction = some {toolName := "escalate_to_human"}) ∧
    ∃ c, classify Runtime.ascii alarmed (some watchful) [{toolName := "converse"}] (some "GREEN") = .ok c ∧
      c.tier = .red ∧ c.recommendedAction = none := by
  constructor
  · obtain ⟨c,returned,score,_,floored,recommends,_⟩ := classify_exact Runtime.ascii divided (some watchful)
      [{toolName := "converse"},{toolName := "escalate_to_human"}] (some .green) (some .yellow) rfl
      (by simp [divided,quiet,iterate])
    have fifth : c.weightedScore = 1/5 := score.trans (by decide +kernel)
    have tier : c.tier = .orange := by
      rw [floored divided_calm,fifth]
      decide +kernel
    exact ⟨c,returned,fifth,tier,recommends.escalates _ tier rfl⟩
  · obtain ⟨c,returned,_,vetoed,_,recommends,_⟩ := classify_exact Runtime.ascii alarmed (some watchful)
      [{toolName := "converse"}] (some .green) (some .yellow) rfl (by simp [alarmed,quiet,iterate])
    have red := vetoed alarmed_overridden
    exact ⟨c,returned,red,recommends.refused (.inl red)⟩

-- Item by item the same evaluator and a score at most the other's
def Worse (worse better : EvaluatorResult) : Prop :=
  worse.evaluatorName = better.evaluatorName ∧ worse.score ≤ better.score

theorem scoreToTier_antitone (thresholds : AList (fun _ : String => ℚ)) (lower : low ≤ high) :
    scoreToTier high thresholds ≤ scoreToTier low thresholds := by
  -- The three tests are made in one order, whatever the order of the thresholds.
  by_cases green : (thresholds.lookup "green").getD (-1/10) ≤ high
  · simp only [scoreToTier,if_pos green,Tier.green_le]
  have greenLow := fun reached => green (le_trans reached lower)
  by_cases yellow : (thresholds.lookup "yellow").getD (-2/5) ≤ high
  · simp only [scoreToTier,if_neg green,if_pos yellow,if_neg greenLow]
    split_ifs <;> decide
  have yellowLow := fun reached => yellow (le_trans reached lower)
  by_cases orange : (thresholds.lookup "orange").getD (-7/10) ≤ high
  · simp only [scoreToTier,if_neg green,if_neg yellow,if_pos orange,if_neg greenLow,if_neg yellowLow]
    split_ifs <;> decide
  · have orangeLow := fun reached => orange (le_trans reached lower)
    simp only [scoreToTier,if_neg green,if_neg yellow,if_neg orange,if_neg greenLow,if_neg yellowLow,
      if_neg orangeLow,le_refl]

theorem bumpTier_mono (below : a ≤ b) : bumpTier a ≤ bumpTier b := by
  revert below; cases a <;> cases b <;> decide

theorem le_bumpTier (tier : Tier) : tier ≤ bumpTier tier := by cases tier <;> decide

theorem bumpTier_rank (tier : Tier) : (bumpTier tier).rank ≤ tier.rank + 1 := by cases tier <;> decide

theorem severeCount_worse (lower : List.Forall₂ Worse worse better) : severeCount better ≤ severeCount worse := by
  induction lower with
  | nil => exact Nat.le_refl _
  | @cons w b _ _ first _ ih =>
    simp only [severeCount,List.countP_cons,decide_eq_true_iff] at ih ⊢
    by_cases severe : b.score ≤ -1/2
    · rw [if_pos severe,if_pos (le_trans first.2 severe)]; omega
    · rw [if_neg severe]; omega

theorem weightOf_nonneg (nonneg : ∀ entry ∈ (effectiveWeights hat).entries, 0 ≤ entry.2) (r : EvaluatorResult) :
    0 ≤ weightOf hat r := by
  unfold weightOf
  cases found : (effectiveWeights hat).lookup r.evaluatorName with
  | none => exact le_refl _
  | some weight => exact nonneg ⟨_,weight⟩ (AList.mem_lookup_iff.mp found)

theorem baseTier_worse (nonneg : ∀ r, 0 ≤ weightOf hat r) (lower : List.Forall₂ Worse worse better) :
    baseTier better hat ≤ baseTier worse hat := by
  apply scoreToTier_antitone
  rw [computeWeightedScore_mean,computeWeightedScore_mean]
  apply mean_below nonneg
  refine lower.imp fun w b both => ⟨?_,both.2⟩
  rw [weightOf,weightOf,both.1]

theorem overridden_worse (lower : List.Forall₂ Worse worse better)
    (flagged : ∀ flag, (∃ r ∈ better, r.carries flag) → ∃ r ∈ worse, r.carries flag)
    (vetoed : Overridden better) : Overridden worse := by
  rcases vetoed with harm | severe
  · exact .inl (flagged _ harm)
  · exact .inr (le_trans severe (severeCount_worse lower))

theorem raisedTier_worse (base : baseTier better hat ≤ baseTier worse hat) :
    raisedTier better hat ≤ bumpTier (raisedTier worse hat) ∧
      (¬ (hasSignificantDisagreement better = true ∧ hasSignificantDisagreement worse = false) →
        raisedTier better hat ≤ raisedTier worse hat) := by
  unfold raisedTier
  cases hasSignificantDisagreement better <;> cases hasSignificantDisagreement worse
  · exact ⟨le_trans base (le_bumpTier _),fun _ => base⟩
  · exact ⟨le_trans base (le_trans (le_bumpTier _) (le_bumpTier _)),fun _ => le_trans base (le_bumpTier _)⟩
  · exact ⟨bumpTier_mono base,fun other => absurd ⟨rfl,rfl⟩ other⟩
  · exact ⟨bumpTier_mono (le_trans base (le_bumpTier _)),fun _ => bumpTier_mono base⟩

theorem max_bumpTier (below : a ≤ bumpTier b) (floor : Tier) : max a floor ≤ bumpTier (max b floor) :=
  max_le (le_trans below (bumpTier_mono (le_max_left _ _))) (le_trans (le_max_right _ _) (le_bumpTier _))

-- The two tiers compared, whatever the floors are
theorem classified_worse (nonneg : ∀ r, 0 ≤ weightOf hat r) (lower : List.Forall₂ Worse worse better)
    (flagged : ∀ flag, (∃ r ∈ better, r.carries flag) → ∃ r ∈ worse, r.carries flag)
    (first : Classified better hat candidates minTier c) (second : Classified worse hat candidates' minTier d) :
    c.tier ≤ bumpTier d.tier ∧
      (¬ (hasSignificantDisagreement better = true ∧ hasSignificantDisagreement worse = false) →
        c.tier ≤ d.tier) := by
  by_cases vetoed : Overridden worse
  · rw [(second.overridden vetoed).1]
    exact ⟨Tier.le_red _,fun _ => Tier.le_red _⟩
  obtain ⟨_,_,least,hatLeast,demanded,hatDemanded,tier⟩ :=
    first.floored fun early => vetoed (overridden_worse lower flagged early)
  obtain ⟨_,_,least',hatLeast',demanded',hatDemanded',tier'⟩ := second.floored vetoed
  rw [demanded] at demanded'
  rw [hatDemanded] at hatDemanded'
  cases demanded'
  cases hatDemanded'
  obtain ⟨near,below⟩ := raisedTier_worse (baseTier_worse nonneg lower)
  rw [tier,tier']
  refine ⟨max_bumpTier (max_bumpTier near _) _,fun calm => ?_⟩
  exact max_le_max (max_le_max (below calm) le_rfl) le_rfl

theorem classify_monotone (runtime : Runtime) (better worse : List EvaluatorResult) (hat : Option HatConfig)
    (candidates : List CandidateAction) (minTier hatMin : Option Tier)
    (configured : hatMinTier hat = hatMin.map Tier.name)
    (nonneg : ∀ entry ∈ (effectiveWeights hat).entries, 0 ≤ entry.2) (lower : List.Forall₂ Worse worse better)
    (readable : ∀ r ∈ better ++ worse, ∃ items, r.flags.iterate = .ok items)
    (flagged : ∀ flag, (∃ r ∈ better, r.carries flag) → ∃ r ∈ worse, r.carries flag) :
    ∃ c d, classify runtime better hat candidates (minTier.map Tier.name) = .ok c ∧
      classify runtime worse hat candidates (minTier.map Tier.name) = .ok d ∧
      (hasSignificantDisagreement better = true ∧ hasSignificantDisagreement worse = false →
        c.tier.rank ≤ d.tier.rank + 1) ∧
      (¬ (hasSignificantDisagreement better = true ∧ hasSignificantDisagreement worse = false) →
        c.tier ≤ d.tier) := by
  have hatDemanded : floorTier (hatMinTier hat) = .ok (hatMin.getD .green) := by rw [configured,floorTier_name]
  obtain ⟨c,first⟩ := classify_returns runtime candidates
    (fun r present => readable r (List.mem_append_left _ present)) (floorTier_name minTier) hatDemanded
  obtain ⟨d,second⟩ := classify_returns runtime candidates
    (fun r present => readable r (List.mem_append_right _ present)) (floorTier_name minTier) hatDemanded
  obtain ⟨near,below⟩ := classified_worse (weightOf_nonneg nonneg) lower flagged (classify_parts first)
    (classify_parts second)
  exact ⟨c,d,first,second,fun _ => le_trans (Tier.le_iff.mp near) (bumpTier_rank _),below⟩

-- Every score at most its counterpart in the divided panel, and nobody disagrees any more
def resigned : List EvaluatorResult :=
  [quiet "tribal" 0,quiet "domain" (-2/5),quiet "self_interest" 0,quiet "authority" 0]

theorem divided_unflagged (flag : String) : ¬ ∃ r ∈ divided, r.carries flag := by
  rintro ⟨r,present,carried⟩
  simp only [divided,List.mem_cons,List.not_mem_nil,or_false] at present
  rcases present with rfl | rfl | rfl | rfl <;> exact quiet_carries _ _ _ carried

-- The first comparison is the excepted one: the better panel is bumped, the worse one is not.
theorem classify_monotone_panel :
    (∃ c d, classify Runtime.ascii divided (some watchful) [] none = .ok c ∧
      classify Runtime.ascii resigned (some watchful) [] none = .ok d ∧
        d.tier < c.tier ∧ c.tier.rank ≤ d.tier.rank + 1) ∧
    ∃ c d, classify Runtime.ascii divided (some watchful) [] none = .ok c ∧
      classify Runtime.ascii alarmed (some watchful) [] none = .ok d ∧ c.tier ≤ d.tier := by
  have weights : ∀ entry ∈ (effectiveWeights (some watchful)).entries, 0 ≤ entry.2 := by decide +kernel
  constructor
  · obtain ⟨c,d,first,second,near,_⟩ := classify_monotone Runtime.ascii divided resigned (some watchful) [] none
      (some .yellow) rfl weights
      (.cons ⟨rfl,by decide +kernel⟩ (.cons ⟨rfl,by decide +kernel⟩ (.cons ⟨rfl,by decide +kernel⟩
        (.cons ⟨rfl,by decide +kernel⟩ .nil))))
      (by simp [divided,resigned,quiet,iterate]) (fun flag found => absurd found (divided_unflagged flag))
    have above : ((classify Runtime.ascii divided (some watchful) [] none).map (·.tier)).toOption = some .orange := by
      decide +kernel
    have under : ((classify Runtime.ascii resigned (some watchful) [] none).map (·.tier)).toOption = some .yellow := by
      decide +kernel
    rw [show classify Runtime.ascii divided (some watchful) [] none = .ok c from first] at above
    rw [show classify Runtime.ascii resigned (some watchful) [] none = .ok d from second] at under
    refine ⟨c,d,first,second,?_,near (by decide +kernel)⟩
    have orange : c.tier = .orange := Option.some_inj.mp above
    have yellow : d.tier = .yellow := Option.some_inj.mp under
    rw [orange,yellow]
    decide
  · obtain ⟨c,d,first,second,_,below⟩ := classify_monotone Runtime.ascii divided alarmed (some watchful) [] none
      (some .yellow) rfl weights
      (.cons ⟨rfl,by decide +kernel⟩ (.cons ⟨rfl,by decide +kernel⟩ (.cons ⟨rfl,by decide +kernel⟩
        (.cons ⟨rfl,by decide +kernel⟩ .nil))))
      (by simp [divided,alarmed,quiet,iterate]) (fun flag found => absurd found (divided_unflagged flag))
    exact ⟨c,d,first,second,below (by decide +kernel)⟩

end Sophia.ClassifierSpec
