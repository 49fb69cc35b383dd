import Sophia.RiskClassifier

namespace Sophia.TribalVeto
open Json Evaluators RiskClassifier

def harmFlag : String := "catastrophic_harm"

theorem enforceCatastrophe_parts (enforced : enforceCatastrophe before = .ok after)
    (low : before.score ≤ catastrophicScoreThreshold) :
    after.score = before.score ∧
      ((contains harmFlag before.flags = .ok true ∧ after.flags = before.flags) ∨
        ∃ items, before.flags = .arr items ∧ after.flags = .arr (items ++ [.str harmFlag])) := by
  unfold enforceCatastrophe at enforced
  rw [if_pos low] at enforced
  obtain ⟨flagged,found,enforced⟩ := except_bind.mp enforced
  cases flagged with
  | true => cases enforced; exact ⟨rfl,.inl ⟨found,rfl⟩⟩
  | false =>
    obtain ⟨flags,appended,enforced⟩ := except_bind.mp enforced
    cases enforced
    cases shape : before.flags with
    | arr items =>
      rw [shape] at appended
      cases appended
      exact ⟨rfl,.inr ⟨items,rfl,rfl⟩⟩
    | _ => rw [shape] at appended; cases appended

theorem enforceCatastrophe_score (enforced : enforceCatastrophe before = .ok after) : after.score = before.score := by
  by_cases low : before.score ≤ catastrophicScoreThreshold
  · exact (enforceCatastrophe_parts enforced low).1
  · unfold enforceCatastrophe at enforced
    rw [if_neg low] at enforced
    cases enforced; rfl

-- The flags of a low tribal result: what the LLM wrote when that already passes the test,
-- and a list with the flag appended otherwise.
theorem tribal_flags (evaluated : evaluateTribal parsed = .ok tribal) (low : tribal.score ≤ catastrophicScoreThreshold) :
    ∃ flags, parsed.get "flags" (.arr []) = .ok flags ∧
      ((contains harmFlag flags = .ok true ∧ tribal.flags = flags) ∨
        ∃ items, flags = .arr items ∧ tribal.flags = .arr (items ++ [.str harmFlag])) := by
  obtain ⟨read,parsedOk,evaluated⟩ := except_bind.mp evaluated
  obtain ⟨enforced,enforcement,evaluated⟩ := except_bind.mp evaluated
  obtain ⟨capped,first,second⟩ := except_bind.mp evaluated
  have lowCapped : capped.score ≤ catastrophicScoreThreshold := by
    rw [← capScore_below second low (by unfold catastrophicScoreThreshold; norm_num)]; exact low
  have lowEnforced : enforced.score ≤ catastrophicScoreThreshold := by
    rw [← capScore_below first lowCapped (by unfold catastrophicScoreThreshold; norm_num)]; exact lowCapped
  have lowRead : read.score ≤ catastrophicScoreThreshold := by
    rw [← enforceCatastrophe_score enforcement]; exact lowEnforced
  have kept : tribal.flags = enforced.flags := by rw [(capScore_parts second).2.1,(capScore_parts first).2.1]
  refine ⟨read.flags,(parseResult_parts parsedOk).2.2.2,?_⟩
  rw [kept]
  exact (enforceCatastrophe_parts enforcement lowRead).2

-- A text that contains the flag passes the test, but the classifier sees its characters.
theorem tribal_carries (evaluated : evaluateTribal parsed = .ok tribal)
    (low : tribal.score ≤ catastrophicScoreThreshold) :
    (∃ items, tribal.flags.iterate = .ok items) ∧
      (tribal.carries harmFlag ↔ ∀ text, parsed.get "flags" (.arr []) ≠ .ok (.str text)) := by
  obtain ⟨flags,read,⟨found,kept⟩ | ⟨items,rfl,appended⟩⟩ := tribal_flags evaluated low
  · rw [EvaluatorResult.carries,kept,read]
    cases flags with
    | arr items =>
      have present : .str harmFlag ∈ items := any_isStr.mp (Except.ok.inj found)
      exact ⟨⟨items,rfl⟩,fun _ text same => (nomatch same),fun _ => ⟨items,rfl,present⟩⟩
    | str value =>
      refine ⟨⟨_,rfl⟩,fun ⟨items,taken,present⟩ => ?_,fun other => absurd rfl (other value)⟩
      exact absurd present (str_iterate_absent (by decide) taken)
    | obj fields =>
      obtain ⟨field,present,same⟩ := List.any_eq_true.mp (Except.ok.inj found)
      refine ⟨⟨_,rfl⟩,fun _ text same => (nomatch same),fun _ => ⟨_,rfl,?_⟩⟩
      exact List.mem_map.mpr ⟨field,present,by rw [beq_iff_eq.mp same]⟩
    | _ => cases found
  · rw [EvaluatorResult.carries,appended,read]
    exact ⟨⟨_,rfl⟩,fun _ text same => (nomatch same),fun _ => ⟨_,rfl,by simp⟩⟩

-- A hat whose green threshold is the score itself: nothing but an override gives RED under it.
def lenient (score : ℚ) : HatConfig where
  manifest := {name := "lenient"}
  evaluatorConfig := {riskThresholds := AList.singleton "green" score}

theorem lenient_threshold (score : ℚ) :
    (effectiveThresholds (some (lenient score))).lookup "green" = some score := by
  have present : "green" ∈ AList.singleton (β := fun _ : String => ℚ) "green" score := by
    rw [AList.mem_keys,AList.keys_singleton]
    exact List.mem_singleton_self _
  have table : effectiveThresholds (some (lenient score)) = AList.singleton "green" score ∪ defaultThresholds := rfl
  rw [table,AList.lookup_union_left present]
  rfl

theorem lenient_green (results : List EvaluatorResult) :
    baseTier results (some (lenient (computeWeightedScore results (some (lenient 0))))) = .green := by
  have reached : ((effectiveThresholds (some (lenient (computeWeightedScore results (some (lenient 0)))))).lookup
      "green").getD (-1/10) ≤ computeWeightedScore results (some (lenient
        (computeWeightedScore results (some (lenient 0))))) := by
    rw [lenient_threshold]
    exact le_refl _
  rw [baseTier,scoreToTier,if_pos reached]

-- Only an override is RED under every hat and every minimum.
theorem overridden_of_red
    (red : ∀ hat : HatConfig, ∃ c, classify runtime results (some hat) [] none = .ok c ∧ c.tier = .red) :
    Overridden results := by
  by_contra calm
  obtain ⟨c,returned,tier⟩ := red (lenient (computeWeightedScore results (some (lenient 0))))
  obtain ⟨_,_,least,hatLeast,demanded,hatDemanded,top⟩ := (classify_parts returned).floored calm
  cases demanded
  cases hatDemanded
  rw [tier,raisedTier,lenient_green] at top
  revert top
  cases hasSignificantDisagreement results <;> decide

theorem severeCount_cons (low : tribal.score ≤ catastrophicScoreThreshold) (self domain authority : EvaluatorResult) :
    severeCount [self,tribal,domain,authority] = severeCount [self,domain,authority] + 1 := by
  have severe : tribal.score ≤ -1/2 := by
    unfold catastrophicScoreThreshold at low
    linarith
  simp only [severeCount,List.countP_cons,decide_eq_true_iff,if_pos severe]
  omega

theorem tribal_veto (parsed : Json) (tribal self domain authority : EvaluatorResult)
    (evaluated : evaluateTribal parsed = .ok tribal) (low : tribal.score ≤ -4/5) :
    (∀ runtime hat candidates minTier, ∃ c,
      classify runtime [self,tribal,domain,authority] hat candidates minTier = .ok c ∧ c.tier = .red) ↔
    (∀ r ∈ [self,domain,authority], ∃ items, r.flags.iterate = .ok items) ∧
      ((∀ text, parsed.get "flags" (.arr []) ≠ .ok (.str text)) ∨
        (∃ r ∈ [self,domain,authority], r.carries "catastrophic_harm") ∨ 2 ≤ severeCount [self,domain,authority]) := by
  obtain ⟨iterates,carries⟩ := tribal_carries evaluated low
  have counted := severeCount_cons low self domain authority
  have overridden : Overridden [self,tribal,domain,authority] ↔
      (∀ text, parsed.get "flags" (.arr []) ≠ .ok (.str text)) ∨
        (∃ r ∈ [self,domain,authority], r.carries "catastrophic_harm") ∨ 2 ≤ severeCount [self,domain,authority] := by
    rw [Overridden,counted,← carries]
    simp only [harmFlag,List.mem_cons,List.not_mem_nil,or_false,exists_eq_or_imp,exists_eq_left]
    have shift : 3 ≤ severeCount [self,domain,authority] + 1 ↔ 2 ≤ severeCount [self,domain,authority] := by omega
    rw [shift]
    tauto
  constructor
  · intro red
    refine ⟨fun r present => ?_,overridden.mp (overridden_of_red fun hat => red Runtime.ascii (some hat) [] none)⟩
    obtain ⟨c,returned,_⟩ := red Runtime.ascii none [] none
    have readable := allFlags_returns.mp ⟨_,(classify_parts returned).flags⟩
    simp only [List.mem_cons,List.not_mem_nil,or_false] at present
    rcases present with rfl | rfl | rfl <;> exact readable _ (by simp)
  · intro both runtime hat candidates minTier
    obtain ⟨readable,condition⟩ := both
    have all : ∀ r ∈ [self,tribal,domain,authority], ∃ items, r.flags.iterate = .ok items := by
      intro r present
      simp only [List.mem_cons,List.not_mem_nil,or_false] at present
      rcases present with rfl | rfl | rfl | rfl
      · exact readable _ (by simp)
      · exact iterates
      · exact readable _ (by simp)
      · exact readable _ (by simp)
    obtain ⟨c,returned⟩ := classify_overridden all (overridden.mpr condition)
    exact ⟨c,returned,((classify_parts returned).overridden (overridden.mpr condition)).1⟩

theorem tribal_veto_absent_flags : ∃ tribal, evaluateTribal (.obj [("score",.float (-9/10))]) = .ok tribal ∧
    ∀ runtime hat candidates minTier, ∃ c, classify runtime [quiet "self_interest" 1,tribal,quiet "domain" 1,
      quiet "authority" 1] hat candidates minTier = .ok c ∧ c.tier = .red := by
  have computed : ((evaluateTribal (.obj [("score",.float (-9/10))])).map fun tribal =>
      decide (tribal.score ≤ -4/5)).toOption = some true := by decide +kernel
  obtain ⟨tribal,evaluated,low⟩ := toOption_map.mp computed
  refine ⟨tribal,evaluated,(tribal_veto _ tribal _ _ _ evaluated (of_decide_eq_true low)).mpr ⟨?_,.inl ?_⟩⟩
  · simp [quiet,iterate]
  · intro text same
    cases same

def textFlags : Json := .obj [("score",.float (-9/10)),("flags",.str "catastrophic_harm")]

theorem tribal_veto_text : ∃ tribal, evaluateTribal textFlags = .ok tribal ∧ tribal.score ≤ -4/5 ∧
    ∃ c, classify Runtime.ascii [quiet "self_interest" 1,tribal,quiet "domain" 1,quiet "authority" 1] none [] none = .ok c ∧
      c.tier ≠ .red := by
  have computed : ((evaluateTribal textFlags).bind fun tribal => (classify Runtime.ascii
      [quiet "self_interest" 1,tribal,quiet "domain" 1,quiet "authority" 1] none [] none).map fun c =>
        (decide (tribal.score ≤ -4/5),c.tier)).toOption = some (true,.yellow) := by decide +kernel
  obtain ⟨tribal,evaluated,computed⟩ := toOption_bind.mp computed
  obtain ⟨c,classified,same⟩ := toOption_map.mp computed
  simp only [Prod.mk.injEq,decide_eq_true_iff] at same
  exact ⟨tribal,evaluated,same.1,c,classified,by rw [same.2]; decide⟩

end Sophia.TribalVeto
