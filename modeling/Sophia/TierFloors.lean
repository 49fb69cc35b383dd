import Sophia.Exits

namespace Sophia.AgentLoop
open TracedRun Consequence ConsequenceEngine Evaluators RiskClassifier EscalationGate RiskFloor ParameterGate
open PreflightAck Executor

theorem floorTier_some (named : Tier.ofName? text = some tier) : floorTier (some text) = .ok tier := by
  have same := Tier.name_of_ofName named
  subst same
  exact floorTier_name (some tier)

-- Of the two minimums combined, the combination demands at least each.
theorem maxTier_demands (combined : maxTier a (floor.map Tier.name) = .ok both) (demanded : floorTier both = .ok least) :
    (∀ text tier, a = some text → Tier.ofName? text = some tier → tier ≤ least) ∧
      (∀ tier, floor = some tier → tier ≤ least) := by
  cases a with
  | none =>
    cases combined
    refine ⟨fun _ _ absent => (nomatch absent),fun tier same => ?_⟩
    subst same
    cases (floorTier_name (some tier)).symm.trans demanded
    exact le_refl _
  | some text => cases floor with
    | none =>
      cases combined
      refine ⟨fun other tier same named => ?_,fun _ absent => (nomatch absent)⟩
      cases same
      cases (floorTier_some named).symm.trans demanded
      exact le_refl _
    | some floor =>
      obtain ⟨left,leftKnown,combined⟩ := except_bind.mp combined
      obtain ⟨right,rightKnown,combined⟩ := except_bind.mp combined
      rw [Tier.lookup_name] at rightKnown
      cases rightKnown
      have named := Tier.lookup_ok.mp leftKnown
      cases combined
      by_cases below : floor ≤ left
      · rw [if_pos below] at demanded
        cases (floorTier_some named).symm.trans demanded
        refine ⟨fun other tier same known => ?_,fun tier same => by cases same; exact below⟩
        cases same
        cases named.symm.trans known
        exact le_refl _
      · rw [if_neg below] at demanded
        cases (floorTier_name (some floor)).symm.trans demanded
        refine ⟨fun other tier same known => ?_,fun tier same => by cases same; exact le_refl _⟩
        cases same
        cases named.symm.trans known
        exact (not_le.mp below).le

section
variable {agent : Agent} {env : Environment} {request : Request} {cache : Cache} {prepared : Prepared}

theorem escalation_demands (fired : escalation.triggered = true) (severity : Tier.ofName? escalation.minTier = some tier) :
    floorTier (escalationMinTier escalation) = .ok tier := by
  rw [escalationMinTier,if_pos fired]
  exact floorTier_some severity

-- The panel's tier reaches every minimum that was merged into it.
theorem JudgedFirst.reaches (judged : JudgedFirst agent env prepared floor cache decision c tree) :
    (∀ tier, floor = some tier → tier ≤ decision.riskClassification.tier) ∧
    (∀ tier, prepared.escalation.triggered = true → Tier.ofName? prepared.escalation.minTier = some tier →
      tier ≤ decision.riskClassification.tier) := by
  obtain ⟨minTier,combined,classified⟩ := judged.classified
  have parts := classify_parts classified
  by_cases vetoed : Overridden decision.evaluationResults
  · rw [(parts.overridden vetoed).1]
    exact ⟨fun _ _ => Tier.le_red _,fun _ _ _ => Tier.le_red _⟩
  obtain ⟨_,_,least,_,demanded,_,_⟩ := parts.floored vetoed
  obtain ⟨fromEscalation,fromFloor⟩ := maxTier_demands combined demanded
  have reached := parts.least_le demanded
  refine ⟨fun tier same => le_trans (fromFloor tier same) reached,fun tier fired severity => ?_⟩
  refine le_trans (fromEscalation _ tier ?_ severity) reached
  rw [escalationMinTier,if_pos fired]

theorem floor_empty {proposal : Proposal} (empty : proposal.candidates = []) (registry : ToolRegistry) :
    getProposalFloor proposal.candidates registry = none := by rw [empty]; rfl

theorem top_empty {proposal : Proposal} (empty : proposal.candidates = []) : defensiveTop proposal = none := by
  rw [defensiveTop,empty]; rfl

-- The panel without a candidate answers GREEN, whatever was demanded.
theorem Exit.empty (exit : Exit agent env request prepared cache result) (empty : prepared.proposal.candidates = []) :
    result.riskClassification.tier = .green ∧ result.bypassed = false := by
  cases exit with
  | refused red => rw [floor_empty empty] at red; cases red
  | evaluated top _ shape => rw [top_empty empty] at shape; cases shape
  | bypassed top _ shape => rw [top_empty empty] at shape; cases shape
  | judged judged _ _ decided executed rc _ notBypassed =>
    rw [rc,(judge_empty empty decided).1]
    exact ⟨rfl,notBypassed⟩

theorem Exit.sameTier (exit : Exit agent env request prepared cache result) :
    result.execution.riskTier = result.riskClassification.tier := by
  cases exit with
  | refused _ refused => rw [refused.executionTier,refused.tier]
  | evaluated top _ _ _ defended => exact defended.sameTier
  | bypassed top _ _ _ defended => exact defended.sameTier
  | judged judged _ _ _ executed rc => rw [tiered_tier executed,rc]

theorem process_sameTier (returned : (process agent env request cache).value = .ok result) :
    result.execution.riskTier = result.riskClassification.tier := by
  obtain ⟨_,_,_,exit⟩ := process_exit returned
  exact exit.sameTier

-- With a candidate there is a tree, and no exit forgets a triggered minimum.
theorem Exit.escalated (exit : Exit agent env request prepared cache result) (some_ : prepared.proposal.candidates ≠ [])
    (fired : prepared.escalation.triggered = true) (severity : Tier.ofName? prepared.escalation.minTier = some least) :
    result.bypassed = false ∧ least ≤ result.riskClassification.tier := by
  cases exit with
  | refused _ refused => rw [refused.tier]; exact ⟨refused.bypassed,Tier.le_red _⟩
  | evaluated top _ _ _ _ notBypassed assessed tier =>
    rw [tier]
    exact ⟨notBypassed,(classify_parts assessed.classified).least_le (escalation_demands fired severity)⟩
  | bypassed top _ _ skipped => rw [shouldRunSituationEvaluation,fired] at skipped; cases skipped
  | judged judged _ _ decided executed rc _ notBypassed =>
    obtain ⟨c,rest,shape⟩ := List.exists_cons_of_ne_nil some_
    obtain ⟨tree,first,_⟩ := judge_parts shape decided
    rw [rc]
    exact ⟨notBypassed,first.reaches.2 least fired severity⟩

theorem escalation_floor (agent : Agent) (env : Environment) (request : Request) (cache : Cache) (hat : HatConfig)
    (intent : Intent) (candidates : List CandidateAction) (least : Tier) (result : PipelineResult)
    (equipped : agent.hat = some hat) (parsed : env.parse request.message = .ok intent)
    (proposed : env.propose intent = .ok candidates) (fired : (escalationOf agent request hat).triggered = true)
    (severity : Tier.ofName? (escalationOf agent request hat).minTier = some least)
    (returned : (process agent env request cache).value = .ok result) :
    (result.bypassed = false ∧ least ≤ result.riskClassification.tier ∧ least ≤ result.execution.riskTier) ↔
      (candidates ≠ [] ∨ least = .green) := by
  obtain ⟨prepared,_,ready,exit⟩ := process_exit returned
  obtain rfl := ready.worn equipped
  obtain ⟨rfl,shape⟩ := ready.given parsed proposed
  rw [← ready.escalation] at fired severity
  have empty := postGateProposal_empty agent prepared.intent candidates
  rw [← shape] at empty
  rw [exit.sameTier]
  by_cases gone : candidates = []
  · obtain ⟨green,notBypassed⟩ := exit.empty (empty.mpr gone)
    simp [green,notBypassed,gone]
  · obtain ⟨notBypassed,reached⟩ := exit.escalated (fun none => gone (empty.mp none)) fired severity
    simp [notBypassed,reached,gone]

def legalHat : HatConfig where
  manifest := {name := "customer-service"}
  constraints := {escalationTriggers := ["customer threatens legal action"]}

def legalAgent : Agent := {runtime := .ascii,hat := some legalHat,registry := .empty}
def legalRequest : Request := {message := "I will take legal action"}
def complaint : Intent := {actionRequested := "complaint",target := none}

theorem escalation_floor_converse : ∃ result,
    (process legalAgent (calm complaint [{toolName := "converse"}]) legalRequest ∅).value = .ok result ∧
      result.bypassed = false ∧ .orange ≤ result.riskClassification.tier ∧ .orange ≤ result.execution.riskTier := by
  have computed : ((process legalAgent (calm complaint [{toolName := "converse"}]) legalRequest ∅).value.map
      (·.bypassed)).toOption = some false := by decide +kernel
  obtain ⟨result,returned,_⟩ := toOption_map.mp computed
  exact ⟨result,returned,(escalation_floor legalAgent _ legalRequest ∅ legalHat complaint _ .orange result rfl rfl rfl
    (by decide) (by decide) returned).mpr (.inl (List.cons_ne_nil _ _))⟩

-- The proposer names no candidate, and the threat is answered as GREEN.
theorem escalation_floor_forgotten : (escalationOf legalAgent legalRequest legalHat).triggered = true ∧
    (escalationOf legalAgent legalRequest legalHat).minTier = "ORANGE" ∧
    ∃ result, (process legalAgent (calm complaint []) legalRequest ∅).value = .ok result ∧
      ¬ .orange ≤ result.riskClassification.tier ∧ ¬ .orange ≤ result.execution.riskTier := by
  have computed : ((process legalAgent (calm complaint []) legalRequest ∅).value.map fun result =>
      (result.riskClassification.tier,result.execution.riskTier)).toOption = some (.green,.green) := by decide +kernel
  obtain ⟨result,returned,tiers⟩ := toOption_map.mp computed
  refine ⟨by decide,by decide,result,returned,?_⟩
  rw [(Prod.mk.inj tiers).1,(Prod.mk.inj tiers).2]
  decide

-- What a tier is reached by, read off the answers and the minimums
def Reached (results : List EvaluatorResult) (hat : Option HatConfig) (minTier : Option String) (tier : Tier) : Prop :=
  Overridden results ∨ tier ≤ raisedTier results hat ∨ (∃ least, floorTier minTier = .ok least ∧ tier ≤ least) ∨
    ∃ least, floorTier (hatMinTier hat) = .ok least ∧ tier ≤ least

theorem reached_iff (classified : classify runtime results hat candidates minTier = .ok c) (tier : Tier) :
    tier ≤ c.tier ↔ Reached results hat minTier tier := by
  have parts := classify_parts classified
  by_cases vetoed : Overridden results
  · rw [(parts.overridden vetoed).1]
    exact ⟨fun _ => .inl vetoed,fun _ => Tier.le_red _⟩
  obtain ⟨_,_,least,hatLeast,demanded,hatDemanded,top⟩ := parts.floored vetoed
  rw [top,le_max_iff,le_max_iff,Reached,demanded,hatDemanded]
  simp only [vetoed,false_or,Except.ok.injEq,exists_eq_left',or_assoc]

-- The situation is evaluated, and the evaluation comes out at the floor by itself.
def SituationReaches (agent : Agent) (env : Environment) (request : Request) (hat : HatConfig) (intent : Intent)
    (tier : Tier) : Prop :=
  shouldRunSituationEvaluation intent (escalationOf agent request hat) = true ∧
    ∃ results, situationScores agent env request hat intent = .ok results ∧
      Reached results (some hat) (escalationMinTier (escalationOf agent request hat)) tier

theorem Exit.proposal (exit : Exit agent env request prepared cache result) : result.proposal = prepared.proposal := by
  cases exit with
  | refused _ refused => exact refused.proposal
  | evaluated top _ _ _ defended => exact defended.proposal
  | bypassed top _ _ _ defended => exact defended.proposal
  | judged judged _ _ _ _ _ proposal => exact proposal

-- Off the defensive exits the floor holds.
theorem Exit.floored (exit : Exit agent env request prepared cache result) (acting : defensiveTop prepared.proposal = none)
    (floor : getProposalFloor prepared.proposal.candidates agent.registry = some tier) :
    tier ≤ result.riskClassification.tier := by
  cases exit with
  | refused _ refused => rw [refused.tier]; exact Tier.le_red _
  | evaluated top _ shape => rw [acting] at shape; cases shape
  | bypassed top _ shape => rw [acting] at shape; cases shape
  | judged judged _ _ decided executed rc =>
    have some_ : prepared.proposal.candidates ≠ [] := fun empty => by
      rw [floor_empty empty] at floor; cases floor
    obtain ⟨c,rest,shape⟩ := List.exists_cons_of_ne_nil some_
    obtain ⟨tree,first,_⟩ := judge_parts shape decided
    rw [rc]
    exact first.reaches.1 tier floor

-- On them it holds when the situation's own evaluation reaches it, and for GREEN.
theorem Exit.defended (exit : Exit agent env request prepared cache result)
    (escalation : prepared.escalation = escalationOf agent request prepared.hat)
    (waiting : defensiveTop prepared.proposal = some top)
    (floor : getProposalFloor prepared.proposal.candidates agent.registry = some tier) (low : tier ≠ .red) :
    tier ≤ result.riskClassification.tier ↔
      tier = .green ∨ SituationReaches agent env request prepared.hat prepared.intent tier := by
  rw [SituationReaches,← escalation]
  cases exit with
  | refused red => rw [floor] at red; cases red; exact absurd rfl low
  | evaluated _ _ _ run _ _ assessed final =>
    rw [final,reached_iff assessed.classified]
    constructor
    · exact fun reached => .inr ⟨run,_,assessed.scored,reached⟩
    · intro cause
      rcases cause with rfl | ⟨_,results,scored,reached⟩
      · exact (reached_iff assessed.classified _).mp (Tier.green_le _)
      · cases assessed.scored.symm.trans scored
        exact reached
  | bypassed _ _ _ skipped _ _ final =>
    rw [final,Tier.le_green]
    constructor
    · exact fun green => .inl green
    · intro cause
      rcases cause with green | ⟨run,_⟩
      · exact green
      · cases run.symm.trans skipped
  | judged _ _ acting => rw [waiting] at acting; cases acting

theorem risk_floor (agent : Agent) (env : Environment) (request : Request) (cache : Cache) (hat : HatConfig)
    (intent : Intent) (candidates : List CandidateAction) (result : PipelineResult)
    (equipped : agent.hat = some hat) (parsed : env.parse request.message = .ok intent)
    (proposed : env.propose intent = .ok candidates) (returned : (process agent env request cache).value = .ok result) :
    (∀ floor, getProposalFloor result.proposal.candidates agent.registry = some floor →
      floor ≤ result.riskClassification.tier ∧ floor ≤ result.execution.riskTier) ↔
    ∀ floor, getProposalFloor (postGateProposal agent intent candidates).candidates agent.registry = some floor →
      defensiveTop (postGateProposal agent intent candidates) = none ∨ floor = .green ∨ floor = .red ∨
        SituationReaches agent env request hat intent floor := by
  obtain ⟨prepared,_,ready,exit⟩ := process_exit returned
  obtain rfl := ready.worn equipped
  obtain ⟨rfl,shape⟩ := ready.given parsed proposed
  rw [exit.proposal,exit.sameTier,← shape]
  refine forall_congr' fun floor => imp_congr_right fun found => ?_
  rw [and_self]
  cases waiting : defensiveTop prepared.proposal with
  | none => simp [exit.floored waiting found]
  | some top =>
    by_cases red : floor = .red
    · subst red
      have tier : result.riskClassification.tier = .red := by
        cases exit with
        | refused _ refused => exact refused.tier
        | evaluated _ low => exact absurd found low
        | bypassed _ low => exact absurd found low
        | judged _ low => exact absurd found low
      simp [tier]
    · simp [exit.defended ready.escalation waiting found red,red]

def refundTool : Tool := {name := "process_refund",riskFloor := some .orange}
def refundAgent : Agent := {runtime := .ascii,hat := some legalHat,registry := ToolRegistry.empty.register refundTool}
def inquiry : Intent := {actionRequested := "general_inquiry",target := none}
def greeting : Request := {message := "Good morning"}

theorem risk_floor_acting : ∃ result,
    (process refundAgent (calm inquiry [{toolName := "process_refund"}]) greeting ∅).value = .ok result ∧
      ∀ floor, getProposalFloor result.proposal.candidates refundAgent.registry = some floor →
        floor ≤ result.riskClassification.tier ∧ floor ≤ result.execution.riskTier := by
  have computed : ((process refundAgent (calm inquiry [{toolName := "process_refund"}]) greeting ∅).value.map
      (·.bypassed)).toOption = some false := by decide +kernel
  obtain ⟨result,returned,_⟩ := toOption_map.mp computed
  exact ⟨result,returned,(risk_floor refundAgent _ greeting ∅ legalHat inquiry _ result rfl rfl rfl returned).mpr
    fun floor _ => .inl (by decide)⟩

-- The refund stands behind the small talk, and the floor it declares is never asked for.
theorem risk_floor_bypassed : ∃ result, (process refundAgent
    (calm inquiry [{toolName := "converse"},{toolName := "process_refund"}]) greeting ∅).value = .ok result ∧
      getProposalFloor result.proposal.candidates refundAgent.registry = some .orange ∧
      result.riskClassification.tier = .green ∧ result.execution.riskTier = .green := by
  have computed : ((process refundAgent (calm inquiry [{toolName := "converse"},{toolName := "process_refund"}])
      greeting ∅).value.map fun result => (getProposalFloor result.proposal.candidates refundAgent.registry,
        result.riskClassification.tier,result.execution.riskTier)).toOption = some (some .orange,.green,.green) := by
    decide +kernel
  obtain ⟨result,returned,same⟩ := toOption_map.mp computed
  simp only [Prod.mk.injEq] at same
  exact ⟨result,returned,same⟩

end

end Sophia.AgentLoop
