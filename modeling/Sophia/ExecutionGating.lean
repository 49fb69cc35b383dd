import Sophia.TierFloors

namespace Sophia.AgentLoop
open TracedRun Consequence ConsequenceEngine Evaluators RiskClassifier EscalationGate RiskFloor ParameterGate
open PreflightAck Executor

section
variable {agent : Agent} {env : Environment} {request : Request} {cache : Cache} {prepared : Prepared}

-- Where the calls of a run come from: the panel decided, and its tier was executed.
structure CalledBy (agent : Agent) (env : Environment) (request : Request) (cache : Cache) (prepared : Prepared)
    (judged : Judged) : Prop where
  ready : PreparedFor agent env request prepared
  acting : defensiveTop prepared.proposal = none
  decided : (judge agent env prepared (getProposalFloor prepared.proposal.candidates agent.registry) cache).value =
    .ok judged
  traced : ∀ event ∈ (judge agent env prepared (getProposalFloor prepared.proposal.candidates agent.registry) cache).trace,
    event ∈ (process agent env request cache).trace
  listed : calls (process agent env request) cache =
    calls (tieredExecute agent.registry env.perform agent.runtime judged.riskClassification prepared.proposal
      judged.consequenceTrees)
      (judge agent env prepared (getProposalFloor prepared.proposal.candidates agent.registry) cache).state
  concluded : ∀ result, (process agent env request cache).value = .ok result →
    result.riskClassification = judged.riskClassification

theorem route_panel (low : getProposalFloor prepared.proposal.candidates agent.registry ≠ some .red)
    (acting : defensiveTop prepared.proposal = none) : route agent env request prepared =
      panel agent env request prepared (getProposalFloor prepared.proposal.candidates agent.registry) := by
  unfold route
  rw [if_neg low,acting]

theorem judged_calls (ready : (prepare agent env request cache).value = .ok prepared)
    (low : getProposalFloor prepared.proposal.candidates agent.registry ≠ some .red)
    (acting : defensiveTop prepared.proposal = none)
    (decided : (judge agent env prepared (getProposalFloor prepared.proposal.candidates agent.registry) cache).value =
      .ok judged) :
    calls (process agent env request) cache =
      calls (tieredExecute agent.registry env.perform agent.runtime judged.riskClassification prepared.proposal
        judged.consequenceTrees)
        (judge agent env prepared (getProposalFloor prepared.proposal.candidates agent.registry) cache).state := by
  rw [process_calls,ready]
  dsimp only
  rw [if_pos ⟨low,acting⟩,panel_calls,decided]

theorem defended_calls (ready : (prepare agent env request cache).value = .ok prepared)
    (waiting : defensiveTop prepared.proposal = some top) : calls (process agent env request) cache = [] := by
  rw [process_calls,ready]
  dsimp only
  rw [if_neg fun open_ => by rw [waiting] at open_; cases open_.2]

theorem called_or_silent (agent : Agent) (env : Environment) (request : Request) (cache : Cache) :
    calls (process agent env request) cache = [] ∨
      ∃ prepared judged, CalledBy agent env request cache prepared judged := by
  cases ready : (prepare agent env request cache).value with
  | error e =>
    left
    rw [process_calls,ready]
  | ok prepared =>
    by_cases open_ : getProposalFloor prepared.proposal.candidates agent.registry ≠ some .red ∧
        defensiveTop prepared.proposal = none
    · obtain ⟨low,acting⟩ := open_
      cases decided : (judge agent env prepared (getProposalFloor prepared.proposal.candidates agent.registry)
          cache).value with
      | error e =>
        left
        rw [process_calls,ready]
        dsimp only
        rw [if_pos ⟨low,acting⟩,panel_calls,decided]
      | ok judged =>
        right
        refine ⟨prepared,judged,prepare_parts ready,acting,decided,fun event present => ?_,
          judged_calls ready low acting decided,fun result returned => ?_⟩
        · apply mem_trace_right ready
          rw [route_panel low acting,prepare_keeps agent env request]
          exact mem_trace_left present
        · obtain ⟨again,same,routed⟩ := bind_returns.mp returned
          cases ready.symm.trans same
          rw [route_panel low acting,prepare_keeps agent env request] at routed
          obtain ⟨other,once,concluded⟩ := bind_returns.mp routed
          cases decided.symm.trans once
          exact (conclude_parts concluded).classification
    · left
      rw [process_calls,ready]
      exact if_neg open_

theorem defensiveTop_none (acting : defensiveTop proposal = none) (shape : proposal.candidates = first :: rest) :
    first.toolName ≠ "converse" ∧ first.toolName ≠ "escalate_to_human" := by
  rw [defensiveTop,shape,List.head?_cons,Option.filter_eq_none_iff] at acting
  have plain := acting first rfl
  simpa [isDefensive] using plain

theorem tiered_once {registry : ToolRegistry} {perform : String → Params → Except PyError ToolResult} {runtime : Runtime}
    (rc : RiskClassification) (proposal : Proposal) (trees : List ConsequenceTree) (cache : Cache) :
    (calls (tieredExecute registry perform runtime rc proposal trees) cache).length ≤ 1 := by
  rw [tiered_calls,execute_calls,escalation_calls]
  cases rc.tier with
  | green =>
    dsimp only
    cases proposal.candidates with
    | nil => exact Nat.zero_le _
    | cons first rest => dsimp only; split <;> simp
  | yellow => exact Nat.zero_le _
  | orange => dsimp only; split <;> simp
  | red => exact Nat.zero_le _

-- Any other tool than the one the escalation names is called at GREEN, and it is the first candidate's.
theorem tiered_acting {registry : ToolRegistry} {perform : String → Params → Except PyError ToolResult} {runtime : Runtime}
    {rc : RiskClassification} {proposal : Proposal} {trees : List ConsequenceTree}
    (called : call ∈ calls (tieredExecute registry perform runtime rc proposal trees) cache)
    (acting : call.1 ≠ "escalate_to_human") : rc.tier = .green ∧ ∃ first rest, proposal.candidates = first :: rest ∧
      call = (first.toolName,first.parameters) := by
  rw [tiered_calls,execute_calls,escalation_calls] at called
  cases tier : rc.tier with
  | green =>
    rw [tier] at called
    cases shape : proposal.candidates with
    | nil => rw [shape] at called; cases called
    | cons first rest =>
      rw [shape] at called
      dsimp only at called
      split at called
      · cases called
      · exact ⟨rfl,first,rest,rfl,List.mem_singleton.mp called⟩
  | yellow => rw [tier] at called; cases called
  | orange =>
    rw [tier] at called
    dsimp only at called
    split at called
    · exact absurd (congrArg Prod.fst (List.mem_singleton.mp called)) acting
    · cases called
  | red => rw [tier] at called; cases called

theorem floorTier_green (demanded : floorTier minTier = .ok .green) :
    truthyText minTier = none ∨ truthyText minTier = some "GREEN" := by
  unfold floorTier at demanded
  split at demanded
  · exact .inl ‹_›
  · next text present =>
    rw [present,Tier.name_of_ofName (Tier.index_ok.mp demanded)]
    exact .inr rfl

-- A panel that came out GREEN was under no minimum above GREEN.
theorem JudgedFirst.unfloored (judged : JudgedFirst agent env prepared floor cache decision c tree)
    (green : decision.riskClassification.tier = .green) :
    height floor ≤ Tier.green ∧
    (prepared.escalation.triggered = true → ∀ tier, Tier.ofName? prepared.escalation.minTier = some tier → tier = .green) ∧
    (truthyText prepared.hat.evaluatorConfig.minTier = none ∨
      truthyText prepared.hat.evaluatorConfig.minTier = some "GREEN") := by
  obtain ⟨fromFloor,fromEscalation⟩ := judged.reaches
  rw [green] at fromFloor fromEscalation
  refine ⟨?_,fun fired tier severity => Tier.le_green.mp (fromEscalation tier fired severity),?_⟩
  · cases floor with
    | none => exact bot_le
    | some tier => exact WithBot.coe_le_coe.mpr (fromFloor tier rfl)
  · obtain ⟨minTier,_,classified⟩ := judged.classified
    have parts := classify_parts classified
    have calm : ¬ Overridden decision.evaluationResults := fun vetoed => by
      have red := (parts.overridden vetoed).1
      rw [green] at red
      cases red
    obtain ⟨_,_,_,hatLeast,_,demanded,_⟩ := parts.floored calm
    have low := parts.hatLeast_le demanded
    rw [green,Tier.le_green] at low
    subst low
    exact floorTier_green demanded

-- What stands before a call: no minimum above GREEN from the tools, the triggers or the hat.
-- An empty minimum of the hat counts as none, as the classifier reads it.
structure Cleared (agent : Agent) (request : Request) (hat : HatConfig) (proposal : Proposal) (first : CandidateAction) :
    Prop where
  top : proposal.candidates.head? = some first
  acting : first.toolName ≠ "converse" ∧ first.toolName ≠ "escalate_to_human"
  floors : ∀ candidate ∈ proposal.candidates, ∀ floor, floorOf agent.registry candidate = some floor → floor = .green
  escalation : (escalationOf agent request hat).triggered = true → ∀ tier,
    Tier.ofName? (escalationOf agent request hat).minTier = some tier → tier = .green
  hatMin : truthyText hat.evaluatorConfig.minTier = none ∨ truthyText hat.evaluatorConfig.minTier = some "GREEN"

-- A tree of this candidate went before all four evaluators, and each answered.
def Scored (trace : List Event) (candidate : CandidateAction) : Prop :=
  ∃ context, context.consequenceTree.candidateAction = candidate ∧
    ∀ evaluator, ∃ result, Event.scored evaluator context result ∈ trace

theorem CalledBy.cleared (by_ : CalledBy agent env request cache prepared judged)
    (shape : prepared.proposal.candidates = first :: rest) (green : judged.riskClassification.tier = .green) :
    Cleared agent request prepared.hat prepared.proposal first ∧ Scored (process agent env request cache).trace first := by
  obtain ⟨tree,decision,scored⟩ := judge_parts shape by_.decided
  obtain ⟨low,escalation,hatMin⟩ := decision.unfloored green
  rw [by_.ready.escalation] at escalation
  refine ⟨⟨by rw [shape]; rfl,defensiveTop_none by_.acting shape,?_,escalation,hatMin⟩,?_⟩
  · intro candidate present floor declared
    exact floor_green low present declared
  · refine ⟨panelContext prepared.hat prepared.intent tree,firstTree_candidate decision.first,fun evaluator => ?_⟩
    obtain ⟨result,present⟩ := scored evaluator
    exact ⟨result,by_.traced _ present⟩

theorem CalledBy.once (by_ : CalledBy agent env request cache prepared judged) :
    (calls (process agent env request) cache).length ≤ 1 := by
  rw [by_.listed]
  exact tiered_once _ _ _ _

-- A call of another tool was made at GREEN and is the first candidate's.
theorem CalledBy.first (by_ : CalledBy agent env request cache prepared judged)
    (called : call ∈ calls (process agent env request) cache) (acting : call.1 ≠ "escalate_to_human") :
    judged.riskClassification.tier = .green ∧ ∃ first rest, prepared.proposal.candidates = first :: rest ∧
      call = (first.toolName,first.parameters) := by
  rw [by_.listed] at called
  exact tiered_acting called acting

theorem CalledBy.quiet (by_ : CalledBy agent env request cache prepared judged)
    (tier : judged.riskClassification.tier = .yellow ∨ judged.riskClassification.tier = .red) :
    calls (process agent env request) cache = [] := by
  rw [by_.listed,tiered_calls]
  rcases tier with yellow | red
  · rw [yellow]
  · rw [red]

theorem execution_gating (agent : Agent) (env : Environment) (request : Request) (cache : Cache) :
    (calls (process agent env request) cache).length ≤ 1 ∧
    (∀ call ∈ calls (process agent env request) cache, call.1 ≠ "escalate_to_human" →
      ∃ hat intent candidates first, agent.hat = some hat ∧ env.parse request.message = .ok intent ∧
        env.propose intent = .ok candidates ∧ call = (first.toolName,first.parameters) ∧
        Cleared agent request hat (postGateProposal agent intent candidates) first ∧
        Scored (process agent env request cache).trace first ∧
        ∀ result, (process agent env request cache).value = .ok result → result.riskClassification.tier = .green) ∧
    ∀ result, (process agent env request cache).value = .ok result →
      result.execution.riskTier = result.riskClassification.tier ∧
      (result.riskClassification.tier = .orange →
        ∀ call ∈ calls (process agent env request) cache, call.1 = "escalate_to_human") ∧
      (result.riskClassification.tier = .yellow ∨ result.riskClassification.tier = .red →
        calls (process agent env request) cache = []) := by
  rcases called_or_silent agent env request cache with silent | ⟨prepared,judged,by_⟩
  · rw [silent]
    refine ⟨Nat.zero_le _,fun call called => ?_,fun result returned => ⟨process_sameTier returned,fun _ call called => ?_,
      fun _ => rfl⟩⟩
    · cases called
    · cases called
  · refine ⟨by_.once,fun call called acting => ?_,fun result returned => ?_⟩
    · obtain ⟨green,first,rest,shape,rfl⟩ := by_.first called acting
      obtain ⟨cleared,scored⟩ := by_.cleared shape green
      obtain ⟨candidates,proposed,same⟩ := by_.ready.proposed
      refine ⟨prepared.hat,prepared.intent,candidates,first,by_.ready.hat,by_.ready.parsed,proposed,rfl,same ▸ cleared,
        scored,fun result returned => ?_⟩
      rw [by_.concluded result returned]
      exact green
    · have sameTier := process_sameTier returned
      rw [by_.concluded result returned] at sameTier ⊢
      refine ⟨sameTier,fun orange call called => ?_,by_.quiet⟩
      by_contra acting
      rw [(by_.first called acting).1] at orange
      cases orange

-- A result that says a registered tool was used, and used well
structure ReportsDone (agent : Agent) (result : PipelineResult) : Prop where
  success : result.execution.toolResult.success = true
  registered : agent.registry.hasTool result.execution.actionTaken.toolName = true
  acting : result.execution.actionTaken.toolName ≠ "converse"
  settled : ¬ result.execution.awaitsConfirmation

theorem Defended.settled (defended : Defended prepared top result) : ¬ result.execution.awaitsConfirmation := by
  intro waits
  have data := waits.2
  rw [defended.data] at data
  cases data

theorem defensiveTop_some (waiting : defensiveTop proposal = some top) :
    proposal.candidates.head? = some top ∧ (top.toolName = "converse" ∨ top.toolName = "escalate_to_human") := by
  obtain ⟨first,kind⟩ := Option.filter_eq_some_iff.mp waiting
  exact ⟨first,by simpa [isDefensive] using kind⟩

-- The escalation tool is the first thing proposed, it is there to be called, and no floor refuses it.
def HandsOver (agent : Agent) (proposal : Proposal) : Prop :=
  agent.registry.hasTool "escalate_to_human" = true ∧
    getProposalFloor proposal.candidates agent.registry ≠ some .red ∧
    ∃ first, proposal.candidates.head? = some first ∧ first.toolName = "escalate_to_human"

-- A defensive exit says its candidate was done and calls nothing.
theorem Defended.report (defended : Defended prepared top result)
    (ready : (prepare agent env request cache).value = .ok prepared)
    (low : getProposalFloor prepared.proposal.candidates agent.registry ≠ some .red)
    (waiting : defensiveTop prepared.proposal = some top) :
    (ReportsDone agent result → ∃ parameters,
      (result.execution.actionTaken.toolName,parameters) ∈ calls (process agent env request) cache) ↔
    ¬ HandsOver agent prepared.proposal := by
  obtain ⟨first,kind⟩ := defensiveTop_some waiting
  rw [defended_calls ready waiting,defended.action]
  constructor
  · intro report handsOver
    obtain ⟨registered,_,other,same,escalates⟩ := handsOver
    cases first.symm.trans same
    have done : ReportsDone agent result := by
      refine ⟨defended.success,?_,?_,defended.settled⟩
      · rw [defended.action,escalates]; exact registered
      · rw [defended.action,escalates]; decide
    obtain ⟨_,called⟩ := report done
    cases called
  · intro quiet done
    have acting := done.acting
    have registered := done.registered
    rw [defended.action] at acting registered
    rcases kind with converse | escalates
    · exact absurd converse acting
    · rw [escalates] at registered
      exact absurd ⟨registered,low,top,first,escalates⟩ quiet

theorem success_called (agent : Agent) (env : Environment) (request : Request) (cache : Cache) (intent : Intent)
    (candidates : List CandidateAction) (result : PipelineResult) (parsed : env.parse request.message = .ok intent)
    (proposed : env.propose intent = .ok candidates) (returned : (process agent env request cache).value = .ok result) :
    (ReportsDone agent result → ∃ parameters,
      (result.execution.actionTaken.toolName,parameters) ∈ calls (process agent env request) cache) ↔
    ¬ HandsOver agent (postGateProposal agent intent candidates) := by
  obtain ⟨prepared,made,ready,exit⟩ := process_exit returned
  obtain ⟨rfl,shape⟩ := ready.given parsed proposed
  rw [← shape]
  cases exit with
  | refused red refused =>
    refine iff_of_true (fun done => ?_) fun handsOver => handsOver.2.1 red
    have success := done.success
    rw [refused.failed] at success
    cases success
  | evaluated top low waiting _ defended => exact defended.report made low waiting
  | bypassed top low waiting _ defended => exact defended.report made low waiting
  | judged judged low acting decided executed =>
    refine iff_of_true (fun done => ?_) ?_
    · rw [judged_calls made low acting decided]
      exact tiered_report executed done.success done.acting done.settled
    · intro handsOver
      obtain ⟨_,_,first,top,escalates⟩ := handsOver
      obtain ⟨rest,shape⟩ := List.head?_eq_some_iff.mp top
      exact (defensiveTop_none acting shape).2 escalates

def escalationTool : Tool := {name := "escalate_to_human"}
def deskAgent : Agent := {runtime := .ascii,hat := some legalHat,registry := ToolRegistry.empty.register escalationTool}
def lookupCandidate : CandidateAction := {toolName := "look_up_order"}

-- The threat is answered at ORANGE through the panel, and the desk is really called.
theorem success_called_orange : ∃ result,
    (process deskAgent (calm complaint [lookupCandidate]) legalRequest ∅).value = .ok result ∧
      (ReportsDone deskAgent result → ∃ parameters, (result.execution.actionTaken.toolName,parameters) ∈
        calls (process deskAgent (calm complaint [lookupCandidate]) legalRequest) ∅) := by
  have computed : ((process deskAgent (calm complaint [lookupCandidate]) legalRequest ∅).value.map
      (·.bypassed)).toOption = some false := by decide +kernel
  obtain ⟨result,returned,_⟩ := toOption_map.mp computed
  refine ⟨result,returned,(success_called deskAgent _ legalRequest ∅ complaint _ result rfl rfl returned).mpr ?_⟩
  intro handsOver
  obtain ⟨_,_,first,top,escalates⟩ := handsOver
  have other : (postGateProposal deskAgent complaint [lookupCandidate]).candidates.head?.map (·.toolName) =
      some "look_up_order" := by decide
  rw [top,Option.map_some,escalates] at other
  exact absurd other (by decide)

-- The same threat with the desk proposed: the report names it, and nobody was called.
theorem success_called_uncalled : ∃ result,
    (process deskAgent (calm complaint [{toolName := "escalate_to_human"}]) legalRequest ∅).value = .ok result ∧
      ReportsDone deskAgent result ∧ result.execution.actionTaken.toolName = "escalate_to_human" ∧
      calls (process deskAgent (calm complaint [{toolName := "escalate_to_human"}]) legalRequest) ∅ = [] := by
  have computed : ((process deskAgent (calm complaint [{toolName := "escalate_to_human"}]) legalRequest ∅).value.map
      fun result => (result.execution.toolResult.success,result.execution.actionTaken.toolName,
        result.execution.toolResult.data.truthy)).toOption = some (true,"escalate_to_human",false) := by decide +kernel
  obtain ⟨result,returned,same⟩ := toOption_map.mp computed
  simp only [Prod.mk.injEq] at same
  obtain ⟨success,named,empty⟩ := same
  refine ⟨result,returned,⟨success,?_,?_,?_⟩,named,by decide +kernel⟩
  · rw [named]; decide
  · rw [named]; decide
  · intro waits
    rw [waits.2] at empty
    cases empty

end

end Sophia.AgentLoop
