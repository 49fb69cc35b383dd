import Sophia.AgentLoop

namespace Sophia.AgentLoop
open TracedRun Consequence ConsequenceEngine Evaluators RiskClassifier EscalationGate RiskFloor ParameterGate
open PreflightAck Executor

section
variable {agent : Agent} {env : Environment} {request : Request} {cache : Cache}

-- The proposal the run continues with, from what the proposer gave
def postGateProposal (agent : Agent) (intent : Intent) (candidates : List CandidateAction) : Proposal :=
  postGate (validate agent.runtime agent.placeholders agent.registry ⟨intent,candidates⟩) ⟨intent,candidates⟩

theorem postGateProposal_empty (agent : Agent) (intent : Intent) (candidates : List CandidateAction) :
    (postGateProposal agent intent candidates).candidates = [] ↔ candidates = [] :=
  postGate_empty agent.runtime agent.placeholders agent.registry ⟨intent,candidates⟩

def escalationOf (agent : Agent) (request : Request) (hat : HatConfig) : EscalationTriggerResult :=
  checkEscalationTriggers agent.runtime request.message hat.constraints request.conversationHistory

-- Which events each stage can leave, for any property that those events have
variable {P : Event → Prop}

theorem sendAck_emits {ack : Option String} (acks : ∀ text, P (.acknowledged text)) : Emits P (sendAck env request ack) := by
  unfold sendAck
  split
  · exact Emits.pure _
  · refine Emits.ite ?_ (Emits.pure _)
    exact Emits.bind (Emits.emit (acks _)) fun _ => Emits.bind (Emits.lift _) fun _ => Emits.pure _

theorem sendAck_keeps (env : Environment) (request : Request) (ack : Option String) : Keeps (sendAck env request ack) := by
  unfold sendAck
  split
  · exact Keeps.pure _
  · refine Keeps.ite ?_ (Keeps.pure _)
    exact Keeps.bind (Keeps.emit _) fun _ => Keeps.bind (Keeps.lift _) fun _ => Keeps.pure _

theorem prepare_emits (acks : ∀ text, P (.acknowledged text)) : Emits P (prepare agent env request) := by
  refine Emits.bind (Emits.lift _) fun intent => Emits.bind (Emits.lift _) fun candidates => ?_
  refine Emits.bind (Emits.lift _) fun hat => Emits.bind (sendAck_emits acks) fun at_ => Emits.pure _

structure PreparedFor (agent : Agent) (env : Environment) (request : Request) (prepared : Prepared) : Prop where
  parsed : env.parse request.message = .ok prepared.intent
  proposed : ∃ candidates, env.propose prepared.intent = .ok candidates ∧
    prepared.proposal = postGateProposal agent prepared.intent candidates
  hat : agent.hat = some prepared.hat
  escalation : prepared.escalation = escalationOf agent request prepared.hat

theorem prepare_parts (returned : (prepare agent env request cache).value = .ok prepared) :
    PreparedFor agent env request prepared := by
  obtain ⟨intent,parsed,returned⟩ := bind_returns.mp returned
  obtain ⟨candidates,proposed,returned⟩ := bind_returns.mp returned
  obtain ⟨hat,active,returned⟩ := bind_returns.mp returned
  obtain ⟨at_,_,returned⟩ := bind_returns.mp returned
  cases returned
  refine ⟨parsed,⟨candidates,proposed,rfl⟩,?_,rfl⟩
  simp only [lift_value,activeHat] at active
  split at active
  · next equipped => cases active; exact equipped
  · cases active

-- The proposal of a prepared run is settled by what the parser and the proposer gave.
theorem PreparedFor.given (ready : PreparedFor agent env request prepared) (parsed : env.parse request.message = .ok intent)
    (proposed : env.propose intent = .ok candidates) :
    intent = prepared.intent ∧ prepared.proposal = postGateProposal agent intent candidates := by
  obtain rfl : intent = prepared.intent := Except.ok.inj (parsed.symm.trans ready.parsed)
  obtain ⟨others,again,shape⟩ := ready.proposed
  obtain rfl : candidates = others := Except.ok.inj (proposed.symm.trans again)
  exact ⟨rfl,shape⟩

theorem PreparedFor.worn {hat : HatConfig} (ready : PreparedFor agent env request prepared)
    (equipped : agent.hat = some hat) : hat = prepared.hat := Option.some.inj (equipped.symm.trans ready.hat)

theorem prepare_keeps (agent : Agent) (env : Environment) (request : Request) : Keeps (prepare agent env request) := by
  refine Keeps.bind (Keeps.lift _) fun intent => Keeps.bind (Keeps.lift _) fun candidates => ?_
  refine Keeps.bind (Keeps.lift _) fun hat => Keeps.bind (sendAck_keeps _ _ _) fun at_ => Keeps.pure _

-- One evaluator's answer as a result, and the four answers in panel order
def scoreOf (env : Environment) (context : EvaluationContext) (evaluator : Evaluator) : Except PyError EvaluatorResult := do
  evaluator.evaluate (← env.evaluate evaluator context)

def scores (env : Environment) (context : EvaluationContext) : Except PyError (List EvaluatorResult) :=
  evaluators.mapM (scoreOf env context)

theorem scoreOne_stateless (env : Environment) (context : EvaluationContext) :
    Stateless (scoreOne env context) (scoreOf env context) := by
  constructor
  · intro evaluator cache
    unfold scoreOne scoreOf
    cases answered : env.evaluate evaluator context with
    | error e => rfl
    | ok parsed =>
      rw [lift_bind_ok]
      cases built : evaluator.evaluate parsed with
      | error e => rw [lift_bind_error]; exact built.symm
      | ok result => rw [lift_bind_ok]; exact built.symm
  · intro evaluator cache
    unfold scoreOne
    cases answered : env.evaluate evaluator context with
    | error e => rfl
    | ok parsed =>
      rw [lift_bind_ok]
      cases built : evaluator.evaluate parsed with
      | error e => rfl
      | ok result => rfl

theorem scoreAll_scores (env : Environment) (context : EvaluationContext) (cache : Cache) :
    (scoreAll env context cache).value = scores env context ∧ (scoreAll env context cache).state = cache :=
  (scoreOne_stateless env context).gather evaluators cache

theorem scoreOne_emits (scored : ∀ evaluator context result, P (.scored evaluator context result)) :
    Emits P (scoreOne env context evaluator) := by
  refine Emits.bind (Emits.lift _) fun parsed => Emits.bind (Emits.lift _) fun result => ?_
  exact Emits.bind (Emits.emit (scored _ _ _)) fun _ => Emits.pure _

theorem scoreAll_emits (scored : ∀ evaluator context result, P (.scored evaluator context result)) :
    Emits P (scoreAll env context) := by
  refine Emits.gather fun task present => ?_
  obtain ⟨evaluator,_,rfl⟩ := List.mem_map.mp present
  exact scoreOne_emits scored

theorem scoreOne_trace (scored : scoreOf env context evaluator = .ok result) :
    (scoreOne env context evaluator cache).trace = [.scored evaluator context result] := by
  obtain ⟨parsed,answered,built⟩ := except_bind.mp scored
  unfold scoreOne
  rw [answered,lift_bind_ok,built,lift_bind_ok]
  rfl

-- When the panel returned, each of the four evaluators scored this very context.
theorem scoreAll_scored (returned : (scoreAll env context cache).value = .ok results) (evaluator : Evaluator) :
    ∃ result, Event.scored evaluator context result ∈ (scoreAll env context cache).trace := by
  have member : evaluator ∈ evaluators := by cases evaluator <;> decide
  have stateless := scoreOne_stateless env context
  obtain ⟨result,scored⟩ := stateless.returns returned member
  refine ⟨result,stateless.traces returned member ?_⟩
  rw [scoreOne_trace scored]
  exact List.mem_singleton_self _

-- The first candidate's task meets the cache as the run found it, whatever comes after.
def firstTree (agent : Agent) (env : Environment) (cache : Cache) (first : CandidateAction) :
    Except PyError ConsequenceTree :=
  treeAt agent env ((analyzeBegin agent.engine (env.lookupClock 0) first cache).2,0)

theorem analyzeAll_first (built : (analyzeAll agent env (c :: rest) cache).2 = .ok trees) :
    ∃ tree others, trees = tree :: others ∧ firstTree agent env cache c = .ok tree := by
  simp only [analyzeAll] at built
  split at built
  · cases built
  · rw [beginAll,List.zipIdx_cons,List.mapM_cons] at built
    obtain ⟨tree,first,built⟩ := except_bind.mp built
    obtain ⟨others,_,built⟩ := except_bind.mp built
    cases built
    exact ⟨tree,others,rfl,first⟩

theorem analyzeAll_none (agent : Agent) (env : Environment) (cache : Cache) :
    analyzeAll agent env [] cache = (cache,.ok []) := rfl

theorem firstTree_candidate (built : firstTree agent env cache c = .ok tree) : tree.candidateAction = c := by
  unfold firstTree at built
  cases begun : analyzeBegin agent.engine (env.lookupClock 0) c cache with
  | mk after outcome =>
    rw [begun] at built
    cases outcome with
    | inl cached =>
      cases built
      obtain ⟨_,_,_,rfl,_⟩ := analyzeBegin_hit begun
      rfl
    | inr call =>
      obtain ⟨_,rfl,_⟩ := analyzeBegin_miss begun
      obtain ⟨parsed,_,built⟩ := except_bind.mp built
      exact treeOf_candidate built

-- What the panel decided, and from what
structure JudgedFirst (agent : Agent) (env : Environment) (prepared : Prepared) (floor : Option Tier) (cache : Cache)
    (judged : Judged) (c : CandidateAction) (tree : ConsequenceTree) : Prop where
  first : firstTree agent env cache c = .ok tree
  trees : judged.consequenceTrees.head? = some tree
  scored : scores env (panelContext prepared.hat prepared.intent tree) = .ok judged.evaluationResults
  classified : ∃ minTier, maxTier (escalationMinTier prepared.escalation) (floor.map Tier.name) = .ok minTier ∧
    classify agent.runtime judged.evaluationResults (some prepared.hat) prepared.proposal.candidates minTier =
      .ok judged.riskClassification

theorem judge_emits (scored : ∀ evaluator context result, P (.scored evaluator context result)) :
    Emits P (judge agent env prepared floor) := by
  refine Emits.bind (Emits.overState _) fun trees => Emits.bind (Emits.lift _) fun minTier => ?_
  refine Emits.bind ?_ fun evaluated => Emits.pure _
  unfold runEvaluationPanel
  split
  · exact Emits.pure _
  · exact Emits.bind (scoreAll_emits scored) fun _ => Emits.bind (Emits.lift _) fun _ => Emits.pure _

theorem judge_empty (none : prepared.proposal.candidates = [])
    (returned : (judge agent env prepared floor cache).value = .ok judged) :
    judged.riskClassification = noTreeClassification [] ∧ judged.evaluationResults = [] := by
  obtain ⟨trees,built,returned⟩ := bind_returns.mp returned
  rw [overState_value,none,analyzeAll_none] at built
  cases built
  obtain ⟨minTier,_,returned⟩ := bind_returns.mp returned
  obtain ⟨evaluated,paneled,returned⟩ := bind_returns.mp returned
  rw [none] at paneled
  cases paneled
  cases returned
  exact ⟨rfl,rfl⟩

theorem judge_parts (shape : prepared.proposal.candidates = c :: rest)
    (returned : (judge agent env prepared floor cache).value = .ok judged) :
    ∃ tree, JudgedFirst agent env prepared floor cache judged c tree ∧ ∀ evaluator, ∃ result,
      Event.scored evaluator (panelContext prepared.hat prepared.intent tree) result ∈
        (judge agent env prepared floor cache).trace := by
  obtain ⟨trees,built,later⟩ := bind_returns.mp returned
  have builtFirst := built
  rw [overState_value,shape] at builtFirst
  obtain ⟨tree,others,rfl,first⟩ := analyzeAll_first builtFirst
  obtain ⟨minTier,combined,later⟩ := bind_returns.mp later
  obtain ⟨evaluated,paneled,later⟩ := bind_returns.mp later
  cases later
  obtain ⟨results,scored,panelRest⟩ := bind_returns.mp paneled
  obtain ⟨rc,classified,panelRest⟩ := bind_returns.mp panelRest
  cases panelRest
  refine ⟨tree,⟨first,rfl,?_,minTier,combined,classified⟩,fun evaluator => ?_⟩
  · rw [← (scoreAll_scores env _ _).1]; exact scored
  · obtain ⟨result,present⟩ := scoreAll_scored scored evaluator
    refine ⟨result,?_⟩
    apply mem_trace_right built
    apply mem_trace_right combined
    apply mem_trace_left
    exact mem_trace_left present

theorem respond_emits : Emits P (respond env request execution) := Emits.ite (Emits.lift _) (Emits.pure _)

theorem conclude_emits (executed : ∀ toolName parameters, P (.executed toolName parameters))
    (memory : ∀ message toolName parameters outcome, P (.persisted message toolName parameters outcome)) :
    Emits P (conclude agent env request prepared floor judged) := by
  refine Emits.bind (tieredExecute_emits executed) fun execution => Emits.bind respond_emits fun response => ?_
  exact Emits.bind (Emits.overState _) fun stats => Emits.bind (Emits.emit (memory _ _ _ _)) fun _ => Emits.pure _

theorem conclude_calls : calls (conclude agent env request prepared floor judged) cache =
    calls (tieredExecute agent.registry env.perform agent.runtime judged.riskClassification prepared.proposal
      judged.consequenceTrees) cache := by
  refine calls_then_pure fun execution => Emits.bind respond_emits fun response => ?_
  exact Emits.bind (Emits.overState _) fun stats => Emits.bind (Emits.emit rfl) fun _ => Emits.pure _

-- What the panel's exit reports of what was judged
structure Concluded (agent : Agent) (env : Environment) (request : Request) (prepared : Prepared) (judged : Judged)
    (cache : Cache) (result : PipelineResult) : Prop where
  executed : (tieredExecute agent.registry env.perform agent.runtime judged.riskClassification prepared.proposal
    judged.consequenceTrees cache).value = .ok result.execution
  classification : result.riskClassification = judged.riskClassification
  proposal : result.proposal = prepared.proposal
  notBypassed : result.bypassed = false
  evaluations : result.evaluationResults = judged.evaluationResults
  situation : result.situationTree = none
  preflightAck : result.preflightAck = prepared.preflightAck
  trigger : result.escalationTriggerMatched = prepared.escalation.matchedTrigger
  metadata : ∃ stats, result.metadata = panelMetadata agent env request prepared stats

theorem conclude_parts (returned : (conclude agent env request prepared floor judged cache).value = .ok result) :
    Concluded agent env request prepared judged cache result := by
  obtain ⟨execution,executed,returned⟩ := bind_returns.mp returned
  obtain ⟨response,_,returned⟩ := bind_returns.mp returned
  obtain ⟨stats,_,returned⟩ := bind_returns.mp returned
  obtain ⟨_,_,returned⟩ := bind_returns.mp returned
  cases returned
  exact ⟨executed,rfl,rfl,rfl,rfl,rfl,rfl,rfl,stats,rfl⟩

-- The panel's exit calls what the tier of its classification has it call.
theorem panel_calls : calls (panel agent env request prepared floor) cache =
    match (judge agent env prepared floor cache).value with
    | .ok judged => calls (tieredExecute agent.registry env.perform agent.runtime judged.riskClassification
        prepared.proposal judged.consequenceTrees) (judge agent env prepared floor cache).state
    | .error _ => [] := by
  unfold panel calls
  rw [seen_bind,(judge_emits fun _ _ _ => rfl : Silent (judge agent env prepared floor)).seen_nil,List.nil_append]
  cases (judge agent env prepared floor cache).value with
  | ok judged => exact conclude_calls
  | error e => rfl

theorem shortCircuit_emits
    (memory : ∀ message toolName parameters outcome, P (.persisted message toolName parameters outcome)) :
    Emits P (shortCircuit agent env request prepared) :=
  Emits.bind (Emits.lift _) fun _ => Emits.bind (Emits.emit (memory _ _ _ _)) fun _ => Emits.pure _

structure Refused (prepared : Prepared) (result : PipelineResult) : Prop where
  proposal : result.proposal = prepared.proposal
  tier : result.riskClassification.tier = .red
  executionTier : result.execution.riskTier = .red
  failed : result.execution.toolResult.success = false
  bypassed : result.bypassed = false

theorem shortCircuit_parts (returned : (shortCircuit agent env request prepared cache).value = .ok result) :
    Refused prepared result := by
  obtain ⟨response,_,returned⟩ := bind_returns.mp returned
  obtain ⟨_,_,returned⟩ := bind_returns.mp returned
  cases returned
  exact ⟨rfl,rfl,rfl,rfl,rfl⟩

-- What a defensive exit reports: the action is the first candidate, done without a call.
structure Defended (prepared : Prepared) (top : CandidateAction) (result : PipelineResult) : Prop where
  proposal : result.proposal = prepared.proposal
  action : result.execution.actionTaken = top
  success : result.execution.toolResult.success = true
  data : result.execution.toolResult.data = .null
  sameTier : result.execution.riskTier = result.riskClassification.tier

-- The four answers about the situation
def situationScores (agent : Agent) (env : Environment) (request : Request) (hat : HatConfig) (intent : Intent) :
    Except PyError (List EvaluatorResult) := do
  scores env (situationContext request hat intent (← situationTreeOf agent env intent))

-- The situation's classification and the answers it was made from
structure Assessed (agent : Agent) (env : Environment) (request : Request) (prepared : Prepared)
    (results : List EvaluatorResult) (c : RiskClassification) : Prop where
  scored : situationScores agent env request prepared.hat prepared.intent = .ok results
  classified : classify agent.runtime results (some prepared.hat) prepared.proposal.candidates
    (escalationMinTier prepared.escalation) = .ok c

theorem handleConverse_emits
    (memory : ∀ message toolName parameters outcome, P (.persisted message toolName parameters outcome)) :
    Emits P (handleConverse agent env request prepared top) :=
  Emits.bind (Emits.lift _) fun _ => Emits.bind (Emits.emit (memory _ _ _ _)) fun _ => Emits.pure _

theorem handleConverse_parts (returned : (handleConverse agent env request prepared top cache).value = .ok result) :
    Defended prepared top result ∧ result.riskClassification.tier = .green ∧ result.bypassed = true := by
  obtain ⟨response,_,returned⟩ := bind_returns.mp returned
  obtain ⟨_,_,returned⟩ := bind_returns.mp returned
  cases returned
  exact ⟨⟨rfl,rfl,rfl,rfl,rfl⟩,rfl,rfl⟩

theorem handleConverseWithEvaluation_emits
    (scored : ∀ evaluator context result, P (.scored evaluator context result))
    (memory : ∀ message toolName parameters outcome, P (.persisted message toolName parameters outcome)) :
    Emits P (handleConverseWithEvaluation agent env request prepared top) := by
  refine Emits.bind (Emits.lift _) fun tree => Emits.bind (scoreAll_emits scored) fun results => ?_
  refine Emits.bind (Emits.lift _) fun situation => Emits.bind (Emits.lift _) fun response => ?_
  exact Emits.bind (Emits.emit (memory _ _ _ _)) fun _ => Emits.pure _

-- The steps of a returned situation evaluation, and what its result holds of them
structure Situated (agent : Agent) (env : Environment) (request : Request) (prepared : Prepared) (top : CandidateAction)
    (cache : ConsequenceEngine.Cache) (result : PipelineResult) (tree : ConsequenceTree) (results : List EvaluatorResult)
    (c : RiskClassification) : Prop where
  built : situationTreeOf agent env prepared.intent = .ok tree
  scored : (scoreAll env (situationContext request prepared.hat prepared.intent tree) cache).value = .ok results
  classified : classify agent.runtime results (some prepared.hat) prepared.proposal.candidates
    (escalationMinTier prepared.escalation) = .ok c
  defended : Defended prepared top result
  evaluated : result.bypassed = false
  tier : result.riskClassification.tier = c.tier
  situation : result.situationTree = some tree
  trees : result.consequenceTrees = []
  metadata : result.metadata = record [("hat",.str prepared.hat.name),("evaluation_mode",.str "situation"),
    ("model_config",buildModelConfig agent.settings)]

theorem handleConverseWithEvaluation_returned
    (returned : (handleConverseWithEvaluation agent env request prepared top cache).value = .ok result) :
    ∃ tree results c, Situated agent env request prepared top cache result tree results c := by
  obtain ⟨tree,built,returned⟩ := bind_returns.mp returned
  obtain ⟨results,scored,returned⟩ := bind_returns.mp returned
  obtain ⟨c,classified,returned⟩ := bind_returns.mp returned
  obtain ⟨response,_,returned⟩ := bind_returns.mp returned
  obtain ⟨_,_,returned⟩ := bind_returns.mp returned
  cases returned
  exact ⟨tree,results,c,⟨built,scored,classified,⟨rfl,rfl,rfl,rfl,rfl⟩,rfl,rfl,rfl,rfl,rfl⟩⟩

theorem handleConverseWithEvaluation_parts
    (returned : (handleConverseWithEvaluation agent env request prepared top cache).value = .ok result) :
    Defended prepared top result ∧ result.bypassed = false ∧
      ∃ results c, Assessed agent env request prepared results c ∧ result.riskClassification.tier = c.tier := by
  obtain ⟨tree,results,c,situated⟩ := handleConverseWithEvaluation_returned returned
  have scored := situated.scored
  rw [(scoreAll_scores env _ _).1] at scored
  have assessed : situationScores agent env request prepared.hat prepared.intent = .ok results :=
    except_bind.mpr ⟨tree,situated.built,scored⟩
  exact ⟨situated.defended,situated.evaluated,results,c,⟨assessed,situated.classified⟩,situated.tier⟩

theorem defensive_emits (scored : ∀ evaluator context result, P (.scored evaluator context result))
    (memory : ∀ message toolName parameters outcome, P (.persisted message toolName parameters outcome)) :
    Emits P (defensive agent env request prepared top) := by
  refine Emits.bind (Emits.ite ?_ ?_) fun _ => Emits.pure _
  · exact handleConverseWithEvaluation_emits scored memory
  · exact handleConverse_emits memory

theorem route_emits (executed : ∀ toolName parameters, P (.executed toolName parameters))
    (scored : ∀ evaluator context result, P (.scored evaluator context result))
    (memory : ∀ message toolName parameters outcome, P (.persisted message toolName parameters outcome)) :
    Emits P (route agent env request prepared) := by
  refine Emits.ite (shortCircuit_emits memory) ?_
  cases defensiveTop prepared.proposal with
  | some top => exact defensive_emits scored memory
  | none => exact Emits.bind (judge_emits scored) fun judged => conclude_emits executed memory

theorem defensive_parts (returned : (defensive agent env request prepared top cache).value = .ok result) :
    Defended prepared top result ∧
      (shouldRunSituationEvaluation prepared.intent prepared.escalation = true → result.bypassed = false ∧
        ∃ results c, Assessed agent env request prepared results c ∧ result.riskClassification.tier = c.tier) ∧
      (shouldRunSituationEvaluation prepared.intent prepared.escalation = false →
        result.bypassed = true ∧ result.riskClassification.tier = .green) := by
  obtain ⟨inner,handled,returned⟩ := bind_returns.mp returned
  cases returned
  unfold handleDefensive at handled
  split at handled
  · next evaluated =>
    obtain ⟨defended,notBypassed,classified⟩ := handleConverseWithEvaluation_parts handled
    exact ⟨⟨defended.1,defended.2,defended.3,defended.4,defended.5⟩,fun _ => ⟨notBypassed,classified⟩,
      fun skipped => absurd (evaluated.symm.trans skipped) (by decide)⟩
  · next skipped =>
    obtain ⟨defended,tier,bypassed⟩ := handleConverse_parts handled
    exact ⟨⟨defended.1,defended.2,defended.3,defended.4,defended.5⟩,fun evaluated => absurd evaluated skipped,
      fun _ => ⟨bypassed,tier⟩⟩

-- The four ways out of a run. Every returned result came by one of them.
inductive Exit (agent : Agent) (env : Environment) (request : Request) (prepared : Prepared) (cache : Cache)
    (result : PipelineResult) : Prop where
  | refused : getProposalFloor prepared.proposal.candidates agent.registry = some .red → Refused prepared result →
      Exit agent env request prepared cache result
  | evaluated (top : CandidateAction) : getProposalFloor prepared.proposal.candidates agent.registry ≠ some .red →
      defensiveTop prepared.proposal = some top →
      shouldRunSituationEvaluation prepared.intent prepared.escalation = true → Defended prepared top result →
      result.bypassed = false → Assessed agent env request prepared results c →
      result.riskClassification.tier = c.tier → Exit agent env request prepared cache result
  | bypassed (top : CandidateAction) : getProposalFloor prepared.proposal.candidates agent.registry ≠ some .red →
      defensiveTop prepared.proposal = some top →
      shouldRunSituationEvaluation prepared.intent prepared.escalation = false → Defended prepared top result →
      result.bypassed = true → result.riskClassification.tier = .green → Exit agent env request prepared cache result
  | judged (judged : Judged) : getProposalFloor prepared.proposal.candidates agent.registry ≠ some .red →
      defensiveTop prepared.proposal = none →
      (judge agent env prepared (getProposalFloor prepared.proposal.candidates agent.registry) cache).value = .ok judged →
      (tieredExecute agent.registry env.perform agent.runtime judged.riskClassification prepared.proposal
        judged.consequenceTrees (judge agent env prepared (getProposalFloor prepared.proposal.candidates agent.registry)
          cache).state).value = .ok result.execution →
      result.riskClassification = judged.riskClassification → result.proposal = prepared.proposal →
      result.bypassed = false → Exit agent env request prepared cache result

theorem route_exit (returned : (route agent env request prepared cache).value = .ok result) :
    Exit agent env request prepared cache result := by
  unfold route at returned
  by_cases red : getProposalFloor prepared.proposal.candidates agent.registry = some .red
  · rw [if_pos red] at returned
    exact .refused red (shortCircuit_parts returned)
  rw [if_neg red] at returned
  cases shape : defensiveTop prepared.proposal with
  | some top =>
    rw [shape] at returned
    obtain ⟨parts,evaluated,bypassed⟩ := defensive_parts returned
    cases run : shouldRunSituationEvaluation prepared.intent prepared.escalation with
    | true =>
      obtain ⟨notBypassed,results,c,assessed,tier⟩ := evaluated run
      exact .evaluated top red shape run parts notBypassed assessed tier
    | false =>
      obtain ⟨bypass,tier⟩ := bypassed run
      exact .bypassed top red shape run parts bypass tier
  | none =>
    rw [shape] at returned
    obtain ⟨judged,decided,concluded⟩ := bind_returns.mp returned
    have reported := conclude_parts concluded
    exact .judged judged red shape decided reported.executed reported.classification reported.proposal
      reported.notBypassed

theorem process_exit (returned : (process agent env request cache).value = .ok result) :
    ∃ prepared, (prepare agent env request cache).value = .ok prepared ∧ PreparedFor agent env request prepared ∧
      Exit agent env request prepared cache result := by
  obtain ⟨prepared,ready,routed⟩ := bind_returns.mp returned
  rw [prepare_keeps agent env request] at routed
  exact ⟨prepared,ready,prepare_parts ready,route_exit routed⟩

-- Only the panel's exit calls tools.
theorem process_calls : calls (process agent env request) cache =
    match (prepare agent env request cache).value with
    | .ok prepared =>
      if getProposalFloor prepared.proposal.candidates agent.registry ≠ some .red ∧
          defensiveTop prepared.proposal = none then
        calls (panel agent env request prepared (getProposalFloor prepared.proposal.candidates agent.registry)) cache
      else []
    | .error _ => [] := by
  unfold process calls
  rw [seen_bind,(prepare_emits fun _ => rfl : Silent (prepare agent env request)).seen_nil,List.nil_append,
    prepare_keeps agent env request]
  cases (prepare agent env request cache).value with
  | error e => rfl
  | ok prepared =>
    dsimp only
    unfold route
    by_cases red : getProposalFloor prepared.proposal.candidates agent.registry = some .red
    · rw [if_pos red,if_neg (fun low => low.1 red)]
      exact (shortCircuit_emits fun _ _ _ _ => rfl : Silent (shortCircuit agent env request prepared)).seen_nil cache
    · rw [if_neg red]
      cases defensiveTop prepared.proposal with
      | some top =>
        rw [if_neg (fun low => nomatch low.2)]
        exact (defensive_emits (fun _ _ _ => rfl) fun _ _ _ _ => rfl :
          Silent (defensive agent env request prepared top)).seen_nil cache
      | none => rw [if_pos ⟨red,rfl⟩]

end

end Sophia.AgentLoop
