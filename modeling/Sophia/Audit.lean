import Sophia.TierFloors

namespace Sophia.Audit
open TracedRun Consequence Evaluators RiskClassifier RiskFloor ParameterGate AgentLoop Executor

structure Decision where
  hatName : Json
  inputMessage : String
  intent : Intent
  riskTier : Tier
  actionTaken : String
  response : String
  bypassed : Bool
  preflightAck : Option String
  preflightAckAt : Option ℚ
  metadata : Params

structure DecisionProposal where
  decisionId : Nat
  rank : Nat
  toolName : String
  parameters : Params
  reasoning : String
  expectedOutcome : String

structure DecisionTree where
  decisionId : Nat
  candidateToolName : String
  treeData : Json
  totalNodes : Nat
  worstHarm : Option ℚ
  bestBenefit : Option ℚ

structure DecisionEvaluation where
  decisionId : Nat
  evaluatorName : String
  score : ℚ
  confidence : ℚ
  flags : Json
  reasoning : Json
  keyConcerns : Json

structure HatConfigSnapshot where
  decisionId : Nat
  hatName : String
  hatVersion : String
  constraints : Constraints
  stakeholders : List Stakeholder
  evaluatorConfig : EvaluatorConfig

inductive Row where
  | decision (row : Decision)
  | proposal (row : DecisionProposal)
  | tree (row : DecisionTree)
  | evaluation (row : DecisionEvaluation)
  | snapshot (row : HatConfigSnapshot)

mutual
def nodesToDict : List ConsequenceNode → List Json
  | [] => []
  | node :: rest => nodeToDict node :: nodesToDict rest
def nodeToDict : ConsequenceNode → Json
  | {id,description,stakeholdersAffected,probability,tangibility,harmBenefit,affectedParty,children,isTerminal} =>
    .obj [("id",.str id),("description",description),("stakeholders_affected",stakeholdersAffected),
      ("probability",.float probability),("tangibility",.float tangibility),("harm_benefit",.float harmBenefit),
      ("affected_party",affectedParty),("children",.arr (nodesToDict children)),("is_terminal",isTerminal)]
end

def harmOf (terminal : Option ConsequenceNode) : Option ℚ := terminal.map (·.harmBenefit)

def harmDict (terminal : Option ConsequenceNode) : Json := ((harmOf terminal).map .float).getD .null

def treeToDict (tree : ConsequenceTree) : Json :=
  .obj [("candidate_tool_name",.str tree.candidateAction.toolName),("root_nodes",.arr (nodesToDict tree.rootNodes)),
    ("max_depth",.int tree.maxDepth),("total_nodes",.int tree.totalNodes),("worst_harm",harmDict tree.worstTerminal),
    ("best_benefit",harmDict tree.bestTerminal)]

def decisionRow (result : PipelineResult) (inputMessage : String) : Decision where
  hatName := (result.metadata.lookup "hat").getD (.str "none")
  inputMessage := inputMessage
  intent := result.intent
  riskTier := result.riskClassification.tier
  actionTaken := result.execution.actionTaken.toolName
  response := result.response
  bypassed := result.bypassed
  preflightAck := result.preflightAck
  preflightAckAt := result.preflightAckAt
  metadata := result.metadata

def proposalRow (id : Nat) (ranked : CandidateAction × Nat) : DecisionProposal where
  decisionId := id
  rank := ranked.2
  toolName := ranked.1.toolName
  parameters := ranked.1.parameters
  reasoning := ranked.1.reasoning
  expectedOutcome := ranked.1.expectedOutcome

def treeRow (id : Nat) (tree : ConsequenceTree) : DecisionTree where
  decisionId := id
  candidateToolName := tree.candidateAction.toolName
  treeData := treeToDict tree
  totalNodes := tree.totalNodes
  worstHarm := harmOf tree.worstTerminal
  bestBenefit := harmOf tree.bestTerminal

def evaluationRow (id : Nat) (result : EvaluatorResult) : DecisionEvaluation where
  decisionId := id
  evaluatorName := result.evaluatorName
  score := result.score
  confidence := result.confidence
  flags := result.flags
  reasoning := result.reasoning
  keyConcerns := result.keyConcerns

def snapshotRow (id : Nat) (hat : HatConfig) : HatConfigSnapshot where
  decisionId := id
  hatName := hat.name
  hatVersion := hat.manifest.version
  constraints := hat.constraints
  stakeholders := hat.stakeholders
  evaluatorConfig := hat.evaluatorConfig

-- What the session is given, in order. The id is the one the first flush assigns to the decision.
def storeDecisionWithHat (id : Nat) (result : PipelineResult) (inputMessage : String) (hatConfig : Option HatConfig) :
    List Row :=
  .decision (decisionRow result inputMessage) ::
    (result.proposal.candidates.zipIdx.map fun ranked => .proposal (proposalRow id ranked)) ++
    (result.consequenceTrees.map fun tree => .tree (treeRow id tree)) ++
    (result.evaluationResults.map fun evaluated => .evaluation (evaluationRow id evaluated)) ++
    hatConfig.toList.map fun hat => .snapshot (snapshotRow id hat)

-- The record that the purpose of the store calls for: the candidates, every tree of the result
-- and the answers given in the run, which is what its one classification was made from.
def fullRecord (id : Nat) (result : PipelineResult) (answers : List EvaluatorResult) (inputMessage : String)
    (hatConfig : Option HatConfig) : List Row :=
  .decision (decisionRow result inputMessage) ::
    (result.proposal.candidates.zipIdx.map fun ranked => .proposal (proposalRow id ranked)) ++
    ((result.consequenceTrees ++ result.situationTree.toList).map fun tree => .tree (treeRow id tree)) ++
    (answers.map fun evaluated => .evaluation (evaluationRow id evaluated)) ++
    hatConfig.toList.map fun hat => .snapshot (snapshotRow id hat)

def scored? : Event → Option EvaluatorResult
  | .scored _ _ result => some result
  | _ => none

-- The evaluators' answers in the course of a run
def answers (m : AgentRun α) (cache : ConsequenceEngine.Cache) : List EvaluatorResult := seen scored? m cache

section
variable {agent : Agent} {env : Environment} {request : Request} {cache : ConsequenceEngine.Cache} {prepared : Prepared}

theorem scoreAll_answers (returned : (scoreAll env context cache).value = .ok results) :
    answers (scoreAll env context) cache = results := by
  apply (scoreOne_stateless env context).gather_seen ?_ returned
  intro evaluator result cache scored
  rw [seen,scoreOne_trace scored]
  rfl

-- The recorded tier is the classification of these answers.
def Decides (agent : Agent) (prepared : Prepared) (answers : List EvaluatorResult) (result : PipelineResult) : Prop :=
  ∃ minTier c, classify agent.runtime answers (some prepared.hat) prepared.proposal.candidates minTier = .ok c ∧
    result.riskClassification.tier = c.tier

-- The store's walk covers the run: all its answers are the panel's, and no situation was evaluated.
structure Walked (agent : Agent) (prepared : Prepared) (m : AgentRun PipelineResult) (cache : ConsequenceEngine.Cache)
    (result : PipelineResult) : Prop where
  answers : answers m cache = result.evaluationResults
  situation : result.situationTree = none
  decided : result.evaluationResults = [] ∨ Decides agent prepared result.evaluationResults result

-- An exit that asks no evaluator and reports none
theorem unevaluated_walked {m : AgentRun PipelineResult} (silent : Emits (fun event => scored? event = none) m)
    (results : result.evaluationResults = []) (situation : result.situationTree = none) :
    Walked agent prepared m cache result :=
  ⟨(silent.seen_nil cache).trans results.symm,situation,.inl results⟩

theorem shortCircuit_walked (returned : (shortCircuit agent env request prepared cache).value = .ok result) :
    Walked agent prepared (shortCircuit agent env request prepared) cache result := by
  have silent : Emits (fun event => scored? event = none) (shortCircuit agent env request prepared) :=
    shortCircuit_emits fun _ _ _ _ => rfl
  obtain ⟨response,_,returned⟩ := bind_returns.mp returned
  obtain ⟨_,_,returned⟩ := bind_returns.mp returned
  cases returned
  exact unevaluated_walked silent rfl rfl

theorem handleConverse_walked (returned : (handleConverse agent env request prepared top cache).value = .ok result) :
    Walked agent prepared (handleConverse agent env request prepared top) cache result := by
  have silent : Emits (fun event => scored? event = none) (handleConverse agent env request prepared top) :=
    handleConverse_emits fun _ _ _ _ => rfl
  obtain ⟨response,_,returned⟩ := bind_returns.mp returned
  obtain ⟨_,_,returned⟩ := bind_returns.mp returned
  cases returned
  exact unevaluated_walked silent rfl rfl

theorem handleConverseWithEvaluation_tree
    (returned : (handleConverseWithEvaluation agent env request prepared top cache).value = .ok result) :
    ∃ tree, result.situationTree = some tree ∧ result.consequenceTrees = [] := by
  obtain ⟨tree,results,c,situated⟩ := handleConverseWithEvaluation_returned returned
  exact ⟨tree,situated.situation,situated.trees⟩

theorem runEvaluationPanel_answers
    (returned : (runEvaluationPanel agent env tree hat intent candidates minTier cache).value = .ok evaluated) :
    answers (runEvaluationPanel agent env tree hat intent candidates minTier) cache = evaluated.1 := by
  cases tree with
  | none => cases returned; rfl
  | some tree =>
    obtain ⟨results,scored,later⟩ := bind_returns.mp returned
    obtain ⟨rc,_,later⟩ := bind_returns.mp later
    cases later
    refine (seen_then_silent fun _ => ?_).trans (scoreAll_answers scored)
    exact Emits.bind (Emits.lift _) fun _ => Emits.pure _

theorem judge_answers (returned : (judge agent env prepared floor cache).value = .ok judged) :
    answers (judge agent env prepared floor) cache = judged.evaluationResults := by
  obtain ⟨trees,built,returned⟩ := bind_returns.mp returned
  obtain ⟨minTier,combined,returned⟩ := bind_returns.mp returned
  obtain ⟨evaluated,paneled,returned⟩ := bind_returns.mp returned
  cases returned
  unfold judge answers
  rw [seen_after_silent (Emits.overState _) built,seen_after_silent (Emits.lift _) combined]
  exact (seen_then_silent fun _ => Emits.pure _).trans (runEvaluationPanel_answers paneled)

theorem judge_decides (returned : (judge agent env prepared floor cache).value = .ok judged) :
    judged.evaluationResults = [] ∨ ∃ minTier c, classify agent.runtime judged.evaluationResults (some prepared.hat)
      prepared.proposal.candidates minTier = .ok c ∧ judged.riskClassification.tier = c.tier := by
  cases shape : prepared.proposal.candidates with
  | nil => exact .inl (judge_empty shape returned).2
  | cons first rest =>
    obtain ⟨tree,first,_⟩ := judge_parts shape returned
    obtain ⟨minTier,_,classified⟩ := first.classified
    rw [shape] at classified
    exact .inr ⟨minTier,_,classified,rfl⟩

theorem panel_walked (returned : (panel agent env request prepared floor cache).value = .ok result) :
    Walked agent prepared (panel agent env request prepared floor) cache result := by
  obtain ⟨judged,decided,concluded⟩ := bind_returns.mp returned
  have answered : answers (panel agent env request prepared floor) cache = judged.evaluationResults := by
    refine (seen_then_silent fun _ => ?_).trans (judge_answers decided)
    exact conclude_emits (fun _ _ => rfl) fun _ _ _ _ => rfl
  have reported := conclude_parts concluded
  refine ⟨answered.trans reported.evaluations.symm,reported.situation,?_⟩
  unfold Decides
  rw [reported.evaluations,reported.classification]
  exact judge_decides decided

theorem handleConverseWithEvaluation_classified
    (returned : (handleConverseWithEvaluation agent env request prepared top cache).value = .ok result) :
    Decides agent prepared (answers (handleConverseWithEvaluation agent env request prepared top) cache) result := by
  obtain ⟨tree,results,c,situated⟩ := handleConverseWithEvaluation_returned returned
  refine ⟨escalationMinTier prepared.escalation,c,?_,situated.tier⟩
  have built : ((lift (situationTreeOf agent env prepared.intent) : AgentRun ConsequenceTree) cache).value = .ok tree :=
    situated.built
  unfold handleConverseWithEvaluation answers
  rw [seen_after_silent (Emits.lift _) built,lift_state,seen_then_silent]
  · have answered : seen scored? (scoreAll env (situationContext request prepared.hat prepared.intent tree)) cache = results :=
      scoreAll_answers situated.scored
    rw [answered]
    exact situated.classified
  · intro results
    refine Emits.bind (Emits.lift _) fun situation => Emits.bind (Emits.lift _) fun response => ?_
    exact Emits.bind (Emits.emit rfl) fun _ => Emits.pure _

-- The exit that the store does not look at
def SituationEvaluated (agent : Agent) (request : Request) (hat : HatConfig) (intent : Intent)
    (candidates : List CandidateAction) : Prop :=
  getProposalFloor (postGateProposal agent intent candidates).candidates agent.registry ≠ some .red ∧
  defensiveTop (postGateProposal agent intent candidates) ≠ none ∧
  shouldRunSituationEvaluation intent (escalationOf agent request hat) = true

theorem process_answers (ready : (prepare agent env request cache).value = .ok prepared) :
    answers (process agent env request) cache = answers (route agent env request prepared) cache := by
  have silent : Emits (fun event => scored? event = none) (prepare agent env request) := prepare_emits fun _ => rfl
  refine (seen_after_silent silent ready).trans ?_
  rw [prepare_keeps agent env request cache]
  rfl

-- How a returned run went on after its preparation
theorem process_routed {hat : HatConfig} (equipped : agent.hat = some hat)
    (parsed : env.parse request.message = .ok intent) (proposed : env.propose intent = .ok candidates)
    (returned : (process agent env request cache).value = .ok result) :
    ∃ prepared, (prepare agent env request cache).value = .ok prepared ∧
      (route agent env request prepared cache).value = .ok result ∧ prepared.hat = hat ∧ prepared.intent = intent ∧
      prepared.proposal = postGateProposal agent intent candidates ∧ prepared.escalation = escalationOf agent request hat := by
  obtain ⟨prepared,ready,routed⟩ := bind_returns.mp returned
  rw [prepare_keeps agent env request cache] at routed
  have parts := prepare_parts ready
  obtain rfl := parts.worn equipped
  obtain ⟨rfl,shape⟩ := parts.given parsed proposed
  exact ⟨prepared,ready,routed,rfl,rfl,shape,parts.escalation⟩

theorem route_situation (low : getProposalFloor prepared.proposal.candidates agent.registry ≠ some .red)
    (top : defensiveTop prepared.proposal = some first)
    (run : shouldRunSituationEvaluation prepared.intent prepared.escalation = true)
    (routed : (route agent env request prepared cache).value = .ok result) :
    (∃ tree, result.situationTree = some tree ∧ result.consequenceTrees = []) ∧
      Decides agent prepared (answers (route agent env request prepared) cache) result := by
  unfold route at routed ⊢
  rw [if_neg low,top] at routed
  rw [if_neg low,top]
  obtain ⟨inner,handled,returned⟩ := bind_returns.mp routed
  cases returned
  have answered : answers (defensive agent env request prepared first) cache =
      answers (handleDefensive agent env request prepared first) cache := seen_then_silent fun _ => Emits.pure _
  rw [handleDefensive,if_pos run] at handled answered
  have decided := handleConverseWithEvaluation_classified handled
  have trees := handleConverseWithEvaluation_tree handled
  rw [← answered] at decided
  exact ⟨trees,decided⟩

theorem route_walked (routed : (route agent env request prepared cache).value = .ok result)
    (other : ¬ (getProposalFloor prepared.proposal.candidates agent.registry ≠ some .red ∧
      defensiveTop prepared.proposal ≠ none ∧
      shouldRunSituationEvaluation prepared.intent prepared.escalation = true)) :
    Walked agent prepared (route agent env request prepared) cache result := by
  unfold route at routed ⊢
  by_cases red : getProposalFloor prepared.proposal.candidates agent.registry = some .red
  · rw [if_pos red] at routed ⊢
    exact shortCircuit_walked routed
  rw [if_neg red] at routed ⊢
  cases top : defensiveTop prepared.proposal with
  | none =>
    rw [top] at routed
    exact panel_walked routed
  | some first =>
    rw [top] at routed
    have skipped : ¬ shouldRunSituationEvaluation prepared.intent prepared.escalation = true :=
      fun run => other ⟨red,by rw [top]; exact Option.some_ne_none _,run⟩
    obtain ⟨inner,handled,returned⟩ := bind_returns.mp routed
    cases returned
    rw [handleDefensive,if_neg skipped] at handled
    have walked := handleConverse_walked handled
    refine ⟨?_,walked.situation,walked.decided⟩
    refine (seen_then_silent fun _ => Emits.pure _).trans ?_
    rw [handleDefensive,if_neg skipped]
    exact walked.answers

def proposal? : Row → Option DecisionProposal
  | .proposal row => some row
  | _ => none

-- One row for everything that decided the tier and for nothing else, the candidates in rank order
structure RecordComplete (stored : List Row) (id : Nat) (result : PipelineResult) (answers : List EvaluatorResult)
    (inputMessage : String) (hatConfig : Option HatConfig) : Prop where
  rows : stored.Perm (fullRecord id result answers inputMessage hatConfig)
  ranked : stored.filterMap proposal? = result.proposal.candidates.zipIdx.map (proposalRow id)

theorem stored_ranked (id : Nat) (result : PipelineResult) (inputMessage : String) (hatConfig : Option HatConfig) :
    (storeDecisionWithHat id result inputMessage hatConfig).filterMap proposal? =
      result.proposal.candidates.zipIdx.map (proposalRow id) := by
  simp [storeDecisionWithHat,List.filterMap_cons,List.filterMap_map,Function.comp_def,proposal?]

theorem audit_record (agent : Agent) (env : Environment) (request : Request) (cache : ConsequenceEngine.Cache)
    (hat : HatConfig) (intent : Intent) (candidates : List CandidateAction) (result : PipelineResult) (id : Nat)
    (inputMessage : String) (hatConfig : Option HatConfig) (equipped : agent.hat = some hat)
    (parsed : env.parse request.message = .ok intent) (proposed : env.propose intent = .ok candidates)
    (returned : (process agent env request cache).value = .ok result) :
    RecordComplete (storeDecisionWithHat id result inputMessage hatConfig) id result
        (answers (process agent env request) cache) inputMessage hatConfig ↔
      ¬ SituationEvaluated agent request hat intent candidates := by
  obtain ⟨prepared,ready,routed,worn,given,shape,escalation⟩ := process_routed equipped parsed proposed returned
  rw [process_answers ready,SituationEvaluated,← shape,← escalation,← given]
  constructor
  · intro complete evaluated
    obtain ⟨low,defends,run⟩ := evaluated
    obtain ⟨first,top⟩ := Option.ne_none_iff_exists'.mp defends
    obtain ⟨⟨tree,situation,none⟩,_⟩ := route_situation low top run routed
    have rows := complete.rows.countP_eq fun row => match row with
      | .tree _ => true
      | _ => false
    simp [storeDecisionWithHat,fullRecord,situation,none,Function.comp_def] at rows
  · intro other
    have walked := route_walked routed other
    refine ⟨?_,stored_ranked id result inputMessage hatConfig⟩
    rw [fullRecord,walked.answers,walked.situation,Option.toList_none,List.append_nil]
    exact List.Perm.refl _

-- The recorded tier is the classification of the run's answers, wherever there are any.
theorem answers_decide (agent : Agent) (env : Environment) (request : Request) (cache : ConsequenceEngine.Cache)
    (hat : HatConfig) (intent : Intent) (candidates : List CandidateAction) (result : PipelineResult)
    (equipped : agent.hat = some hat) (parsed : env.parse request.message = .ok intent)
    (proposed : env.propose intent = .ok candidates) (returned : (process agent env request cache).value = .ok result) :
    answers (process agent env request) cache = [] ∨ ∃ minTier c,
      classify agent.runtime (answers (process agent env request) cache) (some hat)
        (postGateProposal agent intent candidates).candidates minTier = .ok c ∧
      result.riskClassification.tier = c.tier := by
  obtain ⟨prepared,ready,routed,worn,given,shape,escalation⟩ := process_routed equipped parsed proposed returned
  rw [process_answers ready,← shape,← worn]
  by_cases evaluated : getProposalFloor prepared.proposal.candidates agent.registry ≠ some .red ∧
      defensiveTop prepared.proposal ≠ none ∧ shouldRunSituationEvaluation prepared.intent prepared.escalation = true
  · obtain ⟨low,defends,run⟩ := evaluated
    obtain ⟨first,top⟩ := Option.ne_none_iff_exists'.mp defends
    exact .inr (route_situation low top run routed).2
  · have walked := route_walked routed evaluated
    rw [walked.answers]
    exact walked.decided

def isEvaluation : Row → Bool
  | .evaluation _ => true
  | _ => false

theorem audit_record_panel : ∃ result,
    (process refundAgent (calm inquiry [{toolName := "process_refund"}]) greeting ∅).value = .ok result ∧
      RecordComplete (storeDecisionWithHat 1 result greeting.message (some legalHat)) 1 result
        (answers (process refundAgent (calm inquiry [{toolName := "process_refund"}]) greeting) ∅) greeting.message
        (some legalHat) := by
  have computed : ((process refundAgent (calm inquiry [{toolName := "process_refund"}]) greeting ∅).value.map
      (·.bypassed)).toOption = some false := by decide +kernel
  obtain ⟨result,returned,_⟩ := toOption_map.mp computed
  refine ⟨result,returned,(audit_record refundAgent _ greeting ∅ legalHat inquiry _ result 1 _ _ rfl rfl rfl
    returned).mpr fun evaluated => ?_⟩
  exact absurd evaluated.2.1 (fun defends => defends rfl)

-- Four evaluators answered and decided the tier of the refusal, and none of them is on record.
theorem audit_record_situation : ∃ result,
    (process legalAgent (calm complaint [{toolName := "converse"}]) legalRequest ∅).value = .ok result ∧
      (answers (process legalAgent (calm complaint [{toolName := "converse"}]) legalRequest) ∅).length = 4 ∧
      (storeDecisionWithHat 1 result legalRequest.message none).countP isEvaluation = 0 ∧
      ¬ RecordComplete (storeDecisionWithHat 1 result legalRequest.message none) 1 result
        (answers (process legalAgent (calm complaint [{toolName := "converse"}]) legalRequest) ∅) legalRequest.message
        none := by
  have computed : ((process legalAgent (calm complaint [{toolName := "converse"}]) legalRequest ∅).value.map fun result =>
      (storeDecisionWithHat 1 result legalRequest.message none).countP isEvaluation).toOption = some 0 := by decide +kernel
  obtain ⟨result,returned,unrecorded⟩ := toOption_map.mp computed
  have answered : (answers (process legalAgent (calm complaint [{toolName := "converse"}]) legalRequest) ∅).length = 4 := by
    decide +kernel
  refine ⟨result,returned,answered,unrecorded,fun complete => ?_⟩
  have counted := complete.rows.countP_eq isEvaluation
  rw [unrecorded] at counted
  simp [fullRecord,isEvaluation,Function.comp_def,answered] at counted

end

end Sophia.Audit
