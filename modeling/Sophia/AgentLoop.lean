import Sophia.EscalationGate
import Sophia.RiskFloor
import Sophia.PreflightAck
import Sophia.Executor

namespace Sophia.AgentLoop
open TracedRun Consequence ConsequenceEngine Evaluators RiskClassifier EscalationGate RiskFloor ParameterGate
open PreflightAck Executor

structure Settings where
  llmModel : String := "claude-sonnet-4-6"
  llmModelInputGate : Option String := none
  llmModelProposer : Option String := none
  llmModelConsequence : Option String := none
  llmModelEvaluators : Option String := none
  llmModelResponseGen : Option String := none
  llmModelMemory : Option String := none

def buildModelConfig (s : Settings) : Json :=
  let effective (model : Option String) : Json := .str ((truthyText model).getD s.llmModel)
  .obj [("input_gate",effective s.llmModelInputGate),("proposer",effective s.llmModelProposer),
    ("consequence",effective s.llmModelConsequence),("evaluators",effective s.llmModelEvaluators),
    ("response_gen",effective s.llmModelResponseGen),("memory",effective s.llmModelMemory)]

-- The loop with one hat equipped throughout. The engine's cache is the state of a run.
structure Agent where
  runtime : Runtime
  settings : Settings := {}
  hat : Option HatConfig
  registry : ToolRegistry
  treeMaxDepth : Int := 3
  cacheTtl : ℚ := 3600

def Agent.engine (agent : Agent) : Engine :=
  {hat := agent.hat,maxDepth := agent.treeMaxDepth,cacheTtl := agent.cacheTtl,registry := some agent.registry}

def Agent.placeholders (agent : Agent) : List String :=
  ParameterGate.placeholders agent.runtime ((agent.hat.map (·.manifest.placeholderPatterns)).getD [])

structure Request where
  message : String
  onPreflightAck : Bool := false
  source : String := "user"
  metadata : Params := ∅
  conversationHistory : List Turn := []

-- Everything a run asks of code outside the pipeline: the LLM stages, the tools, the callback,
-- the clocks, the random draw. Consequence calls are numbered by the candidate's position.
structure Environment where
  recalled : Nat × Nat := (0,0)
  parse : String → Except PyError Intent
  propose : Intent → Except PyError (List CandidateAction)
  acknowledge : String → Except PyError Unit := fun _ => .ok ()
  draw : Nat := 0
  wallClock : ℚ := 0
  lookupClock : Nat → ℚ := fun _ => 0
  answerClock : Nat → ℚ := fun _ => 0
  ids : Nat → List Nat → String := fun _ _ => ""
  consequences : Nat → CandidateAction → Except PyError Json
  situationIds : List Nat → String := fun _ => ""
  situation : SituationCandidate → Except PyError Json
  evaluate : Evaluator → EvaluationContext → Except PyError Json
  perform : String → Params → Except PyError ToolResult
  generate : (message : String) → (riskTier : Tier) → (actionTaken actionReasoning toolResultMessage : String) →
    (toolResultData : Option Json) → List Turn → Except PyError String
  converse : (message : String) → List Turn → (situationTier : Option Tier) → Except PyError String

structure PipelineResult where
  intent : Intent
  proposal : Proposal
  consequenceTrees : List ConsequenceTree
  evaluationResults : List EvaluatorResult
  riskClassification : RiskClassification
  execution : ExecutionResult
  response : String
  bypassed : Bool := false
  preflightAck : Option String := none
  preflightAckAt : Option ℚ := none
  metadata : Params := ∅
  escalationTriggerMatched : Option String := none
  riskFloorShortCircuit : Bool := false
  riskFloorTriggerTool : Option String := none
  riskFloorTriggerValue : Option Tier := none
  situationTree : Option ConsequenceTree := none
  situationEvaluationResults : List EvaluatorResult := []
  situationRiskClassification : Option RiskClassification := none

def record (fields : List (String × Json)) : Params := fields.foldl (fun known field => known.insert field.1 field.2) ∅

def gateMetadata (gate : GateResult) : Json :=
  .arr (gate.validations.map fun v => .obj [("tool_name",.str v.candidate.toolName),("passed",.bool v.passed),
    ("failures",.arr (v.failures.map .str))])

def persistMemory (message : String) (result : PipelineResult) : AgentRun Unit :=
  emit (.persisted message result.execution.actionTaken.toolName result.execution.actionTaken.parameters
    result.execution.toolResult.message)

-- What the steps up to the risk floor check leave for the exits
structure Prepared where
  hat : HatConfig
  intent : Intent
  gate : GateResult
  proposal : Proposal
  escalation : EscalationTriggerResult
  preflightAck : Option String
  preflightAckAt : Option ℚ

def escalationMinTier (escalation : EscalationTriggerResult) : Option String :=
  if escalation.triggered then some escalation.minTier else none

-- The message is sent only when it is a nonempty text and there is a callback.
def sendAck (env : Environment) (request : Request) (ack : Option String) : AgentRun (Option ℚ) :=
  match truthyText ack with
  | none => pure none
  | some text =>
    if request.onPreflightAck then do
      emit (.acknowledged text)
      lift (env.acknowledge text)
      pure (some env.wallClock)
    else pure (some env.wallClock)

section
variable (agent : Agent) (env : Environment) (request : Request)

-- hat.constraints of no hat is an attribute error.
def activeHat : Except PyError HatConfig :=
  match agent.hat with
  | some hat => .ok hat
  | none => .error .attributeError

def prepare : AgentRun Prepared := do
  let intent ← lift (env.parse request.message)
  let candidates ← lift (env.propose intent)
  let gate := validate agent.runtime agent.placeholders agent.registry ⟨intent,candidates⟩
  let proposal := postGate gate ⟨intent,candidates⟩
  let hat ← lift (activeHat agent)
  let escalation := checkEscalationTriggers agent.runtime request.message hat.constraints request.conversationHistory
  let preflightAck := if request.source = "webhook" then none
    else maybeGenerateAck agent.runtime env.draw intent proposal.candidates agent.registry (some hat)
  let preflightAckAt ← sendAck env request preflightAck
  pure {hat,intent,gate,proposal,escalation,preflightAck,preflightAckAt}

-- Step RED of the risk floor
def refusalClassification (candidates : List CandidateAction) : RiskClassification where
  tier := .red
  weightedScore := -1
  explanation := "Tool '" ++ (findFloorTrigger candidates agent.registry .red).getD "None" ++
    "' declares risk_floor='RED'. This action is prohibited by policy regardless of context."
  overrideReason := some "risk_floor"

def shortCircuit (prepared : Prepared) : AgentRun PipelineResult := do
  let rc := refusalClassification agent prepared.proposal.candidates
  let execution := buildRefusal agent.runtime prepared.proposal rc []
  let response ← lift (env.generate request.message .red execution.actionTaken.toolName execution.actionTaken.reasoning
    execution.toolResult.message none [])
  let result : PipelineResult := {
    intent := prepared.intent
    proposal := prepared.proposal
    consequenceTrees := []
    evaluationResults := []
    riskClassification := rc
    execution := execution
    response := response
    riskFloorShortCircuit := true
    riskFloorTriggerTool := findFloorTrigger prepared.proposal.candidates agent.registry .red
    riskFloorTriggerValue := some .red
    preflightAck := prepared.preflightAck
    preflightAckAt := prepared.preflightAckAt
    metadata := record [("hat",.str prepared.hat.name),("short_circuit_reason",.str "risk_floor"),
      ("model_config",buildModelConfig agent.settings)]}
  persistMemory request.message result
  pure result

def isDefensive (candidate : CandidateAction) : Bool :=
  ["converse","escalate_to_human"].contains candidate.toolName

def defensiveTop (proposal : Proposal) : Option CandidateAction := proposal.candidates.head?.filter isDefensive

def situationExemptIntents : List String := ["general_inquiry"]

-- _should_run_situation_evaluation of a defensive candidate
def shouldRunSituationEvaluation (intent : Intent) (escalation : EscalationTriggerResult) : Bool :=
  escalation.triggered || !situationExemptIntents.contains intent.actionRequested

def handleConverse (prepared : Prepared) (top : CandidateAction) : AgentRun PipelineResult := do
  let response ← lift (env.converse request.message request.conversationHistory none)
  let rc : RiskClassification :=
    {tier := .green,weightedScore := 0,explanation := "Conversational bypass — no tool execution needed."}
  let result : PipelineResult := {
    intent := prepared.intent
    proposal := prepared.proposal
    consequenceTrees := []
    evaluationResults := []
    riskClassification := rc
    execution := {actionTaken := top,toolResult := ⟨true,.null,response⟩,riskTier := .green,riskClassification := some rc}
    response := response
    bypassed := true
    metadata := record [("hat",.str prepared.hat.name),("model_config",buildModelConfig agent.settings)]}
  persistMemory request.message result
  pure result

def scoreOne (context : EvaluationContext) (evaluator : Evaluator) : AgentRun EvaluatorResult := do
  let parsed ← lift (env.evaluate evaluator context)
  let result ← lift (evaluator.evaluate parsed)
  emit (.scored evaluator context result)
  pure result

def scoreAll (context : EvaluationContext) : AgentRun (List EvaluatorResult) :=
  gather (evaluators.map (scoreOne env context))

def situationContext (hat : HatConfig) (intent : Intent) (tree : ConsequenceTree) : EvaluationContext where
  consequenceTree := tree
  hatConfig := some hat
  constraints := hat.constraints
  stakeholders := hat.stakeholders
  requestorContext := intent.requestorContext
  evaluationMode := .situation
  originalRequest := some request.message

def situationTreeOf (intent : Intent) : Except PyError ConsequenceTree :=
  analyzeSituation agent.engine env.situationIds (.fromIntent intent) (env.situation (.fromIntent intent))

def handleConverseWithEvaluation (prepared : Prepared) (top : CandidateAction) : AgentRun PipelineResult := do
  let tree ← lift (situationTreeOf agent env prepared.intent)
  let results ← scoreAll env (situationContext request prepared.hat prepared.intent tree)
  let situation ← lift (classify agent.runtime results (some prepared.hat) prepared.proposal.candidates
    (escalationMinTier prepared.escalation))
  let response ← lift (env.converse request.message request.conversationHistory (some situation.tier))
  let result : PipelineResult := {
    intent := prepared.intent
    proposal := prepared.proposal
    consequenceTrees := []
    evaluationResults := []
    riskClassification := {
      tier := situation.tier
      weightedScore := situation.weightedScore
      explanation := "Situation evaluation: " ++ situation.explanation}
    execution := {
      actionTaken := top
      toolResult := ⟨true,.null,"Situation evaluated as " ++ situation.tier.name ++ ". Responded conversationally."⟩
      riskTier := situation.tier}
    response := response
    situationTree := some tree
    situationEvaluationResults := results
    situationRiskClassification := some situation
    metadata := record [("hat",.str prepared.hat.name),("evaluation_mode",.str "situation"),
      ("model_config",buildModelConfig agent.settings)]}
  persistMemory request.message result
  pure result

def handleDefensive (prepared : Prepared) (top : CandidateAction) : AgentRun PipelineResult :=
  if shouldRunSituationEvaluation prepared.intent prepared.escalation then
    handleConverseWithEvaluation agent env request prepared top
  else handleConverse agent env request prepared top

def defensive (prepared : Prepared) (top : CandidateAction) : AgentRun PipelineResult := do
  let result ← handleDefensive agent env request prepared top
  pure {result with
    escalationTriggerMatched := prepared.escalation.matchedTrigger
    metadata := result.metadata.insert "parameter_gate" (gateMetadata prepared.gate)}

-- asyncio.gather over the candidates. Every task runs up to its LLM call in list order.
def beginAll : Nat → List CandidateAction → Cache → Cache × List (ConsequenceTree ⊕ Suspended)
  | _,[],cache => (cache,[])
  | i,candidate :: rest,cache =>
    let first := analyzeBegin agent.engine (env.lookupClock i) candidate cache
    let others := beginAll (i + 1) rest first.1
    (others.1,first.2 :: others.2)

def waitingTask : (ConsequenceTree ⊕ Suspended) × Nat → Option (Nat × Suspended)
  | (.inl _,_) => none
  | (.inr call,i) => some (i,call)

-- The suspended tasks come back in the order in which their answers arrive.
def byAnswer (tasks : List (Nat × Suspended)) : List (Nat × Suspended) :=
  tasks.insertionSort fun a b => env.answerClock a.1 ≤ env.answerClock b.1

def storeAnswer (cache : Cache) (task : Nat × Suspended) : Cache :=
  (analyzeFinish agent.engine (env.ids task.1) (env.answerClock task.1) task.2
    (env.consequences task.1 task.2.candidate) cache).1

def treeAt : (ConsequenceTree ⊕ Suspended) × Nat → Except PyError ConsequenceTree
  | (.inl tree,_) => .ok tree
  | (.inr call,i) => ConsequenceEngine.generate agent.engine (env.ids i) call.candidate (env.consequences i call.candidate)

def raisedBy (task : Nat × Suspended) : Option PyError :=
  match treeAt agent env (.inr task.2,task.1) with
  | .ok _ => none
  | .error e => some e

-- The first to raise decides the error; the trees come in the order of the candidates.
def analyzeAll (candidates : List CandidateAction) (cache : Cache) : Cache × Except PyError (List ConsequenceTree) :=
  let begun := beginAll agent env 0 candidates cache
  let waiting := byAnswer env (begun.2.zipIdx.filterMap waitingTask)
  (waiting.foldl (storeAnswer agent env) begun.1,
    match waiting.findSome? (raisedBy agent env) with
    | some e => .error e
    | none => begun.2.zipIdx.mapM (treeAt agent env))

def panelContext (hat : HatConfig) (intent : Intent) (tree : ConsequenceTree) : EvaluationContext where
  consequenceTree := tree
  hatConfig := some hat
  constraints := hat.constraints
  stakeholders := hat.stakeholders
  requestorContext := intent.requestorContext

def noTreeClassification (candidates : List CandidateAction) : RiskClassification :=
  {tier := .green,weightedScore := 0,recommendedAction := candidates.head?,explanation := "No consequence tree generated."}

def runEvaluationPanel (tree : Option ConsequenceTree) (hat : HatConfig) (intent : Intent)
    (candidates : List CandidateAction) (minTier : Option String) : AgentRun (List EvaluatorResult × RiskClassification) :=
  match tree with
  | none => pure ([],noTreeClassification candidates)
  | some tree => do
    let results ← scoreAll env (panelContext hat intent tree)
    let rc ← lift (classify agent.runtime results (some hat) candidates minTier)
    pure (results,rc)

-- GREEN and YELLOW go through the response generator, ORANGE and RED speak for themselves.
def respond (execution : ExecutionResult) : AgentRun String :=
  if execution.riskTier = .green ∨ execution.riskTier = .yellow then
    let data := match execution.toolResult.data with
      | .obj fields => some (Json.obj fields)
      | _ => none
    lift (env.generate request.message execution.riskTier execution.actionTaken.toolName execution.actionTaken.reasoning
      execution.toolResult.message data request.conversationHistory)
  else pure execution.toolResult.message

def panelMetadata (prepared : Prepared) (stats : Nat × Nat) : Params :=
  request.metadata ∪ record [("hat",.str prepared.hat.name),("source",.str request.source),
    ("model_config",buildModelConfig agent.settings),
    ("consequence_cache",.obj [("entries",.int stats.1),("total_hits",.int stats.2)]),
    ("memory_context",.obj [("entities_recalled",.int env.recalled.1),("episodes_recalled",.int env.recalled.2)]),
    ("parameter_gate",gateMetadata prepared.gate)]

-- Steps 3 and 4: the trees of all candidates, the panel on the first, the classification
structure Judged where
  consequenceTrees : List ConsequenceTree
  evaluationResults : List EvaluatorResult
  riskClassification : RiskClassification

def judge (prepared : Prepared) (floor : Option Tier) : AgentRun Judged := do
  let trees ← overState (analyzeAll agent env prepared.proposal.candidates)
  let minTier ← lift (maxTier (escalationMinTier prepared.escalation) (floor.map Tier.name))
  let evaluated ← runEvaluationPanel agent env trees.head? prepared.hat prepared.intent prepared.proposal.candidates minTier
  pure ⟨trees,evaluated.1,evaluated.2⟩

-- Steps 5 to 8
def conclude (prepared : Prepared) (floor : Option Tier) (judged : Judged) : AgentRun PipelineResult := do
  let execution ← tieredExecute agent.registry env.perform agent.runtime judged.riskClassification prepared.proposal
    judged.consequenceTrees
  let response ← respond env request execution
  let stats ← overState fun cache => (cache,.ok (cacheStats cache))
  let result : PipelineResult := {
    intent := prepared.intent
    proposal := prepared.proposal
    consequenceTrees := judged.consequenceTrees
    evaluationResults := judged.evaluationResults
    riskClassification := judged.riskClassification
    execution := execution
    response := response
    preflightAck := prepared.preflightAck
    preflightAckAt := prepared.preflightAckAt
    escalationTriggerMatched := prepared.escalation.matchedTrigger
    riskFloorTriggerTool := floor.bind (findFloorTrigger prepared.proposal.candidates agent.registry)
    riskFloorTriggerValue := floor
    metadata := panelMetadata agent env request prepared stats}
  persistMemory request.message result
  pure result

def panel (prepared : Prepared) (floor : Option Tier) : AgentRun PipelineResult := do
  let judged ← judge agent env prepared floor
  conclude agent env request prepared floor judged

def route (prepared : Prepared) : AgentRun PipelineResult :=
  let floor := getProposalFloor prepared.proposal.candidates agent.registry
  if floor = some .red then shortCircuit agent env request prepared
  else match defensiveTop prepared.proposal with
    | some top => defensive agent env request prepared top
    | none => panel agent env request prepared floor

def process : AgentRun PipelineResult := do
  let prepared ← prepare agent env request
  route agent env request prepared

end

-- Stages that answer calmly, whatever is asked of them
def calm (intent : Intent) (candidates : List CandidateAction) : Environment where
  parse _ := .ok intent
  propose _ := .ok candidates
  consequences _ _ := .ok (.obj [])
  situation _ := .ok (.obj [])
  evaluate _ _ := .ok (.obj [("score",.float (1/2))])
  perform _ _ := .ok ⟨true,.null,"done"⟩
  generate _ _ _ _ _ _ _ := .ok "reply"
  converse _ _ _ := .ok "reply"

end Sophia.AgentLoop
