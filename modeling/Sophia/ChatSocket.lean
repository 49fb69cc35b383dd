import Sophia.Audit
import Sophia.Library.HalfDuplex

namespace Sophia.Chat
open TracedRun StepRun HalfDuplex Consequence Evaluators RiskClassifier AgentLoop Executor Audit

-- _classification_to_dict
structure ClassificationDict where
  tier : Tier
  weightedScore : ℚ
  individualScores : AList (fun _ : String => ℚ)
  flags : List Json
  overrideReason : Option String
  explanation : String

def classificationToDict (rc : RiskClassification) : ClassificationDict :=
  ⟨rc.tier,rc.weightedScore,rc.individualScores,rc.flags,rc.overrideReason,rc.explanation⟩

structure ExecutionDict where
  actionTaken : CandidateAction
  toolResult : ToolResult
  riskTier : Tier

def executionToDict (execution : ExecutionResult) : ExecutionDict :=
  ⟨execution.actionTaken,execution.toolResult,execution.riskTier⟩

-- The events of the socket with their data. asdict keeps the fields of a dataclass.
inductive WsEvent where
  | hatEquipped (name displayName : String)
  | preflightAck (message : String)
  | intentParsed (intent : Intent)
  | proposalsGenerated (candidates : List CandidateAction)
  | consequencesAnalyzed (trees : List Json)
  | evaluatorComplete (result : EvaluatorResult)
  | riskClassified (classification : ClassificationDict)
  | actionExecuted (execution : ExecutionDict)
  | responseReady (response : String)
  | error (message : String)

deriving instance DecidableEq for Turn

-- What the client writes: {message, conversation_history}
structure ChatFrame where
  message : String
  history : List Turn
  deriving DecidableEq

-- How a call of the pipeline ends for the socket: with a result, with an exception, or with a
-- result of which only the first events can be sent
inductive Ending where
  | answered (result : PipelineResult)
  | raised (message : String)
  | broken (result : PipelineResult) (sent : Nat) (message : String)

structure Exchange where
  frame : ChatFrame
  acks : List String
  ending : Ending

-- The events of a result before its response
def stageEvents (result : PipelineResult) : List WsEvent :=
  [.intentParsed result.intent,.proposalsGenerated result.proposal.candidates,
    .consequencesAnalyzed (result.consequenceTrees.map treeToDict)] ++
  result.evaluationResults.map .evaluatorComplete ++
  [.riskClassified (classificationToDict result.riskClassification),.actionExecuted (executionToDict result.execution)]

def Ending.events : Ending → List WsEvent
  | .answered result => stageEvents result ++ [.responseReady result.response]
  | .raised message => [.error message]
  | .broken result sent message => (stageEvents result).take sent ++ [.error message]

def Exchange.events (x : Exchange) : List WsEvent := x.acks.map .preflightAck ++ x.ending.events

def ack? : Event → Option String
  | .acknowledged text => some text
  | _ => none

-- One call of loop.process, with all that it asks of the world
structure Call where
  agent : Agent
  env : Environment
  cache : ConsequenceEngine.Cache
  unsendable : Option (Nat × String) := none

def requestOf (frame : ChatFrame) : Request :=
  {message := frame.message,onPreflightAck := true,conversationHistory := frame.history}

def outcomeOf (call : Call) (frame : ChatFrame) : Outcome PyError ConsequenceEngine.Cache Event PipelineResult :=
  process call.agent call.env (requestOf frame) call.cache

def serve (errorText : PyError → String) (call : Call) (frame : ChatFrame) : Exchange where
  frame := frame
  acks := (outcomeOf call frame).trace.filterMap ack?
  ending := match (outcomeOf call frame).value,call.unsendable with
    | .ok result,none => .answered result
    | .ok result,some (sent,message) => .broken result sent message
    | .error e,_ => .raised (errorText e)

structure PipelineTrace where
  intent : Option Intent := none
  proposals : List CandidateAction := []
  trees : List Json := []
  evaluations : List EvaluatorResult := []
  risk : Option ClassificationDict := none
  execution : Option ExecutionDict := none

inductive Role where
  | user
  | assistant
  deriving DecidableEq

def Role.name : Role → String
  | .user => "user"
  | .assistant => "assistant"

inductive ConfirmationStatus where
  | pending
  | approved
  | declined
  deriving DecidableEq

structure ChatMessage where
  id : String
  role : Role
  content : String
  trace : Option PipelineTrace := none
  tier : Option Tier := none
  confirmationStatus : Option ConfirmationStatus := none
  isAck : Bool := false

-- The state of useWebSocket: what it renders, traceRef and the counter of genId
structure Client where
  messages : List ChatMessage := []
  isConnected : Bool := false
  isProcessing : Bool := false
  currentTrace : PipelineTrace := {}
  currentStage : Option String := none
  trace : PipelineTrace := {}
  nextId : Nat := 1

def genId (nextId : Nat) : String := "msg-" ++ toString nextId

-- Reset for next round
def Client.settle (client : Client) (messages : List ChatMessage) : Client :=
  {client with messages,isProcessing := false,currentTrace := {},currentStage := none,trace := {},nextId := client.nextId + 1}

-- A stage that is written into the trace, of which a copy is published
def Client.stage (client : Client) (name : String) (trace : PipelineTrace) : Client :=
  {client with trace,currentTrace := trace,currentStage := some name}

def answerTier (trace : PipelineTrace) : Option Tier := (trace.risk.map (·.tier)).or (trace.execution.map (·.riskTier))

def Client.handleEvent (client : Client) : WsEvent → Client
  | .hatEquipped _ _ => {client with currentTrace := client.trace}
  | .preflightAck message => {client with
      messages := client.messages ++ [{id := genId client.nextId,role := .assistant,content := message,isAck := true}]
      currentTrace := client.trace
      nextId := client.nextId + 1}
  | .intentParsed intent => client.stage "intent_parsed" {client.trace with intent := some intent}
  | .proposalsGenerated candidates => client.stage "proposals_generated" {client.trace with proposals := candidates}
  | .consequencesAnalyzed trees => client.stage "consequences_analyzed" {client.trace with trees}
  | .evaluatorComplete result => client.stage ("evaluator_complete:" ++ result.evaluatorName)
      {client.trace with evaluations := client.trace.evaluations ++ [result]}
  | .riskClassified classification => client.stage "risk_classified" {client.trace with risk := some classification}
  | .actionExecuted execution => client.stage "action_executed" {client.trace with execution := some execution}
  | .responseReady response =>
    let tier := answerTier client.trace
    client.settle (client.messages.filter (fun m => !m.isAck) ++ [{
      id := genId client.nextId
      role := .assistant
      content := response
      trace := some client.trace
      tier := tier
      confirmationStatus := if tier = some .yellow then some .pending else none}])
  | .error message => client.settle
      (client.messages ++ [{id := genId client.nextId,role := .assistant,content := "Error: " ++ message}])

def turnOf (message : ChatMessage) : Turn := ⟨message.role.name,message.content⟩

def Client.frame (client : Client) (text : String) : ChatFrame := ⟨text,client.messages.map turnOf⟩

-- sendMessage on an open socket
def Client.sendMessage (client : Client) (text : String) : Client := {client with
  messages := client.messages ++ [{id := genId client.nextId,role := .user,content := text}]
  isProcessing := true
  currentTrace := {}
  currentStage := some "sending"
  trace := {}
  nextId := client.nextId + 1}

def Client.updateMessage (client : Client) (id : String) (status : ConfirmationStatus) : Client :=
  {client with messages := client.messages.map fun m => if m.id = id then {m with confirmationStatus := some status} else m}

-- The browser and the server with the connection between them
structure System where
  client : Client := {}
  link : Option (Link ChatFrame Exchange WsEvent) := none
  served : List Exchange := []
  audited : List Exchange := []

inductive Input where
  | connect
  | accept (hat : Option (String × String))
  | refuse
  | submit (text : String)
  | receive (call : Call)
  | emit
  | finish
  | deliver
  | close
  | drop (through : Bool)
  | choose (id : String) (approved : Bool)

def closes (x : Exchange) : Bool := match x.ending with
  | .answered _ => false
  | _ => true

-- handleSubmit; trim is String.prototype.trim.
def submitted (trim : String → String) (client : Client) (text : String) : Option String :=
  if trim text = "" || client.isProcessing then none else some (trim text)

def greeting (hat : Option (String × String)) : List WsEvent := (hat.map fun hat => WsEvent.hatEquipped hat.1 hat.2).toList

-- The exchange is logged once its last event is sent, also when the client has gone by then.
def carried (through : Bool) : Phase Exchange WsEvent → List Exchange
  | .working x pending => if (through || pending.isEmpty) && !closes x then [x] else []
  | _ => []

def onMessage (system : System) (l : Link ChatFrame Exchange WsEvent) : System :=
  match l.down with
  | event :: down => {system with client := system.client.handleEvent event,link := some {l with down}}
  | [] => system

def onclose (system : System) : System := {system with client := {system.client with isConnected := false},link := none}

-- The buttons of ConfirmBar are there while a status is pending.
def choose (client : Client) (id : String) (approved : Bool) : Client :=
  if client.messages.any fun m => m.id = id && m.tier = some .yellow && m.confirmationStatus = some .pending
  then client.updateMessage id (if approved then .approved else .declined) else client

section
variable (errorText : PyError → String) (trim : String → String)

-- websocket_chat at one end and the hook at the other. What is not enabled changes nothing.
def step (system : System) (input : Input) : System :=
  match system.link with
  | none => match input with
    | .connect => {system with client := {system.client with isConnected := true},link := some {}}
    | .choose id approved => {system with client := choose system.client id approved}
    | _ => system
  | some l => match input,l.phase,l.up with
    | .accept hat,.opening,_ => {system with link := some {l with down := l.down ++ greeting hat,phase := .waiting}}
    | .refuse,.opening,_ => {system with link := some {l with phase := .closed}}
    | .receive call,.waiting,frame :: up =>
      let x := serve errorText call frame
      {system with link := some {l with up,phase := .working x x.events},served := system.served ++ [x]}
    | .emit,.working x (event :: pending),_ =>
      {system with link := some {l with down := l.down ++ [event],phase := .working x pending}}
    | .finish,.working x [],_ => if closes x then {system with link := some {l with phase := .closed}}
      else {system with link := some {l with phase := .waiting},audited := system.audited ++ [x]}
    | .submit text,_,_ => match submitted trim system.client text with
      | some text => {system with
          client := system.client.sendMessage text
          link := some {l with up := l.up ++ [system.client.frame text]}}
      | none => system
    | .deliver,_,_ => onMessage system l
    | .close,.closed,_ => if l.down.isEmpty then onclose system else system
    | .drop through,phase,_ => onclose {system with audited := system.audited ++ carried through phase}
    | .choose id approved,_,_ => {system with client := choose system.client id approved}
    | _,_,_ => system

end

end Sophia.Chat
