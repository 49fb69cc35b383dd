import Sophia.AuditStore
import Sophia.ChatSocket
import Sophia.HatSwitch
import Sophia.KeyContainment
import Sophia.McpClient

namespace Sophia.Api
open TracedRun StepRun ApiKeys Services HatSwitch Consequence RiskClassifier AgentLoop Audit Chat

structure ChatResponse where
  response : String
  intent : Intent
  proposal : List CandidateAction
  consequenceTrees : List Json
  evaluations : List AuditEvaluationResponse
  riskClassification : ClassificationDict
  flags : List String
  execution : ExecutionDict
  riskFloorShortCircuit : Bool
  riskFloorTriggerTool : Option String
  riskFloorTriggerValue : Option Tier
  metadata : Params

-- result.to_dict() as the response model takes it. The answers of the evaluators have to fit their fields.
def evaluatedResponse (result : Evaluators.EvaluatorResult) : Except PyError AuditEvaluationResponse := do
  let flags ← textsField result.flags
  let reasoning ← textField result.reasoning
  let keyConcerns ← textsField result.keyConcerns
  return ⟨result.evaluatorName,result.score,result.confidence,flags,reasoning,keyConcerns⟩

def chatResponse (result : PipelineResult) : Except PyError ChatResponse := do
  let evaluations ← result.evaluationResults.mapM evaluatedResponse
  let flags ← result.riskClassification.flags.mapM textField
  return {
    response := result.response
    intent := result.intent
    proposal := result.proposal.candidates
    consequenceTrees := result.consequenceTrees.map treeToDict
    evaluations,flags
    riskClassification := classificationToDict result.riskClassification
    execution := executionToDict result.execution
    riskFloorShortCircuit := result.riskFloorShortCircuit
    riskFloorTriggerTool := result.riskFloorTriggerTool
    riskFloorTriggerValue := result.riskFloorTriggerValue
    metadata := result.metadata}

structure HatActiveResponse where
  name : String
  version : String
  tools : List String
  constraints : Constraints
  stakeholderCount : Nat

def hatActive (hat : HatConfig) : HatActiveResponse :=
  ⟨hat.name,hat.manifest.version,hat.manifest.tools,hat.constraints,hat.stakeholders.length⟩

-- The routes that are guarded under auth_enabled
inductive AgentRequest where
  | chat (message : String)
  | equipHat (hatName : String)

-- The routes of admin_router are guarded always.
inductive ApiRequest where
  | admin (request : AdminRequest)
  | agent (request : AgentRequest)

def ApiRequest.scope : ApiRequest → String
  | .admin _ => "admin"
  | .agent (.chat _) => "chat"
  | .agent (.equipHat _) => "admin"

inductive ApiResponse where
  | admin (response : AdminResponse)
  | chat (response : ChatResponse)
  | equipped (response : HatActiveResponse)

-- A request whose record lookup_key has read, before require_auth goes on with it
structure Looking where
  request : ApiRequest
  record : Option APIKeyRecord

-- A request whose dependencies are resolved
inductive Admitted where
  | keyed (key : APIKeyRecord) (request : ApiRequest)
  | unkeyed (request : AgentRequest)

def Admitted.agentRequest : Admitted → Option AgentRequest
  | .keyed _ (.agent request) => some request
  | .keyed _ (.admin _) => none
  | .unkeyed request => some request

-- What _log_audit is called with
structure Logged where
  message : String
  result : PipelineResult
  hat : Option HatConfig

-- The database and the process: the limiter, the loop once it is there, the requests under way and the open sockets.
-- The keys in full are where they were shown: in the log at start-up, and in the answers of create_key.
structure Server where
  authEnabled : Bool := true
  auth : Auth := {keys := .empty}
  loop : Option Loop := none
  looking : List Looking := []
  admitted : List Admitted := []
  sockets : Nat := 0
  logged : List Logged := []
  shown : List String := []

abbrev ApiRun := Run Failure Server Empty

-- What every process of the deployment runs with. newLoop is AgentLoop() as its constructor leaves it, with no hat on.
structure Deployment where
  hashKey : String → String
  errorText : PyError → String
  defaultHat : String := "customer-service"
  newLoop : Loop
  bare : newLoop.hatRegistry.active = none

-- All that a handler meets
structure Scene where
  occasion : Occasion
  around : Surroundings
  env : Environment
  cache : ConsequenceEngine.Cache

-- One input of the server. Between the steps of a request there is an await: others come in between.
-- /ws/chat has no auth dependency: a socket is opened, and its messages are read, without a key.
inductive Input where
  | start (authEnabled : Bool) (occasion : Occasion)
  | arrive (authorization : String) (request : ApiRequest)
  | check (n : Nat) (occasion : Occasion)
  | handle (n : Nat) (scene : Scene)
  | visit (around : Surroundings)
  | connect (around : Surroundings)
  | say (env : Environment) (cache : ConsequenceEngine.Cache) (unsendable : Option (Nat × String)) (frame : ChatFrame)
  | hangUp

def Input.isStart : Input → Bool
  | .start _ _ => true
  | _ => false

def Input.surroundings : Input → Option Surroundings
  | .handle _ scene => some scene.around
  | .visit around => some around
  | .connect around => some around
  | _ => none

-- create_key, list_keys and revoke_key behind their dependency
def adminBody (hashKey : String → String) (occasion : Occasion) (key : APIKeyRecord) : AdminRequest → AuthRun ω AdminResponse
  | .createKey body => do
    let (fullKey,record) := generateKey hashKey occasion body.tenantId body.hatName body.scopes
    let record := {record with rateLimitRpm := body.rateLimitRpm}
    let keys ← read (·.keys)
    let keys ← lift (keys.insert record)
    change fun s => {s with keys}
    pure (.created ⟨fullKey,record.keyId,record.tenantId,record.scopes⟩)
  | .listKeys => do
    let records ← read fun s => s.keys.rows.filter (·.tenantId = key.tenantId)
    pure (.listed (records.map summary))
  | .revokeKey keyId => do
    let record ← read fun s => s.keys.rows.find? fun r => r.keyId = keyId ∧ r.tenantId = key.tenantId
    match record with
    | none => refuse 404 "Key not found"
    | some _ => do
      change fun s => {s with keys := s.keys.deactivate keyId}
      pure (.revoked keyId)

theorem handle_body (hashKey : String → String) (occasion : Occasion) (authorization : String) (request : AdminRequest) :
    (handle hashKey occasion authorization request : AuthRun ω AdminResponse) =
      requireScope hashKey occasion "admin" authorization >>= fun key => adminBody hashKey occasion key request := by
  cases request <;> rfl

-- require_auth up to its await
def lookUp (hashKey : String → String) (keys : ApiKeys.KeyTable) (authorization : String) : Except Failure (Option APIKeyRecord) :=
  if !bearer.toList.isPrefixOf authorization.toList then
    .error (.http 401 "Missing or invalid Authorization header")
  else
    let rawKey := String.ofList (authorization.toList.drop bearer.length)
    if rawKey = "" then .error (.http 401 "Empty API key") else .ok (lookupKey keys (hashKey rawKey))

-- require_auth from there on
def checkRecord (occasion : Occasion) : Option APIKeyRecord → AuthRun ω APIKeyRecord
  | none => refuse 401 "Invalid API key"
  | some record => requireKey occasion record

def settle (occasion : Occasion) (scope : String) (record : Option APIKeyRecord) : AuthRun ω APIKeyRecord := do
  let key ← checkRecord occasion record
  if key.scopes.contains scope then pure key else refuse 403 ("API key lacks '" ++ scope ++ "' scope")

-- Without anything in between, the two halves are require_scope.
theorem requireScope_halves (hashKey : String → String) (occasion : Occasion) (scope authorization : String) (auth : Auth) :
    (requireScope hashKey occasion scope authorization : AuthRun ω APIKeyRecord) auth =
      (lift (lookUp hashKey auth.keys authorization) >>= settle occasion scope) auth := by
  unfold requireScope requireAuth lookUp
  cases headed : bearer.toList.isPrefixOf authorization.toList with
  | false =>
    have absent : (!false) = true := rfl
    rw [if_pos absent,if_pos absent,lift_bind_error]
    rfl
  | true =>
    have present : ¬ (!true) = true := nofun
    rw [if_neg present,if_neg present]
    dsimp only
    by_cases empty : String.ofList (authorization.toList.drop bearer.length) = ""
    · rw [if_pos empty,if_pos empty,lift_bind_error]
      rfl
    · rw [if_neg empty,if_neg empty,lift_bind_ok]
      cases found : lookupKey auth.keys (hashKey (String.ofList (authorization.toList.drop bearer.length))) with
      | none => simp only [settle,checkRecord,bind_assoc,read_bind,found]
      | some record => simp only [settle,checkRecord,bind_assoc,read_bind,found]

def ensureHatEquipped (around : Surroundings) (defaultHat : String) : LoopRun Unit := do
  let equipped ← read (·.hatEquipped)
  if equipped then pure () else do
    let _ ← equipHat around defaultHat
    pure ()

-- JSONDecodeError and the ValidationError of a manifest are subclasses of ValueError.
def isValueError : PyError → Bool
  | .valueError => true
  | .valueErrorOf _ => true
  | e => e = Mcp.decodeError || e = validationError

-- _log_audit, whether the database takes the record or not
def logAudit (message : String) (result : PipelineResult) (hat : Option HatConfig) : ApiRun Unit :=
  change fun s => {s with logged := s.logged ++ [⟨message,result,hat⟩]}

-- chat with the loop at hand
def runChat (scene : Scene) (message : String) (loop : Loop) : ApiRun ApiResponse := do
  let result ← lift ((process loop.agent scene.env {message} scene.cache).value.mapError .raised)
  logAudit message result loop.hatRegistry.active
  let response ← lift ((chatResponse result).mapError .raised)
  pure (.chat response)

section
variable (app : Deployment)

def getAgentLoop (around : Surroundings) : ApiRun Loop := overState fun s =>
  let ran := ensureHatEquipped around app.defaultHat (s.loop.getD app.newLoop)
  ({s with loop := some ran.state},(ran.value.map fun _ => ran.state).mapError .raised)

def chat (scene : Scene) (message : String) : ApiRun ApiResponse := do
  let loop ← getAgentLoop app scene.around
  runChat scene message loop

def hatFailure (e : PyError) : Failure := if isValueError e then .http 404 (app.errorText e) else .raised e

def switchHat (around : Surroundings) (hatName : String) : ApiRun HatConfig := overState fun s =>
  let ran := equipHat around hatName (s.loop.getD app.newLoop)
  ({s with loop := some ran.state},ran.value.mapError (hatFailure app))

-- The route equip_hat
def equipRoute (scene : Scene) (hatName : String) : ApiRun ApiResponse := do
  let _ ← getAgentLoop app scene.around
  let hat ← switchHat app scene.around hatName
  pure (.equipped (hatActive hat))

def administer (occasion : Occasion) (key : APIKeyRecord) (request : AdminRequest) : ApiRun ApiResponse := do
  let response ← focus (·.auth) (fun auth s => {s with auth}) (adminBody app.hashKey occasion key request)
  change fun s => {s with shown := s.shown ++ issued (.ok response)}
  pure (.admin response)

def serveAgent (scene : Scene) : AgentRequest → ApiRun ApiResponse
  | .chat message => chat app scene message
  | .equipHat hatName => equipRoute app scene hatName

def respond (scene : Scene) : Admitted → ApiRun ApiResponse
  | .keyed key (.admin request) => administer app scene.occasion key request
  | .keyed _ (.agent request) => serveAgent app scene request
  | .unkeyed request => serveAgent app scene request

def bootstrapRecord (occasion : Occasion) : String × APIKeyRecord :=
  generateKey app.hashKey occasion "bootstrap" "customer-service" ["admin","chat"]

-- _bootstrap_auth
def bootstrapAuth (occasion : Occasion) : ApiRun Unit := do
  let enabled ← read (·.authEnabled)
  let keys ← read (·.auth.keys)
  if enabled && keys.rows.isEmpty then do
    let (fullKey,record) := bootstrapRecord app occasion
    let keys ← lift (keys.insert record)
    change fun s => {s with auth := {s.auth with keys},shown := s.shown ++ [fullKey]}
  else pure ()

-- A new process has the database, and nothing of what the old one had in memory.
def started (authEnabled : Bool) (s : Server) : Server :=
  {authEnabled,auth := {keys := s.auth.keys},logged := s.logged,shown := s.shown}

def askKey (s : Server) (authorization : String) (request : ApiRequest) : Server × Option (Except Failure ApiResponse) :=
  match lookUp app.hashKey s.auth.keys authorization with
  | .error failure => (s,some (.error failure))
  | .ok record => ({s with looking := s.looking ++ [⟨request,record⟩]},none)

-- websocket_chat up to its first message
def openSocket (around : Surroundings) (s : Server) : Server :=
  let ran := getAgentLoop app around s
  match ran.value with
  | .ok _ => {ran.state with sockets := ran.state.sockets + 1}
  | .error _ => ran.state

-- A message on an open socket. What raises ends the socket, and only an answer that is sent in full is logged.
def socketChat (env : Environment) (cache : ConsequenceEngine.Cache) (unsendable : Option (Nat × String)) (frame : ChatFrame)
    (s : Server) : Server :=
  match s.loop,s.sockets with
  | some loop,others + 1 =>
    match (Chat.serve app.errorText ⟨loop.agent,env,cache,unsendable⟩ frame).ending with
    | .answered result => {s with logged := s.logged ++ [⟨frame.message,result,loop.hatRegistry.active⟩]}
    | _ => {s with sockets := others}
  | _,_ => s

-- The next state, and what is answered now
def advance (s : Server) : Input → Server × Option (Except Failure ApiResponse)
  | .start authEnabled occasion => ((bootstrapAuth app occasion (started authEnabled s)).state,none)
  | .arrive authorization (.admin request) => askKey app s authorization (.admin request)
  | .arrive authorization (.agent request) =>
    if s.authEnabled then askKey app s authorization (.agent request)
    else ({s with admitted := s.admitted ++ [.unkeyed request]},none)
  | .check n occasion => match s.looking[n]? with
    | none => (s,none)
    | some asked =>
      let ran := (settle occasion asked.request.scope asked.record : AuthRun Empty APIKeyRecord) s.auth
      let s := {s with auth := ran.state,looking := s.looking.eraseIdx n}
      match ran.value with
      | .error failure => (s,some (.error failure))
      | .ok key => ({s with admitted := s.admitted ++ [.keyed key asked.request]},none)
  | .handle n scene => match s.admitted[n]? with
    | none => (s,none)
    | some a =>
      let ran := respond app scene a {s with admitted := s.admitted.eraseIdx n}
      (ran.state,some ran.value)
  | .visit around => ((getAgentLoop app around s).state,none)
  | .connect around => (openSocket app around s,none)
  | .say env cache unsendable frame => (socketChat app env cache unsendable frame s,none)
  | .hangUp => ({s with sockets := s.sockets - 1},none)

def step (s : Server) (input : Input) : Server := (advance app s input).1

def serverAfter (inputs : List Input) : Server := after (step app) {} inputs

end

end Sophia.Api
