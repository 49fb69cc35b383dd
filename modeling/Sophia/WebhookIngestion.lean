import Sophia.Redelivery
import Sophia.Hats
import Sophia.Library.StepRun
import Sophia.Library.PyDict
import Mathlib.Data.List.DropRight

namespace Sophia.Webhooks
open TracedRun StepRun Json PyText

inductive SignatureValidator where
  | shopify (secret : String)
  | noop

-- The names of the headers are in lower case.
structure Request where
  source : String
  headers : String → Option String
  body : List UInt8

-- What is read from a body: the base64 of its HMAC under a secret, and its JSON
structure BodyReader where
  digest : String → List UInt8 → String
  json : List UInt8 → Except PyError Json

def header (request : Request) (name : String) : String := (request.headers name).getD ""

def isAscii (text : String) : Bool := text.toList.all fun c => c.toNat < 128

-- compare_digest refuses a text that is not ASCII.
def SignatureValidator.validate (reader : BodyReader) (request : Request) : SignatureValidator → Except PyError Bool
  | .noop => .ok true
  | .shopify secret =>
    let sent := header request "x-shopify-hmac-sha256"
    if sent = "" then .ok false
    else if isAscii sent then .ok (reader.digest secret request.body = sent) else .error .typeError

structure ProcessedEvent where
  eventType : String
  source : String
  entityType : String
  entityId : String
  action : Json
  timestamp : Moment

-- The module's own state
structure Ingestion where
  eventRouter : Option Router := none
  validators : PyDict String SignatureValidator := .empty
  processedEvents : List ProcessedEvent := []

-- The trace has the actions that are handed to execute.
abbrev IngestionRun := Run PyError Ingestion EventAction

-- os.environ.get(secret_env, "") if secret_env else ""
def secretOf (environ : String → Option String) (sourceConfig : Params) : Except PyError String :=
  match (sourceConfig.lookup "secret_env").getD .null with
  | .str name => .ok (if name = "" then "" else (environ name).getD "")
  | secretEnv => if secretEnv.truthy then .error .typeError else .ok ""

def validatorFor (source secret : String) : SignatureValidator :=
  if source = "shopify" ∧ secret ≠ "" then .shopify secret else .noop

def addValidators (environ : String → Option String) : List (Sigma fun _ : String => Params) → IngestionRun Unit
  | [] => pure ()
  | ⟨source,sourceConfig⟩ :: rest => do
    let secret ← lift (secretOf environ sourceConfig)
    change fun s => {s with validators := s.validators.set source (validatorFor source secret)}
    addValidators environ rest

def configureWebhooks (environ : String → Option String) (config : AList fun _ : String => Params) : IngestionRun Unit := do
  change fun s => {s with eventRouter := some {webhooksConfig := config},validators := .empty}
  addValidators environ config.entries

def teardownWebhooks : IngestionRun Unit := change fun s => {s with eventRouter := none,validators := .empty}

inductive Answer where
  | refused (status : Nat) (detail : String)
  | content (text : String)

-- receive_webhook up to the await of the body
def refusalFor (source : String) : IngestionRun (Option Answer) := do
  let router ← read (·.eventRouter)
  match router with
  | none => pure (some (.refused 503 "No hat equipped — webhooks not configured"))
  | some router =>
    if source ∈ router.webhooksConfig then pure none else pure (some (.refused 404 ("Unknown webhook source: " ++ source)))

def passes (reader : BodyReader) (request : Request) (validator : Option SignatureValidator) : Except PyError Bool :=
  match validator with
  | none => .ok true
  | some validator => validator.validate reader request

-- The keys of the generic fallback, the first that is there
def topicKey (fields : List (String × Json)) : Json :=
  ((["resource_type","topic","event"].findSome? fun key => fields.lookup key)).getD (.str "")

def fieldsOf : Json → Except PyError (List (String × Json))
  | .obj fields => .ok fields
  | _ => .error .attributeError

def extractTopic (runtime : Runtime) (request : Request) (payload : Json) : Except PyError String :=
  if request.source = "shopify" then .ok (header request "x-shopify-topic")
  else (fieldsOf payload).map fun fields => runtime.str (topicKey fields)

-- NORMALIZER_REGISTRY has one normalizer.
def isNormalized (source : String) : Bool := source = "shopify"

def maxEventLog : Nat := 100

-- while len(_processed_events) > MAX_EVENT_LOG: pop(0)
def keepBounded (most : Nat) : List α → List α
  | [] => []
  | first :: rest => if most < (first :: rest).length then keepBounded most rest else first :: rest

def processedEvent (action : EventAction) : ProcessedEvent :=
  ⟨action.event.eventType,action.event.source,action.event.entityType,action.event.entityId,action.action,action.event.timestamp⟩

def recordEvent (action : EventAction) : IngestionRun Unit :=
  change fun s => {s with processedEvents := keepBounded maxEventLog (s.processedEvents ++ [processedEvent action])}

-- _event_router, which a teardown has left None
def onRouter (m : Run PyError Router Empty α) : IngestionRun α := fun s =>
  match s.eventRouter with
  | none => ⟨.error .attributeError,s,[]⟩
  | some router => ⟨(m router).value,{s with eventRouter := some (m router).state},[]⟩

-- receive_webhook from the body on. Nothing awaits up to execute, of which only the outcome is known here.
def receive (reader : BodyReader) (runtime : Runtime) (calendar : Calendar) (request : Request) (clocks : Clocks)
    (executed : Except PyError Unit) : IngestionRun Answer := do
  let validator ← read fun s => s.validators.get request.source
  let valid ← lift (passes reader request validator)
  if valid then
    match reader.json request.body with
    | .error _ => pure (.refused 400 "Invalid JSON payload")
    | .ok payload => do
      let topic ← lift (extractTopic runtime request payload)
      if isNormalized request.source then do
        let fields ← lift (fieldsOf payload)
        let action ← onRouter (route (normalize runtime calendar clocks.normalized topic fields) topic clocks.routed)
        match action with
        | none => pure (.content "Event acknowledged (duplicate or unrouted)")
        | some action => do
          recordEvent action
          emit action
          lift executed
          pure (.content "OK")
      else pure (.refused 400 ("No normalizer for source: " ++ request.source))
  else pure (.refused 401 "Invalid signature")

-- A delivery that was executed, and the configuration it was routed by
structure Executed where
  request : Request
  config : AList fun _ : String => Params
  action : EventAction

-- The requests whose body is awaited, and all that was executed so far
structure Endpoint where
  ingestion : Ingestion := {}
  waiting : List Request := []
  executed : List Executed := []

inductive Input where
  | configure (config : AList fun _ : String => Params)
  | teardown
  | arrive (request : Request)
  | body (i : Nat) (clocks : Clocks) (executed : Except PyError Unit)

def configOf (s : Ingestion) : AList fun _ : String => Params := (s.eventRouter.map (·.webhooksConfig)).getD ∅

section
variable (reader : BodyReader) (runtime : Runtime) (calendar : Calendar) (environ : String → Option String)

def step (endpoint : Endpoint) : Input → Endpoint
  | .configure config => {endpoint with ingestion := (configureWebhooks environ config endpoint.ingestion).state}
  | .teardown => {endpoint with ingestion := (teardownWebhooks endpoint.ingestion).state}
  | .arrive request => match (refusalFor request.source endpoint.ingestion).value with
    | .ok none => {endpoint with waiting := endpoint.waiting ++ [request]}
    | _ => endpoint
  | .body i clocks executed => match endpoint.waiting[i]? with
    | none => endpoint
    | some request =>
      let outcome := receive reader runtime calendar request clocks executed endpoint.ingestion
      {ingestion := outcome.state,waiting := endpoint.waiting.eraseIdx i
       executed := endpoint.executed ++ outcome.trace.map fun action => ⟨request,configOf outcome.state,action⟩}

end

-- The validators that a configuration leaves: of the sources before the first whose secret cannot be read
def validatorsOf (environ : String → Option String) (validators : PyDict String SignatureValidator) :
    List (Sigma fun _ : String => Params) → PyDict String SignatureValidator
  | [] => validators
  | ⟨source,sourceConfig⟩ :: rest => match secretOf environ sourceConfig with
    | .ok secret => validatorsOf environ (validators.set source (validatorFor source secret)) rest
    | .error _ => validators

section
variable {environ : String → Option String} {config : AList fun _ : String => Params} {s : Ingestion} {request : Request}

theorem addValidators_state (sources : List (Sigma fun _ : String => Params)) (s : Ingestion) :
    (addValidators environ sources s).state = {s with validators := validatorsOf environ s.validators sources} := by
  induction sources generalizing s with
  | nil => rfl
  | cons source rest ih =>
    obtain ⟨source,sourceConfig⟩ := source
    rw [addValidators,validatorsOf]
    cases secretOf environ sourceConfig with
    | error e => rw [lift_bind_error]
    | ok secret => rw [lift_bind_ok,change_bind,ih]

theorem secretOf_readable (environ : String → Option String) (source : Sigma fun _ : String => Params) :
    Hats.secretReadable source = (secretOf environ source.2).map fun _ => () := by
  unfold Hats.secretReadable secretOf
  cases (source.2.lookup "secret_env").getD .null with
  | str name => rfl
  | _ => dsimp only; split <;> rfl

theorem addValidators_value (sources : List (Sigma fun _ : String => Params)) (s : Ingestion) :
    (addValidators environ sources s).value = sources.forM Hats.secretReadable := by
  induction sources generalizing s with
  | nil => rfl
  | cons source rest ih =>
    obtain ⟨source,sourceConfig⟩ := source
    have first : (⟨source,sourceConfig⟩ :: rest : List (Sigma fun _ : String => Params)).forM Hats.secretReadable =
        Hats.secretReadable ⟨source,sourceConfig⟩ >>= fun _ => rest.forM Hats.secretReadable := rfl
    rw [addValidators,first,secretOf_readable environ]
    cases secretOf environ sourceConfig with
    | error e => rw [lift_bind_error]; rfl
    | ok secret => rw [lift_bind_ok,change_bind,ih]; rfl

-- A configuration raises here exactly where the registry's equip does.
theorem configureWebhooks_value (config : AList fun _ : String => Params) (s : Ingestion) :
    (configureWebhooks environ config s).value = Hats.secretsReadable config := by
  rw [configureWebhooks,change_bind,addValidators_value,Hats.secretsReadable]

theorem configureWebhooks_state (config : AList fun _ : String => Params) (s : Ingestion) :
    (configureWebhooks environ config s).state =
      {s with eventRouter := some {webhooksConfig := config},validators := validatorsOf environ .empty config.entries} := by
  rw [configureWebhooks,change_bind,addValidators_state]

end

section
variable {reader : BodyReader} {runtime : Runtime} {calendar : Calendar} {request : Request} {clocks : Clocks}
  {executed : Except PyError Unit} {s : Ingestion} {action : EventAction}

theorem configuredAction_event {config : AList fun _ : String => Params} {event : SophiaEvent} {topic : String}
    (chosen : configuredAction config event topic = .ok (some action)) : action.event = event := by
  unfold configuredAction at chosen
  obtain ⟨eventConfig,_,chosen⟩ := except_bind.mp chosen
  split at chosen
  · split at chosen
    · cases chosen
      rfl
    · cases chosen
  · obtain ⟨_,_,chosen⟩ := except_bind.mp chosen
    obtain ⟨_,_,chosen⟩ := except_bind.mp chosen
    obtain ⟨_,_,chosen⟩ := except_bind.mp chosen
    cases chosen
    rfl

-- What a delivery went through before it was executed
structure Accepted (reader : BodyReader) (runtime : Runtime) (calendar : Calendar) (s : Ingestion) (request : Request)
    (action : EventAction) : Prop where
  source : request.source = "shopify"
  passed : passes reader request (s.validators.get "shopify") = .ok true
  event : ∃ fields clock, reader.json request.body = .ok (.obj fields) ∧
    action.event = normalize runtime calendar clock (header request "x-shopify-topic") fields
  known : "shopify" ∈ configOf s

-- A delivery leaves the configuration and the validators. It is executed and recorded, or leaves no trace.
structure Received (reader : BodyReader) (runtime : Runtime) (calendar : Calendar) (s : Ingestion) (request : Request)
    (outcome : Outcome PyError Ingestion EventAction Answer) : Prop where
  validators : outcome.state.validators = s.validators
  config : outcome.state.eventRouter.map (·.webhooksConfig) = s.eventRouter.map (·.webhooksConfig)
  recorded : outcome.trace = [] ∧ outcome.state.processedEvents = s.processedEvents ∨
    ∃ action, outcome.trace = [action] ∧ Accepted reader runtime calendar s request action ∧
      outcome.state.processedEvents = keepBounded maxEventLog (s.processedEvents ++ [processedEvent action])

theorem Received.untouched (outcome : Outcome PyError Ingestion EventAction Answer) (state : outcome.state = s)
    (trace : outcome.trace = []) : Received reader runtime calendar s request outcome :=
  ⟨by rw [state],by rw [state],.inl ⟨trace,by rw [state]⟩⟩

theorem route_config (event : SophiaEvent) (topic : String) (now : Int) (router : Router) :
    (route event topic now router).state.webhooksConfig = router.webhooksConfig := by
  rw [route_run]
  split <;> rfl

theorem route_action {event : SophiaEvent} {topic : String} {now : Int} {router : Router}
    (chosen : (route event topic now router).value = .ok (some action)) :
    configuredAction router.webhooksConfig event topic = .ok (some action) := by
  rw [route_run] at chosen
  split at chosen
  · cases chosen
  · exact chosen

variable (reader runtime calendar request clocks executed s) in
theorem receive_received : Received reader runtime calendar s request (receive reader runtime calendar request clocks executed s) := by
  unfold receive
  rw [read_bind]
  cases passed : passes reader request (s.validators.get request.source) with
  | error e => exact .untouched _ (by rw [lift_bind_error]) (by rw [lift_bind_error])
  | ok valid =>
    rw [lift_bind_ok]
    cases valid with
    | false => exact .untouched _ rfl rfl
    | true =>
      rw [if_pos rfl]
      cases parsed : reader.json request.body with
      | error e => exact .untouched _ rfl rfl
      | ok payload =>
        dsimp only
        by_cases shopify : request.source = "shopify"
        · rw [extractTopic,if_pos shopify,lift_bind_ok,isNormalized,if_pos (by simpa using shopify)]
          cases read : fieldsOf payload with
          | error e => exact .untouched _ (by rw [lift_bind_error]) (by rw [lift_bind_error])
          | ok fields =>
            rw [lift_bind_ok]
            have object : payload = .obj fields := by
              cases payload with
              | obj fields => cases read; rfl
              | _ => cases read
            rw [shopify] at passed
            cases wired : s.eventRouter with
            | none =>
              have raised (m : Run PyError Router Empty (Option EventAction)) :
                  onRouter m s = ⟨.error .attributeError,s,[]⟩ := by rw [onRouter,wired]
              exact .untouched _ (by rw [bind_raised (raised _)]) (by rw [bind_raised (raised _)])
            | some router =>
              have ran (m : Run PyError Router Empty (Option EventAction)) :
                  onRouter m s = ⟨(m router).value,{s with eventRouter := some (m router).state},[]⟩ := by rw [onRouter,wired]
              have config (event : SophiaEvent) (topic : String) (now : Int) :
                  (some (route event topic now router).state).map (·.webhooksConfig) = s.eventRouter.map (·.webhooksConfig) := by
                rw [wired,Option.map_some,Option.map_some,route_config]
              generalize arrived : normalize runtime calendar clocks.normalized _ _ = event
              cases routed : (route event (header request "x-shopify-topic") clocks.routed router).value with
              | error e =>
                rw [bind_raised (by rw [ran,routed])]
                exact ⟨rfl,config _ _ _,.inl ⟨rfl,rfl⟩⟩
              | ok chosen =>
                rw [bind_ran (by rw [ran,routed])]
                cases chosen with
                | none => exact ⟨rfl,config _ _ _,.inl ⟨rfl,rfl⟩⟩
                | some action =>
                  have chosen := route_action routed
                  have same := configuredAction_event chosen
                  have known : "shopify" ∈ configOf s := by
                    rw [configOf,wired]
                    by_contra absent
                    have source : event.source = "shopify" := by rw [← arrived]; rfl
                    have unknown : event.source ∉ router.webhooksConfig := source ▸ absent
                    have dropped : configuredAction router.webhooksConfig event (header request "x-shopify-topic") = .ok none :=
                      configuredAction_none.mpr unknown
                    rw [chosen] at dropped
                    cases dropped
                  have accepted : Accepted reader runtime calendar s request action :=
                    ⟨shopify,passed,⟨fields,clocks.normalized,object ▸ parsed,same.trans arrived.symm⟩,known⟩
                  unfold recordEvent
                  dsimp only
                  rw [change_bind]
                  cases executed <;> exact ⟨rfl,config _ _ _,.inr ⟨action,rfl,accepted,rfl⟩⟩
        · cases topic : extractTopic runtime request payload with
          | error e => exact .untouched _ (by rw [lift_bind_error]) (by rw [lift_bind_error])
          | ok topic =>
            rw [lift_bind_ok,isNormalized,if_neg (by simpa using shopify)]
            exact .untouched _ rfl rfl

end

theorem keepBounded_rtake (most : Nat) (log : List α) : keepBounded most log = log.rtake most := by
  induction log with
  | nil => simp [keepBounded]
  | cons first rest ih =>
    unfold keepBounded List.rtake
    split
    · next long =>
      rw [ih,List.rtake,List.length_cons,Nat.sub_add_comm (Nat.le_of_lt_succ long),List.drop_succ_cons]
    · next short => rw [Nat.sub_eq_zero_of_le (Nat.le_of_not_lt short),List.drop_zero]

theorem rtake_last (most : Nat) (log : List α) (last : α) : (log.rtake most ++ [last]).rtake most = (log ++ [last]).rtake most := by
  cases most with
  | zero => rw [List.rtake_zero,List.rtake_zero]
  | succ most =>
    rw [List.rtake_concat_succ,List.rtake_concat_succ]
    simp only [List.rtake_eq_reverse_take_reverse,List.reverse_reverse,List.take_take]
    rw [Nat.min_eq_left (Nat.le_succ most)]

section
variable {environ : String → Option String} {sources : List (Sigma fun _ : String => Params)} {source : String}
  {validators : PyDict String SignatureValidator}

theorem validatorsOf_other (absent : source ∉ sources.keys) :
    (validatorsOf environ validators sources).get source = validators.get source := by
  induction sources generalizing validators with
  | nil => rfl
  | cons first rest ih =>
    obtain ⟨other,sourceConfig⟩ := first
    rw [List.keys_cons,List.mem_cons,not_or] at absent
    unfold validatorsOf
    split
    · rw [ih absent.2,PyDict.get_set_other absent.1]
    · rfl

-- Where no secret raises, each source has the validator of its own secret.
theorem validatorsOf_own (distinct : sources.NodupKeys) (readable : sources.forM Hats.secretReadable = .ok ())
    (present : ⟨source,sourceConfig⟩ ∈ sources) (read : secretOf environ sourceConfig = .ok secret) :
    (validatorsOf environ validators sources).get source = some (validatorFor source secret) := by
  induction sources generalizing validators with
  | nil => cases present
  | cons first rest ih =>
    obtain ⟨other,otherConfig⟩ := first
    have whole : Hats.secretReadable ⟨other,otherConfig⟩ >>= (fun _ => rest.forM Hats.secretReadable) = .ok () := readable
    obtain ⟨_,here,later⟩ := except_bind.mp whole
    rw [List.nodupKeys_cons] at distinct
    unfold validatorsOf
    cases own : secretOf environ otherConfig with
    | error e =>
      rw [secretOf_readable environ,own] at here
      cases here
    | ok otherSecret =>
      dsimp only
      rcases List.mem_cons.mp present with first | inRest
      · cases first
        rw [validatorsOf_other distinct.1,PyDict.get_set_same,Except.ok.inj (own.symm.trans read)]
      · exact ih distinct.2 later inRest

end

section
variable (reader : BodyReader) (runtime : Runtime) (calendar : Calendar) (environ : String → Option String)

structure Vetted (x : Executed) : Prop where
  source : x.request.source = "shopify"
  passed : passes reader x.request ((validatorsOf environ .empty x.config.entries).get "shopify") = .ok true
  event : ∃ fields clock, reader.json x.request.body = .ok (.obj fields) ∧
    x.action.event = normalize runtime calendar clock (header x.request "x-shopify-topic") fields
  known : "shopify" ∈ x.config

-- The validators are those of the configuration in force, and the log is the end of what was executed.
structure Kept (endpoint : Endpoint) : Prop where
  validators : endpoint.ingestion.validators = ((endpoint.ingestion.eventRouter.map (·.webhooksConfig)).map fun config =>
    validatorsOf environ .empty config.entries).getD .empty
  logged : endpoint.ingestion.processedEvents = (endpoint.executed.map fun x => processedEvent x.action).rtake maxEventLog
  vetted : ∀ x ∈ endpoint.executed, Vetted reader runtime calendar environ x

variable {reader runtime calendar environ} in
theorem Kept.force {endpoint : Endpoint} (kept : Kept reader runtime calendar environ endpoint)
    (known : source ∈ configOf endpoint.ingestion) :
    endpoint.ingestion.validators = validatorsOf environ .empty (configOf endpoint.ingestion).entries := by
  rw [kept.validators]
  unfold configOf at known ⊢
  cases wired : endpoint.ingestion.eventRouter with
  | none => rw [wired] at known; cases known
  | some router => rfl

variable {reader} in
theorem signed {request : Request} (passed : passes reader request (some (.shopify secret)) = .ok true) :
    request.headers "x-shopify-hmac-sha256" = some (reader.digest secret request.body) := by
  unfold passes SignatureValidator.validate header at passed
  dsimp only at passed
  split at passed
  · cases passed
  · next given =>
    split at passed
    · cases sent : request.headers "x-shopify-hmac-sha256" with
      | none => simp [sent] at given
      | some sent_ => simpa [sent,eq_comm] using passed
    · cases passed

theorem step_kept (endpoint : Endpoint) (input : Input) (kept : Kept reader runtime calendar environ endpoint) :
    Kept reader runtime calendar environ (step reader runtime calendar environ endpoint input) := by
  cases input with
  | configure config =>
    unfold step
    dsimp only
    rw [configureWebhooks_state]
    exact ⟨rfl,kept.logged,kept.vetted⟩
  | teardown => exact ⟨rfl,kept.logged,kept.vetted⟩
  | arrive request =>
    unfold step
    dsimp only
    split <;> exact ⟨kept.validators,kept.logged,kept.vetted⟩
  | body i clocks executed =>
    unfold step
    dsimp only
    split
    · exact kept
    · next request _ =>
      have received := receive_received reader runtime calendar request clocks executed endpoint.ingestion
      generalize receive reader runtime calendar request clocks executed endpoint.ingestion = outcome at received
      have validators := received.validators.trans kept.validators
      rw [← received.config] at validators
      rcases received.recorded with ⟨silent,same⟩ | ⟨action,emitted,accepted,recorded⟩
      · rw [silent,List.map_nil,List.append_nil]
        exact ⟨validators,same.trans kept.logged,kept.vetted⟩
      · rw [emitted]
        refine ⟨validators,?_,?_⟩
        · dsimp only
          rw [recorded,kept.logged,keepBounded_rtake,rtake_last,List.map_append]
          rfl
        · intro x present
          rcases List.mem_append.mp present with earlier | last
          · exact kept.vetted x earlier
          · rw [List.mem_singleton.mp last]
            have config : configOf outcome.state = configOf endpoint.ingestion := congrArg (·.getD ∅) received.config
            have passed := accepted.passed
            rw [kept.force accepted.known] at passed
            exact ⟨accepted.source,config ▸ passed,accepted.event,config ▸ accepted.known⟩

theorem run_kept (inputs : List Input) :
    Kept reader runtime calendar environ (after (step reader runtime calendar environ) {} inputs) :=
  invariant (step_kept reader runtime calendar environ) ⟨rfl,rfl,fun _ present => absurd present List.not_mem_nil⟩

-- Whatever hats were put on and off while deliveries came in: only Shopify's were executed, and where the
-- configuration that routed one names a secret that is set, its body was signed with that secret.
theorem executed_signed (inputs : List Input) :
    ∀ x ∈ (after (step reader runtime calendar environ) {} inputs).executed, x.request.source = "shopify" ∧
      (∃ fields clock, reader.json x.request.body = .ok (.obj fields) ∧
        x.action.event = normalize runtime calendar clock (header x.request "x-shopify-topic") fields) ∧
      ∃ sourceConfig, x.config.lookup "shopify" = some sourceConfig ∧
        ∀ name secret, Hats.secretsReadable x.config = .ok () → sourceConfig.lookup "secret_env" = some (.str name) →
          name ≠ "" → environ name = some secret → secret ≠ "" →
          x.request.headers "x-shopify-hmac-sha256" = some (reader.digest secret x.request.body) := by
  intro x present
  have vetted := (run_kept reader runtime calendar environ inputs).vetted x present
  refine ⟨vetted.source,vetted.event,?_⟩
  obtain ⟨sourceConfig,found⟩ := Option.isSome_iff_exists.mp (AList.lookup_isSome.mpr vetted.known)
  refine ⟨sourceConfig,found,fun name secret readable named given set filled => ?_⟩
  have own : secretOf environ sourceConfig = .ok secret := by
    rw [secretOf,named]
    simp [given,set]
  have validator : (validatorsOf environ .empty x.config.entries).get "shopify" = some (validatorFor "shopify" secret) :=
    validatorsOf_own x.config.nodupKeys readable (AList.mem_lookup_iff.mp found) own
  have passed := vetted.passed
  rw [validator] at passed
  exact signed (by simpa [validatorFor,filled] using passed)

def paidBody : BodyReader := ⟨fun secret _ => secret ++ "-digest",fun _ => .ok (.obj [("id",.int 1001)])⟩

def paidRequest : Request where
  source := "shopify"
  headers name := if name = "x-shopify-topic" then some "orders/paid"
    else if name = "x-shopify-hmac-sha256" then some "whsec-digest" else none
  body := []

def shopInputs : List Input :=
  [.configure [⟨"shopify",[⟨"secret_env",.str "SHOPIFY_WEBHOOK_SECRET"⟩].toAList⟩].toAList,.arrive paidRequest,.body 0 ⟨0,0⟩ (.ok ())]

theorem executed_signed_paid :
    ∃ x ∈ (after (step paidBody .ascii ⟨fun _ => none⟩ fun _ => some "whsec") {} shopInputs).executed,
      x.request.headers "x-shopify-hmac-sha256" = some "whsec-digest" := by
  let run := after (step paidBody .ascii ⟨fun _ => none⟩ fun _ => some "whsec") {} shopInputs
  have one : run.executed ≠ [] := List.ne_nil_of_length_pos (by decide)
  have present := List.head_mem one
  obtain ⟨_,_,sourceConfig,found,signs⟩ :=
    executed_signed paidBody .ascii ⟨fun _ => none⟩ (fun _ => some "whsec") shopInputs _ present
  have named : sourceConfig.lookup "secret_env" = some (.str "SHOPIFY_WEBHOOK_SECRET") := by
    rw [← Option.some.inj ((show (run.executed.head one).config.lookup "shopify" = some _ from rfl).symm.trans found)]
    rfl
  exact ⟨_,present,signs "SHOPIFY_WEBHOOK_SECRET" "whsec" rfl named (by decide) rfl (by decide)⟩

-- list_processed_events shows the last hundred deliveries that were executed, in their order and under every hat.
theorem events_log (inputs : List Input) :
    let endpoint := after (step reader runtime calendar environ) {} inputs
    endpoint.ingestion.processedEvents = (endpoint.executed.map fun x => processedEvent x.action).rtake maxEventLog :=
  (run_kept reader runtime calendar environ inputs).logged

end

end Sophia.Webhooks
