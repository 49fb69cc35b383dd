import Sophia.Webhooks
import Sophia.Memory
import Sophia.Library.PyFloat

namespace Sophia.Webhooks
open TracedRun Json PyText Sophia.Memory

-- _daily_counts; a day stands for its date text.
abbrev DailyCounts := PyDict String (PyDict Int Nat)

def hourOf (instant : Int) : Int := instant / 3600000000 % 24
def dayOf (instant : Int) : Int := instant / 86400000000

-- A day wraps midnight when it starts later than it ends. Bounds that are no numbers do not compare with the hour.
def inQuietHours (quietStart quietEnd : Json) (hour : Int) : Except PyError Bool :=
  if quietStart.isNull || quietEnd.isNull then .ok false
  else match quietStart.number?,quietEnd.number? with
    | some first,some last =>
      .ok (if last < first then decide (first ≤ hour) || decide ((hour : ℚ) < last)
        else decide (first ≤ hour) && decide ((hour : ℚ) < last))
    | _,_ => .error .typeError

-- current >= max_daily
def reached (current : Nat) (maxDaily : Json) : Except PyError Bool :=
  match maxDaily.number? with
  | some limit => .ok (limit ≤ current)
  | none => .error .typeError

def countsOf (counts : DailyCounts) (customerId : String) : PyDict Int Nat := (counts.get customerId).getD .empty

-- The gate reads the clock for the hour and again for the date.
structure GateClocks where
  hour : Int
  today : Int

-- What the limits configuration asks of the gate
structure Limits where
  maxDaily : Json
  quietStart : Json
  quietEnd : Json

def limitsOf (config : Json) : Except PyError Limits := do
  let config := if config.truthy then config else .obj []
  let maxDaily ← config.get "max_daily_per_customer" (.int 10)
  let quietStart ← config.get "quiet_hours_start" .null
  let quietEnd ← config.get "quiet_hours_end" .null
  return {maxDaily,quietStart,quietEnd}

section
variable {ω : Type} (runtime : Runtime)

-- NotificationGate.check
def check (customerId : String) (config : Json) (clocks : GateClocks) : Run PyError DailyCounts ω (Bool × String) := do
  let limits ← lift (limitsOf config)
  let quiet ← lift (inQuietHours limits.quietStart limits.quietEnd (hourOf clocks.hour))
  if quiet then
    pure (false,"Quiet hours (" ++ runtime.str limits.quietStart ++ ":00-" ++ runtime.str limits.quietEnd ++ ":00 UTC)")
  else do
    let today := dayOf clocks.today
    change fun counts => counts.set customerId ((countsOf counts customerId).filterKeys (· = today))
    let current ← read fun counts => ((countsOf counts customerId).get today).getD 0
    let stop ← lift (reached current limits.maxDaily)
    if stop then pure (false,"Daily limit exceeded (" ++ runtime.str limits.maxDaily ++ "/day)")
    else do
      change fun counts => counts.set customerId ((countsOf counts customerId).set today (current + 1))
      pure (true,"OK")

end

structure NotificationRecipient where
  customerId : String
  email : Json

structure NotificationMessage where
  body : String
  subject : String
  sourceEvent : String

inductive Effect where
  | triggered (message : Json) (source eventType entityId : String)
  | notified (recipient : NotificationRecipient) (message : NotificationMessage)

-- The collaborators of the router. Each can raise.
structure MemoryProvider (μ : Type) where
  store : Entity → μ → μ × Except PyError Unit
  get : String → μ → μ × Except PyError (Option Entity)

structure Collaborators (μ : Type) where
  memory : Option (MemoryProvider μ) := none
  agentLoop : Option (Json → Except PyError Unit) := none
  notificationService : Option (NotificationRecipient → NotificationMessage → Except PyError Unit) := none
  title : String → String := id

structure Handling (μ : Type) where
  memory : μ
  dailyCounts : DailyCounts := .empty

def mockProvider (fresh : String) : MemoryProvider MockMemoryProvider where
  store entity memory := (storeEntity fresh memory entity,.ok ())
  get entityId memory := (memory,.ok (getEntity memory entityId))

abbrev HandlingRun (μ : Type) := Run PyError (Handling μ) Effect

def onMemory {μ α : Type} (step : μ → μ × Except PyError α) : HandlingRun μ α :=
  overState fun s => ({s with memory := (step s.memory).1},(step s.memory).2)

-- except Exception, with a line in the log
def absorbed {μ α : Type} (default : α) (m : HandlingRun μ α) : HandlingRun μ α := rescue (fun _ => .ok default) m

def memoryId (event : SophiaEvent) : String := event.source ++ ":" ++ event.entityType ++ ":" ++ event.entityId

def entityOf (event : SophiaEvent) (clock : Int) : Entity where
  id := memoryId event
  entityType := .str event.entityType
  name := .str event.entityId
  attributes := .obj [("source",.str event.source),("event_type",.str event.eventType),("data",event.data)]
  lastSeen := .aware clock

-- _notification_limits: the first source that gives limits decides, in the order of the configuration.
def notificationLimits (sources : List (String × Params)) : Json :=
  (sources.findSome? fun source => source.2.lookup "notification_limits").getD (.obj [])

-- The clock readings of one execute
structure ExecuteClocks where
  stored : Int
  gate : GateClocks

section
variable {μ : Type} (collaborators : Collaborators μ) (runtime : Runtime) (sources : List (String × Params))

def handleMemoryUpdate (action : EventAction) (clock : Int) : HandlingRun μ Unit :=
  match collaborators.memory with
  | none => pure ()
  | some provider => absorbed () (onMemory (provider.store (entityOf action.event clock)))

def handleTriggerPipeline (action : EventAction) : HandlingRun μ Unit :=
  match collaborators.agentLoop with
  | none => pure ()
  | some process => do
    let message := action.syntheticMessage.orElse
      (.str ("Webhook event: " ++ action.event.eventType ++ " for " ++ action.event.entityId))
    emit (.triggered message action.event.source action.event.eventType action.event.entityId)
    absorbed () (lift (process message))

-- The address is looked up under the customer's id, for which the entity id is taken.
def lookUpEmail (event : SophiaEvent) : HandlingRun μ Json :=
  match collaborators.memory with
  | none => pure .null
  | some provider => absorbed .null do
    let entity ← onMemory (provider.get (event.source ++ ":customer:" ++ event.entityId))
    match entity with
    | some entity => lift (entity.attributes.get "email" .null)
    | none => pure .null

def handleNotify (action : EventAction) (clocks : GateClocks) : HandlingRun μ Unit :=
  match collaborators.notificationService with
  | none => pure ()
  | some send => do
    let email ← lookUpEmail collaborators action.event
    let recipient := ⟨action.event.entityId,email⟩
    let message := {
      body := "Update for your " ++ action.event.entityType ++ ": " ++ action.event.eventType
      subject := collaborators.title action.event.entityType ++ " Update"
      sourceEvent := action.event.eventType}
    let verdict ← focus Handling.dailyCounts (fun counts s => {s with dailyCounts := counts})
      (check runtime action.event.entityId (notificationLimits sources) clocks)
    if verdict.1 then do
      emit (.notified recipient message)
      absorbed () (lift (send recipient message))
    else pure ()

def execute (action : EventAction) (clocks : ExecuteClocks) : HandlingRun μ Unit :=
  if action.action.isStr "memory_update" then handleMemoryUpdate collaborators action clocks.stored
  else if action.action.isStr "trigger_pipeline" then handleTriggerPipeline collaborators action
  else if action.action.isStr "memory_update_and_notify" then do
    handleMemoryUpdate collaborators action clocks.stored
    handleNotify collaborators runtime sources action clocks.gate
  else pure ()

end

end Sophia.Webhooks
