import Sophia.Domain
import Sophia.Library.PyTime
import Sophia.Library.TracedRun
import Sophia.Library.DedupWindow

namespace Sophia.Webhooks
open TracedRun Json PyText DedupWindow

structure SophiaEvent where
  eventType : String
  source : String
  entityType : String
  entityId : String
  data : Json
  timestamp : Moment
  rawPayload : List (String × Json)

-- Event type and entity type of the Shopify topics
def shopifyTopicMap : List (String × String × String) :=
  [("orders/create","order.created","order"),("orders/cancelled","order.cancelled","order"),
    ("orders/fulfilled","order.fulfilled","order"),("orders/paid","order.paid","order"),
    ("orders/updated","order.updated","order"),("refunds/create","refund.created","order")]

def typesOf (topic : String) : String × String :=
  match shopifyTopicMap.lookup topic with
  | some types => types
  | none => (replaceChar '/' "." topic,rstripChar 's' (before '/' topic))

def field (payload : List (String × Json)) (key : String) : Json := (payload.lookup key).getD .null

-- updated_at, or created_at where that is falsy
def rawTimestamp (payload : List (String × Json)) : Json :=
  if (field payload "updated_at").truthy then field payload "updated_at" else field payload "created_at"

-- A value that is no text has no replace, which counts like a text that is no date.
def timestampOf (calendar : Calendar) (payload : List (String × Json)) : Option Moment :=
  match rawTimestamp payload with
  | .str text => if text = "" then none else calendar.parse text
  | _ => none

def dataKeys : List String := ["order_number","email","total_price","financial_status","fulfillment_status"]

-- The clock is read when the payload gives no time.
def normalize (runtime : Runtime) (calendar : Calendar) (clock : Int) (topic : String) (payload : List (String × Json)) :
    SophiaEvent where
  eventType := (typesOf topic).1
  source := "shopify"
  entityType := (typesOf topic).2
  entityId := runtime.str ((payload.lookup "id").getD (.str ""))
  data := .obj (dataKeys.map fun key => (key,field payload key))
  timestamp := (timestampOf calendar payload).getD (.aware clock)
  rawPayload := payload

structure EventAction where
  action : Json
  event : SophiaEvent
  syntheticMessage : Json := .null

structure DedupKey where
  source : String
  eventType : String
  entityId : String
  timestamp : Moment
  deriving DecidableEq

def dedupKey (event : SophiaEvent) : DedupKey := ⟨event.source,event.eventType,event.entityId,event.timestamp⟩

-- _seen as its lookup
structure Router where
  webhooksConfig : AList fun _ : String => Params
  seen : Memory DedupKey := fun _ => none

-- Five minutes, in the microseconds of the clock
def dedupWindow : Int := 300000000

def memoryUpdate : Json := .str "memory_update"

def interpolate (entityId : String) (message : Json) : Except PyError Json :=
  if message.truthy then do
    let named ← contains "\x7bentity_id\x7d" message
    match named,message with
    | false,_ => .ok message
    | true,.str text => .ok (.str (replace "\x7bentity_id\x7d" entityId text))
    | true,_ => .error .attributeError
  else .ok message

-- What the hat's webhook configuration says of an event
def configuredAction (config : AList fun _ : String => Params) (event : SophiaEvent) (topic : String) :
    Except PyError (Option EventAction) := do
  let sourceConfig := (config.lookup event.source).getD ∅
  let eventConfig ← ((sourceConfig.lookup "events").getD (.obj [])).get topic .null
  match eventConfig with
  | .null => .ok (if event.source ∈ config then some {action := memoryUpdate,event} else none)
  | eventConfig => do
    let action ← eventConfig.get "action" memoryUpdate
    let message ← eventConfig.get "synthetic_message" .null
    let syntheticMessage ← interpolate event.entityId message
    return some {action,event,syntheticMessage}

def route (event : SophiaEvent) (topic : String) (now : Int) : Run PyError Router Empty (Option EventAction) := do
  let router ← read id
  if duplicate dedupWindow router.seen (dedupKey event) now then pure none
  else do
    change fun router => {router with seen := accept dedupWindow router.seen (dedupKey event) now}
    lift (configuredAction router.webhooksConfig event topic)

-- A call of route, and the calls of a run one after another
structure Arrival where
  event : SophiaEvent
  topic : String
  now : Int

def arrive (router : Router) (arrival : Arrival) : Router := (route arrival.event arrival.topic arrival.now router).state

-- A delivery reads the clock in normalize and again in route.
structure Clocks where
  normalized : Int
  routed : Int

def delivery (runtime : Runtime) (calendar : Calendar) (topic : String) (payload : List (String × Json)) (clocks : Clocks) :
    Arrival := ⟨normalize runtime calendar clocks.normalized topic payload,topic,clocks.routed⟩

end Sophia.Webhooks
