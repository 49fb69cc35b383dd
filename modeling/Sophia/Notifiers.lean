import Sophia.NotificationCap
import Sophia.Communication
import Sophia.McpRetries
import Sophia.Library.StepRun

namespace Sophia.Notifications
open TracedRun StepRun Json Mcp Hats Webhooks Communication

structure NotificationResult where
  success : Bool
  channel : Json
  messageId : Json := .null
  failureReason : Json := .null

-- What goes out: a POST of the MCP client, a POST to the configured URL, a line of the log
inductive Dispatch where
  | mcp (posted : Posted)
  | webhook (url payload : Json)
  | logged (customerId channelPreference subject body : String)

-- What the configured URL answers
structure HookAnswer where
  status : Int
  text : String

-- What one send meets: the handshake of a first connect(), the network of the call, the URL and uuid4
structure Crossing where
  opening : Handshake
  network : Network
  hook : Except PyError HookAnswer
  fresh : String

-- What MCPNotificationService keeps
structure Wire where
  client : Client := {}
  connected : Bool := false

abbrev NotifyRun := Run PyError Wire Dispatch

def onClient (m : ClientRun α) : NotifyRun α := fun wire =>
  ⟨(m wire.client).value,{wire with client := (m wire.client).state},(m wire.client).trace.map .mcp⟩

def refused (channel : Json) (reason : String) : NotificationResult where
  success := false
  channel := channel
  failureReason := .str reason

def noMessageId : NotificationResult := refused (.str "email") "Gmail MCP did not return a messageId"

def mailArgs (recipient : NotificationRecipient) (message : NotificationMessage) : Json :=
  .obj [("to",.arr [recipient.email]),("subject",orElse message.subject "(no subject)"),("body",.str message.body),
    ("content_type",.str "text/plain")]

def hookPayload (recipient : NotificationRecipient) (message : NotificationMessage) : Json :=
  .obj [("customer_id",.str recipient.customerId),("email",recipient.email),("phone",.null),("channel",.str "email"),
    ("subject",.str message.subject),("body",.str message.body),("source_event",.str message.sourceEvent),
    ("metadata",.obj [])]

-- The log shows no address, and the first 200 characters of a body.
def logLine (recipient : NotificationRecipient) (message : NotificationMessage) : Dispatch :=
  .logged recipient.customerId "email" message.subject (String.ofList (message.body.toList.take 200))

-- json.loads and the text of an exception are the office's. Its servers have no part here.
section
variable (office : Office) (maxRetries : Nat) (crossing : Crossing)
variable (recipient : NotificationRecipient) (message : NotificationMessage)

def ensureConnected : NotifyRun Unit := do
  let wire ← read id
  if wire.connected then pure ()
  else do
    onClient (connect maxRetries crossing.opening)
    change fun wire => {wire with connected := true}

def mailAnswer (result : McpToolResult) : Except PyError NotificationResult :=
  if result.isError.truthy then do
    let errorText ← extractText result.content
    return refused (.str "email") (if errorText = "" then "MCP tool returned an error" else errorText)
  else do
    let response ← parseJsonContent office result.content
    let messageId ← response.get "messageId" .null
    if messageId.truthy then return {success := true,channel := .str "email",messageId} else return noMessageId

-- Only the call of the tool is inside the try.
def callMail : NotifyRun (Except PyError McpToolResult) :=
  onClient (rescue (fun e => .ok (.error e)) do
    let result ← callTool maxRetries crossing.network "send_email" (mailArgs recipient message)
    pure (.ok result))

def sendMail (channel : Json) : NotifyRun NotificationResult :=
  if channel.isStr "email" then
    if recipient.email.truthy then do
      ensureConnected maxRetries crossing
      let called ← callMail maxRetries crossing recipient message
      match called with
      | .error e => pure (refused (.str "email") (office.strError e))
      | .ok result => lift (mailAnswer office result)
    else pure (refused (.str "email") "Recipient has no email address")
  else lift (.error (.raised "NotImplementedError"))

def HookAnswer.isSuccess (answer : HookAnswer) : Bool := 200 ≤ answer.status ∧ answer.status < 300

def statusText (answer : HookAnswer) : String :=
  "HTTP " ++ office.str (.int answer.status) ++ ": " ++ String.ofList (answer.text.toList.take 200)

def sendHook (url : Json) : NotifyRun NotificationResult := do
  emit (.webhook url (hookPayload recipient message))
  match crossing.hook with
  | .error e => pure (refused (.str "webhook") (office.strError e))
  | .ok answer =>
    if answer.isSuccess then pure {success := true,channel := .str "webhook",messageId := .str crossing.fresh}
    else pure (refused (.str "webhook") (statusText office answer))

def sendLog : NotifyRun NotificationResult := do
  emit (logLine recipient message)
  pure {success := true,channel := .str "log",messageId := .str crossing.fresh}

-- send_notification of the three services
def sendNotification (service : NotificationService) : NotifyRun NotificationResult :=
  match service with
  | .mcp _ channel => sendMail office maxRetries crossing recipient message channel
  | .webhook url => sendHook office crossing recipient message url
  | .log => sendLog crossing recipient message

end

-- What carries a notification. The handshakes do not.
def Dispatch.carries : Dispatch → Bool
  | .mcp posted => posted.method = "tools/call"
  | .webhook _ _ => true
  | .logged _ _ _ _ => true

-- The server was asked to send the mail and answered with the id that is reported.
structure Confirmed (office : Office) (maxRetries : Nat) (crossing : Crossing) (recipient : NotificationRecipient)
    (message : NotificationMessage) (trace : List Dispatch) (result : NotificationResult) : Prop where
  asked : ∃ posted, .mcp posted ∈ trace ∧ posted.method = "tools/call" ∧
    posted.params = some (.obj [("name",.str "send_email"),("arguments",mailArgs recipient message)])
  answered : ∃ i data answer content, i < maxRetries ∧ (crossing.network.call i).reply = .body data ∧
    resultOf data = .ok answer ∧ answer.get "content" (.arr []) = .ok content ∧
    ∃ response, parseJsonContent office content = .ok response ∧ response.get "messageId" .null = .ok result.messageId
  named : result.messageId.truthy = true

-- What it takes that a send is reported as a success
def Delivered (office : Office) (maxRetries : Nat) (crossing : Crossing) (recipient : NotificationRecipient)
    (message : NotificationMessage) (trace : List Dispatch) (result : NotificationResult) : NotificationService → Prop
  | .mcp _ _ => Confirmed office maxRetries crossing recipient message trace result
  | .webhook url => .webhook url (hookPayload recipient message) ∈ trace ∧
    ∃ answer, crossing.hook = .ok answer ∧ answer.isSuccess = true
  | .log => logLine recipient message ∈ trace

section
variable {office : Office} {maxRetries : Nat} {crossing : Crossing}
variable {recipient : NotificationRecipient} {message : NotificationMessage} {wire : Wire}

end

end Sophia.Notifications
