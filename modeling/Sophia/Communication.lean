import Sophia.McpClient
import Sophia.Hats

namespace Sophia.Communication
open TracedRun Json Mcp Hats PyText

-- The body and the priority are what the caller puts there.
structure CommunicationMessage where
  subject : String
  body : Json
  priority : Json
  sourceTicket : Option String := none

structure CommunicationResult where
  success : Bool
  channel : Json
  messageId : Json := .null
  failureReason : Json := .null

-- What the client of an MCP server comes to when it connects and when a tool is called
structure Server where
  connect : Except PyError Unit
  callTool : String → Json → Except PyError McpToolResult

-- What the service finds: the two servers, json.loads, upper, str of a value and of an exception
structure Office where
  slack : Server
  gmail : Server
  loads : String → Except PyError Json
  upper : String → String
  str : Json → String
  strError : PyError → String

-- _slack_connected and _gmail_connected
structure Links where
  slack : Bool := false
  gmail : Bool := false

abbrev OfficeRun := Run PyError Links Empty

def isTextBlock (block : Json) : Bool :=
  match block with
  | .obj fields => ((fields.lookup "type").getD .null).isStr "text"
  | _ => false

def textOf (block : Json) : Json :=
  match block with
  | .obj fields => (fields.lookup "text").getD (.str "")
  | _ => .str ""

-- " ".join takes texts only.
def joinable : Json → Except PyError String
  | .str text => .ok text
  | _ => .error .typeError

def joinTexts (parts : List Json) : Except PyError String := do
  return join " " (← parts.mapM joinable)

def extractText (content : Json) : Except PyError String := do
  let blocks ← content.iterate
  joinTexts ((blocks.filter isTextBlock).map textOf)

section
variable (office : Office)

-- json.loads(block["text"])
def loadBlock (block : Json) : Except PyError Json := do
  match ← item block "text" with
  | .str text => office.loads text
  | _ => .error .typeError

-- A block without text or with a text that is no JSON is passed over.
def parseBlocks : List Json → Except PyError Json
  | [] => .ok (.obj [])
  | block :: rest =>
    if isTextBlock block then match loadBlock office block with
      | .ok data => .ok data
      | .error e => if e = .keyError ∨ e = decodeError then parseBlocks rest else .error e
    else parseBlocks rest

def parseJsonContent (content : Json) : Except PyError Json := do
  parseBlocks office (← content.iterate)

def upperText : Json → Except PyError String
  | .str text => .ok (office.upper text)
  | _ => .error .attributeError

-- The two _ensure_..._connected
def ensureConnected (linked : Links → Bool) (mark : Links → Links) (server : Server) : OfficeRun Unit := do
  let links ← read id
  if linked links then pure ()
  else do
    lift server.connect
    change mark

def ensureSlackConnected : OfficeRun Unit := ensureConnected (·.slack) (fun links => {links with slack := true}) office.slack
def ensureGmailConnected : OfficeRun Unit := ensureConnected (·.gmail) (fun links => {links with gmail := true}) office.gmail

def failed (channel : String) (reason : Json) : CommunicationResult :=
  {success := false,channel := .str channel,failureReason := reason}

def orElse (text fallback : String) : Json := .str (if text = "" then fallback else text)

def slackText (contact : CommunicationContact) (message : CommunicationMessage) : Except PyError Json := do
  let priority ← upperText office message.priority
  let ticket := match truthyText message.sourceTicket with
    | some ticket => "\n\nTicket: " ++ ticket
    | none => ""
  return .obj [("channel_id",contact.address),
    ("text",.str ("*[" ++ priority ++ "]* " ++ message.subject ++ "\n\n" ++ office.str message.body ++ ticket)),
    ("content_type",.str "text/markdown")]

def slackAnswer (result : McpToolResult) : Except PyError CommunicationResult :=
  if result.isError.truthy then do
    let errorText ← extractText result.content
    return failed "slack" (orElse errorText "Slack MCP returned an error")
  else do
    let response ← parseJsonContent office result.content
    let ok ← response.get "ok" .null
    if ok.truthy then do
      let ts ← response.get "ts" .null
      return {success := true,channel := .str "slack",messageId := ts}
    else do
      let reason ← response.get "error" (.str "Unknown Slack error")
      return failed "slack" reason

-- Only the call itself is inside the try.
def deliver (connected : OfficeRun Unit) (server : Server) (toolName channel : String) (args : Except PyError Json)
    (answer : McpToolResult → Except PyError CommunicationResult) : OfficeRun CommunicationResult := do
  connected
  let args ← lift args
  match server.callTool toolName args with
  | .error e => pure (failed channel (.str (office.strError e)))
  | .ok result => lift (answer result)

def sendSlack (contact : CommunicationContact) (message : CommunicationMessage) : OfficeRun CommunicationResult :=
  deliver office (ensureSlackConnected office) office.slack "slack_post_message" "slack" (slackText office contact message)
    (slackAnswer office)

-- body += text: a list takes the characters.
def appendText (body : Json) (text : String) : Except PyError Json :=
  match body with
  | .str body => .ok (.str (body ++ text))
  | .arr items => .ok (.arr (items ++ text.toList.map fun c => .str (String.ofList [c])))
  | _ => .error .typeError

def emailBody (message : CommunicationMessage) : Except PyError Json :=
  match truthyText message.sourceTicket with
  | some ticket => appendText message.body ("\n\nSource ticket: " ++ ticket)
  | none => .ok message.body

def emailArgs (contact : CommunicationContact) (message : CommunicationMessage) : Except PyError Json := do
  let body ← emailBody message
  let priority ← upperText office message.priority
  return .obj [("to",.arr [contact.address]),("subject",.str ("[" ++ priority ++ "] " ++ message.subject)),
    ("body",body),("content_type",.str "text/plain")]

def emailAnswer (result : McpToolResult) : Except PyError CommunicationResult :=
  if result.isError.truthy then do
    let errorText ← extractText result.content
    return failed "email" (orElse errorText "Gmail MCP returned an error")
  else do
    let response ← parseJsonContent office result.content
    let messageId ← response.get "messageId" .null
    if messageId.truthy then return {success := true,channel := .str "email",messageId}
    else return failed "email" (.str "Gmail MCP did not return a messageId")

def sendEmail (contact : CommunicationContact) (message : CommunicationMessage) : OfficeRun CommunicationResult :=
  deliver office (ensureGmailConnected office) office.gmail "send_email" "email" (emailArgs office contact message)
    (emailAnswer office)

end

-- MCPCommunicationService: its clients, where they are configured, and its policy
structure Messenger where
  slackClient : Option McpSettings
  gmailClient : Option McpSettings
  policy : List CommunicationContact

def unknownRole (role : String) : CommunicationResult := failed "none" (.str ("Role '" ++ role ++
  "' not found in communications policy. Add it to constraints.json under communications_policy.contacts."))

def noAddress (role : String) (contact : CommunicationContact) : CommunicationResult where
  success := false
  channel := contact.channel
  failureReason := .str ("Contact '" ++ role ++ "' has no address configured. Set the address in constraints.json.")

def noSlack : CommunicationResult := failed "slack" (.str ("Slack channel is referenced in policy but no Slack MCP " ++
  "is configured in hat.json communications.channels.slack"))

def noGmail : CommunicationResult := failed "email" (.str ("Email channel is referenced in policy but no Gmail MCP " ++
  "is configured in hat.json communications.channels.email"))

section
variable (office : Office)

def sendTo (messenger : Messenger) (contact : CommunicationContact) (message : CommunicationMessage) :
    OfficeRun CommunicationResult :=
  if contact.channel.isStr "slack" then
    if messenger.slackClient.isSome then sendSlack office contact message else pure noSlack
  else if contact.channel.isStr "email" then
    if messenger.gmailClient.isSome then sendEmail office contact message else pure noGmail
  else lift (.error .valueError)

def sendToRole (messenger : Messenger) (role : String) (message : CommunicationMessage) : OfficeRun CommunicationResult :=
  match messenger.policy.find? (·.role == role) with
  | none => pure (unknownRole role)
  | some contact => if contact.address.truthy then sendTo office messenger contact message else pure (noAddress role contact)

def queuePositions : List (String × Nat) := [("low",8),("medium",4),("high",2),("urgent",1)]
def waitTimes : List (String × String) := [("low","~30 min"),("medium","~15 min"),("high","~5 min"),("urgent","~2 min")]

-- positions.get(priority, default); a list or an object cannot be a key.
def byPriority (positions : List (String × α)) (default : α) (priority : Json) : Except PyError α := do
  hashable priority
  match priority with
  | .str text => return (positions.lookup text).getD default
  | _ => return default

def escalationMessage (ticketId : String) (reason : Json) (params : Params) : CommunicationMessage where
  subject := "Escalation: " ++ office.str reason
  body := (params.lookup "context_summary").getD (.str "")
  priority := (params.lookup "priority").getD (.str "medium")
  sourceTicket := some ticketId

-- With the mock service nobody is notified.
def notifyManager (service : CommunicationService) (ticketId : String) (params : Params) : OfficeRun Bool :=
  match service with
  | .mock _ => pure false
  | .mcp slackClient gmailClient policy => match params.lookup "reason" with
    | none => lift (.error .keyError)
    | some reason => do
      let result ← sendToRole office {slackClient,gmailClient,policy} "manager" (escalationMessage office ticketId reason params)
      pure result.success

-- EscalateToHumanTool.execute
def escalateToHuman (service : CommunicationService) (ticketId : String) (params : Params) : OfficeRun ToolResult := do
  let priority := (params.lookup "priority").getD (.str "medium")
  let notificationSent ← notifyManager office service ticketId params
  let position ← lift (byPriority queuePositions 4 priority)
  let wait ← lift (byPriority waitTimes "~15 min" priority)
  pure ⟨true,.obj [("ticket_id",.str ticketId),("queue_position",.int position),("estimated_wait",.str wait),
    ("notification_sent",.bool notificationSent)],"Escalated to human agent (priority: " ++ office.str priority ++ ")"⟩

end

end Sophia.Communication
