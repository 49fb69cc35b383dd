import Sophia.Services

namespace Sophia.Hats
open TracedRun Json Services

def notifyManagerTool : Tool := {name := "notify_manager",required := ["reason","priority","context_summary"]}
def requestApprovalTool : Tool :=
  {name := "request_approval",required := ["action_description","risk_level","recommended_action"]}
def escalateToHumanTool : Tool := {name := "escalate_to_human",required := ["reason","priority","context_summary"]}
def converseTool : Tool := {name := "converse"}

def frameworkCommunicationTools : List Tool := [notifyManagerTool,requestApprovalTool,escalateToHumanTool]

def isFramework (tool : Tool) : Bool := frameworkCommunicationTools.any fun framework => framework.name == tool.name

-- Channel and address are whatever constraints.json holds.
structure CommunicationContact where
  role : String
  channel : Json
  address : Json

structure McpSettings where
  serverUrl : String
  serverName : Json
  authToken : Json

inductive CommunicationService where
  | mock (policy : List CommunicationContact)
  | mcp (slackClient gmailClient : Option McpSettings) (policy : List CommunicationContact)

inductive NotificationService where
  | webhook (url : Json)
  | mcp (client : McpSettings) (channel : Json)
  | log

def contactOf (entry : String × Json) : Except PyError CommunicationContact := do
  let channel ← item entry.2 "channel"
  let address ← entry.2.get "address" (.str "")
  return {role := entry.1,channel,address}

def contactsOf (policyConfig : Json) : Except PyError (List CommunicationContact) := do
  let contacts ← policyConfig.get "contacts" (.obj [])
  (← entries contacts).mapM contactOf

-- MCPClient(...) of a resolved channel configuration
def mcpSettings (defaultName : String) (config : Params) : Except PyError McpSettings :=
  match config.lookup "server_url" with
  | none => .error .keyError
  | some serverUrl => do
    let url ← clientUrl serverUrl
    return {
      serverUrl := url
      serverName := (config.lookup "server_name").getD (.str defaultName)
      authToken := (config.lookup "auth_token").getD .null}

-- except (EnvironmentError, KeyError): the channel is skipped.
def skipUnset (built : Except PyError α) : Except PyError (Option α) :=
  match built with
  | .ok a => .ok (some a)
  | .error .keyError => .ok none
  | .error (.raised "EnvironmentError") => .ok none
  | .error e => .error e

def channelSettings (environ : String → Option String) (defaultName : String) (channels : Json) (channel : String) :
    Except PyError McpSettings := do
  mcpSettings defaultName (← resolveEnvConfig environ (← item channels channel))

def channelClient (environ : String → Option String) (defaultName : String) (channels : Json) (channel : String) :
    Except PyError (Option McpSettings) := do
  if ← contains channel channels then skipUnset (channelSettings environ defaultName channels channel) else .ok none

def buildCommunicationService (environ : String → Option String) (config : Params) (constraints : Constraints) :
    Except PyError CommunicationService := do
  let policy ← contactsOf constraints.communicationsPolicy
  let channels := (config.lookup "channels").getD (.obj [])
  if channels.truthy then do
    let slackClient ← channelClient environ "slack-mcp" channels "slack"
    let gmailClient ← channelClient environ "gmail-mcp" channels "email"
    return .mcp slackClient gmailClient policy
  else .ok (.mock policy)

-- The service equip gives to the framework tools
def communicationService (environ : String → Option String) (hat : HatConfig) : Except PyError CommunicationService :=
  if hat.manifest.communications.entries.isEmpty then .ok (.mock [])
  else buildCommunicationService environ hat.manifest.communications hat.constraints

def buildNotificationService (environ : String → Option String) (config : Params) : Except PyError NotificationService :=
  let provider := (config.lookup "provider").getD (.str "log")
  if isStr "webhook" provider then .ok (.webhook ((config.lookup "webhook_url").getD (.str "")))
  else if isStr "mcp" provider then do
    let resolved ← resolveEnvConfig environ ((config.lookup "config").getD (.obj []))
    let client ← mcpSettings "gmail-mcp" resolved
    return .mcp client ((resolved.lookup "channel").getD (.str "email"))
  else .ok .log

def notificationService (environ : String → Option String) (hat : HatConfig) : Except PyError (Option NotificationService) :=
  if hat.manifest.notifications.entries.isEmpty then .ok none
  else (buildNotificationService environ hat.manifest.notifications).map some

-- os.environ.get of the secret's name, where there is one
def secretReadable (source : Sigma fun _ : String => Params) : Except PyError Unit :=
  match (source.2.lookup "secret_env").getD .null with
  | .str _ => .ok ()
  | secretEnv => if secretEnv.truthy then .error .typeError else .ok ()

def secretsReadable (webhooks : AList fun _ : String => Params) : Except PyError Unit := webhooks.entries.forM secretReadable

def instantiated (hat : HatConfig) : Except PyError Tool → Option Tool
  | .ok tool => if hat.manifest.tools.contains tool.name then some tool else none
  | .error _ => none

-- load_hat_tools. A module that raises ends the loading; a class that cannot be instantiated is skipped.
def loadHatTools (around : Surroundings) (hat : HatConfig) : Except PyError (List Tool) := do
  let modules ← (around.toolModules hat).mapM id
  return modules.flatten.filterMap (instantiated hat)

structure HatRegistry where
  available : List String
  toolRegistry : ToolRegistry := .empty
  serviceRegistry : ServiceRegistry := {}
  webhooks : Option (AList fun _ : String => Params) := none
  active : Option HatConfig := none

abbrev HatRun := Run PyError HatRegistry Empty

section
variable (around : Surroundings)

def onServices (m : ServiceRun α) : HatRun α :=
  focus (·.serviceRegistry) (fun services hats => {hats with serviceRegistry := services}) m

def register (tool : Tool) : HatRun Unit :=
  change fun hats => {hats with toolRegistry := hats.toolRegistry.register tool}

def clearTools : HatRun Unit := change fun hats => {hats with toolRegistry := hats.toolRegistry.clear}

def unequip : HatRun Unit := do
  let active ← read (·.active)
  match active with
  | none => pure ()
  | some _ => do
    onServices (teardown around)
    clearTools
    change fun hats => {hats with webhooks := none,active := none}

def registerHatTools : List Tool → HatRun Unit
  | [] => pure ()
  | tool :: rest => do
    lift (around.injectServices tool)
    register tool
    registerHatTools rest

def registerAll : List Tool → HatRun Unit
  | [] => pure ()
  | tool :: rest => do
    register tool
    registerAll rest

def namedFramework (hat : HatConfig) : List Tool :=
  frameworkCommunicationTools.filter fun tool => hat.manifest.tools.contains tool.name

-- The router is in place before the secrets are read.
def configureWebhooks (hat : HatConfig) : HatRun Unit :=
  if hat.manifest.webhooks.entries.isEmpty then pure () else do
    change fun hats => {hats with webhooks := some hat.manifest.webhooks}
    lift (secretsReadable hat.manifest.webhooks)

def checkKnown (name : String) : HatRun Unit := do
  let available ← read (·.available)
  if available.contains name then pure () else lift (.error .valueError)

def setUp (hat : HatConfig) : HatRun Unit := do
  register converseTool
  let _ ← lift (communicationService around.environ hat)
  registerAll (namedFramework hat)
  let _ ← lift (notificationService around.environ hat)
  configureWebhooks hat

-- equip from the loading of the tools on: nothing here awaits.
def putOn (hat : HatConfig) : HatRun Unit := do
  let tools ← lift (loadHatTools around hat)
  registerHatTools around (tools.filter (!isFramework ·))
  setUp around hat
  change fun hats => {hats with active := some hat}

def loadServices (name : String) : HatRun HatConfig := do
  let hat ← lift (around.loadHat name)
  onServices (teardown around)
  onServices (initializeServices around hat.manifest.backends)
  pure hat

-- equip up to the services: the awaits are all in here.
def prepareHat (name : String) : HatRun HatConfig := do
  checkKnown name
  unequip around
  loadServices around name

def equip (name : String) : HatRun HatConfig := do
  let hat ← prepareHat around name
  putOn around hat
  pure hat

end

end Sophia.Hats
