import Sophia.Domain
import Sophia.Library.TracedRun

namespace Sophia.Services
open TracedRun Json PyText

-- What HatRegistry.equip finds outside the program: environment variables, MCP servers, the
-- files of the hat and its tool modules.
structure Surroundings where
  environ : String → Option String := fun _ => none
  connect : (serverUrl : String) → (serverName : Json) → Except PyError Unit := fun _ _ => .ok ()
  close : String × Json → Except PyError Unit := fun _ => .ok ()
  loadHat : String → Except PyError HatConfig
  toolModules : HatConfig → List (Except PyError (List (Except PyError Tool))) := fun _ => []
  injectServices : Tool → Except PyError Unit := fun _ => .ok ()

-- A constructed service. The built-in providers are the mocks.
inductive Service where
  | mock (serviceName : String)
  | mcp (serviceName platform : String) (client : String × Json)

structure ServiceRegistry where
  services : AList (fun _ : String => Service) := ∅
  mcpClients : List (String × Json) := []

-- Nothing of it is traced.
abbrev ServiceRun := Run PyError ServiceRegistry Empty

def serviceNames : List String := ["order","customer","shipping","inventory","compensation"]

def endsWithEnv (key : String) : Bool := "_env".toList.isSuffixOf key.toList

def withoutEnv (key : String) : String := String.ofList (key.toList.take (key.toList.length - "_env".length))

def resolveEntry (environ : String → Option String) (resolved : Params) (entry : String × Json) : Except PyError Params :=
  match entry.2 with
  | .str value =>
    if endsWithEnv entry.1 then match environ value with
      | some envValue => .ok (resolved.insert (withoutEnv entry.1) (.str envValue))
      | none => .error (.raised "EnvironmentError")
    else .ok (resolved.insert entry.1 (.str value))
  | value => .ok (resolved.insert entry.1 value)

def resolveEnvConfig (environ : String → Option String) (config : Json) : Except PyError Params := do
  (← entries config).foldlM (resolveEntry environ) ∅

-- cls(**resolved_config): the mocks take no arguments.
def construct (serviceName : String) (provider : Json) (config : Params) : Except PyError Service := do
  hashable provider
  if isStr "mock" provider then
    if config.entries.isEmpty then .ok (.mock serviceName) else .error .typeError
  else .error .valueError

def platforms : List String := ["shopify","woocommerce","stripe","shipstation"]

-- Shopify's mapping module has no function for shipping.
def hasMapping (platform serviceName : String) : Bool := !(platform == "shopify" && serviceName == "shipping")

def sameClient (a b : String × Json) : Bool := a.1 == b.1 && sameScalar a.2 b.2

-- MCPClient strips the URL, so it must be a text.
def clientUrl : Json → Except PyError String
  | .str url => .ok url
  | _ => .error .attributeError

def platformOf (config : Params) : Except PyError String := do
  let platform := (config.lookup "platform").getD .null
  if platform.truthy then hashable platform else .error .valueError
  match platforms.find? (isStr · platform) with
  | some name => .ok name
  | none => .error .valueError

-- The client's key; its parts are hashed before the URL is stripped.
def clientOf (config : Params) : Except PyError ((String × Json) × String) := do
  let serverUrl := (config.lookup "server_url").getD .null
  let serverName := (config.lookup "server_name").getD (.str "mcp-server")
  if serverUrl.truthy then .ok () else .error .valueError
  let platform ← platformOf config
  hashable serverUrl
  hashable serverName
  return ((← clientUrl serverUrl,serverName),platform)

def mappedService (serviceName platform : String) (client : String × Json) : Except PyError Service :=
  if hasMapping platform serviceName then .ok (.mcp serviceName platform client) else .error .valueError

section
variable (around : Surroundings)

def connectClient (client : String × Json) : ServiceRun Unit := do
  let known ← read fun s => s.mcpClients.any (sameClient client)
  if known then pure ()
  else do
    lift (around.connect client.1 client.2)
    change fun s => {s with mcpClients := s.mcpClients ++ [client]}

def initializeMcpService (serviceName : String) (config : Params) : ServiceRun Service := do
  let client ← lift (clientOf config)
  connectClient around client.1
  lift (mappedService serviceName client.2 client.1)

def makeService (serviceName : String) (provider : Json) (config : Params) : ServiceRun Service :=
  if isStr "mcp" provider then initializeMcpService around serviceName config
  else lift (construct serviceName provider config)

def initializeService (backends : AList fun _ : String => Params) (serviceName : String) :
    ServiceRun Unit := do
  let backend := (backends.lookup serviceName).getD ∅
  let config ← lift (resolveEnvConfig around.environ ((backend.lookup "config").getD (.obj [])))
  let service ← makeService around serviceName ((backend.lookup "provider").getD (.str "mock")) config
  change fun s => {s with services := s.services.insert serviceName service}

def initializeAll (backends : AList fun _ : String => Params) : List String → ServiceRun Unit
  | [] => pure ()
  | serviceName :: rest => do
    initializeService around backends serviceName
    initializeAll backends rest

def initializeServices (backends : AList fun _ : String => Params) : ServiceRun Unit :=
  initializeAll around backends serviceNames

def closeAll : List (String × Json) → Except PyError Unit
  | [] => .ok ()
  | client :: rest => do
    around.close client
    closeAll rest

-- No service has a close of its own; the clients are forgotten only when all have been closed.
def teardown : ServiceRun Unit := do
  change fun s => {s with services := ∅}
  let clients ← read (·.mcpClients)
  lift (closeAll around clients)
  change fun s => {s with mcpClients := []}

end

def get (registry : ServiceRegistry) (serviceName : String) : Except PyError Service :=
  match registry.services.lookup serviceName with
  | some service => .ok service
  | none => .error .keyError

end Sophia.Services
