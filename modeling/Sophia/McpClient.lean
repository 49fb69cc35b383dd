import Sophia.Library.TracedRun
import Sophia.Library.Retry
import Sophia.Library.PyValue

namespace Sophia.Mcp
open TracedRun Json

-- What the client sees of one POST. Refused stands for ConnectError, NetworkError and HTTPStatusError, broken for
-- every other exception of the exchange, such as the one of an answer that is no JSON.
inductive Reply where
  | timeout
  | refused
  | broken (e : PyError)
  | body (data : Json)

-- What becomes of one POST: a lost one is not performed and a late answer is performed unseen.
structure Fate where
  performed : Bool
  reply : Reply

-- The fates of the POSTs of one connect()
structure Handshake where
  initializing : Nat → Fate
  listing : Nat → Fate

-- The network and the server during one call: the i-th POST of the call itself, and the connect() before it
structure Network where
  call : Nat → Fate
  handshake : Nat → Handshake

structure Posted where
  requestId : Nat
  method : String
  params : Option Json
  performed : Bool

-- The discovered tools are a dict: its keys, each once.
structure Client where
  tools : List Json := []
  connected : Bool := false
  requestId : Nat := 0

structure McpToolResult where
  content : Json
  isError : Json := .bool false

abbrev ClientRun := Run PyError Client Posted

def connectionError : PyError := .raised "MCPConnectionError"
def timeoutError : PyError := .raised "MCPTimeoutError"
def decodeError : PyError := .raised "JSONDecodeError"

-- except (MCPConnectionError, MCPTimeoutError)
def isFailure (e : PyError) : Bool := e == connectionError || e == timeoutError

def post (fate : Fate) (method : String) (params : Option Json) : ClientRun Reply := do
  change fun client => {client with requestId := client.requestId + 1}
  let client ← read id
  emit ⟨client.requestId,method,params,fate.performed⟩
  pure fate.reply

def disconnect : ClientRun Unit := change fun client => {client with connected := false}

def rpcError (data : Json) : Except PyError Json := do
  let error ← item data "error"
  let _ ← error.get "code" .null
  .error connectionError

-- What the body of an answer comes to
def resultOf (data : Json) : Except PyError Json := do
  if ← contains "error" data then rpcError data else data.get "result" (.obj [])

-- A try that failed is followed by another, as long as there are tries left.
def settle (again : PyError → ClientRun Json) : Reply → ClientRun Json
  | .timeout => do
    disconnect
    again timeoutError
  | .refused => do
    disconnect
    again connectionError
  | .broken e => lift (.error e)
  | .body data => lift (resultOf data)

def restoreFor (restore : Nat → ClientRun Unit) (attempt : Nat) : ClientRun Unit :=
  if attempt = 0 then pure () else restore attempt

-- The tries of _send_jsonrpc from one on; with none left the last exception is raised.
def attempts (fates : Nat → Fate) (restore : Nat → ClientRun Unit) (method : String) (params : Option Json) :
    (left attempt : Nat) → (last : PyError) → ClientRun Json
  | 0,_,last => lift (.error last)
  | left + 1,attempt,_ => do
    restoreFor restore attempt
    let reply ← post (fates attempt) method params
    settle (attempts fates restore method params left (attempt + 1)) reply

def registerTool (tools : List Json) (name : Json) : List Json :=
  if tools.any (sameScalar name) then tools else tools ++ [name]

def toolName (tool : Json) : Except PyError Json := do
  let name ← item tool "name"
  hashable name
  return name

def registerTools : List Json → ClientRun Unit
  | [] => pure ()
  | tool :: rest => do
    let name ← lift (toolName tool)
    change fun client => {client with tools := registerTool client.tools name}
    registerTools rest

def initializeParams : Json := .obj [("protocolVersion",.str "2024-11-05"),("capabilities",.obj []),
  ("clientInfo",.obj [("name",.str "sophia"),("version",.str "0.1.0")])]

-- Every exception of the first request but the two named ones becomes a connection error.
def asFailure (e : PyError) : PyError := if isFailure e then e else connectionError

section
variable (maxRetries : Nat)

-- _send_jsonrpc with _reconnect=False. Without a try there is no exception to raise: raise None.
def sendPlain (fates : Nat → Fate) (method : String) (params : Option Json) : ClientRun Json :=
  attempts fates (fun _ => pure ()) method params maxRetries 0 .typeError

def connect (handshake : Handshake) : ClientRun Unit := do
  let initResult ← rescue (fun e => .error (asFailure e))
    (sendPlain maxRetries handshake.initializing "initialize" (some initializeParams))
  let _ ← lift (initResult.get "protocolVersion" .null)
  let result ← sendPlain maxRetries handshake.listing "tools/list" none
  let toolsData ← lift (result.get "tools" (.arr []))
  change fun client => {client with tools := []}
  let tools ← lift toolsData.iterate
  registerTools tools
  change fun client => {client with connected := true}

def reconnect (network : Network) (attempt : Nat) : ClientRun Unit := do
  let client ← read id
  if client.connected then pure ()
  else rescue (fun e => if isFailure e then .ok () else .error e) (connect maxRetries (network.handshake attempt))

def sendJsonrpc (network : Network) (method : String) (params : Option Json) : ClientRun Json :=
  attempts network.call (reconnect maxRetries network) method params maxRetries 0 .typeError

def isNumber (value : Json) : Bool := value.number?.isSome

-- sorted() in the message of the exception compares the names.
def sortable (names : List Json) : Bool :=
  names.length ≤ 1 || names.all isNumber || names.all fun name => match name with
    | .str _ => true
    | _ => false

def callTool (network : Network) (name : String) (arguments : Json) : ClientRun McpToolResult := do
  let client ← read id
  if client.tools.any (isStr name) then do
    let result ← sendJsonrpc maxRetries network "tools/call" (some (.obj [("name",.str name),("arguments",arguments)]))
    let content ← lift (result.get "content" (.arr []))
    let isError ← lift (result.get "isError" (.bool false))
    pure {content,isError}
  else lift (.error (if sortable client.tools then .raised "MCPToolNotFoundError" else .typeError))

end

end Sophia.Mcp
