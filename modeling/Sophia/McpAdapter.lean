import Sophia.McpClient
import Sophia.ServiceModels

namespace Sophia.Mcp
open TracedRun Json ServiceModels

def parseError : PyError := .raised "MCPParseError"

-- The subclasses of MCPError
def isMcpError (e : PyError) : Bool :=
  e == connectionError || e == timeoutError || e == .raised "MCPToolNotFoundError" || e == parseError

-- What the mappings read texts, numbers and dates with, and the clock. None of it knows the exceptions of MCP,
-- and json.loads raises no KeyError.
structure Texts where
  loads : String → Except PyError Json
  str : Argument → String
  upper : String → String
  floatText : String → Option PyFloat
  intText : String → Option Int
  calendar : Calendar
  fromtimestamp : Json → Except PyError Moment
  inThirtyDays : Moment
  loads_raises : ∀ text e, loads text = .error e → isMcpError e = false ∧ e ≠ .keyError
  fromtimestamp_raises : ∀ value e, fromtimestamp value = .error e → isMcpError e = false

-- Enough to read an empty object, and to write texts
def plainTexts : Texts where
  loads text := if text = "\x7b\x7d" then .ok (.obj []) else .error decodeError
  str argument := match argument with
    | .json (.str text) => text
    | _ => ""
  upper := String.toUpper
  floatText _ := none
  intText _ := none
  calendar := ⟨fun _ => none⟩
  fromtimestamp _ := .error .typeError
  inThirtyDays := epoch
  loads_raises := by
    intro text e raised
    split at raised
    · cases raised
    · cases raised
      exact ⟨rfl,by decide⟩
  fromtimestamp_raises := by
    intro value e raised
    cases raised
    rfl

-- build_args: _not_supported, or a lambda with its parameters, those with a default and whether it takes any other
inductive BuildArgs where
  | notSupported (methodName : String)
  | takes (required optional : List String) (body : Kwargs → Except PyError Kwargs)
  | takesAny (body : Kwargs → Except PyError Kwargs)

structure ToolConfig where
  toolName : String
  buildArgs : BuildArgs
  parseResponse : McpToolResult → Except PyError ServiceValue

def argument (kwargs : Kwargs) (name : String) : Argument := (kwargs.lookup name).getD (.json .null)

def acceptable (required optional : List String) (kwargs : Kwargs) : Bool :=
  required.all (fun name => kwargs.any (·.1 == name)) &&
    kwargs.all fun argument => required.contains argument.1 || optional.contains argument.1

def BuildArgs.apply (kwargs : Kwargs) : BuildArgs → Except PyError Kwargs
  | .notSupported _ => .error (.raised "NotImplementedError")
  | .takes required optional body => if acceptable required optional kwargs then body kwargs else .error .typeError
  | .takesAny body => body kwargs

def BuildArgs.isSupported : BuildArgs → Bool
  | .notSupported _ => false
  | _ => true

-- A lambda that passes its parameters on, under the names of the tool
def sends (required : List String) (args : List (String × String)) : BuildArgs :=
  .takes required [] fun kwargs => .ok (args.map fun arg => (arg.1,argument kwargs arg.2))

def truthyArgument : Argument → Bool
  | .json value => value.truthy
  | .float x => x ≠ .finite 0
  | .orderItems items => !items.isEmpty
  | .returnItems items => !items.isEmpty
  | _ => true

-- lambda product_id=None: {"product_id": product_id} if product_id else {}
def stockArgs : BuildArgs := .takes [] ["product_id"] fun kwargs =>
  .ok (if truthyArgument (argument kwargs "product_id") then [("product_id",argument kwargs "product_id")] else [])

-- A service method that the platform's server has no tool for
def unsupportedBy (toolName methodName : String) : String × ToolConfig :=
  (methodName,⟨toolName,.notSupported methodName,fun _ => .ok .none⟩)

def unsupported (methodName : String) : String × ToolConfig := unsupportedBy methodName methodName

section
variable (texts : Texts)

def loadText (block : Json) : Except PyError Json := do
  match ← item block "text" with
  | .str text => texts.loads text
  | _ => .error .typeError

-- except (json.JSONDecodeError, KeyError)
def asParseError (e : PyError) : PyError := if e = decodeError ∨ e = .keyError then parseError else e

-- The first text block decides.
def firstText : List Json → Except PyError Json
  | [] => .error parseError
  | block :: rest => do
    let type ← block.get "type" .null
    if type.isStr "text" then (loadText texts block).mapError asParseError else firstText rest

def extractJson (result : McpToolResult) : Except PyError Json :=
  if result.content.truthy then do
    firstText texts (← result.content.iterate)
  else .error parseError

-- A parser of the mappings on the JSON that _extract_json takes out of the result
def parsed (parse : Json → Except PyError α) (value : α → ServiceValue) (result : McpToolResult) :
    Except PyError ServiceValue := do
  let data ← extractJson texts result
  return value (← parse data)

-- _parse_datetime. Every exception of it is caught.
def parseDatetime : Json → Option Moment
  | .str text => if text = "" then none else texts.calendar.parse text
  | _ => none

def date (data : Json) (key : String) : Except PyError Moment := do
  return (parseDatetime texts (← data.get key .null)).getD epoch

-- data.get(key, [data]) if isinstance(data, dict) else data
def listed (key : String) (data : Json) : Json :=
  match data with
  | .obj fields => (fields.lookup key).getD (.arr [data])
  | _ => data

-- A list built by a for loop
def collect (parse : Json → Except PyError α) (values : Json) : Except PyError (List α) := do
  (← values.iterate).mapM parse

def text (data : Json) (key : String) : Except PyError String := do
  return texts.str (.json (← data.get key (.str "")))

def number (data : Json) (key : String) : Except PyError PyFloat := do
  (← data.get key (.int 0)).toFloat texts.floatText

end

-- mapping.get(value, "pending")
def mapStatus (mapping : List (Json × String)) (value : Json) : Except PyError String := do
  hashable value
  return ((mapping.find? (sameScalar value ·.1)).map Prod.snd).getD "pending"

def defaultErrorHandler (result : McpToolResult) : Except PyError ServiceValue :=
  if result.content.truthy then do
    let block ← result.content.first
    let _ ← block.get "text" (.str "")
    return .none
  else .ok .none

section
variable {σ ω : Type} (callTool : String → Kwargs → Run PyError σ ω McpToolResult)

-- MCPServiceAdapter._call
def call (mapping : List (String × ToolConfig)) (methodName : String) (kwargs : Kwargs) : Run PyError σ ω ServiceValue :=
  match mapping.lookup methodName with
  | none => lift (.error (.raised "NotImplementedError"))
  | some config => do
    let args ← lift (config.buildArgs.apply kwargs)
    let result ← callTool config.toolName args
    lift (if result.isError.truthy then defaultErrorHandler result else config.parseResponse result)

end

end Sophia.Mcp
