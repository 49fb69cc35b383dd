import Sophia.AtMostOnce
import Sophia.Library.KeyTable
import Sophia.Library.RunRefinement

namespace Sophia.Json

-- What a value that can be hashed compares by: its number, its text or that it is None
def scalar? : Json → Option (ℚ ⊕ Option String)
  | .null => some (.inr none)
  | .str text => some (.inr (some text))
  | value => value.number?.map .inl

theorem sameScalar_iff : sameScalar a b = true ↔ ∃ key, a.scalar? = some key ∧ b.scalar? = some key := by
  cases a <;> cases b <;> simp [sameScalar,scalar?,number?] <;> exact eq_comm

theorem sameScalar_symm (same : sameScalar a b = true) : sameScalar b a = true := by
  obtain ⟨key,first,second⟩ := sameScalar_iff.mp same
  exact sameScalar_iff.mpr ⟨key,second,first⟩

theorem sameScalar_trans (first : sameScalar a b = true) (second : sameScalar b c = true) : sameScalar a c = true := by
  obtain ⟨key,left,middle⟩ := sameScalar_iff.mp first
  obtain ⟨other,again,right⟩ := sameScalar_iff.mp second
  rw [middle] at again
  cases again
  exact sameScalar_iff.mpr ⟨key,left,right⟩

theorem item_returns {data : Json} : item data key = .ok value ↔
    ∃ fields, data = .obj fields ∧ fields.lookup key = some value := by
  cases data with
  | obj fields =>
    rw [item]
    cases found : fields.lookup key <;> simp [found]
  | _ => simp [item]

end Sophia.Json

namespace Sophia.Mcp
open TracedRun Json

def keyTest : KeyTest Json := ⟨sameScalar,sameScalar_symm,sameScalar_trans⟩

structure McpToolDefinition where
  name : Json
  description : Json
  inputSchema : Json

structure McpServerInfo where
  name : String
  url : String
  tools : List McpToolDefinition

abbrev ToolTable := KeyTable keyTest McpToolDefinition

-- The client with the definitions of its tools
structure ToolClient where
  serverName : String
  serverUrl : String
  tools : ToolTable := .empty
  connected : Bool := false
  requestId : Nat := 0

-- The client of the requests knows the tools by their names.
def ToolClient.names (client : ToolClient) : Client := ⟨client.tools.keys,client.connected,client.requestId⟩

def ToolClient.put (client : ToolClient) (asked : Client) : ToolClient :=
  {client with connected := asked.connected,requestId := asked.requestId}

abbrev ToolRun := Run PyError ToolClient Posted

-- A request of the client, which leaves its tools alone
def plainRequest (m : ClientRun α) : ToolRun α := focus ToolClient.names (fun asked client => client.put asked) m

def toolDefinition (tool : Json) : Except PyError McpToolDefinition := do
  let name ← item tool "name"
  let description ← tool.get "description" (.str "")
  let inputSchema ← tool.get "inputSchema" (.obj [])
  return {name,description,inputSchema}

-- The definition as a key of the table takes it
def readTool (tool : Json) : Except PyError McpToolDefinition := do
  let toolDef ← toolDefinition tool
  hashable toolDef.name
  return toolDef

def registerDefinitions : List Json → ToolRun (List McpToolDefinition)
  | [] => pure []
  | tool :: rest => do
    let toolDef ← lift (readTool tool)
    change fun client => {client with tools := client.tools.set toolDef.name toolDef}
    let toolList ← registerDefinitions rest
    pure (toolDef :: toolList)

def connectTools (maxRetries : Nat) (handshake : Handshake) : ToolRun McpServerInfo := do
  let initResult ← rescue (fun e => .error (asFailure e))
    (plainRequest (sendPlain maxRetries handshake.initializing "initialize" (some initializeParams)))
  let _ ← lift (initResult.get "protocolVersion" .null)
  let result ← plainRequest (sendPlain maxRetries handshake.listing "tools/list" none)
  let toolsData ← lift (result.get "tools" (.arr []))
  change fun client => {client with tools := .empty}
  let tools ← lift toolsData.iterate
  let toolList ← registerDefinitions tools
  change fun client => {client with connected := true}
  let client ← read id
  pure ⟨client.serverName,client.serverUrl,toolList⟩

section
variable {maxRetries : Nat} {handshake : Handshake} {client : ToolClient}

-- A request that is no connect() leaves the tools of the client of the requests alone.
theorem sendPlain_frames (fates : Nat → Fate) (method : String) (params : Option Json) :
    Frames Client.tools (sendPlain maxRetries fates method params) := by
  have tries (left attempt : Nat) (last : PyError) :
      Frames Client.tools (attempts fates (fun _ => pure ()) method params left attempt last) := by
    induction left generalizing attempt last with
    | zero => exact Frames.lift _
    | succ left ih =>
      have ready : Frames Client.tools (restoreFor (fun _ => pure ()) attempt) := by
        unfold restoreFor
        split <;> exact Frames.pure _
      have posted : Frames Client.tools (post (fates attempt) method params) := fun _ => rfl
      have off : Frames Client.tools disconnect := Frames.change fun _ => rfl
      refine Frames.bind ready fun _ => Frames.bind posted fun reply => ?_
      cases reply with
      | timeout => exact Frames.bind off fun _ => ih _ _
      | refused => exact Frames.bind off fun _ => ih _ _
      | broken e => exact Frames.lift _
      | body data => exact Frames.lift _
  exact tries _ _ _

theorem plainRequest_refines (fates : Nat → Fate) (method : String) (params : Option Json) :
    Refines ToolClient.names id (plainRequest (sendPlain maxRetries fates method params))
      (sendPlain maxRetries fates method params) := by
  apply Refines.focus
  intro client
  have kept : (sendPlain maxRetries fates method params client.names).state.tools = client.names.tools :=
    sendPlain_frames fates method params client.names
  change (⟨client.tools.keys,_,_⟩ : Client) = _
  rw [show client.tools.keys = client.names.tools from rfl,← kept]
  rfl

theorem toolName_readTool (tool : Json) : toolName tool = (readTool tool).map McpToolDefinition.name := by
  unfold toolName readTool toolDefinition
  cases tool with
  | obj fields =>
    cases named : item (.obj fields) "name" with
    | error e => rfl
    | ok name => cases name <;> rfl
  | _ => rfl

theorem registerDefinitions_refines (tools : List Json) :
    Refines ToolClient.names (fun _ => ()) (registerDefinitions tools) (registerTools tools) := by
  induction tools with
  | nil => exact Refines.pure _
  | cons tool rest ih =>
    have first : Refines ToolClient.names McpToolDefinition.name (lift (readTool tool) : ToolRun McpToolDefinition)
        (lift (toolName tool)) := by
      rw [toolName_readTool]
      exact Refines.lift _
    refine Refines.bind first fun toolDef => ?_
    have registered : Refines ToolClient.names id
        (change fun client => {client with tools := client.tools.set toolDef.name toolDef} : ToolRun Unit)
        (change fun client => {client with tools := registerTool client.tools toolDef.name}) := by
      apply Refines.change
      intro client
      change (⟨(client.tools.set toolDef.name toolDef).keys,_,_⟩ : Client) = _
      rw [KeyTable.keys_set]
      rfl
    refine Refines.bind registered fun _ => ?_
    rw [show registerTools rest = registerTools rest >>= fun _ => pure () from (bind_pure _).symm]
    exact Refines.bind ih fun toolList => Refines.pure _

-- The connect() of the requests is this one with the tools seen by their names only.
theorem connectTools_refines (maxRetries : Nat) (handshake : Handshake) :
    Refines ToolClient.names (fun _ => ()) (connectTools maxRetries handshake) (connect maxRetries handshake) := by
  refine Refines.bind (Refines.rescue (plainRequest_refines _ _ _) fun _ => rfl) fun initResult => ?_
  refine Refines.bind (Refines.lifted _) fun _ => ?_
  refine Refines.bind (plainRequest_refines _ _ _) fun result => ?_
  refine Refines.bind (Refines.lifted _) fun toolsData => ?_
  refine Refines.bind (Refines.change fun _ => rfl) fun _ => ?_
  refine Refines.bind (Refines.lifted _) fun tools => ?_
  refine Refines.bind (registerDefinitions_refines tools) fun toolList => ?_
  intro client
  rfl

-- call_tool looks the name up in the table.
theorem names_known (client : ToolClient) (name : String) :
    client.names.tools.any (isStr name) = (client.tools.get (.str name)).isSome := by
  rw [← KeyTable.mem_keys]
  refine congrArg client.tools.keys.any (funext fun key => ?_)
  cases key <;> simp [isStr,keyTest,sameScalar,number?,eq_comm]

-- A tool that is not in the table is not called: no request leaves, and the client stays as it is.
theorem callTool_lost (lost : client.tools.get (.str name) = none) (network : Network) (arguments : Json) :
    ∃ e, callTool maxRetries network name arguments client.names = ⟨.error e,client.names,[]⟩ := by
  have unknown : client.names.tools.any (isStr name) = false := by rw [names_known,lost]; rfl
  refine ⟨if sortable client.names.tools then .raised "MCPToolNotFoundError" else .typeError,?_⟩
  unfold callTool
  rw [read_bind,id,if_neg (Bool.eq_false_iff.mp unknown)]
  rfl

-- What the two answers of the server hold as the tools
def listedTools (maxRetries : Nat) (handshake : Handshake) : Except PyError Json := do
  let initResult ← (answerFrom handshake.initializing maxRetries 0 .typeError).mapError asFailure
  let _ ← initResult.get "protocolVersion" .null
  let result ← answerFrom handshake.listing maxRetries 0 .typeError
  result.get "tools" (.arr [])

-- The definitions of the entries before the first that is none
def leadingTools : List Json → List McpToolDefinition
  | [] => []
  | tool :: rest => match readTool tool with
    | .ok toolDef => toolDef :: leadingTools rest
    | .error _ => []

def namedEntry (toolDef : McpToolDefinition) : Json × McpToolDefinition := (toolDef.name,toolDef)

theorem registerDefinitions_value (tools : List Json) : Answers (registerDefinitions tools) (tools.mapM readTool) := by
  induction tools with
  | nil => exact Answers.pure _
  | cons tool rest ih =>
    rw [List.mapM_cons]
    refine Answers.bind (Answers.lift _) fun toolDef => Answers.change ?_
    exact Answers.bind ih fun toolList => Answers.pure _

-- The entries before a bad one stay in the table.
theorem registerDefinitions_tools (tools : List Json) (client : ToolClient) :
    (registerDefinitions tools client).state.tools = client.tools.store ((leadingTools tools).map namedEntry) := by
  induction tools generalizing client with
  | nil => rfl
  | cons tool rest ih =>
    rw [registerDefinitions,leadingTools]
    cases readTool tool with
    | error e => rfl
    | ok toolDef =>
      rw [lift_bind_ok,change_bind,Keeps.after fun _ => Keeps.pure _,ih]
      rfl

-- What the client keeps of itself while the requests are out
def serverAndTools (client : ToolClient) : String × String × ToolTable := (client.serverName,client.serverUrl,client.tools)

-- The requests of connect(), up to the tools of the answer
def discoverTools (maxRetries : Nat) (handshake : Handshake) : ToolRun Json := do
  let initResult ← rescue (fun e => .error (asFailure e))
    (plainRequest (sendPlain maxRetries handshake.initializing "initialize" (some initializeParams)))
  let _ ← lift (initResult.get "protocolVersion" .null)
  let result ← plainRequest (sendPlain maxRetries handshake.listing "tools/list" none)
  lift (result.get "tools" (.arr []))

-- The rest of connect(): the table is cleared, then filled.
def refillTools (toolsData : Json) : ToolRun McpServerInfo := do
  change fun client => {client with tools := .empty}
  let tools ← lift toolsData.iterate
  let toolList ← registerDefinitions tools
  change fun client => {client with connected := true}
  let client ← read id
  pure ⟨client.serverName,client.serverUrl,toolList⟩

theorem connectTools_parts : connectTools maxRetries handshake = discoverTools maxRetries handshake >>= refillTools := by
  simp only [connectTools,discoverTools,bind_assoc]
  rfl

theorem discoverTools_answers : Answers (discoverTools maxRetries handshake) (listedTools maxRetries handshake) := by
  have asked (fates : Nat → Fate) (method : String) (params : Option Json) :
      Answers (plainRequest (sendPlain maxRetries fates method params)) (answerFrom fates maxRetries 0 .typeError) :=
    fun _ => attempts_answers _ _ _ _ _ _ _
  have opened : Answers (rescue (fun e => .error (asFailure e))
      (plainRequest (sendPlain maxRetries handshake.initializing "initialize" (some initializeParams))))
      ((answerFrom handshake.initializing maxRetries 0 .typeError).mapError asFailure) := by
    intro client
    rw [rescue,asked]
    cases answerFrom handshake.initializing maxRetries 0 .typeError <;> rfl
  refine Answers.bind opened fun initResult => Answers.bind (Answers.lift _) fun _ => ?_
  exact Answers.bind (asked _ _ _) fun result => Answers.lift _

theorem discoverTools_frames (maxRetries : Nat) (handshake : Handshake) :
    Frames serverAndTools (discoverTools maxRetries handshake) := by
  have apart (asked : Client) (client : ToolClient) : serverAndTools (client.put asked) = serverAndTools client := rfl
  have asked (m : ClientRun Json) : Frames serverAndTools (plainRequest m) := Frames.focus apart m
  refine Frames.bind (asked _) fun initResult => Frames.bind (Frames.lift _) fun _ => ?_
  exact Frames.bind (asked _) fun result => Frames.lift _

-- The tools that end up in the table when the answer holds the data
def readableTools (data : Json) : List McpToolDefinition :=
  match data.iterate with
  | .ok tools => leadingTools tools
  | .error _ => []

theorem refillTools_tools (data : Json) (client : ToolClient) :
    (refillTools data client).state.tools = KeyTable.empty.store ((readableTools data).map namedEntry) := by
  unfold refillTools readableTools
  rw [change_bind]
  cases data.iterate with
  | error e => rfl
  | ok tools =>
    rw [lift_bind_ok]
    refine Eq.trans ?_ (registerDefinitions_tools tools {client with tools := .empty})
    cases registered : (registerDefinitions tools {client with tools := .empty}).value with
    | error e => rw [bind_error registered]
    | ok toolList => rw [bind_ok registered]; rfl

def readAll (data : Json) : Except PyError (List McpToolDefinition) := do
  let tools ← data.iterate
  tools.mapM readTool

theorem registerDefinitions_kept (tools : List Json) :
    Frames (fun client : ToolClient => (client.serverName,client.serverUrl)) (registerDefinitions tools) := by
  induction tools with
  | nil => exact Frames.pure _
  | cons tool rest ih =>
    refine Frames.bind (Frames.lift _) fun toolDef => Frames.bind (Frames.change fun _ => rfl) fun _ => ?_
    exact Frames.bind ih fun _ => Frames.pure _

theorem refillTools_value (data : Json) (client : ToolClient) :
    (refillTools data client).value = (readAll data).map (McpServerInfo.mk client.serverName client.serverUrl) := by
  unfold refillTools readAll
  rw [change_bind]
  cases data.iterate with
  | error e => rfl
  | ok tools =>
    rw [lift_bind_ok]
    have registered := registerDefinitions_value tools {client with tools := .empty}
    have sameServer := registerDefinitions_kept tools {client with tools := .empty}
    change _ = (tools.mapM readTool).map _
    cases listed : tools.mapM readTool with
    | error e =>
      rw [listed] at registered
      rw [bind_error registered]
      rfl
    | ok toolList =>
      rw [listed] at registered
      simp only [Prod.mk.injEq] at sameServer
      rw [bind_ok registered,change_bind,read_bind]
      exact congrArg Except.ok (congrArg₂ (fun name url => McpServerInfo.mk name url toolList) sameServer.1 sameServer.2)

theorem connectTools_unlisted (unlisted : listedTools maxRetries handshake = .error e) (client : ToolClient) :
    (connectTools maxRetries handshake client).value = .error e ∧
      (connectTools maxRetries handshake client).state.tools = client.tools := by
  have raised : (discoverTools maxRetries handshake client).value = .error e :=
    (discoverTools_answers client).trans unlisted
  have framed := discoverTools_frames maxRetries handshake client
  simp only [serverAndTools,Prod.mk.injEq] at framed
  rw [connectTools_parts,bind_error raised]
  exact ⟨rfl,framed.2.2⟩

theorem connectTools_listed (listed : listedTools maxRetries handshake = .ok data) (client : ToolClient) :
    (connectTools maxRetries handshake client).value =
        (readAll data).map (McpServerInfo.mk client.serverName client.serverUrl) ∧
      (connectTools maxRetries handshake client).state.tools = KeyTable.empty.store ((readableTools data).map namedEntry) := by
  have found : (discoverTools maxRetries handshake client).value = .ok data :=
    (discoverTools_answers client).trans listed
  have framed := discoverTools_frames maxRetries handshake client
  simp only [serverAndTools,Prod.mk.injEq] at framed
  rw [connectTools_parts,bind_ok found]
  refine ⟨?_,refillTools_tools data _⟩
  rw [refillTools_value,framed.1,framed.2.1]

-- The last definition of a list under the name
def lastNamed (toolList : List McpToolDefinition) (name : Json) : Option McpToolDefinition :=
  toolList.reverse.find? fun toolDef => sameScalar name toolDef.name

theorem get_stored (toolList : List McpToolDefinition) (name : Json) :
    (KeyTable.empty.store (toolList.map namedEntry) : ToolTable).get name = lastNamed toolList name := by
  rw [KeyTable.get_store,KeyTable.get_empty,Option.or_none,← List.map_reverse,List.find?_map,Option.map_map]
  exact Option.map_id_fun' ▸ rfl

theorem leadingTools_all {tools : List Json} (read : tools.mapM readTool = .ok toolList) :
    leadingTools tools = toolList := by
  induction tools generalizing toolList with
  | nil => cases read; rfl
  | cons tool rest ih =>
    rw [List.mapM_cons] at read
    obtain ⟨toolDef,first,read⟩ := except_bind.mp read
    obtain ⟨others,later,read⟩ := except_bind.mp read
    cases read
    rw [leadingTools,first]
    exact congrArg _ (ih later)

theorem readableTools_all (read : readAll data = .ok toolList) : readableTools data = toolList := by
  obtain ⟨tools,iterated,read⟩ := except_bind.mp read
  unfold readableTools
  rw [iterated]
  exact leadingTools_all read

-- An entry of the answer is a tool: an object with a name that can be a key.
def IsTool (tool : Json) : Prop :=
  ∃ fields name, tool = .obj fields ∧ fields.lookup "name" = some name ∧ hashable name = .ok ()

theorem readTool_returns : (∃ toolDef, readTool tool = .ok toolDef) ↔ IsTool tool := by
  constructor
  · intro read
    obtain ⟨toolDef,read⟩ := read
    obtain ⟨found,defined,read⟩ := except_bind.mp read
    obtain ⟨_,hashed,_⟩ := except_bind.mp read
    obtain ⟨name,first,defined⟩ := except_bind.mp defined
    obtain ⟨description,_,defined⟩ := except_bind.mp defined
    obtain ⟨inputSchema,_,defined⟩ := except_bind.mp defined
    cases defined
    obtain ⟨fields,same,present⟩ := item_returns.mp first
    exact ⟨fields,name,same,present,hashed⟩
  · rintro ⟨fields,name,rfl,present,hashed⟩
    have first : item (.obj fields) "name" = .ok name := item_returns.mpr ⟨fields,rfl,present⟩
    exact ⟨_,except_bind.mpr ⟨_,except_bind.mpr ⟨name,first,rfl⟩,except_bind.mpr ⟨(),hashed,rfl⟩⟩⟩

theorem readAll_returns : (∃ toolList, readAll data = .ok toolList) ↔
    ∃ tools, data.iterate = .ok tools ∧ ∀ tool ∈ tools, IsTool tool := by
  simp only [← readTool_returns]
  constructor
  · intro read
    obtain ⟨toolList,read⟩ := read
    obtain ⟨tools,iterated,read⟩ := except_bind.mp read
    exact ⟨tools,iterated,mapM_returns.mp ⟨toolList,read⟩⟩
  · intro each
    obtain ⟨tools,iterated,each⟩ := each
    obtain ⟨toolList,read⟩ := mapM_returns.mpr each
    exact ⟨toolList,except_bind.mpr ⟨tools,iterated,read⟩⟩

-- A connect() that raises leaves every lookup as it was, and one that returns leaves the tools of the answer.
structure KeepsTools (maxRetries : Nat) (handshake : Handshake) (client : ToolClient) : Prop where
  raised : ∀ e, (connectTools maxRetries handshake client).value = .error e →
    ∀ name, (connectTools maxRetries handshake client).state.tools.get name = client.tools.get name
  returned : ∀ info, (connectTools maxRetries handshake client).value = .ok info →
    ∃ data, listedTools maxRetries handshake = .ok data ∧ readAll data = .ok info.tools ∧
      ∀ name, (connectTools maxRetries handshake client).state.tools.get name = lastNamed info.tools name

-- Every entry of the answer is a tool, or those before the first that is none amount to the table there was.
def Harmless (data : Json) (client : ToolClient) : Prop :=
  (∃ tools, data.iterate = .ok tools ∧ ∀ tool ∈ tools, IsTool tool) ∨
    ∀ name, client.tools.get name = lastNamed (readableTools data) name

theorem failed_connect_keeps_tools (maxRetries : Nat) (handshake : Handshake) (client : ToolClient) :
    KeepsTools maxRetries handshake client ↔
      ∀ data, listedTools maxRetries handshake = .ok data → Harmless data client := by
  cases listed : listedTools maxRetries handshake with
  | error e =>
    obtain ⟨value,tools⟩ := connectTools_unlisted listed client
    constructor
    · intro _ data other
      cases other
    · intro _
      refine ⟨fun _ _ name => by rw [tools],fun info returned => ?_⟩
      rw [value] at returned
      cases returned
  | ok data =>
    obtain ⟨value,tools⟩ := connectTools_listed listed client
    have stored (name : Json) : (connectTools maxRetries handshake client).state.tools.get name =
        lastNamed (readableTools data) name := by
      rw [tools]
      exact get_stored _ _
    cases read : readAll data with
    | error e =>
      rw [read] at value
      have unread : ¬ ∃ tools, data.iterate = .ok tools ∧ ∀ tool ∈ tools, IsTool tool := by
        rw [← readAll_returns,read]
        simp
      constructor
      · intro keeps other same
        cases same
        exact .inr fun name => ((stored name).symm.trans (keeps.raised e value name)).symm
      · intro harmless
        refine ⟨fun _ _ name => ?_,fun info returned => ?_⟩
        · exact (stored name).trans (((harmless data rfl).resolve_left unread) name).symm
        · rw [value] at returned
          cases returned
    | ok toolList =>
      rw [read] at value
      constructor
      · intro _ other same
        cases same
        exact .inl (readAll_returns.mp ⟨toolList,read⟩)
      · intro _
        refine ⟨fun e raised => ?_,fun info returned => ?_⟩
        · rw [value] at raised
          cases raised
        rw [value] at returned
        cases returned
        exact ⟨data,listed,read,fun name => (stored name).trans (by rw [readableTools_all read])⟩

end

-- A client that knows one tool, and a server whose second entry has no name
def ordersClient : ToolClient :=
  {serverName := "shop",serverUrl := "https://shop.example",
    tools := KeyTable.empty.set (.str "get_order") ⟨.str "get_order",.str "",.obj []⟩}

def strayListing : Handshake where
  initializing := fun _ => ⟨true,.body (.obj [("result",.obj [])])⟩
  listing := fun _ => ⟨true,.body (.obj [("result",.obj [("tools",.arr [.obj [("name",.str "ping")],.obj []])])])⟩

theorem stray_entry_loses_tool : ¬ KeepsTools 3 strayListing ordersClient := by
  intro keeps
  have raised : (connectTools 3 strayListing ordersClient).value = .error .keyError := rfl
  have lost : (connectTools 3 strayListing ordersClient).state.tools.get (.str "get_order") = none := rfl
  have known : ordersClient.tools.get (.str "get_order") = some ⟨.str "get_order",.str "",.obj []⟩ := rfl
  rw [keeps.raised _ raised,known] at lost
  cases lost

end Sophia.Mcp
