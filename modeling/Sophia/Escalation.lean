import Sophia.Communication
import Sophia.Executor

namespace Sophia.Communication
open TracedRun Json Mcp Hats Executor RiskClassifier

-- The first connection, where it is still to be made, succeeds.
def Connects (linked : Bool) (server : Server) : Prop := linked = true ∨ server.connect = .ok ()

-- Every text block of an error result gives a text, or none.
def TextsReadable (content : Json) : Prop :=
  ∃ blocks, content.iterate = .ok blocks ∧ ∀ block ∈ blocks, isTextBlock block = true → ∃ text, textOf block = .str text

-- The first text block that can be read as JSON, if there is one, holds an object.
def ObjectFirst (office : Office) : List Json → Prop
  | [] => True
  | block :: rest =>
    if isTextBlock block then
      (∃ fields, loadBlock office block = .ok (.obj fields)) ∨
        (loadBlock office block = .error .keyError ∨ loadBlock office block = .error decodeError) ∧ ObjectFirst office rest
    else ObjectFirst office rest

def Legible (office : Office) (result : McpToolResult) : Prop :=
  if result.isError.truthy then TextsReadable result.content
  else ∃ blocks, result.content.iterate = .ok blocks ∧ ObjectFirst office blocks

-- The connection stands or can be made, and whatever the call returns can be read.
def Delivers (office : Office) (server : Server) (linked : Bool) (toolName : String) (args : Except PyError Json) : Prop :=
  Connects linked server ∧ ∃ arguments, args = .ok arguments ∧
    ∀ result, server.callTool toolName arguments = .ok result → Legible office result

-- The policy sends the role to nobody that can be reached, or over a channel that delivers.
def Answered (office : Office) (messenger : Messenger) (links : Links) (role : String) (message : CommunicationMessage) : Prop :=
  ∀ contact, messenger.policy.find? (·.role == role) = some contact → contact.address.truthy = true →
    if contact.channel.isStr "slack" then messenger.slackClient.isSome = true →
      Delivers office office.slack links.slack "slack_post_message" (slackText office contact message)
    else contact.channel.isStr "email" = true ∧ (messenger.gmailClient.isSome = true →
      Delivers office office.gmail links.gmail "send_email" (emailArgs office contact message))

section
variable {office : Office} {messenger : Messenger} {links : Links}

theorem extractText_reads : (∃ text, extractText content = .ok text) ↔ TextsReadable content := by
  unfold extractText TextsReadable
  constructor
  · intro returned
    obtain ⟨text,returned⟩ := returned
    obtain ⟨blocks,taken,returned⟩ := except_bind.mp returned
    obtain ⟨texts,joined,_⟩ := except_bind.mp returned
    refine ⟨blocks,taken,fun block member isText => ?_⟩
    have each := mapM_returns.mp ⟨texts,joined⟩ (textOf block)
      (List.mem_map.mpr ⟨block,List.mem_filter.mpr ⟨member,isText⟩,rfl⟩)
    obtain ⟨text,readable⟩ := each
    cases shape : textOf block with
    | str text => exact ⟨text,rfl⟩
    | _ => rw [shape] at readable; cases readable
  · intro readable
    obtain ⟨blocks,taken,readable⟩ := readable
    have each : ∃ texts, ((blocks.filter isTextBlock).map textOf).mapM joinable = .ok texts := by
      refine mapM_returns.mpr fun part member => ?_
      obtain ⟨block,among,rfl⟩ := List.mem_map.mp member
      obtain ⟨text,shape⟩ := readable block (List.mem_filter.mp among).1 (List.mem_filter.mp among).2
      exact ⟨text,by rw [shape]; rfl⟩
    obtain ⟨texts,joined⟩ := each
    exact ⟨PyText.join " " texts,except_bind.mpr ⟨blocks,taken,except_bind.mpr ⟨texts,joined,rfl⟩⟩⟩

theorem parseBlocks_object (blocks : List Json) :
    (∃ fields, parseBlocks office blocks = .ok (.obj fields)) ↔ ObjectFirst office blocks := by
  induction blocks with
  | nil => simp [parseBlocks,ObjectFirst]
  | cons block rest ih =>
    rw [parseBlocks,ObjectFirst]
    by_cases text : isTextBlock block = true
    · rw [if_pos text,if_pos text,← ih]
      cases loaded : loadBlock office block with
      | ok data => simp
      | error e =>
        by_cases passed : e = .keyError ∨ e = decodeError
        · simp [passed]
        · simp [passed]
    · rw [if_neg text,if_neg text]
      exact ih

-- What reads an object and nothing else from the content returns when the content holds one.
theorem response_returns {f : Json → Except PyError α} (object : ∀ fields, ∃ a, f (.obj fields) = .ok a)
    (other : ∀ data, (∀ fields, data ≠ .obj fields) → ∃ e, f data = .error e) :
    (∃ a, (parseJsonContent office content >>= f) = .ok a) ↔
      ∃ blocks, content.iterate = .ok blocks ∧ ObjectFirst office blocks := by
  constructor
  · intro returned
    obtain ⟨a,returned⟩ := returned
    obtain ⟨data,parsed,returned⟩ := except_bind.mp returned
    obtain ⟨blocks,taken,parsed⟩ := except_bind.mp parsed
    refine ⟨blocks,taken,(parseBlocks_object blocks).mp ?_⟩
    by_cases shape : ∃ fields, data = .obj fields
    · obtain ⟨fields,rfl⟩ := shape
      exact ⟨fields,parsed⟩
    · obtain ⟨e,raised⟩ := other data (fun fields same => shape ⟨fields,same⟩)
      rw [raised] at returned
      cases returned
  · intro holds
    obtain ⟨blocks,taken,first⟩ := holds
    obtain ⟨fields,parsed⟩ := (parseBlocks_object blocks).mpr first
    obtain ⟨a,returned⟩ := object fields
    exact ⟨a,except_bind.mpr ⟨.obj fields,except_bind.mpr ⟨blocks,taken,parsed⟩,returned⟩⟩

theorem errorText_returns {f : String → CommunicationResult} :
    (∃ a, (extractText content >>= fun text => pure (f text)) = .ok a) ↔ TextsReadable content := by
  rw [← extractText_reads]
  constructor
  · intro returned
    obtain ⟨a,returned⟩ := returned
    obtain ⟨text,read,_⟩ := except_bind.mp returned
    exact ⟨text,read⟩
  · intro reads
    obtain ⟨text,read⟩ := reads
    exact ⟨f text,except_bind.mpr ⟨text,read,rfl⟩⟩

-- Both servers' answers are read this way: the texts of an error, or one object.
theorem answer_returns {fail : String → CommunicationResult} {read : Json → Except PyError CommunicationResult}
    (object : ∀ fields, ∃ a, read (.obj fields) = .ok a)
    (other : ∀ data, (∀ fields, data ≠ .obj fields) → ∃ e, read data = .error e) :
    (∃ a, (if result.isError.truthy then extractText result.content >>= fun text => pure (fail text)
      else parseJsonContent office result.content >>= read) = .ok a) ↔ Legible office result := by
  unfold Legible
  by_cases failing : result.isError.truthy = true
  · rw [if_pos failing,if_pos failing]
    exact errorText_returns
  · rw [if_neg failing,if_neg failing]
    exact response_returns object other

theorem slackAnswer_returns : (∃ answer, slackAnswer office result = .ok answer) ↔ Legible office result := by
  apply answer_returns
  · intro fields
    refine except_returns rfl ?_
    split
    · exact except_returns rfl ⟨_,rfl⟩
    · exact except_returns rfl ⟨_,rfl⟩
  · intro data other
    exact ⟨_,except_raises (get_other other "ok" .null)⟩

theorem emailAnswer_returns : (∃ answer, emailAnswer office result = .ok answer) ↔ Legible office result := by
  apply answer_returns
  · intro fields
    refine except_returns rfl ?_
    split
    · exact ⟨_,rfl⟩
    · exact ⟨_,rfl⟩
  · intro data other
    exact ⟨_,except_raises (get_other other "messageId" .null)⟩

theorem ensureConnected_returns {linked : Links → Bool} {mark : Links → Links} {server : Server} :
    (∃ done, (ensureConnected linked mark server links).value = .ok done) ↔ Connects (linked links) server := by
  have run : (ensureConnected linked mark server links).value = if linked links then .ok () else server.connect := by
    unfold ensureConnected
    rw [read_bind]
    cases up : linked links with
    | true => rw [id,up]; rfl
    | false =>
      rw [id,up]
      cases reached : server.connect with
      | ok done => exact congrArg (fun outcome : Outcome _ _ _ _ => outcome.value) (lift_bind_ok done)
      | error e => exact congrArg (fun outcome : Outcome _ _ _ _ => outcome.value) (lift_bind_error e)
  rw [run]
  unfold Connects
  cases linked links with
  | true => simp
  | false =>
    constructor
    · intro reached
      exact .inr reached.choose_spec
    · intro reached
      exact ⟨(),reached.resolve_left (by simp)⟩

theorem deliver_returns {tool : String} {connected : OfficeRun Unit} {server : Server} {args : Except PyError Json} {linked : Bool}
    {answer : McpToolResult → Except PyError CommunicationResult}
    (connects : (∃ done, (connected links).value = .ok done) ↔ Connects linked server)
    (answers : ∀ result, (∃ sent, answer result = .ok sent) ↔ Legible office result) :
    (∃ sent, (deliver office connected server tool channel args answer links).value = .ok sent) ↔
      Delivers office server linked tool args := by
  unfold deliver Delivers
  rw [← connects]
  constructor
  · intro returned
    obtain ⟨sent,returned⟩ := returned
    obtain ⟨done,up,returned⟩ := bind_returns.mp returned
    obtain ⟨arguments,written,returned⟩ := bind_returns.mp returned
    refine ⟨⟨done,up⟩,arguments,written,fun result called => (answers result).mp ?_⟩
    rw [called] at returned
    exact ⟨sent,returned⟩
  · intro delivers
    obtain ⟨⟨done,up⟩,arguments,written,legible⟩ := delivers
    apply bind_defined up
    rw [written,lift_bind_ok]
    cases called : server.callTool tool arguments with
    | error e => exact ⟨_,rfl⟩
    | ok result => exact (answers result).mpr (legible result called)

theorem sendToRole_returns : (∃ sent, (sendToRole office messenger role message links).value = .ok sent) ↔
    Answered office messenger links role message := by
  unfold sendToRole Answered
  cases known : messenger.policy.find? (·.role == role) with
  | none => simp
  | some contact =>
    by_cases addressed : contact.address.truthy = true
    · simp only [Option.some.injEq,forall_eq',addressed,forall_true_left,if_true]
      unfold sendTo
      by_cases slack : contact.channel.isStr "slack" = true
      · rw [if_pos slack,if_pos slack]
        by_cases configured : messenger.slackClient.isSome = true
        · rw [if_pos configured]
          simp only [configured,forall_true_left]
          exact deliver_returns ensureConnected_returns fun result => slackAnswer_returns
        · rw [if_neg configured]
          simp [configured]
      · rw [if_neg slack,if_neg slack]
        by_cases email : contact.channel.isStr "email" = true
        · rw [if_pos email]
          by_cases configured : messenger.gmailClient.isSome = true
          · rw [if_pos configured]
            simp only [email,configured,forall_true_left,true_and]
            exact deliver_returns ensureConnected_returns fun result => emailAnswer_returns
          · rw [if_neg configured]
            simp [email,configured]
        · rw [if_neg email]
          simp [email]
    · simp [addressed]

-- The registered tool does what EscalateToHumanTool does.
def escalating (office : Office) (service : CommunicationService) (ticketId : String) (links : Links)
    (perform : String → Params → Except PyError ToolResult) (toolName : String) (params : Params) : Except PyError ToolResult :=
  if toolName = "escalate_to_human" then (escalateToHuman office service ticketId params links).value
  else perform toolName params

def escalationNotice (office : Office) (ticketId : String) (rc : RiskClassification) : CommunicationMessage :=
  escalationMessage office ticketId (.str ("Risk assessment: " ++ rc.tier.name)) (escalationParameters rc)

-- The manager, to whom an ORANGE run is escalated, is sent nothing or answers in the sense above.
def ManagerAnswered (office : Office) (service : CommunicationService) (ticketId : String) (links : Links)
    (rc : RiskClassification) : Prop :=
  match service with
  | .mock _ => True
  | .mcp slackClient gmailClient policy =>
    Answered office {slackClient,gmailClient,policy} links "manager" (escalationNotice office ticketId rc)

theorem notifyManager_returns {service : CommunicationService} :
    (∃ sent, (notifyManager office service ticketId (escalationParameters rc) links).value = .ok sent) ↔
      ManagerAnswered office service ticketId links rc := by
  cases service with
  | mock policy => simp [notifyManager,ManagerAnswered]
  | mcp slackClient gmailClient policy =>
    refine Iff.trans ?_ sendToRole_returns
    have reason : (escalationParameters rc).lookup "reason" = some (.str ("Risk assessment: " ++ rc.tier.name)) := rfl
    unfold notifyManager
    rw [reason]
    constructor
    · intro returned
      obtain ⟨sent,returned⟩ := returned
      obtain ⟨result,delivered,_⟩ := bind_returns.mp returned
      exact ⟨result,delivered⟩
    · intro returned
      obtain ⟨result,delivered⟩ := returned
      exact bind_defined delivered ⟨_,rfl⟩

theorem escalateToHuman_returns {service : CommunicationService} :
    (∃ result, (escalateToHuman office service ticketId (escalationParameters rc) links).value = .ok result) ↔
      ManagerAnswered office service ticketId links rc := by
  rw [← notifyManager_returns]
  constructor
  · intro returned
    obtain ⟨result,returned⟩ := returned
    obtain ⟨sent,notified,_⟩ := bind_returns.mp returned
    exact ⟨sent,notified⟩
  · intro notified
    obtain ⟨sent,notified⟩ := notified
    exact bind_defined notified ⟨_,rfl⟩

theorem buildEscalation_returns {registry : ToolRegistry} {service : CommunicationService}
    {perform : String → Params → Except PyError ToolResult} :
    (∃ execution, (buildEscalation registry (escalating office service ticketId links perform) proposal rc cache).value =
      .ok execution ∧ execution.riskTier = .orange) ↔
      (registry.hasTool "escalate_to_human" = true → ManagerAnswered office service ticketId links rc) := by
  unfold buildEscalation
  by_cases registered : registry.hasTool "escalate_to_human" = true
  · rw [if_pos registered]
    have found : ∃ tool, registry.get "escalate_to_human" = some tool := Option.isSome_iff_exists.mp registered
    obtain ⟨tool,found⟩ := found
    have executed : (registryExecute registry (escalating office service ticketId links perform) "escalate_to_human"
        (escalationParameters rc) cache).value =
        (escalateToHuman office service ticketId (escalationParameters rc) links).value := by
      unfold registryExecute
      rw [bind_ok (emit_value _),found]
      rfl
    refine Iff.trans ?_ ((escalateToHuman_returns).trans ⟨fun answered _ => answered,fun answered => answered registered⟩)
    rw [← executed]
    constructor
    · intro returned
      obtain ⟨execution,returned,_⟩ := returned
      obtain ⟨toolResult,called,_⟩ := bind_returns.mp returned
      exact ⟨toolResult,called⟩
    · intro called
      obtain ⟨toolResult,called⟩ := called
      rw [bind_ok called]
      cases toolResult.success with
      | true => exact ⟨_,rfl,rfl⟩
      | false => exact ⟨_,rfl,rfl⟩
  · rw [if_neg registered]
    exact ⟨fun _ found => absurd found registered,fun _ => ⟨_,rfl,rfl⟩⟩

theorem escalation_answered (office : Office) (links : Links) :
    (∀ (messenger : Messenger) (role : String) (message : CommunicationMessage),
      (∃ sent, (sendToRole office messenger role message links).value = .ok sent) ↔
        Answered office messenger links role message) ∧
    ∀ (service : CommunicationService) (ticketId : String) (registry : ToolRegistry)
      (perform : String → Params → Except PyError ToolResult) (proposal : Proposal) (rc : RiskClassification)
      (cache : ConsequenceEngine.Cache), (∃ execution,
        (buildEscalation registry (escalating office service ticketId links perform) proposal rc cache).value = .ok execution ∧
          execution.riskTier = .orange) ↔
        (registry.hasTool "escalate_to_human" = true → ManagerAnswered office service ticketId links rc) :=
  ⟨fun _ _ _ => sendToRole_returns,fun _ _ _ _ _ _ _ => buildEscalation_returns⟩

end

def opsHat : HatConfig where
  manifest := {
    name := "ops"
    tools := ["escalate_to_human"]
    communications := AList.singleton "channels" (.obj [("slack",.obj [("server_url",.str "http://slack")])])}
  constraints := {communicationsPolicy := .obj [("contacts",.obj [("manager",.obj [("channel",.str "slack"),
    ("address",.str "#ops")])])]}

def opsMessenger : Messenger where
  slackClient := some ⟨"http://slack",.str "slack-mcp",.null⟩
  gmailClient := none
  policy := [⟨"manager",.str "slack",.str "#ops"⟩]

def opsService : CommunicationService := .mcp opsMessenger.slackClient opsMessenger.gmailClient opsMessenger.policy

def unreachable : Server := ⟨.error connectionError,fun _ _ => .error connectionError⟩

def downOffice : Office where
  slack := unreachable
  gmail := unreachable
  loads _ := .error decodeError
  upper text := text
  str value := value.typeName
  strError _ := "error"

def risky : RiskClassification := {tier := .orange,weightedScore := -1/2,explanation := "Risky."}

-- Slack cannot be reached at the first connection: the escalation itself raises.
theorem escalation_unreachable : communicationService (fun _ => none) opsHat = .ok opsService ∧
    (sendToRole downOffice opsMessenger "manager" (escalationNotice downOffice "TKT-1" risky) {}).value =
      .error connectionError ∧
    (buildEscalation (ToolRegistry.empty.register escalateToHumanTool)
      (escalating downOffice opsService "TKT-1" {} fun _ _ => .error .keyError) ⟨{actionRequested := "refund",target := none},[]⟩
      risky ∅).value = .error connectionError := ⟨rfl,rfl,rfl⟩

end Sophia.Communication
