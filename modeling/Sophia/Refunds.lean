import Sophia.AtMostOnce
import Sophia.McpServices

namespace Sophia.Mcp
open TracedRun Json Retry ServiceModels

section
variable (special : PyFloat → Except PyError Json)

-- What is posted of an argument. Arguments that json.dumps cannot write are never posted; what becomes of NaN and of
-- the infinities is up to the HTTP client.
def encodeArgument : Argument → Except PyError Json
  | .json value => .ok value
  | .float (.finite x) => .ok (.float x)
  | .float x => special x
  | _ => .error .typeError

def encodeKwargs (kwargs : Kwargs) : Except PyError Json := do
  return .obj (← kwargs.mapM fun arg => do return (arg.1,← encodeArgument special arg.2))

variable (texts : Texts) (maxRetries : Nat) (network : Network)

def callEncoded (toolName : String) (args : Kwargs) : ClientRun McpToolResult := do
  let arguments ← lift (encodeKwargs special args)
  callTool maxRetries network toolName arguments

-- A method of a service on a client of its own, such as process_partial_refund and process_full_refund
def requestService (platform : Platform) (asked : ServiceCall) : ClientRun ServiceValue :=
  call (callEncoded special maxRetries network) (mappingOf texts platform asked.service) (methodName asked) (kwargsOf asked)

-- The tool call that a service method comes to
def toolCall? (platform : Platform) (asked : ServiceCall) : Option (String × Json) := do
  let config ← configOf texts platform asked
  let args ← (config.buildArgs.apply (kwargsOf asked)).toOption
  let arguments ← (encodeKwargs special args).toOption
  return (config.toolName,arguments)

def Posts (platform : Platform) (asked : ServiceCall) (client : Client) : Prop :=
  ∃ name arguments, toolCall? special texts platform asked = some (name,arguments) ∧ client.tools.any (isStr name) = true

end

section
variable {special : PyFloat → Except PyError Json} {texts : Texts} {maxRetries : Nat} {network : Network}
variable {platform : Platform} {asked : ServiceCall} {client : Client}

theorem requestService_performed : performedCalls (requestService special texts maxRetries network platform asked) client =
    match toolCall? special texts platform asked with
    | some (name,arguments) => performedCalls (callTool maxRetries network name arguments) client
    | none => [] := by
  unfold performedCalls requestService call toolCall? configOf
  cases (mappingOf texts platform asked.service).lookup (methodName asked) with
  | none => rfl
  | some config =>
    change seen performedCall? (lift (config.buildArgs.apply (kwargsOf asked)) >>= fun args =>
      callEncoded special maxRetries network config.toolName args >>= _) client = _
    rw [seen_lift_bind]
    cases applied : config.buildArgs.apply (kwargsOf asked) with
    | error e => simp [applied,Except.toOption]
    | ok args =>
      dsimp only
      rw [seen_then_silent fun result => Emits.lift _,callEncoded,seen_lift_bind]
      cases encoded : encodeKwargs special args <;> simp [applied,encoded,Except.toOption]

theorem requestService_once :
    (performedCalls (requestService special texts maxRetries network platform asked) client).length ≤ 1 ↔
    (Posts special texts platform asked client → AnswersKept maxRetries network) := by
  rw [requestService_performed]
  unfold Posts
  cases toolCall? special texts platform asked with
  | none => exact ⟨fun _ posts => absurd posts (by simp),fun _ => Nat.zero_le 1⟩
  | some sent =>
    obtain ⟨name,arguments⟩ := sent
    refine (callTool_once maxRetries network client name arguments).trans ?_
    simp

end

-- One call_tool, and one method of a service such as process_partial_refund and process_full_refund
theorem at_most_once (special : PyFloat → Except PyError Json) (texts : Texts) (maxRetries : Nat) (network : Network)
    (client : Client) :
    (∀ name arguments, (performedCalls (callTool maxRetries network name arguments) client).length ≤ 1 ↔
      (client.tools.any (isStr name) = true → AnswersKept maxRetries network)) ∧
    ∀ platform asked, (performedCalls (requestService special texts maxRetries network platform asked) client).length ≤ 1 ↔
      (Posts special texts platform asked client → AnswersKept maxRetries network) :=
  ⟨callTool_once maxRetries network client,fun _ _ => requestService_once⟩

-- The server processes the refund, but its answer comes too late. After a reconnect the client sends it again.
def lateAnswer : Network where
  call attempt := if attempt = 0 then ⟨true,.timeout⟩ else ⟨true,.body (.obj [("result",.obj [("content",.arr [])])])⟩
  handshake _ := ⟨fun _ => ⟨true,.body (.obj [("result",.obj [])])⟩,
    fun _ => ⟨true,.body (.obj [("result",.obj [("tools",.arr [.obj [("name",.str "create_refund")]])])])⟩⟩

theorem refunded_twice : ¬ (performedCalls (callTool 3 lateAnswer "create_refund" (.obj [("payment_intent",.str "pi_1"),
      ("reason",.str "damaged")])) {tools := [.str "create_refund"],connected := true}).length ≤ 1 ∧
    ¬ (performedCalls (requestService (fun _ => .error .valueError) plainTexts 3 lateAnswer .stripe
      (.processFullRefund (.str "pi_1") (.str "damaged")))
      {tools := [.str "create_refund"],connected := true}).length ≤ 1 := by
  decide +kernel

end Sophia.Mcp
