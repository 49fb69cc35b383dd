import Sophia.McpClient

namespace Sophia.Mcp
open TracedRun Json Retry

-- The client gives up on a try or starts the next.
def settles (fate : Fate) : Bool :=
  match fate.reply with
  | .timeout => false
  | .refused => false
  | _ => true

-- What tries come to that no connect() comes between
def answerFrom (fates : Nat → Fate) : (left attempt : Nat) → (last : PyError) → Except PyError Json
  | 0,_,last => .error last
  | left + 1,attempt,_ => match (fates attempt).reply with
    | .timeout => answerFrom fates left (attempt + 1) timeoutError
    | .refused => answerFrom fates left (attempt + 1) connectionError
    | .broken e => .error e
    | .body data => resultOf data

theorem attempts_answers (fates : Nat → Fate) (method : String) (params : Option Json) (left attempt : Nat)
    (last : PyError) : Answers (attempts fates (fun _ => pure ()) method params left attempt last)
      (answerFrom fates left attempt last) := by
  induction left generalizing attempt last with
  | zero => exact Answers.lift _
  | succ left ih =>
    have ready : Answers (restoreFor (fun _ => pure ()) attempt) (.ok ()) := by
      unfold restoreFor
      split <;> exact Answers.pure _
    have posted : Answers (post (fates attempt) method params) (.ok (fates attempt).reply) := fun _ => rfl
    have answered : Answers (settle (attempts fates (fun _ => pure ()) method params left (attempt + 1)) (fates attempt).reply)
        (answerFrom fates (left + 1) attempt last) := by
      rw [answerFrom]
      cases (fates attempt).reply with
      | timeout => exact Answers.change (ih _ _)
      | refused => exact Answers.change (ih _ _)
      | broken e => exact Answers.lift _
      | body data => exact Answers.lift _
    intro client
    rw [attempts,bind_ok (ready client),bind_ok (posted _)]
    exact answered _

-- What a connect() comes to
def handshakeAnswer (maxRetries : Nat) (handshake : Handshake) : Except PyError Unit := do
  let initResult ← (answerFrom handshake.initializing maxRetries 0 .typeError).mapError asFailure
  let _ ← initResult.get "protocolVersion" .null
  let result ← answerFrom handshake.listing maxRetries 0 .typeError
  let toolsData ← result.get "tools" (.arr [])
  let tools ← toolsData.iterate
  let _ ← tools.mapM toolName

theorem registerTools_answers (tools : List Json) : Answers (registerTools tools) ((tools.mapM toolName).map fun _ => ()) := by
  induction tools with
  | nil => exact Answers.pure _
  | cons tool rest ih =>
    rw [List.mapM_cons,registerTools]
    intro client
    cases named : toolName tool with
    | error e => rfl
    | ok name =>
      rw [lift_bind_ok,change_bind,ih]
      cases rest.mapM toolName <;> rfl

theorem connect_answers (maxRetries : Nat) (handshake : Handshake) :
    Answers (connect maxRetries handshake) (handshakeAnswer maxRetries handshake) := by
  unfold connect handshakeAnswer
  apply Answers.bind
  · intro client
    rw [rescue,sendPlain,attempts_answers]
    cases answerFrom handshake.initializing maxRetries 0 .typeError <;> rfl
  · intro initResult
    refine Answers.bind (Answers.lift _) fun _ => ?_
    refine Answers.bind (attempts_answers _ _ _ _ _ _) fun result => ?_
    refine Answers.bind (Answers.lift _) fun toolsData => Answers.change ?_
    refine Answers.bind (Answers.lift _) fun tools => ?_
    intro client
    cases named : tools.mapM toolName with
    | error e =>
      have stopped := registerTools_answers tools client
      rw [named] at stopped
      rw [bind_error stopped]
      rfl
    | ok names =>
      have registered := registerTools_answers tools client
      rw [named] at registered
      rw [bind_ok registered]
      rfl

-- The tries go on after this connect().
def restored (maxRetries : Nat) (network : Network) (attempt : Nat) : Bool :=
  match handshakeAnswer maxRetries (network.handshake attempt) with
  | .ok _ => true
  | .error e => isFailure e

theorem reconnect_rescues (off : client.connected = false) : reconnect maxRetries network attempt client =
    rescue (fun e => if isFailure e then .ok () else .error e) (connect maxRetries (network.handshake attempt)) client := by
  unfold reconnect
  rw [read_bind]
  exact congrFun (if_neg (by simp [off])) client

theorem reconnect_restores (off : client.connected = false) (goes : restored maxRetries network attempt = true) :
    (reconnect maxRetries network attempt client).value = .ok () := by
  rw [reconnect_rescues off,rescue,connect_answers]
  unfold restored at goes
  cases answer : handshakeAnswer maxRetries (network.handshake attempt) with
  | ok _ => rfl
  | error e =>
    rw [answer] at goes
    exact if_pos goes

theorem reconnect_stops (off : client.connected = false) (ends : restored maxRetries network attempt = false) :
    ∃ e, (reconnect maxRetries network attempt client).value = .error e := by
  rw [reconnect_rescues off,rescue,connect_answers]
  unfold restored at ends
  cases answer : handshakeAnswer maxRetries (network.handshake attempt) with
  | ok _ => rw [answer] at ends; cases ends
  | error e =>
    rw [answer] at ends
    have other : isFailure e = false := ends
    exact ⟨e,if_neg (by rw [other]; simp)⟩

-- What POSTs other than the calls of tools leave for the view below: nothing
def performedCall? (posted : Posted) : Option Posted :=
  if posted.method = "tools/call" ∧ posted.performed = true then some posted else none

abbrev Quiet (m : ClientRun α) : Prop := Emits (fun posted => performedCall? posted = none) m

def performedCalls (m : ClientRun α) (client : Client) : List Posted := seen performedCall? m client

-- A call posts its own requests and what comes before its tries.
theorem attempts_emits {P : Posted → Prop} {restore : Nat → ClientRun Unit} (each : ∀ k, Emits P (restore k))
    (own : ∀ requestId performed, P ⟨requestId,method,params,performed⟩) (left attempt : Nat) (last : PyError) :
    Emits P (attempts fates restore method params left attempt last) := by
  induction left generalizing attempt last with
  | zero => exact Emits.lift _
  | succ left ih =>
    refine Emits.bind (Emits.ite (Emits.pure _) (each attempt)) fun _ => Emits.bind ?_ fun reply => ?_
    · refine Emits.bind (Emits.overState _) fun _ => Emits.bind (Emits.overState _) fun client => ?_
      exact Emits.bind (Emits.emit (own _ _)) fun _ => Emits.pure _
    · cases reply with
      | timeout => exact Emits.bind (Emits.overState _) fun _ => ih _ _
      | refused => exact Emits.bind (Emits.overState _) fun _ => ih _ _
      | broken e => exact Emits.lift _
      | body data => exact Emits.lift _

theorem attempts_quiet {restore : Nat → ClientRun Unit} (other : method ≠ "tools/call") (quiet : ∀ k, Quiet (restore k))
    (left attempt : Nat) (last : PyError) : Quiet (attempts fates restore method params left attempt last) :=
  attempts_emits quiet (fun _ _ => if_neg fun both => other both.1) left attempt last

theorem registerTools_quiet (tools : List Json) : Quiet (registerTools tools) := by
  induction tools with
  | nil => exact Emits.pure _
  | cons tool rest ih => exact Emits.bind (Emits.lift _) fun _ => Emits.bind (Emits.overState _) fun _ => ih

theorem connect_quiet (maxRetries : Nat) (handshake : Handshake) : Quiet (connect maxRetries handshake) := by
  refine Emits.bind (Emits.rescue (attempts_quiet (by decide) (fun _ => Emits.pure _) _ _ _)) fun initResult => ?_
  refine Emits.bind (Emits.lift _) fun _ => ?_
  refine Emits.bind (attempts_quiet (by decide) (fun _ => Emits.pure _) _ _ _) fun result => ?_
  refine Emits.bind (Emits.lift _) fun toolsData => Emits.bind (Emits.overState _) fun _ => ?_
  refine Emits.bind (Emits.lift _) fun tools => Emits.bind (registerTools_quiet tools) fun _ => ?_
  exact Emits.overState _

theorem reconnect_quiet (maxRetries : Nat) (network : Network) (attempt : Nat) :
    Quiet (reconnect maxRetries network attempt) := by
  refine Emits.bind (Emits.overState _) fun client => Emits.ite (Emits.pure _) ?_
  exact Emits.rescue (connect_quiet maxRetries _)

theorem post_performed (fate : Fate) (params : Option Json) (client : Client) :
    (performedCalls (post fate "tools/call" params) client).length = if fate.performed then 1 else 0 := by
  unfold performedCalls seen post
  rw [change_bind,read_bind,bind_ok (emit_value _)]
  cases fate.performed <;> simp [performedCall?]

section
variable {maxRetries : Nat} {network : Network} {client : Client}

theorem restoreFor_goes (off : attempt = 0 ∨ client.connected = false)
    (goes : attempt = 0 ∨ restored maxRetries network attempt = true) :
    (restoreFor (reconnect maxRetries network) attempt client).value = .ok () := by
  unfold restoreFor
  by_cases start : attempt = 0
  · rw [if_pos start]
    rfl
  · rw [if_neg start]
    exact reconnect_restores (off.resolve_left start) (goes.resolve_left start)

theorem restoreFor_stops (off : attempt = 0 ∨ client.connected = false)
    (ends : ¬ (attempt = 0 ∨ restored maxRetries network attempt = true)) :
    ∃ e, (restoreFor (reconnect maxRetries network) attempt client).value = .error e := by
  rw [not_or] at ends
  unfold restoreFor
  rw [if_neg ends.1]
  exact reconnect_stops (off.resolve_left ends.1) (by simpa using ends.2)

-- What follows a try, given what follows the next
theorem settle_performed {again : PyError → ClientRun Json} {k : Nat} (next : ∀ last client, client.connected = false →
      (performedCalls (again last) client).length = if restored maxRetries network attempt = true then k else 0)
    (fate : Fate) (client : Client) : (performedCalls (settle again fate.reply) client).length =
      if settles fate = false ∧ restored maxRetries network attempt = true then k else 0 := by
  have retried (last : PyError) : (performedCalls (disconnect >>= fun _ => again last) client).length =
      if restored maxRetries network attempt = true then k else 0 := by
    unfold performedCalls seen disconnect
    rw [change_bind]
    exact next last _ rfl
  unfold settles
  cases fate.reply with
  | timeout => simpa [settle] using retried timeoutError
  | refused => simpa [settle] using retried connectionError
  | broken e => rfl
  | body data => rfl

-- The tools/call POSTs that the server performs are those of the tries that are made.
theorem attempts_performed (maxRetries : Nat) (network : Network) (params : Option Json) (left attempt : Nat)
    (last : PyError) (client : Client) (off : attempt = 0 ∨ client.connected = false) :
    (performedCalls (attempts network.call (reconnect maxRetries network) "tools/call" params left attempt last) client).length =
      if attempt = 0 ∨ restored maxRetries network attempt = true then
        ((made settles (restored maxRetries network) network.call left attempt).filter (·.performed)).length
      else 0 := by
  induction left generalizing attempt last client with
  | zero => split <;> rfl
  | succ left ih =>
    have silent : Quiet (restoreFor (reconnect maxRetries network) attempt) :=
      Emits.ite (Emits.pure _) (reconnect_quiet maxRetries network attempt)
    unfold performedCalls
    rw [attempts,seen_bind,silent.seen_nil,List.nil_append]
    by_cases goes : attempt = 0 ∨ restored maxRetries network attempt = true
    · rw [if_pos goes,restoreFor_goes off goes]
      dsimp only
      generalize (restoreFor (reconnect maxRetries network) attempt client).state = ready
      have posted : (post (network.call attempt) "tools/call" params ready).value = .ok (network.call attempt).reply := rfl
      have here := post_performed (network.call attempt) params ready
      have later := settle_performed (fun last client off => by simpa using ih (attempt + 1) last client (.inr off))
        (network.call attempt) (post (network.call attempt) "tools/call" params ready).state
      unfold performedCalls at here later
      rw [seen_bind,posted,List.length_append]
      dsimp only
      rw [here,later]
      by_cases further : settles (network.call attempt) = false ∧ restored maxRetries network (attempt + 1) = true
      · rw [if_pos further,made_goes further,List.filter_cons]
        cases (network.call attempt).performed <;> simp [Nat.add_comm]
      · rw [if_neg further,made_ends further,List.filter_cons]
        cases (network.call attempt).performed <;> rfl
    · obtain ⟨e,stopped⟩ := restoreFor_stops off goes
      rw [if_neg goes,stopped]
      rfl

-- Of two tries that are made, the server performs one at most.
def AnswersKept (maxRetries : Nat) (network : Network) : Prop :=
  ∀ i j, i < j → j < maxRetries → Reached settles (restored maxRetries network) network.call 0 j →
    (network.call i).performed = true → (network.call j).performed = false

theorem callTool_performed (maxRetries : Nat) (network : Network) (client : Client) (name : String) (arguments : Json) :
    (performedCalls (callTool maxRetries network name arguments) client).length =
      if client.tools.any (isStr name) = true then
        ((made settles (restored maxRetries network) network.call maxRetries 0).filter (·.performed)).length
      else 0 := by
  have sent := attempts_performed maxRetries network (some (.obj [("name",.str name),("arguments",arguments)])) maxRetries 0
    .typeError client (.inl rfl)
  have silent (result : Json) : Quiet (do
      let content ← lift (result.get "content" (.arr []))
      let isError ← lift (result.get "isError" (.bool false))
      pure ⟨content,isError⟩ : ClientRun McpToolResult) :=
    Emits.bind (Emits.lift _) fun _ => Emits.bind (Emits.lift _) fun _ => Emits.pure _
  unfold performedCalls callTool
  rw [seen,read_bind]
  by_cases known : client.tools.any (isStr name) = true
  · rw [if_pos known]
    refine Eq.trans ?_ (sent.trans (if_pos (.inl rfl)))
    refine congrArg List.length (Eq.trans (congrArg _ (congrArg _ (congrFun (if_pos known) client))) ?_)
    exact seen_then_silent silent
  · rw [if_neg known]
    refine congrArg List.length (congrArg _ (congrArg _ (congrFun (if_neg known) client)))

theorem callTool_once (maxRetries : Nat) (network : Network) (client : Client) (name : String) (arguments : Json) :
    (performedCalls (callTool maxRetries network name arguments) client).length ≤ 1 ↔
      (client.tools.any (isStr name) = true → AnswersKept maxRetries network) := by
  rw [callTool_performed]
  by_cases known : client.tools.any (isStr name) = true
  · rw [if_pos known,filter_le_one,made_pairwise]
    constructor
    · intro apart _ i j between upper reached early
      have both := apart i j (Nat.zero_le i) between (by omega) reached
      simpa [early] using both
    · intro kept i j _ between upper reached both
      rw [kept known i j between (by omega) reached both.1] at both
      cases both.2
  · rw [if_neg known]
    exact ⟨fun _ found => absurd found known,fun _ => Nat.zero_le 1⟩

end

end Sophia.Mcp
