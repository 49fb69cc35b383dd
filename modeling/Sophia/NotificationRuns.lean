import Mathlib.Algebra.Order.BigOperators.Group.List
import Sophia.Notifiers

namespace Sophia.Notifications
open TracedRun StepRun Json Mcp Hats Webhooks Communication Quota

-- A delivery that is handled, and the clock readings on the way
structure Arrival where
  action : EventAction
  clocks : ExecuteClocks

-- A notification past the gate, and the delivery it is about
structure Passed where
  arrival : Arrival
  recipient : NotificationRecipient
  message : NotificationMessage

-- A send: what it met, what went out and what it answered
structure Attempted where
  passed : Passed
  crossing : Crossing
  dispatches : List Dispatch
  answer : Except PyError NotificationResult

structure Desk (μ : Type) where
  handling : Handling μ
  wire : Wire := {}
  waiting : List Passed := []
  sends : List Attempted := []

def Desk.attempt {μ : Type} (desk : Desk μ) (k : Nat) (attempted : Attempted) (wire : Wire) : Desk μ :=
  {desk with
    wire
    waiting := desk.waiting.eraseIdx k
    sends := desk.sends ++ [attempted]}

-- The handlers await their sends, so that other deliveries and other sends come in between.
inductive Input where
  | handle (arrival : Arrival)
  | send (k : Nat) (crossing : Crossing)

def arrivals (inputs : List Input) : List Arrival := inputs.filterMap fun
  | .handle arrival => some arrival
  | .send _ _ => none

def announcement? (arrival : Arrival) : Effect → Option Passed
  | .notified recipient message => some ⟨arrival,recipient,message⟩
  | .triggered _ _ _ _ => none

section
variable {μ : Type} (collaborators : Collaborators μ) (runtime : Runtime) (sources : List (String × Params))

-- The router with the send left out
def deferred : Collaborators μ := {collaborators with notificationService := some fun _ _ => .ok ()}

def handle (arrival : Arrival) : HandlingRun μ Unit :=
  execute (deferred collaborators) runtime sources arrival.action arrival.clocks

section
variable (office : Office) (maxRetries : Nat) (service : NotificationService)

def sendPassed (passed : Passed) (crossing : Crossing) : NotifyRun NotificationResult :=
  sendNotification office maxRetries crossing passed.recipient passed.message service

def deskStep (desk : Desk μ) : Input → Desk μ
  | .handle arrival =>
    let ran := handle collaborators runtime sources arrival desk.handling
    {desk with
      handling := ran.state
      waiting := desk.waiting ++ ran.trace.filterMap (announcement? arrival)}
  | .send k crossing =>
    match desk.waiting[k]? with
    | none => desk
    | some passed =>
      let sent := sendPassed office maxRetries service passed crossing desk.wire
      desk.attempt k ⟨passed,crossing,sent.trace,sent.value⟩ sent.state

end

-- How often the limits let one entity's notifications pass on a day. Limits that are no number let none pass.
def allowance (config : Json) : Nat :=
  match limitsOf config with
  | .ok limits => ((limits.maxDaily.number?).map fun limit => ⌈limit⌉.toNat).getD 0
  | .error _ => 0

def Awake (config : Json) (clocks : GateClocks) : Prop :=
  ∃ limits, limitsOf config = .ok limits ∧ inQuietHours limits.quietStart limits.quietEnd (hourOf clocks.hour) = .ok false

def updateOf (event : SophiaEvent) : NotificationMessage where
  body := "Update for your " ++ event.entityType ++ ": " ++ event.eventType
  subject := collaborators.title event.entityType ++ " Update"
  sourceEvent := event.eventType

-- What got past the gate: the update about a delivery that was to be notified, outside quiet hours
structure Cleared (passed : Passed) : Prop where
  asked : passed.arrival.action.action.isStr "memory_update_and_notify" = true
  awake : Awake (notificationLimits sources) passed.arrival.clocks.gate
  customer : passed.recipient.customerId = passed.arrival.action.event.entityId
  address : ∃ s, (lookUpEmail collaborators passed.arrival.action.event s).value = .ok passed.recipient.email
  text : passed.message = updateOf collaborators passed.arrival.action.event

end

def keyOf (passed : Passed) : String × Int := (passed.arrival.action.event.entityId,dayOf passed.arrival.clocks.gate.today)

-- How many messages carried a notification about the entity on the day
def carried (sends : List Attempted) (key : String × Int) : Nat :=
  ((sends.filter fun attempted => keyOf attempted.passed = key).map fun attempted =>
    attempted.dispatches.countP Dispatch.carries).sum

section
variable {μ : Type} {collaborators : Collaborators μ} {runtime : Runtime} {sources : List (String × Params)}
variable {office : Office} {maxRetries : Nat} {service : NotificationService}

-- What the handling of a delivery announces, and the counts it leaves
inductive Judged (collaborators : Collaborators μ) (sources : List (String × Params)) (arrival : Arrival) (counts : DailyCounts) :
    List Passed → DailyCounts → Prop where
  | untouched : Judged collaborators sources arrival counts [] counts
  | held : Judged collaborators sources arrival counts []
      (cleaned counts arrival.action.event.entityId (dayOf arrival.clocks.gate.today))
  | passed : passed.arrival = arrival → Cleared collaborators sources passed →
      storedCount counts arrival.action.event.entityId (dayOf arrival.clocks.gate.today) < allowance (notificationLimits sources) →
      Judged collaborators sources arrival counts [passed]
        (granted counts arrival.action.event.entityId (dayOf arrival.clocks.gate.today))

-- The notifications past the gate, sent or waiting
def Desk.passed (desk : Desk μ) : List Passed := desk.waiting ++ desk.sends.map (·.passed)

theorem attempt_passed (desk : Desk μ) (k : Nat) (attempted : Attempted) (wire : Wire) :
    (desk.attempt k attempted wire).passed = desk.waiting.eraseIdx k ++ (desk.sends.map (·.passed) ++ [attempted.passed]) := by
  rw [Desk.passed,Desk.attempt,List.map_append]
  rfl

-- What holds of the desk after a run: its notifications are those the gate counts, and each send is one of the service's.
structure Kept (collaborators : Collaborators μ) (sources : List (String × Params)) (office : Office) (maxRetries : Nat)
    (service : NotificationService) (given : List Arrival) (desk : Desk μ) (past : List (String × Int)) (last : Int) : Prop where
  counted : Counted desk.handling.dailyCounts past last
  granted : (desk.passed.map keyOf).Perm past
  within : ∀ key, used past key ≤ allowance (notificationLimits sources)
  cleared : ∀ passed ∈ desk.passed, passed.arrival ∈ given ∧ Cleared collaborators sources passed
  sent : ∀ attempted ∈ desk.sends, ∃ wire,
    attempted.dispatches = (sendPassed office maxRetries service attempted.passed attempted.crossing wire).trace ∧
      attempted.answer = (sendPassed office maxRetries service attempted.passed attempted.crossing wire).value

theorem counted_onward (counted : Counted counts past last) (forward : last ≤ today) : Counted counts past today :=
  ⟨fun customerId day later => counted.same customerId day (Int.le_trans forward later),
    fun offer member => Int.le_trans (counted.ended offer member) forward⟩

-- A handled delivery changes the counts and what waits.
theorem Kept.judged (kept : Kept collaborators sources office maxRetries service given desk past last) {arrival : Arrival}
    (forward : last ≤ dayOf arrival.clocks.gate.today)
    (judged : Judged collaborators sources arrival desk.handling.dailyCounts announced handling.dailyCounts) :
    ∃ past, Kept collaborators sources office maxRetries service (given ++ [arrival])
      {desk with handling,waiting := desk.waiting ++ announced} past (dayOf arrival.clocks.gate.today) := by
  generalize counts : handling.dailyCounts = after at judged
  have before : ∀ passed ∈ desk.passed, passed.arrival ∈ given ++ [arrival] ∧ Cleared collaborators sources passed :=
    fun passed member => ⟨List.mem_append_left _ (kept.cleared passed member).1,(kept.cleared passed member).2⟩
  cases judged with
  | untouched =>
    rw [List.append_nil]
    exact ⟨past,by rw [counts]; exact counted_onward kept.counted forward,kept.granted,kept.within,before,kept.sent⟩
  | held =>
    rw [List.append_nil]
    exact ⟨past,by rw [counts]; exact kept.counted.cleaned _ forward,kept.granted,kept.within,before,kept.sent⟩
  | @passed passed own cleared room =>
    have key : keyOf passed = (arrival.action.event.entityId,dayOf arrival.clocks.gate.today) := by rw [keyOf,own]
    have more : Desk.passed {desk with handling,waiting := desk.waiting ++ [passed]} =
        desk.waiting ++ passed :: desk.sends.map (·.passed) := by simp [Desk.passed]
    refine ⟨(arrival.action.event.entityId,dayOf arrival.clocks.gate.today) :: past,?_,?_,?_,?_,kept.sent⟩
    · rw [counts]
      exact kept.counted.granted _ forward
    · rw [more,← key]
      exact (List.perm_middle.map keyOf).trans (kept.granted.cons _)
    · intro other
      rw [used_cons]
      split
      · next same =>
        rw [kept.counted.same _ _ forward,same] at room
        omega
      · exact kept.within other
    · intro other member
      rw [more] at member
      rcases List.mem_cons.mp (List.perm_middle.subset member) with rfl | earlier
      · exact ⟨by simp [own],cleared⟩
      · exact before other earlier

theorem Kept.send (kept : Kept collaborators sources office maxRetries service given desk past last) (k : Nat)
    (crossing : Crossing) : Kept collaborators sources office maxRetries service given
      (deskStep collaborators runtime sources office maxRetries service desk (.send k crossing)) past last := by
  simp only [deskStep]
  cases there : desk.waiting[k]? with
  | none => exact kept
  | some passed =>
    dsimp only
    obtain ⟨within,here⟩ := List.getElem?_eq_some_iff.mp there
    have taken : (passed :: desk.waiting.eraseIdx k).Perm desk.waiting := here ▸ List.getElem_cons_eraseIdx_perm within
    have moved : (desk.waiting.eraseIdx k ++ (desk.sends.map (·.passed) ++ [passed])).Perm desk.passed := by
      rw [← List.append_assoc]
      exact (List.perm_append_singleton _ _).trans (taken.append_right _)
    refine ⟨kept.counted,?_,kept.within,?_,?_⟩
    · rw [attempt_passed]
      exact (moved.map keyOf).trans kept.granted
    · intro other member
      rw [attempt_passed] at member
      exact kept.cleared other (moved.subset member)
    · intro attempted member
      rcases List.mem_append.mp member with earlier | latest
      · exact kept.sent attempted earlier
      · obtain rfl := List.mem_singleton.mp latest
        exact ⟨desk.wire,rfl,rfl⟩

end

end Sophia.Notifications
