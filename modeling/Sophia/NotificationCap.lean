import Sophia.MemoryIds
import Sophia.Library.Quota

namespace Sophia.Webhooks
open TracedRun Json PyText Sophia.Memory Quota

-- A delivery that is handled with memory_update_and_notify, and the clock readings on the way
structure Notice where
  topic : String
  payload : List (String × Json)
  normalized : Int
  stored : Int
  gate : GateClocks

section
variable {μ : Type} (collaborators : Collaborators μ) (runtime : Runtime) (calendar : Calendar) (sources : List (String × Params))

def Notice.event (notice : Notice) : SophiaEvent := normalize runtime calendar notice.normalized notice.topic notice.payload

def notify (notice : Notice) : HandlingRun μ Unit :=
  execute collaborators runtime sources {action := .str "memory_update_and_notify",event := notice.event runtime calendar}
    ⟨notice.stored,notice.gate⟩

def isNotified : Effect → Bool
  | .notified _ _ => true
  | _ => false

-- The deliveries of a run for which a notification is sent
def sent : Handling μ → List Notice → List Notice
  | _,[] => []
  | s,notice :: rest =>
    if (notify collaborators runtime calendar sources notice s).trace.any isNotified then
      notice :: sent (notify collaborators runtime calendar sources notice s).state rest
    else sent (notify collaborators runtime calendar sources notice s).state rest

end

-- The gate does not keep the delivery back for the hour.
def awake (limits : Limits) (notice : Notice) : Bool :=
  match inQuietHours limits.quietStart limits.quietEnd (hourOf notice.gate.hour) with
  | .ok quiet => !quiet
  | .error _ => false

def dayKey (runtime : Runtime) (calendar : Calendar) (notice : Notice) : String × Int :=
  ((notice.event runtime calendar).entityId,dayOf notice.gate.today)

-- A delivery about a customer on a day
def ofCustomer (customer : String) (day : Int) (notice : Notice) : Bool :=
  (field notice.payload "email").isStr customer && dayOf notice.gate.today = day

def storedCount (counts : DailyCounts) (customerId : String) (day : Int) : Nat := ((countsOf counts customerId).get day).getD 0

-- The counts from the last day on are those of what was granted.
structure Counted (counts : DailyCounts) (past : List (String × Int)) (last : Int) : Prop where
  same : ∀ customerId day, last ≤ day → storedCount counts customerId day = used past (customerId,day)
  ended : ∀ offer ∈ past, offer.2 ≤ last

section
variable {μ : Type} {collaborators : Collaborators μ} {runtime : Runtime} {calendar : Calendar} {sources : List (String × Params)}
variable {limits : Limits} {most : Int} {counts : DailyCounts} {clocks : GateClocks} {ω : Type}

theorem reached_iff {limit : ℚ} (numbered : limits.maxDaily.number? = some limit) (current : Nat) :
    Webhooks.reached current limits.maxDaily = .ok (decide (⌈limit⌉.toNat ≤ current)) := by
  unfold Webhooks.reached
  rw [numbered]
  have same : (limit ≤ (current : ℚ)) ↔ ⌈limit⌉.toNat ≤ current := by
    rw [show ((current : ℚ)) = ((current : Int) : ℚ) by simp,← Int.ceil_le]
    omega
  simp [same]

-- The counts once the days before today are dropped, and once one more is granted
def cleaned (counts : DailyCounts) (customerId : String) (today : Int) : DailyCounts :=
  counts.set customerId ((countsOf counts customerId).filterKeys (· = today))

def granted (counts : DailyCounts) (customerId : String) (today : Int) : DailyCounts :=
  (cleaned counts customerId today).set customerId
    ((countsOf (cleaned counts customerId today) customerId).set today
      (storedCount (cleaned counts customerId today) customerId today + 1))

theorem cleaned_count (counts : DailyCounts) (customerId other : String) (today day : Int) :
    storedCount (cleaned counts customerId today) other day =
      if other = customerId ∧ day ≠ today then 0 else storedCount counts other day := by
  unfold storedCount countsOf cleaned
  rw [PyDict.get_set]
  by_cases same : other = customerId
  · subst same
    by_cases now : day = today <;> simp [PyDict.get_filterKeys,now,countsOf]
  · simp [same]

theorem granted_count (counts : DailyCounts) (customerId other : String) (today day : Int) :
    storedCount (granted counts customerId today) other day =
      storedCount (cleaned counts customerId today) other day + if other = customerId ∧ day = today then 1 else 0 := by
  unfold granted
  generalize cleaned counts customerId today = base
  unfold storedCount countsOf
  rw [PyDict.get_set]
  by_cases same : other = customerId
  · subst same
    by_cases now : day = today
    · simp [now]
    · simp [now,PyDict.get_set]
  · simp [same]

theorem check_limited {limit : ℚ} (limited : limitsOf config = .ok limits) (numbered : limits.maxDaily.number? = some limit)
    (open_ : inQuietHours limits.quietStart limits.quietEnd (hourOf clocks.hour) = .ok false) (customerId : String) :
    (check runtime customerId config clocks : Run PyError DailyCounts ω (Bool × String)) counts =
      if storedCount counts customerId (dayOf clocks.today) < ⌈limit⌉.toNat then
        ⟨.ok (true,"OK"),granted counts customerId (dayOf clocks.today),[]⟩
      else ⟨.ok (false,"Daily limit exceeded (" ++ runtime.str limits.maxDaily ++ "/day)"),
        cleaned counts customerId (dayOf clocks.today),[]⟩ := by
  have current : storedCount (cleaned counts customerId (dayOf clocks.today)) customerId (dayOf clocks.today) =
      storedCount counts customerId (dayOf clocks.today) := by simp [cleaned_count]
  unfold check
  rw [limited,lift_bind_ok,open_,lift_bind_ok]
  simp only [Bool.false_eq_true,if_false,change_bind,read_bind]
  change (lift (Webhooks.reached (storedCount (cleaned counts customerId (dayOf clocks.today)) customerId (dayOf clocks.today))
    limits.maxDaily) >>= _) (cleaned counts customerId (dayOf clocks.today)) = _
  rw [current,reached_iff numbered,lift_bind_ok]
  by_cases room : storedCount counts customerId (dayOf clocks.today) < ⌈limit⌉.toNat
  · rw [if_pos room]
    have goes : decide (⌈limit⌉.toNat ≤ storedCount counts customerId (dayOf clocks.today)) = false := by simpa using room
    rw [goes]
    rfl
  · rw [if_neg room]
    have stops : decide (⌈limit⌉.toNat ≤ storedCount counts customerId (dayOf clocks.today)) = true := by simpa using room
    rw [stops]
    rfl

theorem check_awake (limited : limitsOf config = .ok limits) (numbered : limits.maxDaily.number? = some (most : ℚ))
    (open_ : inQuietHours limits.quietStart limits.quietEnd (hourOf clocks.hour) = .ok false) (customerId : String) :
    (check runtime customerId config clocks : Run PyError DailyCounts ω (Bool × String)) counts =
      if storedCount counts customerId (dayOf clocks.today) < most.toNat then
        ⟨.ok (true,"OK"),granted counts customerId (dayOf clocks.today),[]⟩
      else ⟨.ok (false,"Daily limit exceeded (" ++ runtime.str limits.maxDaily ++ "/day)"),
        cleaned counts customerId (dayOf clocks.today),[]⟩ := by
  rw [check_limited limited numbered open_ customerId,Int.ceil_intCast]

theorem Counted.later (counted : Counted counts past last) (now : last < day) : used past (customerId,day) = 0 := by
  refine used_new fun offered => ?_
  have ended : day ≤ last := counted.ended _ offered
  omega

-- Counting goes on for a check that is not granted, and for one that is.
theorem Counted.cleaned (counted : Counted counts past last) (customerId : String) (forward : last ≤ today) :
    Counted (cleaned counts customerId today) past today := by
  refine ⟨fun other day later => ?_,fun offer member => Int.le_trans (counted.ended offer member) forward⟩
  rw [cleaned_count,counted.same other day (by omega)]
  split
  · next dropped => exact (counted.later (by omega)).symm
  · rfl

theorem Counted.granted (counted : Counted counts past last) (customerId : String) (forward : last ≤ today) :
    Counted (granted counts customerId today) ((customerId,today) :: past) today := by
  have cleaned := counted.cleaned customerId forward
  refine ⟨fun other day later => ?_,List.forall_mem_cons.mpr ⟨Int.le_refl _,cleaned.ended⟩⟩
  rw [granted_count,used_cons,cleaned.same other day later]
  by_cases own : other = customerId ∧ day = today
  · obtain ⟨rfl,rfl⟩ := own
    simp
  · have apart : ¬ (customerId,today) = (other,day) := by
      rintro ⟨⟩
      exact own ⟨rfl,rfl⟩
    rw [if_neg own,if_neg apart]

theorem awake_open (up : awake limits notice = true) :
    inQuietHours limits.quietStart limits.quietEnd (hourOf notice.gate.hour) = .ok false := by
  unfold awake at up
  cases quiet : inQuietHours limits.quietStart limits.quietEnd (hourOf notice.gate.hour) with
  | error e => simp [quiet] at up
  | ok quiet => simp_all

-- At an hour that is quiet, or that does not compare with the quiet hours, nothing is counted.
theorem check_closed (limited : limitsOf config = .ok limits)
    (shut : inQuietHours limits.quietStart limits.quietEnd (hourOf clocks.hour) ≠ .ok false) (customerId : String) :
    ∃ value, (check runtime customerId config clocks : Run PyError DailyCounts ω (Bool × String)) counts =
      ⟨value,counts,[]⟩ ∧ ∀ reason, value ≠ .ok (true,reason) := by
  unfold check
  rw [limited,lift_bind_ok]
  cases hour : inQuietHours limits.quietStart limits.quietEnd (hourOf clocks.hour) with
  | error e => exact ⟨.error e,lift_bind_error e,fun _ => nofun⟩
  | ok quiet =>
    cases quiet with
    | true => exact ⟨_,lift_bind_ok true,fun _ => nofun⟩
    | false => exact absurd hour shut

theorem check_asleep (limited : limitsOf config = .ok limits) (down : awake limits notice = false) (customerId : String) :
    ∃ value, (check runtime customerId config notice.gate : Run PyError DailyCounts ω (Bool × String)) counts =
      ⟨value,counts,[]⟩ ∧ ∀ reason, value ≠ .ok (true,reason) := by
  refine check_closed limited (fun open_ => ?_) customerId
  rw [awake,open_] at down
  cases down

theorem absorbed_run {α : Type} (default : α) (m : HandlingRun μ α) (s : Handling μ) :
    ∃ a, absorbed default m s = ⟨.ok a,(m s).state,(m s).trace⟩ := by
  unfold absorbed rescue
  cases (m s).value with
  | error e => exact ⟨default,rfl⟩
  | ok a => exact ⟨a,rfl⟩

theorem absorbed_quiet {α : Type} {default : α} {m : HandlingRun μ α} {s after : Handling μ}
    (quiet : ∃ value, m s = ⟨value,after,[]⟩) : ∃ a, absorbed default m s = ⟨.ok a,after,[]⟩ := by
  obtain ⟨value,ran⟩ := quiet
  obtain ⟨a,absorbs⟩ := absorbed_run default m s
  rw [ran] at absorbs
  exact ⟨a,absorbs⟩

theorem handleMemoryUpdate_run (collaborators : Collaborators μ) (action : EventAction) (clock : Int) (s : Handling μ) :
    ∃ memory, handleMemoryUpdate collaborators action clock s = ⟨.ok (),{s with memory},[]⟩ := by
  unfold handleMemoryUpdate
  cases collaborators.memory with
  | none => exact ⟨s.memory,rfl⟩
  | some provider =>
    obtain ⟨_,stored⟩ := absorbed_run () (onMemory (provider.store (entityOf action.event clock))) s
    exact ⟨_,stored⟩

theorem lookUpEmail_run (collaborators : Collaborators μ) (event : SophiaEvent) (s : Handling μ) :
    ∃ email memory, lookUpEmail collaborators event s = ⟨.ok email,{s with memory},[]⟩ := by
  unfold lookUpEmail
  cases collaborators.memory with
  | none => exact ⟨.null,s.memory,rfl⟩
  | some provider =>
    dsimp only
    refine exists_comm.mp ⟨(provider.get (event.source ++ ":customer:" ++ event.entityId) s.memory).1,?_⟩
    refine absorbed_quiet ?_
    cases asked : (onMemory (provider.get (event.source ++ ":customer:" ++ event.entityId)) s).value with
    | error e => exact ⟨_,bind_error asked⟩
    | ok entity =>
      rw [bind_ok asked]
      cases entity <;> exact ⟨_,rfl⟩

theorem announce_run (recipient : NotificationRecipient) (message : NotificationMessage) (answer : Except PyError Unit)
    (s : Handling μ) : ((emit (.notified recipient message) >>= fun _ => absorbed () (lift answer)) : HandlingRun μ Unit) s =
      ⟨.ok (),s,[.notified recipient message]⟩ := by
  rw [bind_ok (emit_value _)]
  cases answer <;> rfl

theorem notify_steps (notice : Notice) : notify collaborators runtime calendar sources notice =
    handleMemoryUpdate collaborators ⟨.str "memory_update_and_notify",notice.event runtime calendar,.null⟩ notice.stored >>=
      fun _ => handleNotify collaborators runtime sources
        ⟨.str "memory_update_and_notify",notice.event runtime calendar,.null⟩ notice.gate := by
  simp [notify,execute,isStr]

-- The gate's verdict on a delivery
abbrev verdict (runtime : Runtime) (calendar : Calendar) (sources : List (String × Params)) (notice : Notice)
    (counts : DailyCounts) : Outcome PyError DailyCounts Effect (Bool × String) :=
  check runtime (notice.event runtime calendar).entityId (notificationLimits sources) notice.gate counts

theorem notify_run (served : collaborators.notificationService = some send) (notice : Notice) (s : Handling μ)
    (silent : (verdict runtime calendar sources notice s.dailyCounts).trace = []) :
    ∃ memory, (notify collaborators runtime calendar sources notice s).state =
        {memory,dailyCounts := (verdict runtime calendar sources notice s.dailyCounts).state} ∧
      ((notify collaborators runtime calendar sources notice s).trace.any isNotified = true ↔
        ∃ reason, (verdict runtime calendar sources notice s.dailyCounts).value = .ok (true,reason)) := by
  obtain ⟨stored,updated⟩ := handleMemoryUpdate_run collaborators
    ⟨.str "memory_update_and_notify",notice.event runtime calendar,.null⟩ notice.stored s
  obtain ⟨email,memory,asked⟩ := lookUpEmail_run collaborators (notice.event runtime calendar)
    {s with memory := stored}
  rw [notify_steps,bind_ok (by rw [updated]),updated]
  unfold handleNotify
  rw [served]
  dsimp only
  rw [bind_ok (by rw [asked]),asked]
  dsimp only
  refine ⟨memory,?_⟩
  cases judged : (verdict runtime calendar sources notice s.dailyCounts).value with
  | error e =>
    rw [bind_error (by exact judged)]
    simp [focus,silent]
  | ok outcome =>
    obtain ⟨allowed,reason⟩ := outcome
    rw [bind_ok (by exact judged)]
    cases allowed with
    | false => simp [focus,silent]
    | true => simp [focus,silent,announce_run,isNotified]

theorem sent_unserved (unserved : collaborators.notificationService = none) (notices : List Notice) (s : Handling μ) :
    sent collaborators runtime calendar sources s notices = [] := by
  induction notices generalizing s with
  | nil => rfl
  | cons notice rest ih =>
    have quiet : (notify collaborators runtime calendar sources notice s).trace.any isNotified = false := by
      obtain ⟨stored,updated⟩ := handleMemoryUpdate_run collaborators
        ⟨.str "memory_update_and_notify",notice.event runtime calendar,.null⟩ notice.stored s
      rw [notify_steps,bind_ok (by rw [updated]),updated]
      unfold handleNotify
      rw [unserved]
      rfl
    simp [sent,quiet,ih]

section
variable {after : DailyCounts} {s : Handling μ}

-- A delivery that the gate lets pass, and one that it keeps back or on which it raises
theorem sent_allowed (served : collaborators.notificationService = some send) (rest : List Notice)
    (judged : verdict runtime calendar sources notice s.dailyCounts = ⟨.ok (true,reason),after,[]⟩) :
    ∃ memory, sent collaborators runtime calendar sources s (notice :: rest) =
      notice :: sent collaborators runtime calendar sources {memory,dailyCounts := after} rest := by
  obtain ⟨memory,ends,notified⟩ := notify_run served notice s (by rw [judged])
  rw [judged] at ends notified
  refine ⟨memory,?_⟩
  rw [sent,if_pos (notified.mpr ⟨reason,rfl⟩),ends]

theorem sent_refused (served : collaborators.notificationService = some send) (rest : List Notice)
    (judged : verdict runtime calendar sources notice s.dailyCounts = ⟨value,after,[]⟩)
    (closed : ∀ reason, value ≠ .ok (true,reason)) :
    ∃ memory, sent collaborators runtime calendar sources s (notice :: rest) =
      sent collaborators runtime calendar sources {memory,dailyCounts := after} rest := by
  obtain ⟨memory,ends,notified⟩ := notify_run served notice s (by rw [judged])
  rw [judged] at ends notified
  refine ⟨memory,?_⟩
  have unsent : ¬ (notify collaborators runtime calendar sources notice s).trace.any isNotified = true := by
    intro announced
    obtain ⟨reason,allowed⟩ := notified.mp announced
    exact closed reason allowed
  rw [sent,if_neg unsent,ends]

end

-- What is sent is what a quota on entity and day grants of the deliveries outside quiet hours.
theorem sent_grants (served : collaborators.notificationService = some send)
    (limited : limitsOf (notificationLimits sources) = .ok limits) (numbered : limits.maxDaily.number? = some (most : ℚ))
    (notices : List Notice) (ordered : notices.Pairwise fun a b => a.gate.today ≤ b.gate.today) (s : Handling μ)
    (past : List (String × Int)) (last : Int) (counted : Counted s.dailyCounts past last)
    (forward : ∀ notice ∈ notices, last ≤ dayOf notice.gate.today) :
    sent collaborators runtime calendar sources s notices =
      grants (dayKey runtime calendar) most.toNat past (notices.filter (awake limits)) := by
  induction notices generalizing s past last with
  | nil => rfl
  | cons notice rest ih =>
    obtain ⟨first,later⟩ := List.pairwise_cons.mp ordered
    have here := forward notice (List.mem_cons_self ..)
    have onward : ∀ other ∈ rest, dayOf notice.gate.today ≤ dayOf other.gate.today := fun other member =>
      Int.ediv_le_ediv (by decide) (first other member)
    by_cases up : awake limits notice = true
    · have judged : verdict runtime calendar sources notice s.dailyCounts = _ :=
        check_awake limited numbered (awake_open up) (notice.event runtime calendar).entityId
      have same : storedCount s.dailyCounts (notice.event runtime calendar).entityId (dayOf notice.gate.today) =
          used past (dayKey runtime calendar notice) := counted.same _ _ here
      rw [List.filter_cons_of_pos up,grants]
      by_cases room : used past (dayKey runtime calendar notice) < most.toNat
      · rw [same,if_pos room] at judged
        obtain ⟨memory,goes⟩ := sent_allowed served rest judged
        rw [if_pos room,goes]
        exact congrArg _ (ih later _ _ _ (counted.granted _ here) onward)
      · rw [same,if_neg room] at judged
        obtain ⟨memory,held⟩ := sent_refused served rest judged (by simp)
        rw [if_neg room,held]
        exact ih later _ _ _ (counted.cleaned _ here) onward
    · obtain ⟨value,judged,closed⟩ := check_asleep limited (by simpa using up) (notice.event runtime calendar).entityId
      obtain ⟨memory,held⟩ := sent_refused served rest judged closed
      rw [List.filter_cons_of_neg up,held]
      exact ih later _ _ last counted fun other member => Int.le_trans here (onward other member)

theorem fresh_counted : Counted .empty [] last := ⟨fun _ _ _ => rfl,fun _ => nofun⟩

end

section
variable {μ : Type} (runtime : Runtime) (calendar : Calendar) (limits : Limits) (most : Int) (notices : List Notice)

-- On the day, the customer's deliveries outside quiet hours are about one entity, or no more than the limit.
def Spared (customer : String) (day : Int) : Prop :=
  most ≤ 0 ∨
  (∃ entityId, ∀ notice ∈ notices, awake limits notice = true → ofCustomer customer day notice = true →
    (notice.event runtime calendar).entityId = entityId) ∨
  (notices.filter (awake limits)).countP (ofCustomer customer day) ≤ most.toNat

-- No entity of the customer's is another customer's too, on that day.
def Unshared (customer : String) (day : Int) : Prop :=
  ∀ one ∈ notices, ∀ other ∈ notices, awake limits one = true → awake limits other = true →
    dayKey runtime calendar one = dayKey runtime calendar other →
    ofCustomer customer day one = true → ofCustomer customer day other = true

end

section
variable {runtime : Runtime} {calendar : Calendar} {limits : Limits} {most : Int} {notices : List Notice}
variable {customer : String} {day : Int}

theorem ofCustomer_day {notice : Notice} (seen : ofCustomer customer day notice = true) : dayOf notice.gate.today = day := by
  simp [ofCustomer] at seen
  exact seen.2

theorem grants_within (spared : Spared runtime calendar limits most notices customer day) :
    (grants (dayKey runtime calendar) most.toNat [] (notices.filter (awake limits))).countP (ofCustomer customer day) ≤
      most.toNat := by
  rcases spared with none_ | ⟨entityId,one⟩ | few
  · have shut : most.toNat = 0 := by omega
    simp [shut,grants_none]
  · refine within_of_one (entityId,day) fun notice member seen => ?_
    obtain ⟨member,up⟩ := List.mem_filter.mp member
    exact Prod.ext (one notice member up seen) (ofCustomer_day seen)
  · exact within_of_few few

theorem spared_of_within (unshared : Unshared runtime calendar limits notices customer day)
    (within : (grants (dayKey runtime calendar) most.toNat [] (notices.filter (awake limits))).countP
      (ofCustomer customer day) ≤ most.toNat) : Spared runtime calendar limits most notices customer day := by
  by_cases open_ : 0 < most
  · have apart : ∀ a ∈ notices.filter (awake limits), ∀ b ∈ notices.filter (awake limits),
        dayKey runtime calendar a = dayKey runtime calendar b → ofCustomer customer day a = true →
          ofCustomer customer day b = true := by
      intro a among b inside same seen
      obtain ⟨among,up⟩ := List.mem_filter.mp among
      obtain ⟨inside,on⟩ := List.mem_filter.mp inside
      exact unshared a among b inside up on same seen
    rcases one_or_few (by omega) apart within with ⟨k,one⟩ | few
    · refine .inr (.inl ⟨k.1,fun notice member up seen => ?_⟩)
      exact congrArg Prod.fst (one notice (List.mem_filter.mpr ⟨member,up⟩) seen)
    · exact .inr (.inr few)
  · exact .inl (by omega)

end

theorem notification_cap {μ : Type} (collaborators : Collaborators μ) (runtime : Runtime) (calendar : Calendar)
    (sources : List (String × Params)) (limits : Limits) (limited : limitsOf (notificationLimits sources) = .ok limits)
    (most : Int) (numbered : limits.maxDaily.number? = some (most : ℚ))
    (notices : List Notice) (ordered : notices.Pairwise fun a b => a.gate.today ≤ b.gate.today)
    (memory : μ) (customer : String) (day : Int) :
    (Spared runtime calendar limits most notices customer day →
      (sent collaborators runtime calendar sources {memory} notices).countP (ofCustomer customer day) ≤ most.toNat) ∧
    (collaborators.notificationService.isSome → Unshared runtime calendar limits notices customer day →
      (sent collaborators runtime calendar sources {memory} notices).countP (ofCustomer customer day) ≤ most.toNat →
      Spared runtime calendar limits most notices customer day) := by
  cases service : collaborators.notificationService with
  | none => simp [sent_unserved service]
  | some send =>
    have granted : sent collaborators runtime calendar sources {memory} notices =
        grants (dayKey runtime calendar) most.toNat [] (notices.filter (awake limits)) := by
      cases notices with
      | nil => rfl
      | cons notice rest =>
        refine sent_grants service limited numbered _ ordered _ [] (dayOf notice.gate.today) fresh_counted ?_
        refine List.forall_mem_cons.mpr ⟨Int.le_refl _,fun other member => ?_⟩
        exact Int.ediv_le_ediv (by decide) ((List.pairwise_cons.mp ordered).1 other member)
    rw [granted]
    exact ⟨grants_within,fun _ => spared_of_within⟩

-- One customer, two orders, one minute: with a limit of one a day, both deliveries are notified.
def oneADay : List (String × Params) :=
  [("shopify",AList.singleton "notification_limits" (.obj [("max_daily_per_customer",.int 1)]))]

def ordered (orderId : Int) (minute : Int) : Notice :=
  ⟨"orders/fulfilled",[("id",.int orderId),("email",.str "ann@example.com")],minute,minute,⟨minute,minute⟩⟩

def pinging : Collaborators Unit := {notificationService := some fun _ _ => .ok ()}

def twoOrders : List Notice := [ordered 1001 0,ordered 1002 60000000]

theorem two_orders_two_notifications :
    limitsOf (notificationLimits oneADay) = .ok ⟨.int 1,.null,.null⟩ ∧
    (twoOrders.Pairwise fun a b => a.gate.today ≤ b.gate.today) ∧
    ¬ (sent pinging shopRuntime ⟨fun _ => none⟩ oneADay {memory := ()} twoOrders).countP
      (ofCustomer "ann@example.com" 0) ≤ 1 := by
  refine ⟨rfl,?_,?_⟩
  · decide
  · decide +kernel

-- About one of the orders alone, the second delivery is held back.
theorem notification_cap_one_order :
    (sent pinging shopRuntime ⟨fun _ => none⟩ oneADay {memory := ()} [ordered 1001 0,ordered 1001 60000000]).countP
      (ofCustomer "ann@example.com" 0) ≤ 1 := by
  refine (notification_cap pinging shopRuntime ⟨fun _ => none⟩ oneADay ⟨.int 1,.null,.null⟩ rfl 1 rfl
    [ordered 1001 0,ordered 1001 60000000] (by decide) () "ann@example.com" 0).1 (.inr (.inl ⟨"1001",?_⟩))
  intro notice member up seen
  simp only [List.mem_cons,List.not_mem_nil,or_false] at member
  rcases member with rfl | rfl <;> decide +kernel

end Sophia.Webhooks
