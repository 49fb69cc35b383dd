import Sophia.NotificationCap
import Sophia.Library.StepRun

namespace Sophia.Webhooks
open TracedRun Json PyText StepRun

-- A call of NotificationGate.check
structure GateCall where
  customerId : String
  clocks : GateClocks

-- On the clock, from the first hour on and before the last one
def clockwise (first last hour : Int) : Bool := (hour - first) % 24 < (last - first) % 24

section
variable (runtime : Runtime) (config : Json)

def gateCheck (counts : DailyCounts) (call : GateCall) : Outcome PyError DailyCounts Empty (Bool × String) :=
  check runtime call.customerId config call.clocks counts

def gateStep (counts : DailyCounts) (call : GateCall) : DailyCounts := (gateCheck runtime config counts call).state

def gateAnswers : DailyCounts → List GateCall → List (GateCall × Except PyError (Bool × String)) :=
  answers (gateStep runtime config) fun counts call => (gateCheck runtime config counts call).value

end

def isAllowed : Except PyError (Bool × String) → Bool
  | .ok (allowed,_) => allowed
  | .error _ => false

def onDay (customerId : String) (day : Int) (call : GateCall) : Bool :=
  call.customerId = customerId ∧ dayOf call.clocks.today = day

-- How many of a customer's notifications are allowed on a day
def allowedOn (customerId : String) (day : Int) (answers : List (GateCall × Except PyError (Bool × String))) : Nat :=
  answers.countP fun answer => isAllowed answer.2 && onDay customerId day answer.1

-- The calls that count: those on a day, at an hour that is not quiet
def counting (first last : Int) (customerId : String) (day : Int) (calls : List GateCall) : Nat :=
  calls.countP fun call => !clockwise first last (hourOf call.clocks.hour) && onDay customerId day call

def quietText (runtime : Runtime) (first last : Int) : String :=
  "Quiet hours (" ++ runtime.str (.int first) ++ ":00-" ++ runtime.str (.int last) ++ ":00 UTC)"

def dailyText (runtime : Runtime) (most : Int) : String := "Daily limit exceeded (" ++ runtime.str (.int most) ++ "/day)"

section
variable {runtime : Runtime} {config : Json} {most first last : Int} {call : GateCall} {calls : List GateCall}

theorem hourOf_clock (instant : Int) : 0 ≤ hourOf instant ∧ hourOf instant < 24 := by
  unfold hourOf
  omega

theorem inQuietHours_clockwise (starts : 0 ≤ first ∧ first < 24) (stops : 0 ≤ last ∧ last < 24) (instant : Int) :
    inQuietHours (.int first) (.int last) (hourOf instant) = .ok (clockwise first last (hourOf instant)) := by
  have clock := hourOf_clock instant
  generalize hourOf instant = hour at clock
  have asked : inQuietHours (.int first) (.int last) hour = .ok (if last < first then
      decide (first ≤ hour) || decide (hour < last) else decide (first ≤ hour) && decide (hour < last)) := by
    simp [inQuietHours,number?,isNull]
  rw [asked]
  refine congrArg Except.ok (Bool.eq_iff_iff.mpr ?_)
  unfold clockwise
  split
  · next wraps =>
    rw [Bool.or_eq_true]
    simp only [decide_eq_true_eq]
    omega
  · next within =>
    rw [Bool.and_eq_true]
    simp only [decide_eq_true_eq]
    omega

theorem counting_append (customerId : String) (day : Int) (earlier later : List GateCall) :
    counting first last customerId day (earlier ++ later) =
      counting first last customerId day earlier + counting first last customerId day later := List.countP_append

theorem counting_cons (customerId : String) (day : Int) (call : GateCall) (calls : List GateCall) :
    counting first last customerId day (call :: calls) = counting first last customerId day calls +
      if clockwise first last (hourOf call.clocks.hour) = false ∧ onDay customerId day call = true then 1 else 0 := by
  unfold counting
  rw [List.countP_cons]
  simp

theorem counting_last (customerId : String) (day : Int) (calls : List GateCall) (call : GateCall) :
    counting first last customerId day (calls ++ [call]) = counting first last customerId day calls +
      if clockwise first last (hourOf call.clocks.hour) = false ∧ onDay customerId day call = true then 1 else 0 := by
  rw [counting_append,counting_cons]
  exact congrArg _ (Nat.zero_add _)

theorem counting_early (early : ∀ call ∈ calls, dayOf call.clocks.today < day) (customerId : String) :
    counting first last customerId day calls = 0 := by
  refine List.countP_eq_zero.mpr fun call among => ?_
  have before := early call among
  simp [onDay]
  omega

theorem counting_own (customerId : String) (day : Int) (calls : List GateCall) :
    counting first last customerId day (calls.filter (·.customerId = customerId)) =
      counting first last customerId day calls := by
  unfold counting
  rw [List.countP_filter]
  refine List.countP_congr fun call _ => ?_
  simp [onDay]
  tauto

theorem allowedOn_last (customerId : String) (day : Int) (answers : List (GateCall × Except PyError (Bool × String)))
    (call : GateCall) (answer : Except PyError (Bool × String)) :
    allowedOn customerId day (answers ++ [(call,answer)]) = allowedOn customerId day answers +
      if isAllowed answer = true ∧ onDay customerId day call = true then 1 else 0 := by
  unfold allowedOn
  rw [List.countP_append,List.countP_singleton]
  simp

section
variable (configured : limitsOf config = .ok ⟨.int most,.int first,.int last⟩)
variable (starts : 0 ≤ first ∧ first < 24) (stops : 0 ≤ last ∧ last < 24)
include configured starts stops

-- What a call answers, by its hour and by the count that is stored
theorem gateCheck_quiet (counts : DailyCounts) (quiet : clockwise first last (hourOf call.clocks.hour) = true) :
    gateCheck runtime config counts call = ⟨.ok (false,quietText runtime first last),counts,[]⟩ := by
  unfold gateCheck check
  rw [configured,lift_bind_ok,inQuietHours_clockwise starts stops,lift_bind_ok,if_pos quiet]
  rfl

theorem gateCheck_awake (counts : DailyCounts) (awake : clockwise first last (hourOf call.clocks.hour) = false) :
    gateCheck runtime config counts call =
      if storedCount counts call.customerId (dayOf call.clocks.today) < most.toNat then
        ⟨.ok (true,"OK"),granted counts call.customerId (dayOf call.clocks.today),[]⟩
      else ⟨.ok (false,dailyText runtime most),cleaned counts call.customerId (dayOf call.clocks.today),[]⟩ := by
  refine check_awake configured rfl ?_ call.customerId
  rw [inQuietHours_clockwise starts stops,awake]

theorem stored_quiet (counts : DailyCounts) (quiet : clockwise first last (hourOf call.clocks.hour) = true) :
    gateStep runtime config counts call = counts := by
  unfold gateStep
  rw [gateCheck_quiet configured starts stops counts quiet]

theorem stored_awake (counts : DailyCounts) (awake : clockwise first last (hourOf call.clocks.hour) = false)
    (customerId : String) (day : Int) : storedCount (gateStep runtime config counts call) customerId day =
      (if customerId = call.customerId ∧ day ≠ dayOf call.clocks.today then 0 else storedCount counts customerId day) +
        if (customerId = call.customerId ∧ day = dayOf call.clocks.today) ∧ storedCount counts customerId day < most.toNat
          then 1 else 0 := by
  unfold gateStep
  rw [gateCheck_awake configured starts stops counts awake]
  by_cases on : customerId = call.customerId ∧ day = dayOf call.clocks.today
  · obtain ⟨rfl,rfl⟩ := on
    split
    · next room =>
      rw [granted_count,cleaned_count]
      simp [room]
    · next full =>
      rw [cleaned_count]
      simp [full]
  · split
    · rw [granted_count,cleaned_count]
      simp [on]
    · rw [cleaned_count]
      simp [on]

-- A customer's stored count for today or a later day
theorem stored_counting (ordered : calls.Pairwise fun a b => a.clocks.today ≤ b.clocks.today) (customerId : String)
    (day : Int) (reached : ∀ call ∈ calls, dayOf call.clocks.today ≤ day) :
    storedCount (after (gateStep runtime config) .empty calls) customerId day =
      min most.toNat (counting first last customerId day calls) := by
  induction calls using List.reverseRecOn with
  | nil => exact (Nat.min_zero _).symm
  | append_singleton calls call ih =>
    have before := ih (List.pairwise_append.mp ordered).1 fun earlier among => reached earlier (List.mem_append_left _ among)
    have today := reached call (by simp)
    rw [after_last,counting_last]
    cases hour : clockwise first last (hourOf call.clocks.hour) with
    | true =>
      rw [stored_quiet configured starts stops _ hour]
      simpa using before
    | false =>
      rw [stored_awake configured starts stops _ hour,before]
      by_cases own : customerId = call.customerId
      · subst own
        by_cases same : day = dayOf call.clocks.today
        · subst same
          simp [onDay]
          split <;> omega
        · have none_ : counting first last call.customerId day calls = 0 := by
            refine counting_early (fun earlier among => ?_) call.customerId
            have order := (List.pairwise_append.mp ordered).2.2 earlier among call (by simp)
            have days : dayOf earlier.clocks.today ≤ dayOf call.clocks.today := Int.ediv_le_ediv (by decide) order
            omega
          simp [same,Ne.symm same,onDay,none_]
      · simp [own,Ne.symm own,onDay]

-- The exact answer of each call of a run
theorem gate_answer (ordered : (calls ++ [call]).Pairwise fun a b => a.clocks.today ≤ b.clocks.today) :
    (gateCheck runtime config (after (gateStep runtime config) .empty calls) call).value =
      .ok (if clockwise first last (hourOf call.clocks.hour) then (false,quietText runtime first last)
        else if counting first last call.customerId (dayOf call.clocks.today) calls < most.toNat then (true,"OK")
        else (false,dailyText runtime most)) := by
  obtain ⟨earlier,_,reached⟩ := List.pairwise_append.mp ordered
  have stored : storedCount (after (gateStep runtime config) .empty calls) call.customerId (dayOf call.clocks.today) =
      min most.toNat (counting first last call.customerId (dayOf call.clocks.today) calls) := by
    refine stored_counting configured starts stops earlier _ _ fun other among => ?_
    exact Int.ediv_le_ediv (by decide) (reached other among call (by simp))
  cases hour : clockwise first last (hourOf call.clocks.hour) with
  | true =>
    rw [gateCheck_quiet configured starts stops _ hour]
    rfl
  | false =>
    rw [gateCheck_awake configured starts stops _ hour,stored]
    by_cases room : counting first last call.customerId (dayOf call.clocks.today) calls < most.toNat
    · rw [if_pos (by omega),if_neg Bool.false_ne_true,if_pos room]
    · rw [if_neg (by omega),if_neg Bool.false_ne_true,if_neg room]

theorem allowed_counting (ordered : calls.Pairwise fun a b => a.clocks.today ≤ b.clocks.today) (customerId : String)
    (day : Int) :
    allowedOn customerId day (gateAnswers runtime config .empty calls) =
      min most.toNat (counting first last customerId day calls) := by
  induction calls using List.reverseRecOn with
  | nil => exact (Nat.min_zero _).symm
  | append_singleton calls call ih =>
    have before := ih (List.pairwise_append.mp ordered).1
    unfold gateAnswers at before ⊢
    rw [answers_last,allowedOn_last,gate_answer configured starts stops ordered,counting_last,before]
    by_cases on : onDay customerId day call = true
    · obtain ⟨rfl,rfl⟩ := of_decide_eq_true on
      cases hour : clockwise first last (hourOf call.clocks.hour) with
      | true => simp [isAllowed]
      | false =>
        by_cases room : counting first last call.customerId (dayOf call.clocks.today) calls < most.toNat
        · simp only [room,on,isAllowed,Bool.false_eq_true,if_true,if_false,and_self]
          omega
        · simp only [room,on,isAllowed,Bool.false_eq_true,if_true,if_false,and_self,false_and]
          omega
    · simp [on]

-- A call that is refused leaves every later answer as it would have been without it.
theorem answers_refused {earlier later : List GateCall}
    (ordered : (earlier ++ call :: later).Pairwise fun a b => a.clocks.today ≤ b.clocks.today)
    (refused : isAllowed (gateCheck runtime config (after (gateStep runtime config) .empty earlier) call).value = false) :
    gateAnswers runtime config (after (gateStep runtime config) .empty (earlier ++ [call])) later =
      gateAnswers runtime config (after (gateStep runtime config) .empty earlier) later := by
  rw [gate_answer configured starts stops (pairwise_upto ordered)] at refused
  have full : clockwise first last (hourOf call.clocks.hour) = false →
      most.toNat ≤ counting first last call.customerId (dayOf call.clocks.today) earlier := by
    intro awake
    by_contra room
    simp [isAllowed,awake,Nat.lt_of_not_le room] at refused
  refine answers_without earlier later ?_
  rintro between next rest rfl
  obtain ⟨upto,without⟩ := pairwise_without ordered
  rw [gate_answer configured starts stops upto,gate_answer configured starts stops without,counting_append,
    counting_append,counting_cons]
  by_cases counts : clockwise first last (hourOf call.clocks.hour) = false ∧
      onDay next.customerId (dayOf next.clocks.today) call = true
  · obtain ⟨awake,on⟩ := counts
    obtain ⟨customer,today⟩ := of_decide_eq_true on
    have already := full awake
    rw [customer,today] at already
    have beyond (more : Nat) : ¬ counting first last next.customerId (dayOf next.clocks.today) earlier + more < most.toNat := by
      omega
    rw [if_neg (beyond _),if_neg (beyond _)]
  · rw [if_neg counts,Nat.add_zero]

end

end

theorem gate_exact (runtime : Runtime) (config : Json) (most first last : Int)
    (configured : limitsOf config = .ok ⟨.int most,.int first,.int last⟩)
    (starts : 0 ≤ first ∧ first < 24) (stops : 0 ≤ last ∧ last < 24) (calls : List GateCall)
    (ordered : calls.Pairwise fun a b => a.clocks.today ≤ b.clocks.today) :
    (∀ earlier call later, calls = earlier ++ call :: later →
      (gateCheck runtime config (after (gateStep runtime config) .empty earlier) call).value =
        .ok (if clockwise first last (hourOf call.clocks.hour) then (false,quietText runtime first last)
          else if most ≤ allowedOn call.customerId (dayOf call.clocks.today) (gateAnswers runtime config .empty earlier) then
            (false,dailyText runtime most)
          else (true,"OK")) ∧
      (isAllowed (gateCheck runtime config (after (gateStep runtime config) .empty earlier) call).value = false →
        gateAnswers runtime config (after (gateStep runtime config) .empty (earlier ++ [call])) later =
          gateAnswers runtime config (after (gateStep runtime config) .empty earlier) later)) ∧
    (∀ customerId day, allowedOn customerId day (gateAnswers runtime config .empty calls) ≤ most.toNat) ∧
    ∀ customerId, (gateAnswers runtime config .empty calls).filter (fun answer => answer.1.customerId = customerId) =
      gateAnswers runtime config .empty (calls.filter fun call => call.customerId = customerId) := by
  refine ⟨?_,fun customerId day => ?_,fun customerId => answers_own (fun call : GateCall => call.customerId = customerId) ?_⟩
  · rintro earlier call later rfl
    refine ⟨?_,answers_refused configured starts stops ordered⟩
    have upto := pairwise_upto ordered
    rw [gate_answer configured starts stops upto,
      allowed_counting configured starts stops (List.pairwise_append.mp upto).1]
    split
    · rfl
    · by_cases room : counting first last call.customerId (dayOf call.clocks.today) earlier < most.toNat
      · rw [if_pos room,if_neg (by omega)]
      · rw [if_neg room,if_pos (by omega)]
  · rw [allowed_counting configured starts stops ordered]
    exact Nat.min_le_left _ _
  · rintro earlier call later rfl own
    have named : call.customerId = customerId := of_decide_eq_true own
    have upto := pairwise_upto ordered
    have alone : (earlier.filter (fun other => other.customerId = customerId) ++ [call]).Pairwise
        fun a b => a.clocks.today ≤ b.clocks.today := upto.sublist (List.Sublist.append_right List.filter_sublist _)
    rw [gate_answer configured starts stops upto,gate_answer configured starts stops alone,named,counting_own]

-- Two a day, and quiet from 22 to 7: what is refused at 6 leaves room for the call at 21.
def nightly : Json := .obj [("quiet_hours_start",.int 22),("quiet_hours_end",.int 7),("max_daily_per_customer",.int 2)]

def atHour (customerId : String) (hour : Int) : GateCall := ⟨customerId,⟨hour * 3600000000,hour * 3600000000⟩⟩

def evening : List GateCall := [atHour "ann" 6,atHour "ann" 9,atHour "ben" 10,atHour "ann" 21,atHour "ann" 23]

theorem evening_call_allowed :
    (gateCheck shopRuntime nightly (after (gateStep shopRuntime nightly) .empty
      [atHour "ann" 6,atHour "ann" 9,atHour "ben" 10]) (atHour "ann" 21)).value = .ok (true,"OK") :=
  ((gate_exact shopRuntime nightly 2 22 7 rfl (by decide) (by decide) evening (by decide)).1
    [atHour "ann" 6,atHour "ann" 9,atHour "ben" 10] (atHour "ann" 21) [atHour "ann" 23] rfl).1

end Sophia.Webhooks
