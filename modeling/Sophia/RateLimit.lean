import Sophia.ApiKeys
import Sophia.Library.SlidingWindow
import Sophia.Library.StepRun

namespace Sophia.ApiKeys
open TracedRun StepRun SlidingWindow

-- A call of RateLimiter.check, and its reading of time.time(), from which taking a minute is exact
structure RateCall where
  keyId : String
  time : ℚ

def passes : Except Failure Bool → Bool
  | .ok within => within
  | .error _ => false

section
variable (limit : String → Int)

def decision (auth : Auth) (call : RateCall) : Outcome Failure Auth Empty Bool :=
  check call.keyId (limit call.keyId) call.time auth

def nextAuth (auth : Auth) (call : RateCall) : Auth := (decision limit auth call).state

def verdicts (auth : Auth) (calls : List RateCall) : List (RateCall × Except Failure Bool) :=
  answers (nextAuth limit) (fun auth call => (decision limit auth call).value) auth calls

end

def ofKey (key : String) (call : RateCall) : Bool := call.keyId = key

def timesOf (key : String) (calls : List RateCall) : List ℚ := (calls.filter (ofKey key)).map (·.time)

-- When the requests of a key were accepted
def acceptedOf (key : String) (answers : List (RateCall × Except Failure Bool)) : List ℚ :=
  timesOf key ((answers.filter fun answer => passes answer.2).map (·.1))

def window (auth : Auth) (key : String) : List ℚ := (auth.windows.get key).getD []

-- From now on the stored window tells as much as the list of all accepted times.
def Tracks (auth : Auth) (key : String) (now : ℚ) (kept : List ℚ) : Prop :=
  ∀ time, now ≤ time → recent time (window auth key) = within 60 time kept

section
variable {limit : String → Int} {auth : Auth} {call : RateCall} {calls : List RateCall} {key : String}
variable {kept : List ℚ} {now : ℚ}

theorem decision_value (limit : String → Int) (auth : Auth) (call : RateCall) : (decision limit auth call).value =
    .ok (!decide (limit call.keyId ≤ (recent call.time (window auth call.keyId)).length)) := by
  unfold decision check window
  rw [read_bind]
  split
  · next full => simp [change_bind,full]
  · next room => simp [change_bind,room]

theorem window_step (limit : String → Int) (auth : Auth) (call : RateCall) (key : String) :
    window (nextAuth limit auth call) key = if key = call.keyId then
      if limit call.keyId ≤ (recent call.time (window auth call.keyId)).length then
        recent call.time (window auth call.keyId)
      else recent call.time (window auth call.keyId) ++ [call.time]
    else window auth key := by
  unfold nextAuth decision check window
  rw [read_bind]
  split
  · next full =>
    simp only [change_bind,pure_state,PyDict.get_set]
    split <;> simp
  · next room =>
    simp only [change_bind,pure_state,PyDict.get_set]
    split <;> simp

theorem Tracks.onward (tracks : Tracks auth key now kept) (order : now ≤ call.time) : Tracks auth key call.time kept :=
  fun time after => tracks time (le_trans order after)

theorem Tracks.other (tracks : Tracks auth key now kept) (order : now ≤ call.time) (apart : key ≠ call.keyId) :
    Tracks (nextAuth limit auth call) key call.time kept := by
  intro time after
  rw [window_step,if_neg apart]
  exact tracks.onward order time after

theorem Tracks.own (tracks : Tracks auth call.keyId now kept) (order : now ≤ call.time) :
    Tracks (nextAuth limit auth call) call.keyId call.time (letThrough 60 (limit call.keyId) kept call.time) := by
  intro time after
  have trimmed : recent time (recent call.time (window auth call.keyId)) = within 60 time kept := by
    rw [tracks call.time order]
    exact within_within after kept
  rw [window_step,if_pos rfl]
  unfold letThrough
  rw [← tracks call.time order]
  split
  · exact trimmed
  · have last : recent time [call.time] = within 60 time [call.time] := rfl
    unfold recent within at trimmed last ⊢
    rw [List.filter_append,List.filter_append,trimmed,last]

theorem timesOf_append (key : String) (earlier later : List RateCall) :
    timesOf key (earlier ++ later) = timesOf key earlier ++ timesOf key later := by
  unfold timesOf
  rw [List.filter_append,List.map_append]

theorem timesOf_cons (key : String) (call : RateCall) (calls : List RateCall) :
    timesOf key (call :: calls) = if call.keyId = key then call.time :: timesOf key calls else timesOf key calls := by
  unfold timesOf ofKey
  by_cases own : call.keyId = key <;> simp [own]

theorem timesOf_last (key : String) (calls : List RateCall) (call : RateCall) :
    timesOf key (calls ++ [call]) = if call.keyId = key then timesOf key calls ++ [call.time] else timesOf key calls := by
  rw [timesOf_append,timesOf_cons]
  split
  · rfl
  · exact List.append_nil _

theorem timesOf_ofKey (key : String) (calls : List RateCall) : timesOf key (calls.filter (ofKey key)) = timesOf key calls := by
  simp [timesOf]

-- What the limiter has stored after a run stands for the admitted requests of the key.
theorem run_tracks (fresh : auth.windows = .empty) (ordered : (calls ++ [call]).Pairwise fun a b => a.time ≤ b.time)
    (key : String) : Tracks (after (nextAuth limit) auth calls) key call.time
      (admitted 60 (limit key) (timesOf key calls)) := by
  induction calls using List.reverseRecOn generalizing call with
  | nil =>
    intro time _
    rw [after_nil]
    unfold window
    rw [fresh]
    rfl
  | append_singleton calls last ih =>
    obtain ⟨earlier,_,reached⟩ := List.pairwise_append.mp ordered
    have order : last.time ≤ call.time := reached last (by simp) call (by simp)
    have before := ih earlier
    rw [after_last,timesOf_last]
    by_cases own : last.keyId = key
    · subst own
      rw [if_pos rfl,admitted_last]
      exact (before.own le_rfl).onward order
    · rw [if_neg own]
      exact (before.other le_rfl (Ne.symm own)).onward order

theorem decision_exact (fresh : auth.windows = .empty) (ordered : (calls ++ [call]).Pairwise fun a b => a.time ≤ b.time) :
    (decision limit (after (nextAuth limit) auth calls) call).value = .ok (!decide (limit call.keyId ≤
      (within 60 call.time (admitted 60 (limit call.keyId) (timesOf call.keyId calls))).length)) := by
  rw [decision_value,run_tracks fresh ordered call.keyId call.time le_rfl]

theorem accepted_last (key : String) (answers : List (RateCall × Except Failure Bool)) (call : RateCall) (full : Prop)
    [Decidable full] : acceptedOf key (answers ++ [(call,.ok (!decide full))]) =
      if call.keyId = key ∧ ¬ full then acceptedOf key answers ++ [call.time] else acceptedOf key answers := by
  unfold acceptedOf
  rw [List.filter_append,List.map_append]
  by_cases stop : full
  · simp [passes,stop]
  · have last : (([(call,.ok (!decide full))] : List (RateCall × Except Failure Bool)).filter
        fun answer => passes answer.2).map (·.1) = [call] := by simp [passes,stop]
    rw [last,timesOf_last]
    simp [stop]

theorem accepted_admitted (fresh : auth.windows = .empty) (ordered : calls.Pairwise fun a b => a.time ≤ b.time)
    (key : String) : acceptedOf key (verdicts limit auth calls) = admitted 60 (limit key) (timesOf key calls) := by
  induction calls using List.reverseRecOn with
  | nil => rfl
  | append_singleton calls call ih =>
    have before := ih (List.pairwise_append.mp ordered).1
    unfold verdicts at before ⊢
    rw [answers_last,decision_exact fresh ordered,accepted_last,timesOf_last,before]
    by_cases own : call.keyId = key
    · subst own
      rw [if_pos rfl,admitted_last]
      unfold letThrough
      by_cases full : limit call.keyId ≤
          (within 60 call.time (admitted 60 (limit call.keyId) (timesOf call.keyId calls))).length
      · rw [if_neg (fun room => room.2 full),if_pos full]
      · rw [if_pos ⟨rfl,full⟩,if_neg full]
    · rw [if_neg fun same => own same.1,if_neg own]

theorem timesOf_ordered (ordered : calls.Pairwise fun a b => a.time ≤ b.time) (key : String) :
    (timesOf key calls).Pairwise (· ≤ ·) := List.pairwise_map.mpr (ordered.filter _)

-- The answers on one key are those of the run of its own calls.
theorem verdicts_own (fresh : auth.windows = .empty) (ordered : calls.Pairwise fun a b => a.time ≤ b.time) (key : String) :
    (verdicts limit auth calls).filter (fun answer => ofKey key answer.1) =
      verdicts limit auth (calls.filter (ofKey key)) := by
  refine answers_own (ofKey key) ?_
  rintro earlier call later rfl own
  have upto := pairwise_upto ordered
  have alone : (earlier.filter (ofKey key) ++ [call]).Pairwise fun a b => a.time ≤ b.time :=
    upto.sublist (List.Sublist.append_right List.filter_sublist _)
  have named : call.keyId = key := of_decide_eq_true own
  rw [decision_exact fresh upto,decision_exact fresh alone,named,timesOf_ofKey]

-- A rejected call leaves every later answer as it would have been without it.
theorem verdicts_rejected (fresh : auth.windows = .empty) {earlier later : List RateCall}
    (ordered : (earlier ++ call :: later).Pairwise fun a b => a.time ≤ b.time)
    (rejected : (decision limit (after (nextAuth limit) auth earlier) call).value = .ok false) :
    verdicts limit (after (nextAuth limit) auth (earlier ++ [call])) later =
      verdicts limit (after (nextAuth limit) auth earlier) later := by
  have full : limit call.keyId ≤
      (within 60 call.time (admitted 60 (limit call.keyId) (timesOf call.keyId earlier))).length := by
    rw [decision_exact fresh (pairwise_upto ordered)] at rejected
    simpa using rejected
  refine answers_without earlier later ?_
  rintro between next rest rfl
  obtain ⟨upto,without⟩ := pairwise_without ordered
  have same : admitted 60 (limit next.keyId) (timesOf next.keyId (earlier ++ call :: between)) =
      admitted 60 (limit next.keyId) (timesOf next.keyId (earlier ++ between)) := by
    rw [timesOf_append,timesOf_append,timesOf_cons]
    by_cases own : call.keyId = next.keyId
    · rw [if_pos own,← own]
      exact admitted_rejected full _
    · rw [if_neg own]
  rw [decision_exact fresh upto,decision_exact fresh without,same]

end

-- For each key and each window of a minute, each call and what became of the others
theorem rate_limit_exact (limit : String → Int) (auth : Auth) (fresh : auth.windows = .empty) (calls : List RateCall)
    (ordered : calls.Pairwise fun a b => a.time ≤ b.time) :
    (∀ key start, (inside 60 start (acceptedOf key (verdicts limit auth calls))).length ≤ (limit key).toNat) ∧
    (∀ earlier call later, calls = earlier ++ call :: later →
      (1 ≤ limit call.keyId → ((decision limit (after (nextAuth limit) auth earlier) call).value = .ok false ↔
        ((inside 60 (call.time - 60) (acceptedOf call.keyId (verdicts limit auth earlier))).length : Int) =
          limit call.keyId)) ∧
      (limit call.keyId ≤ 0 → (decision limit (after (nextAuth limit) auth earlier) call).value = .ok false) ∧
      ((decision limit (after (nextAuth limit) auth earlier) call).value = .ok false →
        verdicts limit (after (nextAuth limit) auth (earlier ++ [call])) later =
          verdicts limit (after (nextAuth limit) auth earlier) later)) ∧
    ∀ key, (verdicts limit auth calls).filter (fun answer => ofKey key answer.1) =
      verdicts limit auth (calls.filter (ofKey key)) := by
  refine ⟨fun key start => ?_,?_,verdicts_own fresh ordered⟩
  · rw [accepted_admitted fresh ordered]
    exact window_bound 60 (limit key) (timesOf_ordered ordered key) start
  · rintro earlier call later rfl
    have upto := pairwise_upto ordered
    refine ⟨fun positive => ?_,fun none_ => ?_,verdicts_rejected fresh ordered⟩
    · have times := timesOf_ordered upto call.keyId
      rw [timesOf_last,if_pos rfl] at times
      rw [accepted_admitted fresh (List.pairwise_append.mp upto).1,decision_exact fresh upto,← rejected_full times positive]
      simp
    · rw [decision_exact fresh upto]
      simp only [Except.ok.injEq,Bool.not_eq_false',decide_eq_true_eq]
      omega

-- With two a minute, the call exactly a minute after the first is let through, and the next one is not.
def knocks : List RateCall := [⟨"k1",0⟩,⟨"k1",30⟩,⟨"k2",45⟩,⟨"k1",60⟩]

def twoAMinute : String → Int := fun _ => 2

theorem last_knock_rejected :
    (decision twoAMinute (after (nextAuth twoAMinute) ⟨.empty,.empty⟩ knocks) ⟨"k1",80⟩).value = .ok false :=
  (((rate_limit_exact twoAMinute ⟨.empty,.empty⟩ rfl (knocks ++ [⟨"k1",80⟩]) (by decide +kernel)).2.1
    knocks ⟨"k1",80⟩ [] rfl).1 (by decide)).mpr (by decide +kernel)

end Sophia.ApiKeys
