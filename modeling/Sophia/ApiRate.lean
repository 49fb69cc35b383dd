import Sophia.ApiLockout
import Sophia.RateLimit

namespace Sophia.Api
open TracedRun StepRun SlidingWindow ApiKeys AgentLoop

def reachesLimiter (occasion : Occasion) (record : APIKeyRecord) : Bool :=
  record.isActive && match hasExpired occasion.now record.expiresAt with
    | .ok expired => !expired
    | .error _ => false

-- The record that require_auth hands to the limiter, and when
def limited (s : Server) : Input → Option (APIKeyRecord × ℚ)
  | .check n occasion => (s.looking[n]?.bind (·.record)).bind fun record =>
    if reachesLimiter occasion record then some (record,occasion.time) else none
  | _ => none

def limiterCall (s : Server) (input : Input) : Option RateCall := (limited s input).map fun call => ⟨call.1.keyId,call.2⟩

-- The limiter lets it through.
def passed (s : Server) (input : Input) : Option RateCall := (limited s input).bind fun call =>
  if ApiKeys.passes ((check call.1.keyId call.1.rateLimitRpm call.2 : AuthRun Empty Bool) s.auth).value
    then some ⟨call.1.keyId,call.2⟩ else none

def underKey (keyId : String) : Admitted → Bool
  | .keyed key _ => key.keyId = keyId
  | .unkeyed _ => false

-- A request that is handled under the key
def handledUnder (keyId : String) (s : Server) (input : Input) : Bool := (handling s input).any (underKey keyId)

def Input.checkedAt : Input → Option ℚ
  | .check _ occasion => some occasion.time
  | _ => none

section
variable (app : Deployment)

def limiterCalls (s : Server) (inputs : List Input) : List RateCall :=
  (answers (step app) limiterCall s inputs).filterMap Prod.snd

def passedCalls (s : Server) (inputs : List Input) : List RateCall := (answers (step app) passed s inputs).filterMap Prod.snd

-- When requests under a key came past require_auth
def passedTimes (keyId : String) (s : Server) (inputs : List Input) : List ℚ := timesOf keyId (passedCalls app s inputs)

def handledCount (keyId : String) (s : Server) (inputs : List Input) : Nat :=
  (answers (step app) (handledUnder keyId) s inputs).countP Prod.snd

end

-- The limit of a key is in the table, and stays.
def Listed (keys : ApiKeys.KeyTable) (record : APIKeyRecord) : Prop :=
  ∃ row ∈ keys.rows, row.keyId = record.keyId ∧ row.rateLimitRpm = record.rateLimitRpm

def Waits (s : Server) : Prop := ∀ asked ∈ s.looking, ∀ record ∈ asked.record, Listed s.auth.keys record

section
variable {app : Deployment} {s : Server} {input : Input} {inputs : List Input} {record : APIKeyRecord}

theorem Listed.step (listed : Listed s.auth.keys record) : Listed (Api.step app s input).auth.keys record := by
  obtain ⟨row,member,id,rpm⟩ := listed
  obtain ⟨new,moves,_⟩ := step_keys app s input
  generalize (Api.step app s input).auth.keys = keys at moves
  cases moves with
  | same => exact ⟨row,member,id,rpm⟩
  | bootstrapped none _ => rw [none] at member; cases member
  | created _ rows => exact ⟨row,rows ▸ List.mem_append_left _ member,id,rpm⟩
  | @revoked n key keyId target scene _ _ _ _ =>
    refine ⟨ApiKeys.KeyTable.revoked keyId row,List.mem_map_of_mem member,ApiKeys.KeyTable.revoked_keyId.trans id,?_⟩
    unfold ApiKeys.KeyTable.revoked
    split <;> exact rpm

theorem Listed.run (listed : Listed s.auth.keys record) (inputs : List Input) :
    Listed (after (Api.step app) s inputs).auth.keys record := by
  induction inputs generalizing s with
  | nil => exact listed
  | cons input rest ih => exact ih (listed.step)

theorem Waits.step (waits : Waits s) : Waits (Api.step app s input) := by
  intro asked present record found
  suffices Listed s.auth.keys record from this.step
  generalize reached : Api.step app s input = t at present
  cases reached ▸ step_moves app s input with
  | starts _ => cases present
  | bootstraps _ _ => cases present
  | @looks authorization request read lookup =>
    rcases List.mem_append.mp present with earlier | last
    · exact waits asked earlier record found
    · cases List.mem_singleton.mp last
      cases found
      exact ⟨record,lookUp_member lookup,rfl,rfl⟩
  | refuses _ _ => exact waits asked (List.mem_of_mem_eraseIdx present) record found
  | grants _ _ => exact waits asked (List.mem_of_mem_eraseIdx present) record found
  | serves _ _ =>
    rw [(serveAgent_parts ..).2.2.1] at present
    exact waits asked present record found
  | administers _ =>
    rw [(administer_parts ..).2.2.1] at present
    exact waits asked present record found
  | stays _ _ => exact waits asked present record found
  | opens _ => exact waits asked present record found
  | visits => exact waits asked present record found
  | connects => exact waits asked present record found
  | tells _ _ _ => exact waits asked present record found

theorem limited_parts (call : limited s input = some (record,time)) : ∃ n occasion asked, input = .check n occasion ∧
    s.looking[n]? = some asked ∧ asked.record = some record ∧ reachesLimiter occasion record = true ∧ occasion.time = time := by
  cases input with
  | check n occasion =>
    obtain ⟨found,there,reaches⟩ := Option.bind_eq_some_iff.mp call
    obtain ⟨asked,listed,recorded⟩ := Option.bind_eq_some_iff.mp there
    split at reaches
    · next inside =>
      cases reaches
      exact ⟨n,occasion,asked,rfl,listed,recorded,inside,rfl⟩
    · cases reaches
  | start _ _ => cases call
  | arrive _ _ => cases call
  | handle _ _ => cases call
  | visit _ => cases call
  | connect _ => cases call
  | say _ _ _ _ => cases call
  | hangUp => cases call

theorem limited_listed (waits : Waits s) (call : limited s input = some (record,time)) : Listed s.auth.keys record := by
  obtain ⟨n,occasion,asked,rfl,there,recorded,_⟩ := limited_parts call
  exact waits asked (List.mem_of_getElem? there) record recorded

theorem requireKey_limiter (occasion : Occasion) (record : APIKeyRecord) (auth : Auth) :
    (reachesLimiter occasion record = true ∧ ((requireKey occasion record : AuthRun Empty APIKeyRecord) auth).state =
      ((check record.keyId record.rateLimitRpm occasion.time : AuthRun Empty Bool) auth).state) ∨
    (reachesLimiter occasion record = false ∧ ((requireKey occasion record : AuthRun Empty APIKeyRecord) auth).state = auth) := by
  unfold requireKey reachesLimiter
  cases active : record.isActive with
  | false => exact .inr ⟨rfl,rfl⟩
  | true =>
    have still : ¬ (!true) = true := nofun
    rw [if_neg still]
    cases expiry : hasExpired occasion.now record.expiresAt with
    | error e => exact .inr ⟨rfl,rfl⟩
    | ok expired =>
      rw [lift_bind_ok]
      cases expired with
      | true => exact .inr ⟨rfl,rfl⟩
      | false =>
        refine .inl ⟨rfl,?_⟩
        have fresh : ¬ false = true := nofun
        rw [if_neg fresh]
        rcases bind_leaves (check record.keyId record.rateLimitRpm occasion.time) (fun within =>
          if within then pure record else refuse 429 "Rate limit exceeded") auth with ⟨within,_,state⟩ | state
        · rw [state]
          split <;> rfl
        · exact state

-- What settling a request does to the limiter
theorem settle_limiter (occasion : Occasion) (scope : String) (record : Option APIKeyRecord) (auth : Auth) :
    ((settle occasion scope record : AuthRun Empty APIKeyRecord) auth).state =
      match record.bind fun found => if reachesLimiter occasion found then some found else none with
      | some found => ((check found.keyId found.rateLimitRpm occasion.time : AuthRun Empty Bool) auth).state
      | none => auth := by
  have counted : ((settle occasion scope record : AuthRun Empty APIKeyRecord) auth).state =
      ((checkRecord occasion record : AuthRun Empty APIKeyRecord) auth).state := by
    rcases bind_leaves (checkRecord occasion record) (fun key => if key.scopes.contains scope then pure key
      else refuse 403 ("API key lacks '" ++ scope ++ "' scope")) auth with ⟨key,_,state⟩ | state
    · rw [settle,state]
      split <;> rfl
    · exact state
  rw [counted]
  cases record with
  | none => rfl
  | some found =>
    rcases requireKey_limiter occasion found auth with ⟨reaches,state⟩ | ⟨stays,state⟩
    · simpa [reaches,checkRecord] using state
    · simpa [stays,checkRecord] using state

-- The limiter does not look at the table.
theorem check_windows {a b : Auth} (same : a.windows = b.windows) (keyId : String) (limitRpm : Int) (time : ℚ) :
    ((check keyId limitRpm time : AuthRun Empty Bool) a).value = ((check keyId limitRpm time : AuthRun Empty Bool) b).value ∧
      ((check keyId limitRpm time : AuthRun Empty Bool) a).state.windows =
        ((check keyId limitRpm time : AuthRun Empty Bool) b).state.windows := by
  unfold check
  rw [read_bind,read_bind,same]
  split <;> simp [change_bind,same]

theorem adminBody_windows (hashKey : String → String) (occasion : Occasion) (key : APIKeyRecord) (request : AdminRequest) :
    Frames Auth.windows (adminBody hashKey occasion key request : AuthRun Empty AdminResponse) := by
  cases request with
  | createKey body =>
    exact Frames.bind (.read _) fun keys => .bind (.lift _) fun next => .bind (.change fun _ => rfl) fun _ => .pure _
  | listKeys => exact Frames.bind (.read _) fun _ => .pure _
  | revokeKey keyId =>
    refine Frames.bind (.read _) fun record => ?_
    cases record with
    | none => exact .lift _
    | some _ => exact .bind (.change fun _ => rfl) fun _ => .pure _

theorem administer_windows (occasion : Occasion) (key : APIKeyRecord) (request : AdminRequest) (s : Server) :
    (administer app occasion key request s).state.auth.windows = s.auth.windows := by
  have framed : Frames (fun s : Server => s.auth.windows) (administer app occasion key request) :=
    .bind (fun s => adminBody_windows app.hashKey occasion key request s.auth) fun _ =>
      .bind (.change fun _ => rfl) fun _ => .pure _
  exact framed s

theorem check_auth {n : Nat} {asked : Looking} (there : s.looking[n]? = some asked) (occasion : Occasion) :
    (step app s (.check n occasion)).auth =
      ((settle occasion asked.request.scope asked.record : AuthRun Empty APIKeyRecord) s.auth).state := by
  unfold step advance
  dsimp only
  rw [there]
  dsimp only
  split <;> rfl

theorem step_windows (life : input.isStart = false) : (step app s input).auth.windows = match limited s input with
    | some (record,time) => ((check record.keyId record.rateLimitRpm time : AuthRun Empty Bool) s.auth).state.windows
    | none => s.auth.windows := by
  have moved := step_moves app s input
  cases input with
  | check n occasion =>
    cases there : s.looking[n]? with
    | none => simp [step,advance,limited,there]
    | some asked =>
      rw [check_auth there,settle_limiter,limited,there,Option.bind_some]
      cases asked.record with
      | none => rfl
      | some found =>
        rw [Option.bind_some,Option.bind_some]
        by_cases reaches : reachesLimiter occasion found = true <;> simp [reaches]
  | start _ _ => cases life
  | arrive authorization request =>
    generalize step app s (.arrive authorization request) = t at moved
    cases moved <;> rfl
  | handle n scene =>
    generalize step app s (.handle n scene) = t at moved
    cases moved with
    | stays _ _ => rfl
    | serves _ _ => exact congrArg Auth.windows (serveAgent_parts ..).2.1
    | administers _ => exact administer_windows ..
  | visit around =>
    generalize step app s (.visit around) = t at moved
    cases moved <;> rfl
  | connect around =>
    generalize step app s (.connect around) = t at moved
    cases moved <;> rfl
  | say env cache unsendable frame =>
    generalize step app s (.say env cache unsendable frame) = t at moved
    cases moved <;> rfl
  | hangUp => rfl

-- The run of the limiter that the run of the server contains
def alone : Auth := {keys := .empty}

def Agrees (limit : String → Int) (app : Deployment) (s : Server) (inputs : List Input) : Prop :=
  Along (step app) (fun s input => ∀ call ∈ limited s input, call.1.rateLimitRpm = limit call.1.keyId) s inputs

theorem limiterCalls_last (inputs : List Input) (input : Input) : limiterCalls app s (inputs ++ [input]) =
    limiterCalls app s inputs ++ (limiterCall (after (step app) s inputs) input).toList := by
  rw [limiterCalls,answers_last,List.filterMap_append]
  cases limiterCall (after (step app) s inputs) input <;> rfl

theorem passedCalls_last (inputs : List Input) (input : Input) : passedCalls app s (inputs ++ [input]) =
    passedCalls app s inputs ++ (passed (after (step app) s inputs) input).toList := by
  rw [passedCalls,answers_last,List.filterMap_append]
  cases passed (after (step app) s inputs) input <;> rfl

theorem verdicts_last (limit : String → Int) (auth : Auth) (calls : List RateCall) (call : RateCall) :
    verdicts limit auth (calls ++ [call]) =
      verdicts limit auth calls ++ [(call,(decision limit (after (nextAuth limit) auth calls) call).value)] := answers_last

theorem Along.front {σ ι : Type} {step : σ → ι → σ} {Q : σ → ι → Prop} {s : σ} {inputs : List ι} {input : ι}
    (along : Along step Q s (inputs ++ [input])) : Along step Q s inputs ∧ Q (after step s inputs) input :=
  ⟨fun earlier other later split => along earlier other (later ++ [input]) (by simp [split]),along inputs input [] rfl⟩

theorem limiter_run {limit : String → Int} (fresh : s.auth.windows = .empty) (agrees : Agrees limit app s inputs)
    (life : ∀ input ∈ inputs, input.isStart = false) :
    (after (step app) s inputs).auth.windows = (after (nextAuth limit) alone (limiterCalls app s inputs)).windows ∧
    passedCalls app s inputs =
      ((verdicts limit alone (limiterCalls app s inputs)).filter fun answer => ApiKeys.passes answer.2).map (·.1) := by
  induction inputs using List.reverseRecOn with
  | nil => exact ⟨fresh,rfl⟩
  | append_singleton inputs input ih =>
    obtain ⟨earlier,here⟩ := Along.front agrees
    obtain ⟨windows,passing⟩ := ih earlier fun other present => life other (List.mem_append_left _ present)
    rw [after_last,limiterCalls_last,passedCalls_last,step_windows (life input (by simp)),passing]
    unfold limiterCall passed
    cases call : limited (after (step app) s inputs) input with
    | none => simpa using windows
    | some found =>
      obtain ⟨record,time⟩ := found
      have rpm : record.rateLimitRpm = limit record.keyId := here _ call
      obtain ⟨value,state⟩ := check_windows windows record.keyId record.rateLimitRpm time
      have judged : _ = (decision limit (after (nextAuth limit) alone (limiterCalls app s inputs)) ⟨record.keyId,time⟩).value :=
        value.trans (by rw [rpm]; rfl)
      have moved : _ = (nextAuth limit (after (nextAuth limit) alone (limiterCalls app s inputs)) ⟨record.keyId,time⟩).windows :=
        state.trans (by rw [rpm]; rfl)
      rw [Option.map_some,Option.toList_some,after_last,verdicts_last,List.filter_append,List.map_append]
      refine ⟨moved,congrArg _ ?_⟩
      dsimp only [Option.bind_some]
      rw [judged]
      by_cases within : ApiKeys.passes (decision limit (after (nextAuth limit) alone (limiterCalls app s inputs)) ⟨record.keyId,time⟩).value = true
      · rw [if_pos within]
        simp [within]
      · rw [if_neg within]
        simp [within]

theorem countP_eraseIdx {α : Type} {p : α → Bool} {values : List α} {n : Nat} {a : α} (there : values[n]? = some a) :
    (values.eraseIdx n).countP p + (p a).toNat = values.countP p := by
  obtain ⟨bound,rfl⟩ := List.getElem?_eq_some_iff.mp there
  rw [← (List.getElem_cons_eraseIdx_perm bound).countP_eq p,List.countP_cons]
  cases p values[n] <;> rfl

theorem passed_grants {n : Nat} {asked : Looking} {occasion : Occasion} {key : APIKeyRecord} (there : s.looking[n]? = some asked)
    (settled : ((settle occasion asked.request.scope asked.record : AuthRun Empty APIKeyRecord) s.auth).value = .ok key) :
    passed s (.check n occasion) = some ⟨key.keyId,occasion.time⟩ := by
  obtain ⟨found,active,fresh,_,within⟩ := settle_returns settled
  have reaches : reachesLimiter occasion key = true := by
    unfold reachesLimiter
    rw [active,fresh]
    rfl
  simp [passed,limited,there,found,reaches,within,ApiKeys.passes]

-- A request that is handled under a key has come past the limiter, and each that came past is handled once at most.
theorem step_count (app : Deployment) (s : Server) (life : input.isStart = false) (keyId : String) :
    (step app s input).admitted.countP (underKey keyId) + (handledUnder keyId s input).toNat ≤
      s.admitted.countP (underKey keyId) + (timesOf keyId (passed s input).toList).length := by
  have moved := step_moves app s input
  have kept (admitted : (step app s input).admitted.countP (underKey keyId) = s.admitted.countP (underKey keyId))
      (other : handling s input = none) :
      (step app s input).admitted.countP (underKey keyId) + (handledUnder keyId s input).toNat ≤
        s.admitted.countP (underKey keyId) + (timesOf keyId (passed s input).toList).length := by
    rw [admitted,handledUnder,other]
    exact Nat.le_add_right _ _
  have done {n : Nat} {a : Admitted} {scene : Scene} (there : s.admitted[n]? = some a)
      (admitted : (step app s (.handle n scene)).admitted = s.admitted.eraseIdx n) :
      (step app s (.handle n scene)).admitted.countP (underKey keyId) + (handledUnder keyId s (.handle n scene)).toNat ≤
        s.admitted.countP (underKey keyId) + (timesOf keyId (passed s (.handle n scene)).toList).length := by
    rw [admitted,handledUnder,handling,there,Option.any_some,countP_eraseIdx there]
    exact Nat.le_add_right _ _
  generalize reached : step app s input = t at moved kept
  cases moved with
  | starts _ => cases life
  | bootstraps _ _ => cases life
  | stays _ none => exact kept rfl none
  | opens _ => exact kept (by simp [underKey]) rfl
  | looks _ => exact kept rfl rfl
  | refuses _ _ => exact kept rfl rfl
  | grants there settled =>
    rw [passed_grants there settled,List.countP_append,List.countP_singleton]
    simp [underKey,handledUnder,handling,timesOf,ofKey,List.filter_singleton]
    split <;> simp_all
  | serves there asks => exact reached ▸ done there (reached.symm ▸ (serveAgent_parts ..).2.2.2.1)
  | administers there => exact reached ▸ done there (reached.symm ▸ (administer_parts ..).2.2.2.1)
  | visits => exact kept rfl rfl
  | connects => exact kept rfl rfl
  | tells _ _ _ => exact kept rfl rfl

theorem run_count (keyId : String) (idle : s.admitted = []) (life : ∀ input ∈ inputs, input.isStart = false) :
    (after (step app) s inputs).admitted.countP (underKey keyId) + handledCount app keyId s inputs ≤
      (passedTimes app keyId s inputs).length := by
  induction inputs using List.reverseRecOn with
  | nil =>
    rw [after_nil,idle]
    exact Nat.le_refl 0
  | append_singleton inputs input ih =>
    have before := ih fun other present => life other (List.mem_append_left _ present)
    have here := step_count app (after (step app) s inputs) (life input (by simp)) keyId
    have counted : handledCount app keyId s (inputs ++ [input]) =
        handledCount app keyId s inputs + (handledUnder keyId (after (step app) s inputs) input).toNat := by
      rw [handledCount,answers_last,List.countP_append,List.countP_singleton]
      cases handledUnder keyId (after (step app) s inputs) input <;> rfl
    rw [after_last,counted,passedTimes,passedCalls_last,timesOf_append,List.length_append]
    unfold passedTimes at before
    omega

theorem limiterCall_time (call : limiterCall s input = some made) : input.checkedAt = some made.time := by
  obtain ⟨⟨record,time⟩,found,rfl⟩ := Option.map_eq_some_iff.mp call
  obtain ⟨n,occasion,asked,rfl,_,_,_,rfl⟩ := limited_parts found
  rfl

theorem limiterCalls_times (app : Deployment) (s : Server) (inputs : List Input) :
    ((limiterCalls app s inputs).map (·.time)).Sublist (inputs.filterMap Input.checkedAt) := by
  induction inputs using List.reverseRecOn with
  | nil => exact List.Sublist.refl _
  | append_singleton inputs input ih =>
    rw [limiterCalls_last,List.map_append,List.filterMap_append]
    refine ih.append ?_
    cases call : limiterCall (after (step app) s inputs) input with
    | none => exact List.nil_sublist _
    | some made =>
      rw [List.filterMap_cons,limiterCall_time call]
      exact List.Sublist.refl _

def limits (keys : ApiKeys.KeyTable) (keyId : String) : Int := ((keys.rows.find? (·.keyId = keyId)).map (·.rateLimitRpm)).getD 60

theorem limits_row {keys : ApiKeys.KeyTable} {row : APIKeyRecord} (member : row ∈ keys.rows) : limits keys row.keyId = row.rateLimitRpm := by
  unfold limits
  cases found : keys.rows.find? (·.keyId = row.keyId) with
  | none => exact absurd (List.find?_eq_none.mp found row member) (by simp)
  | some other =>
    have named : other.keyId = row.keyId := by simpa using List.find?_some found
    rw [List.inj_on_of_nodup_map keys.ids (List.mem_of_find?_eq_some found) member named]
    rfl

theorem Listed.limits {keys : ApiKeys.KeyTable} (listed : Listed keys record) : Api.limits keys record.keyId = record.rateLimitRpm := by
  obtain ⟨row,member,id,rpm⟩ := listed
  rw [← id,limits_row member,rpm]

theorem run_agrees (waits : Waits s) : Agrees (limits (after (step app) s inputs).auth.keys) app s inputs := by
  rintro earlier input later rfl call found
  have waiting : Waits (after (step app) s earlier) := invariant (fun _ _ held => Waits.step held) waits
  rw [after_append]
  exact ((limited_listed waiting found).run (input :: later)).limits.symm

theorem start_fresh (app : Deployment) (s : Server) (authEnabled : Bool) (occasion : Occasion) :
    (step app s (.start authEnabled occasion)).auth.windows = .empty ∧ (step app s (.start authEnabled occasion)).looking = [] ∧
      (step app s (.start authEnabled occasion)).admitted = [] := by
  have moved := step_moves app s (.start authEnabled occasion)
  generalize step app s (.start authEnabled occasion) = t at moved
  cases moved with
  | stays same _ => cases same
  | starts _ => exact ⟨rfl,rfl,rfl⟩
  | bootstraps _ _ => exact ⟨rfl,rfl,rfl⟩

end

-- In the life of a process a key comes past the limiter as often in a minute as its row says, for all routes
-- together, no more of its requests are handled than came past, and no later input changes the limit of its row.
theorem rate_limited (app : Deployment) (history life : List Input) (authEnabled : Bool) (occasion : Occasion)
    (same : ∀ input ∈ life, input.isStart = false) (ordered : (life.filterMap Input.checkedAt).Pairwise (· ≤ ·)) :
    ∀ row ∈ (serverAfter app (history ++ .start authEnabled occasion :: life)).auth.keys.rows,
      (∀ start, (inside 60 start (passedTimes app row.keyId
        (serverAfter app (history ++ [.start authEnabled occasion])) life)).length ≤ row.rateLimitRpm.toNat) ∧
      handledCount app row.keyId (serverAfter app (history ++ [.start authEnabled occasion])) life ≤
        (passedTimes app row.keyId (serverAfter app (history ++ [.start authEnabled occasion])) life).length ∧
      ∀ later, Listed (serverAfter app (history ++ .start authEnabled occasion :: life ++ later)).auth.keys row := by
  intro row member
  have stays (later : List Input) :
      Listed (serverAfter app (history ++ .start authEnabled occasion :: life ++ later)).auth.keys row := by
    rw [serverAfter,after_append]
    exact Listed.run ⟨row,member,rfl,rfl⟩ later
  have split : serverAfter app (history ++ .start authEnabled occasion :: life) =
      after (step app) (serverAfter app (history ++ [.start authEnabled occasion])) life := by
    rw [serverAfter,serverAfter,← after_append,List.append_assoc,List.singleton_append]
  obtain ⟨windows,looking,idle⟩ := start_fresh app (serverAfter app history) authEnabled occasion
  rw [← serverAfter_last] at windows looking idle
  rw [split] at member
  generalize serverAfter app (history ++ [.start authEnabled occasion]) = s at member windows looking idle
  have waits : Waits s := fun asked present => by rw [looking] at present; cases present
  have times : (limiterCalls app s life).Pairwise fun a b => a.time ≤ b.time :=
    List.pairwise_map.mp (ordered.sublist (limiterCalls_times app s life))
  refine ⟨fun start => ?_,Nat.le_trans (Nat.le_add_left _ _) (run_count row.keyId idle same),stays⟩
  have agrees : Agrees (limits (after (step app) s life).auth.keys) app s life := run_agrees waits
  have accepted : passedTimes app row.keyId s life = admitted 60 (limits (after (step app) s life).auth.keys row.keyId)
      (timesOf row.keyId (limiterCalls app s life)) := by
    rw [passedTimes,(limiter_run windows agrees same).2]
    exact accepted_admitted rfl times row.keyId
  rw [accepted,limits_row member]
  exact window_bound 60 _ (timesOf_ordered times row.keyId) start

def shopKey : String := "Bearer sk-sophia-shop-01"

-- A key with a limit of one a minute: its second chat of the minute is refused, its third comes a minute later.
def threeChats : List Input := [
  .arrive "Bearer sk-sophia-bootstrap-00" (.admin (.createKey {tenantId := "shop",rateLimitRpm := 1})),
  .check 0 ⟨2,2,2,"01","b2"⟩,.handle 0 clerk,
  .arrive shopKey (.agent (.chat "Good morning")),.arrive shopKey (.agent (.chat "Where is my order?")),
  .check 0 ⟨10,10,10,"02","b3"⟩,.check 0 ⟨20,20,20,"03","b4"⟩,.handle 0 clerk,
  .arrive shopKey (.agent (.chat "Where is my order?")),.check 0 ⟨75,75,75,"04","b5"⟩,.handle 0 clerk]

theorem rate_limited_shop : ∃ row, row.keyId = "b2" ∧ row.rateLimitRpm = 1 ∧
    (passedTimes plainApp "b2" (serverAfter plainApp [.start true firstDay]) threeChats) = [10,75] ∧
    (∀ start, (inside 60 start (passedTimes plainApp row.keyId (serverAfter plainApp [.start true firstDay]) threeChats)).length ≤
      row.rateLimitRpm.toNat) ∧
    handledCount plainApp row.keyId (serverAfter plainApp [.start true firstDay]) threeChats ≤
      (passedTimes plainApp row.keyId (serverAfter plainApp [.start true firstDay]) threeChats).length ∧
    ∀ later, Listed (serverAfter plainApp (.start true firstDay :: threeChats ++ later)).auth.keys row := by
  have listed : ∃ row ∈ (serverAfter plainApp ([] ++ .start true firstDay :: threeChats)).auth.keys.rows,
      row.keyId = "b2" ∧ row.rateLimitRpm = 1 := by decide +kernel
  obtain ⟨row,member,id,rpm⟩ := listed
  refine ⟨row,id,rpm,by decide +kernel,rate_limited plainApp [] threeChats true firstDay ?_ ?_ row member⟩
  · intro input among
    have lives : ∀ input ∈ threeChats.map Input.isStart, input = false := by decide
    exact lives _ (List.mem_map_of_mem among)
  · have times : threeChats.filterMap Input.checkedAt = [2,10,20,75] := rfl
    rw [times]
    decide +kernel

end Sophia.Api
