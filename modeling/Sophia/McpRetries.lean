import Sophia.AtMostOnce
import Sophia.Library.CountedRun

namespace Sophia.Mcp
open TracedRun Json Retry

-- What a POST that failed in transport leaves as the exception to raise
def transportFailure? : Reply → Option PyError
  | .timeout => some timeoutError
  | .refused => some connectionError
  | _ => none

-- What the last try of a call comes to
def lastAnswer : Reply → Except PyError Json
  | .timeout => .error timeoutError
  | .refused => .error connectionError
  | .broken e => .error e
  | .body data => resultOf data

section
variable (maxRetries : Nat) (network : Network) (reconnecting : Bool)

-- What comes before another try: with _reconnect=False, nothing
def restorer : Nat → ClientRun Unit := if reconnecting then reconnect maxRetries network else fun _ => pure ()

def send (method : String) (params : Option Json) : ClientRun Json :=
  attempts network.call (restorer maxRetries network reconnecting) method params maxRetries 0 .typeError

-- The same call with the POSTs of its reconnects left out of the trace
def ownSend (method : String) (params : Option Json) : ClientRun Json :=
  attempts network.call (fun k => mute (restorer maxRetries network reconnecting k)) method params maxRetries 0 .typeError

-- A try can follow.
def goesOn (attempt : Nat) : Bool := !reconnecting || restored maxRetries network attempt

end

theorem send_reconnecting (maxRetries : Nat) (network : Network) :
    send maxRetries network true = sendJsonrpc maxRetries network := rfl

theorem send_plain (maxRetries : Nat) (network : Network) :
    send maxRetries network false = sendPlain maxRetries network.call := rfl

variable {maxRetries : Nat} {network : Network} {fates : Nat → Fate} {restore : Nat → ClientRun Unit}
  {method : String} {params : Option Json}

abbrev Stamped (m : ClientRun α) : Prop := Numbered Client.requestId Posted.requestId m

theorem post_stamped (fate : Fate) (method : String) (params : Option Json) : Stamped (post fate method params) := by
  intro client
  unfold post
  rw [change_bind,read_bind,bind_ok (emit_value _)]
  exact ⟨rfl,rfl⟩

theorem attempts_stamped (stamped : ∀ k, Stamped (restore k)) (left attempt : Nat) (last : PyError) :
    Stamped (attempts fates restore method params left attempt last) := by
  induction left generalizing attempt last with
  | zero => exact Numbered.lift _
  | succ left ih =>
    refine Numbered.bind (Numbered.ite (Numbered.pure _) (stamped attempt)) fun _ =>
      Numbered.bind (post_stamped _ _ _) fun reply => ?_
    have off : Stamped disconnect := Numbered.overState fun _ => rfl
    cases reply with
    | timeout => exact Numbered.bind off fun _ => ih _ _
    | refused => exact Numbered.bind off fun _ => ih _ _
    | broken e => exact Numbered.lift _
    | body data => exact Numbered.lift _

theorem registerTools_stamped (tools : List Json) : Stamped (registerTools tools) := by
  induction tools with
  | nil => exact Numbered.pure _
  | cons tool rest ih =>
    exact Numbered.bind (Numbered.lift _) fun _ => Numbered.bind (Numbered.overState fun _ => rfl) fun _ => ih

theorem connect_stamped (maxRetries : Nat) (handshake : Handshake) : Stamped (connect maxRetries handshake) := by
  have plain (fates : Nat → Fate) (method : String) (params : Option Json) :
      Stamped (sendPlain maxRetries fates method params) := attempts_stamped (fun _ => Numbered.pure _) _ _ _
  refine Numbered.bind (Numbered.rescue (plain _ _ _)) fun initResult => Numbered.bind (Numbered.lift _) fun _ => ?_
  refine Numbered.bind (plain _ _ _) fun result => Numbered.bind (Numbered.lift _) fun toolsData => ?_
  refine Numbered.bind (Numbered.overState fun _ => rfl) fun _ => Numbered.bind (Numbered.lift _) fun tools => ?_
  exact Numbered.bind (registerTools_stamped tools) fun _ => Numbered.overState fun _ => rfl

theorem restorer_stamped (reconnecting : Bool) (k : Nat) : Stamped (restorer maxRetries network reconnecting k) := by
  cases reconnecting with
  | false => exact Numbered.pure _
  | true =>
    refine Numbered.bind (Numbered.overState fun _ => rfl) fun client => Numbered.ite (Numbered.pure _) ?_
    exact Numbered.rescue (connect_stamped maxRetries _)

-- Every try has something before it but the first.
theorem attempts_atMost {p : Posted → Bool} {b : Nat} (each : ∀ k, AtMost p b (restore k)) (left attempt : Nat)
    (last : PyError) : AtMost p (left + (if attempt = 0 then left - 1 else left) * b)
      (attempts fates restore method params left attempt last) := by
  induction left generalizing attempt last with
  | zero => exact AtMost.lift _
  | succ left ih =>
    have before : AtMost p (if attempt = 0 then 0 else b) (restoreFor restore attempt) := by
      unfold restoreFor
      split
      · exact AtMost.pure _
      · exact each attempt
    have posted : AtMost p 1 (post (fates attempt) method params) :=
      AtMost.silent (AtMost.overState _) fun _ => AtMost.silent (AtMost.overState _) fun _ =>
        AtMost.bind (AtMost.emit _) fun _ => AtMost.pure (k := 0) _
    have later : ∀ reply, AtMost p (left + left * b)
        (settle (attempts fates restore method params left (attempt + 1)) reply) := by
      intro reply
      cases reply with
      | timeout => exact AtMost.silent (AtMost.overState _) fun _ => ih (attempt + 1) _
      | refused => exact AtMost.silent (AtMost.overState _) fun _ => ih (attempt + 1) _
      | broken e => exact AtMost.lift _
      | body data => exact AtMost.lift _
    refine AtMost.mono (AtMost.bind before fun _ => AtMost.bind posted later) ?_
    split
    · rw [Nat.add_sub_cancel]
      omega
    · rw [Nat.succ_mul]
      omega

-- A connect() asks twice, each time with all the tries.
theorem connect_atMost {p : Posted → Bool} {b : Nat} (maxRetries : Nat) (handshake : Handshake)
    (asked : ∀ fates method params, method = "initialize" ∨ method = "tools/list" →
      AtMost p b (sendPlain maxRetries fates method params)) : AtMost p (b + b) (connect maxRetries handshake) := by
  have registered (tools : List Json) : AtMost p 0 (registerTools tools) := by
    induction tools with
    | nil => exact AtMost.pure _
    | cons tool rest ih => exact AtMost.silent (AtMost.lift _) fun _ => AtMost.silent (AtMost.overState _) fun _ => ih
  refine AtMost.bind (AtMost.rescue (asked _ _ _ (.inl rfl))) fun initResult => AtMost.silent (AtMost.lift _) fun _ => ?_
  refine AtMost.bind (k := 0) (asked _ _ _ (.inr rfl)) fun result => AtMost.silent (AtMost.lift _) fun toolsData => ?_
  refine AtMost.silent (AtMost.overState _) fun _ => AtMost.silent (AtMost.lift _) fun tools => ?_
  exact AtMost.silent (registered tools) fun _ => AtMost.overState _

theorem restorer_atMost {p : Posted → Bool} {b : Nat} (reconnecting : Bool)
    (asked : ∀ fates method params, method = "initialize" ∨ method = "tools/list" →
      AtMost p b (sendPlain maxRetries fates method params)) (k : Nat) :
    AtMost p (b + b) (restorer maxRetries network reconnecting k) := by
  cases reconnecting with
  | false => exact AtMost.pure _
  | true =>
    refine AtMost.silent (AtMost.overState _) fun client => AtMost.ite (AtMost.pure _) ?_
    exact AtMost.rescue (connect_atMost maxRetries _ asked)

theorem plain_atMost (p : Posted → Bool) (fates : Nat → Fate) (method : String) (params : Option Json) :
    AtMost p maxRetries (sendPlain maxRetries fates method params) :=
  AtMost.mono (attempts_atMost (fun _ => AtMost.pure (k := 0) _) _ _ _) (by simp)

-- All POSTs, and those of the call itself
theorem send_total (reconnecting : Bool) (method : String) (params : Option Json) (client : Client) :
    (send maxRetries network reconnecting method params client).trace.length ≤
      maxRetries + 2 * maxRetries * (maxRetries - 1) := by
  have asked (fates : Nat → Fate) (method : String) (params : Option Json) (_ : method = "initialize" ∨ method = "tools/list") :
      AtMost (fun _ => true) maxRetries (sendPlain maxRetries fates method params) := plain_atMost _ fates method params
  have all : AtMost (fun _ => true) (maxRetries + (maxRetries - 1) * (maxRetries + maxRetries))
      (send maxRetries network reconnecting method params) :=
    attempts_atMost (restorer_atMost reconnecting asked) maxRetries 0 .typeError
  have bound := all client
  rwa [List.countP_true,← Nat.two_mul,Nat.mul_comm (maxRetries - 1)] at bound

theorem own_total (reconnecting : Bool) (method : String) (params : Option Json) (client : Client) :
    (ownSend maxRetries network reconnecting method params client).trace.length ≤ maxRetries := by
  have own : AtMost (fun _ => true) (maxRetries + (maxRetries - 1) * 0)
      (ownSend maxRetries network reconnecting method params) :=
    attempts_atMost (fun k => AtMost.mute (restorer maxRetries network reconnecting k)) maxRetries 0 .typeError
  have bound := own client
  rwa [List.countP_true] at bound

-- The reconnects post nothing but the two requests of a handshake.
theorem method_total (reconnecting : Bool) (first : method ≠ "initialize") (second : method ≠ "tools/list")
    (params : Option Json) (client : Client) :
    (send maxRetries network reconnecting method params client).trace.countP (·.method = method) ≤ maxRetries := by
  have quiet (fates : Nat → Fate) (asked : String) (params : Option Json) (handshake : asked = "initialize" ∨ asked = "tools/list") :
      AtMost (fun posted => decide (posted.method = method)) 0 (sendPlain maxRetries fates asked params) := by
    intro client
    have named : Emits (fun posted => posted.method = asked) (sendPlain maxRetries fates asked params) :=
      attempts_emits (fun _ => Emits.pure _) (fun _ _ => rfl) _ _ _
    refine Nat.le_of_eq (List.countP_eq_zero.mpr fun posted present => ?_)
    rw [decide_eq_true_eq,named client posted present]
    rcases handshake with rfl | rfl
    · exact Ne.symm first
    · exact Ne.symm second
  have own : AtMost (fun posted => decide (posted.method = method)) (maxRetries + (maxRetries - 1) * (0 + 0))
      (send maxRetries network reconnecting method params) :=
    attempts_atMost (restorer_atMost reconnecting quiet) maxRetries 0 .typeError
  exact own client

theorem ownSend_echoes (reconnecting : Bool) (method : String) (params : Option Json) :
    Echoes (ownSend maxRetries network reconnecting method params) (send maxRetries network reconnecting method params) := by
  have each (left attempt : Nat) (last : PyError) : Echoes
      (attempts network.call (fun k => mute (restorer maxRetries network reconnecting k)) method params left attempt last)
      (attempts network.call (restorer maxRetries network reconnecting) method params left attempt last) := by
    induction left generalizing attempt last with
    | zero => exact Echoes.refl _
    | succ left ih =>
      refine Echoes.bind (Echoes.ite (Echoes.refl _) (Echoes.mute _)) fun _ => Echoes.bind (Echoes.refl _) fun reply => ?_
      cases reply with
      | timeout => exact Echoes.bind (Echoes.refl _) fun _ => ih _ _
      | refused => exact Echoes.bind (Echoes.refl _) fun _ => ih _ _
      | broken e => exact Echoes.refl _
      | body data => exact Echoes.refl _
  exact each maxRetries 0 .typeError

def stamped (client : Client) : Client := {client with requestId := client.requestId + 1}

theorem attempts_step (ready : (restoreFor restore attempt client).value = .ok ()) (left : Nat) (last : PyError) :
    ∃ posted, posted = ⟨(restoreFor restore attempt client).state.requestId + 1,method,params,(fates attempt).performed⟩ ∧
      attempts fates restore method params (left + 1) attempt last client =
        {settle (attempts fates restore method params left (attempt + 1)) (fates attempt).reply
            (stamped (restoreFor restore attempt client).state) with
          trace := (restoreFor restore attempt client).trace ++ posted ::
            (settle (attempts fates restore method params left (attempt + 1)) (fates attempt).reply
              (stamped (restoreFor restore attempt client).state)).trace} := by
  refine ⟨_,rfl,?_⟩
  rw [attempts,bind_ok ready]
  have made : (post (fates attempt) method params (restoreFor restore attempt client).state) =
      ⟨.ok (fates attempt).reply,stamped (restoreFor restore attempt client).state,
        [⟨(restoreFor restore attempt client).state.requestId + 1,method,params,(fates attempt).performed⟩]⟩ := rfl
  rw [bind_ok (congrArg Outcome.value made),made]
  rfl

theorem restoreFor_mute (restore : Nat → ClientRun Unit) (attempt : Nat) :
    restoreFor (fun k => mute (restore k)) attempt = mute (restoreFor restore attempt) := by
  unfold restoreFor
  split <;> rfl

theorem transport_of_goes (goes : settles fate = false) :
    ∃ e, transportFailure? fate.reply = some e ∧ lastAnswer fate.reply = .error e := by
  unfold settles at goes
  cases reply : fate.reply with
  | timeout => exact ⟨_,rfl,rfl⟩
  | refused => exact ⟨_,rfl,rfl⟩
  | broken e => rw [reply] at goes; cases goes
  | body data => rw [reply] at goes; cases goes

theorem goes_iff : settles fate = false ↔ (transportFailure? fate.reply).isSome := by
  unfold settles
  cases fate.reply <;> simp [transportFailure?]

theorem settle_fails (failed : transportFailure? reply = some e) (again : PyError → ClientRun Json) (client : Client) :
    settle again reply client = again e {client with connected := false} := by
  cases reply with
  | timeout => cases failed; exact change_bind _
  | refused => cases failed; exact change_bind _
  | broken => cases failed
  | body => cases failed

theorem settle_ends (ended : settles fate = true) (again : PyError → ClientRun Json) (client : Client) :
    settle again fate.reply client = ⟨lastAnswer fate.reply,client,[]⟩ := by
  unfold settles at ended
  cases reply : fate.reply with
  | timeout => rw [reply] at ended; cases ended
  | refused => rw [reply] at ended; cases ended
  | broken e => rfl
  | body data => rfl

-- The last try that is made decides; nothing is posted after it.
theorem attempts_end {goes : Nat → Bool}
    (restores : ∀ k client, client.connected = false → goes k = true → (restore k client).value = .ok ())
    (left attempt i : Nat) (last : PyError) (client : Client) (lower : attempt ≤ i) (upper : i < attempt + left)
    (ends : settles (fates i) = true ∨ i + 1 = attempt + left) (reached : Reached settles goes fates attempt i)
    (off : attempt = 0 ∨ client.connected = false) (ready : attempt = 0 ∨ goes attempt = true) :
    (attempts fates restore method params left attempt last client).value = lastAnswer (fates i).reply ∧
    (attempts fates (fun k => mute (restore k)) method params left attempt last client).trace.length = i - attempt + 1 ∧
    (attempts fates restore method params left attempt last client).trace.getLast? =
      (attempts fates (fun k => mute (restore k)) method params left attempt last client).trace.getLast? := by
  induction left generalizing attempt last client with
  | zero => omega
  | succ left ih =>
    have restored : (restoreFor restore attempt client).value = .ok () := by
      unfold restoreFor
      by_cases start : attempt = 0
      · rw [if_pos start]
        rfl
      · rw [if_neg start]
        exact restores attempt client (off.resolve_left start) (ready.resolve_left start)
    have muted : (restoreFor (fun k => mute (restore k)) attempt client).value = .ok () := by
      rw [restoreFor_mute]
      exact restored
    obtain ⟨posted,stamp,run⟩ := attempts_step restored left last
    obtain ⟨own,ownStamp,ownRun⟩ := attempts_step muted left last
    rw [restoreFor_mute] at ownStamp ownRun
    have same : own = posted := ownStamp.trans stamp.symm
    subst same
    rw [run,ownRun]
    dsimp only [mute]
    rw [List.nil_append,List.getLast?_append_cons]
    generalize stamped (restoreFor restore attempt client).state = next
    by_cases here : attempt = i
    · subst here
      rw [Nat.sub_self]
      cases settled : settles (fates attempt) with
      | true =>
        rw [settle_ends settled,settle_ends settled]
        exact ⟨rfl,rfl,rfl⟩
      | false =>
        obtain ⟨e,failed,answer⟩ := transport_of_goes settled
        rw [settled] at ends
        obtain rfl : left = 0 := by
          rcases ends with never | all
          · cases never
          · omega
        rw [settle_fails failed,settle_fails failed,answer]
        exact ⟨rfl,rfl,rfl⟩
    · obtain ⟨fails,resumed⟩ := reached attempt (le_refl _) (by omega)
      obtain ⟨e,failed,_⟩ := transport_of_goes fails
      obtain ⟨value,length,final⟩ := ih (attempt + 1) e {next with connected := false} (by omega) (by omega)
        (ends.imp_right fun all => by omega) ((Reached.step ⟨fails,resumed⟩).mpr reached) (.inr rfl) (.inr resumed)
      rw [settle_fails failed,settle_fails failed]
      refine ⟨value,?_,?_⟩
      · rw [List.length_cons,length]
        omega
      · rw [List.getLast?_cons,List.getLast?_cons,final]

theorem restorer_restores (reconnecting : Bool) (k : Nat) (client : Client) (off : client.connected = false)
    (goes : goesOn maxRetries network reconnecting k = true) :
    (restorer maxRetries network reconnecting k client).value = .ok () := by
  cases reconnecting with
  | false => rfl
  | true => exact reconnect_restores off goes

theorem send_ends (reconnecting : Bool) (method : String) (params : Option Json) (client : Client) (upper : i < maxRetries)
    (ends : settles (network.call i) = true ∨ i + 1 = maxRetries) (quiet : ∀ k, k < i → settles (network.call k) = false)
    (undisturbed : Undisturbed settles (goesOn maxRetries network reconnecting) network.call maxRetries) :
    (send maxRetries network reconnecting method params client).value = lastAnswer (network.call i).reply ∧
    (ownSend maxRetries network reconnecting method params client).trace.length = i + 1 ∧
    (send maxRetries network reconnecting method params client).trace.getLast? =
      (ownSend maxRetries network reconnecting method params client).trace.getLast? := by
  have reached := reached_of_quiet undisturbed upper quiet
  exact attempts_end (restorer_restores reconnecting) maxRetries 0 i .typeError client (Nat.zero_le i) (by omega)
    (ends.imp_right fun all => by omega) reached (.inl rfl) (.inl rfl)

theorem contains_field (fields : List (String × Json)) (key : String) :
    contains key (.obj fields) = .ok (fields.lookup key).isSome := by
  refine congrArg Except.ok (Bool.eq_iff_iff.mpr ?_)
  rw [List.any_eq_true,List.lookup_isSome_iff]
  simp only [beq_iff_eq]
  exact exists_congr fun field => and_congr_right fun _ => eq_comm

theorem resultOf_plain {fields : List (String × Json)} (absent : fields.lookup "error" = none) :
    resultOf (.obj fields) = .ok ((fields.lookup "result").getD (.obj [])) := by
  unfold resultOf
  rw [contains_field,absent]
  rfl

theorem resultOf_error {fields : List (String × Json)} (present : fields.lookup "error" = some error) :
    ∃ e, resultOf (.obj fields) = .error e := by
  have held : item (.obj fields) "error" = .ok error := by
    rw [item,present]
  unfold resultOf
  rw [contains_field,present]
  change ∃ e, rpcError (.obj fields) = .error e
  unfold rpcError
  rw [held]
  change ∃ e, (error.get "code" .null >>= fun _ => Except.error connectionError) = .error e
  cases error.get "code" .null with
  | error e => exact ⟨e,rfl⟩
  | ok code => exact ⟨connectionError,rfl⟩

-- What a call comes to, by the fates of its own POSTs
structure Answered (maxRetries : Nat) (fates : Nat → Fate) (own : List Posted) (run : Outcome PyError Client Posted Json) :
    Prop where
  answered : ∀ i fields, i < maxRetries → (∀ k, k < i → (transportFailure? (fates k).reply).isSome) →
    (fates i).reply = .body (.obj fields) → own.length = i + 1 ∧ run.trace.getLast? = own.getLast? ∧
      (fields.lookup "error" = none → run.value = .ok ((fields.lookup "result").getD (.obj []))) ∧
      ∀ error, fields.lookup "error" = some error → ∃ e, run.value = .error e
  exhausted : (∃ i e, own.length = i + 1 ∧ transportFailure? (fates i).reply = some e ∧ run.value = .error e) ↔
    ∀ i, i < maxRetries → (transportFailure? (fates i).reply).isSome

theorem send_answered (reconnecting : Bool) (method : String) (params : Option Json) (client : Client)
    (tries : 1 ≤ maxRetries)
    (undisturbed : Undisturbed settles (goesOn maxRetries network reconnecting) network.call maxRetries) :
    Answered maxRetries network.call (ownSend maxRetries network reconnecting method params client).trace
      (send maxRetries network reconnecting method params client) where
  answered := by
    intro i fields upper failed object
    have settled : settles (network.call i) = true := by
      unfold settles
      rw [object]
    obtain ⟨value,length,final⟩ := send_ends reconnecting method params client upper (.inl settled)
      (fun k below => goes_iff.mpr (failed k below)) undisturbed
    rw [object] at value
    refine ⟨length,final,fun absent => ?_,fun error present => ?_⟩
    · exact value.trans (resultOf_plain absent)
    · obtain ⟨e,raised⟩ := resultOf_error present
      exact ⟨e,value.trans raised⟩
  exhausted := by
    constructor
    · rintro ⟨i,e,length,failed,_⟩
      rcases settled_or_all settles network.call maxRetries with ⟨j,upper,settled,quiet⟩ | all
      · obtain ⟨_,made,_⟩ := send_ends reconnecting method params client upper (.inl settled) quiet undisturbed
        obtain rfl : i = j := by omega
        have goes := goes_iff.mpr (Option.isSome_of_mem failed)
        rw [goes] at settled
        cases settled
      · exact fun k upper => goes_iff.mp (all k upper)
    · intro all
      have quiet : ∀ k, k < maxRetries → settles (network.call k) = false := fun k upper => goes_iff.mpr (all k upper)
      obtain ⟨value,length,_⟩ := send_ends reconnecting method params client (i := maxRetries - 1) (by omega)
        (.inr (by omega)) (fun k upper => quiet k (by omega)) undisturbed
      obtain ⟨e,failed,answer⟩ := transport_of_goes (quiet (maxRetries - 1) (by omega))
      exact ⟨maxRetries - 1,e,length,failed,value.trans answer⟩

theorem send_bounded (maxRetries : Nat) (network : Network) (reconnecting : Bool) (method : String) (params : Option Json)
    (client : Client) (tries : 1 ≤ maxRetries) :
    (ownSend maxRetries network reconnecting method params client).trace.Sublist
      (send maxRetries network reconnecting method params client).trace ∧
    (ownSend maxRetries network reconnecting method params client).trace.length ≤ maxRetries ∧
    (method ≠ "initialize" → method ≠ "tools/list" →
      (send maxRetries network reconnecting method params client).trace.countP (·.method = method) ≤ maxRetries) ∧
    (send maxRetries network reconnecting method params client).trace.length ≤
      maxRetries + 2 * maxRetries * (maxRetries - 1) ∧
    ((send maxRetries network reconnecting method params client).trace.map Posted.requestId).Pairwise (· < ·) ∧
    (Undisturbed settles (goesOn maxRetries network reconnecting) network.call maxRetries →
      Answered maxRetries network.call (ownSend maxRetries network reconnecting method params client).trace
        (send maxRetries network reconnecting method params client)) := by
  have numbered : Stamped (send maxRetries network reconnecting method params) :=
    attempts_stamped (restorer_stamped reconnecting) _ _ _
  refine ⟨?_,own_total reconnecting method params client,?_,send_total reconnecting method params client,?_,?_⟩
  · exact (ownSend_echoes reconnecting method params client).2.2
  · exact fun first second => method_total reconnecting first second params client
  · exact numbered.increasing client
  · exact send_answered reconnecting method params client tries

-- A first try that times out, a handshake that goes through and a second try that is answered
def answeredAgain : Network where
  call i := ⟨false,if i = 0 then .timeout else .body (.obj [("result",.str "done")])⟩
  handshake _ := ⟨fun _ => ⟨false,.body (.obj [])⟩,fun _ => ⟨false,.body (.obj [])⟩⟩

theorem send_bounded_again : (send 2 answeredAgain true "tools/call" none {}).trace.length ≤ 6 ∧
    (send 2 answeredAgain true "tools/call" none {}).value = .ok (.str "done") := by
  have goes : Undisturbed settles (goesOn 2 answeredAgain true) answeredAgain.call 2 := by
    intro i within _ _
    obtain rfl : i = 0 := by omega
    rfl
  obtain ⟨_,_,_,total,_,answers⟩ := send_bounded 2 answeredAgain true "tools/call" none {} (by decide)
  obtain ⟨_,_,value,_⟩ := (answers goes).answered 1 _ (by decide) (fun k below => by
    obtain rfl : k = 0 := by omega
    rfl) rfl
  exact ⟨total,value rfl⟩

end Sophia.Mcp
