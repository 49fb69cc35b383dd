import Sophia.ChatTranscript
import Sophia.ExecutionGating

namespace Sophia.Chat
open StepRun HalfDuplex RiskClassifier AgentLoop Executor

variable {client next last : Client} {errorText : PyError → String} {trim : String → String} {system : System}

theorem genId_injective {m n : Nat} (same : genId m = genId n) : m = n := by
  have digits : Nat.toDigits 10 m = Nat.toDigits 10 n := by
    rw [← Nat.toList_repr,← Nat.toList_repr]
    exact congrArg String.toList ((String.append_right_inj _).mp same)
  have values := congrArg (fun digits => Nat.ofDigitChars 10 digits 0) digits
  rwa [Nat.ofDigitChars_ten_toDigits,Nat.ofDigitChars_ten_toDigits] at values

-- A message as the hook makes it
structure New (client : Client) (m : ChatMessage) : Prop where
  id : m.id = genId client.nextId
  status : m.confirmationStatus = if m.tier = some .yellow then some .pending else none
  traced : m.tier.isSome = true → m.trace.isSome = true
  plain : m.isAck = true → m.role = .assistant ∧ m.trace = none

-- Everything that one step can do to the messages
inductive Edit (client next : Client) : Prop where
  | unchanged (messages : next.messages = client.messages) (nextId : next.nextId = client.nextId)
  | said (m : ChatMessage) (fresh : New client m) (messages : next.messages = client.messages ++ [m])
      (nextId : next.nextId = client.nextId + 1)
  | answered (m : ChatMessage) (fresh : New client m) (own : m.isAck = false)
      (messages : next.messages = client.messages.filter (fun m => !m.isAck) ++ [m]) (nextId : next.nextId = client.nextId + 1)
  | chosen (id : String) (approved : Bool) (chooses : next = choose client id approved)

theorem handleEvent_edit (client : Client) (event : WsEvent) : Edit client (client.handleEvent event) := by
  cases event with
  | preflightAck message => exact .said _ ⟨rfl,rfl,fun tier => (by cases tier),fun _ => ⟨rfl,rfl⟩⟩ rfl rfl
  | error message => exact .said _ ⟨rfl,rfl,fun tier => (by cases tier),fun ack => (by cases ack)⟩ rfl rfl
  | responseReady response => exact .answered _ ⟨rfl,rfl,fun _ => rfl,fun ack => (by cases ack)⟩ rfl rfl rfl
  | _ => exact .unchanged rfl rfl

-- One step as the browser and as the pipeline see it
def Serves (errorText : PyError → String) (system next : System) : Prop :=
  next.served = system.served ∨ ∃ call frame, next.served = system.served ++ [serve errorText call frame]

theorem step_parts (system : System) (input : Input) :
    Edit system.client (step errorText trim system input).client ∧ Serves errorText system (step errorText trim system input) := by
  cases linked : system.link with
  | none =>
    unfold step
    rw [linked]
    cases input with
    | choose id approved => exact ⟨.chosen id approved rfl,.inl rfl⟩
    | _ => exact ⟨.unchanged rfl rfl,.inl rfl⟩
  | some l =>
    obtain ⟨up,down,phase⟩ := l
    unfold step
    rw [linked]
    cases input with
    | choose id approved => exact ⟨.chosen id approved rfl,.inl rfl⟩
    | submit text =>
      dsimp only
      split
      · exact ⟨.said _ ⟨rfl,rfl,fun tier => (by cases tier),fun ack => (by cases ack)⟩ rfl rfl,.inl rfl⟩
      · exact ⟨.unchanged rfl rfl,.inl rfl⟩
    | deliver =>
      cases down with
      | nil => exact ⟨.unchanged rfl rfl,.inl rfl⟩
      | cons event down => exact ⟨handleEvent_edit _ _,.inl rfl⟩
    | receive call =>
      cases phase with
      | waiting =>
        cases up with
        | nil => exact ⟨.unchanged rfl rfl,.inl rfl⟩
        | cons frame up => exact ⟨.unchanged rfl rfl,.inr ⟨call,frame,rfl⟩⟩
      | _ => exact ⟨.unchanged rfl rfl,.inl rfl⟩
    | emit =>
      cases phase with
      | working x pending => cases pending <;> exact ⟨.unchanged rfl rfl,.inl rfl⟩
      | _ => exact ⟨.unchanged rfl rfl,.inl rfl⟩
    | finish =>
      cases phase with
      | working x pending =>
        cases pending with
        | nil => dsimp only; split <;> exact ⟨.unchanged rfl rfl,.inl rfl⟩
        | cons event pending => exact ⟨.unchanged rfl rfl,.inl rfl⟩
      | _ => exact ⟨.unchanged rfl rfl,.inl rfl⟩
    | close =>
      cases phase with
      | closed => dsimp only; split <;> exact ⟨.unchanged rfl rfl,.inl rfl⟩
      | _ => exact ⟨.unchanged rfl rfl,.inl rfl⟩
    | _ => cases phase <;> exact ⟨.unchanged rfl rfl,.inl rfl⟩

-- Ids tell the messages apart, and the buttons are for YELLOW.
structure Tidy (client : Client) : Prop where
  numbered : ∀ m ∈ client.messages, ∃ k < client.nextId, m.id = genId k
  distinct : (client.messages.map ChatMessage.id).Nodup
  yellow : ∀ m ∈ client.messages, m.confirmationStatus.isSome = true ↔ m.tier = some .yellow
  traced : ∀ m ∈ client.messages, m.tier.isSome = true → m.trace.isSome = true
  plain : ∀ m ∈ client.messages, m.isAck = true → m.role = .assistant ∧ m.trace = none

theorem New.fresh (tidy : Tidy client) (fresh : New client m) : m.id ∉ client.messages.map ChatMessage.id := by
  intro present
  obtain ⟨other,listed,same⟩ := List.mem_map.mp present
  obtain ⟨k,below,numbered⟩ := tidy.numbered other listed
  have equal := genId_injective (numbered.symm.trans (same.trans fresh.id))
  omega

-- A message that is added behind some of the others
theorem Tidy.add (tidy : Tidy client) (fresh : New client m) (some_ : kept.Sublist client.messages)
    (messages : next.messages = kept ++ [m]) (nextId : next.nextId = client.nextId + 1) : Tidy next where
  numbered := by
    intro other present
    rw [messages] at present
    rw [nextId]
    rcases List.mem_append.mp present with old | new
    · obtain ⟨k,below,numbered⟩ := tidy.numbered other (some_.subset old)
      exact ⟨k,by omega,numbered⟩
    · rw [List.mem_singleton.mp new]
      exact ⟨client.nextId,by omega,fresh.id⟩
  distinct := by
    rw [messages,List.map_append,List.nodup_append]
    refine ⟨tidy.distinct.sublist (some_.map _),List.nodup_singleton _,?_⟩
    intro id old other new same
    rw [List.map_singleton,List.mem_singleton] at new
    exact fresh.fresh tidy (new ▸ same ▸ (some_.map _).subset old)
  yellow := by
    intro other present
    rw [messages] at present
    rcases List.mem_append.mp present with old | new
    · exact tidy.yellow other (some_.subset old)
    · rw [List.mem_singleton.mp new,fresh.status]
      split <;> simp_all
  traced := by
    intro other present
    rw [messages] at present
    rcases List.mem_append.mp present with old | new
    · exact tidy.traced other (some_.subset old)
    · rw [List.mem_singleton.mp new]
      exact fresh.traced
  plain := by
    intro other present
    rw [messages] at present
    rcases List.mem_append.mp present with old | new
    · exact tidy.plain other (some_.subset old)
    · rw [List.mem_singleton.mp new]
      exact fresh.plain

def chooses (approved : Bool) : ConfirmationStatus := if approved then .approved else .declined

-- A choice sets the status of one message that waits for it.
theorem choose_cases (tidy : Tidy client) (id : String) (approved : Bool) :
    choose client id approved = client ∨ ∃ m ∈ client.messages, m.id = id ∧ m.tier = some .yellow ∧
      m.confirmationStatus = some .pending ∧ (∀ other ∈ client.messages, other.id = id → other = m) ∧
      choose client id approved = client.updateMessage id (chooses approved) := by
  unfold choose
  split
  · next any =>
    obtain ⟨m,listed,here⟩ := List.any_eq_true.mp any
    simp only [Bool.and_eq_true,decide_eq_true_eq] at here
    obtain ⟨⟨own,tier⟩,pending⟩ := here
    refine .inr ⟨m,listed,own,tier,pending,fun other present same => ?_,rfl⟩
    exact List.inj_on_of_nodup_map tidy.distinct present listed (same.trans own.symm)
  · exact .inl rfl

theorem updateMessage_ids (client : Client) (id : String) (status : ConfirmationStatus) :
    (client.updateMessage id status).messages.map ChatMessage.id = client.messages.map ChatMessage.id := by
  unfold Client.updateMessage
  rw [List.map_map]
  refine List.map_congr_left fun m _ => ?_
  simp only [Function.comp]
  split <;> rfl

theorem Tidy.choose (tidy : Tidy client) (id : String) (approved : Bool) : Tidy (choose client id approved) := by
  rcases choose_cases tidy id approved with same | ⟨m,listed,own,tier,pending,only,chosen⟩
  · rw [same]
    exact tidy
  · rw [chosen]
    refine ⟨?_,by rw [updateMessage_ids]; exact tidy.distinct,?_,?_,?_⟩
    · intro other present
      have numbered : other.id ∈ client.messages.map ChatMessage.id := by
        rw [← updateMessage_ids]
        exact List.mem_map_of_mem present
      obtain ⟨old,listed,same⟩ := List.mem_map.mp numbered
      rw [← same]
      exact tidy.numbered old listed
    · intro other present
      obtain ⟨old,listed,rfl⟩ := List.mem_map.mp present
      split
      · next same => simp [only old listed same,tier]
      · exact tidy.yellow old listed
    · intro other present
      obtain ⟨old,listed,rfl⟩ := List.mem_map.mp present
      split <;> exact tidy.traced old listed
    · intro other present
      obtain ⟨old,listed,rfl⟩ := List.mem_map.mp present
      split <;> exact tidy.plain old listed

theorem Edit.tidy (edit : Edit client next) (tidy : Tidy client) : Tidy next := by
  cases edit with
  | unchanged messages nextId => exact ⟨by rw [messages,nextId]; exact tidy.numbered,by rw [messages]; exact tidy.distinct,
      by rw [messages]; exact tidy.yellow,by rw [messages]; exact tidy.traced,
      by rw [messages]; exact tidy.plain⟩
  | said m fresh messages nextId => exact tidy.add fresh (List.Sublist.refl _) messages nextId
  | answered m fresh own messages nextId => exact tidy.add fresh List.filter_sublist messages nextId
  | chosen id approved chooses =>
    rw [chooses]
    exact tidy.choose id approved

theorem step_tidy (system : System) (input : Input) (tidy : Tidy system.client) :
    Tidy (step errorText trim system input).client := (step_parts system input).1.tidy tidy

theorem initial_tidy : Tidy {} where
  numbered := fun _ present => absurd present List.not_mem_nil
  distinct := List.nodup_nil
  yellow := fun _ present => absurd present List.not_mem_nil
  traced := fun _ present => absurd present List.not_mem_nil
  plain := fun _ present => absurd present List.not_mem_nil

theorem run_tidy (inputs : List Input) : Tidy (after (step errorText trim) {} inputs).client :=
  invariant (I := fun system : System => Tidy system.client) (fun _ _ tidy => step_tidy _ _ tidy) initial_tidy

-- What may become of a message: a choice is made once.
def Settles (m n : ChatMessage) : Prop :=
  n = m ∨ m.confirmationStatus = some .pending ∧ ∃ approved, n = {m with confirmationStatus := some (chooses approved)}

def spoken (client : Client) : List ChatMessage := client.messages.filter fun m => !m.isAck

-- Nothing that was said is taken back, put elsewhere or changed, but for the choices.
def Keeps (client next : Client) : Prop :=
  ∀ (i : Nat) (m : ChatMessage), (spoken client)[i]? = some m → ∃ n, (spoken next)[i]? = some n ∧ Settles m n

theorem Settles.refl (m : ChatMessage) : Settles m m := .inl rfl

theorem Settles.trans {a b c : ChatMessage} (first : Settles a b) (second : Settles b c) : Settles a c := by
  rcases first with rfl | ⟨pending,approved,rfl⟩
  · exact second
  · rcases second with rfl | ⟨undecided,_⟩
    · exact .inr ⟨pending,approved,rfl⟩
    · cases approved <;> cases undecided

theorem Keeps.refl (client : Client) : Keeps client client := fun _ m here => ⟨m,here,.refl m⟩

theorem Keeps.trans (first : Keeps client next) (second : Keeps next last) : Keeps client last := by
  intro i m here
  obtain ⟨n,there,settles⟩ := first i m here
  obtain ⟨o,finally_,settled⟩ := second i n there
  exact ⟨o,finally_,settles.trans settled⟩

theorem Keeps.add (more : List ChatMessage) (split : spoken next = spoken client ++ more) : Keeps client next := by
  intro i m here
  obtain ⟨below,_⟩ := List.getElem?_eq_some_iff.mp here
  exact ⟨m,by rw [split,List.getElem?_append_left below]; exact here,.refl m⟩

theorem updateMessage_spoken (client : Client) (id : String) (status : ConfirmationStatus) :
    spoken (client.updateMessage id status) =
      (spoken client).map fun m => if m.id = id then {m with confirmationStatus := some status} else m := by
  unfold spoken Client.updateMessage
  rw [List.filter_map]
  congr 1
  refine List.filter_congr fun m _ => ?_
  simp only [Function.comp]
  split <;> rfl

theorem Edit.keeps (edit : Edit client next) (tidy : Tidy client) : Keeps client next := by
  cases edit with
  | unchanged messages nextId => exact .add [] (by rw [spoken,messages,List.append_nil]; rfl)
  | said m fresh messages nextId => exact .add _ (by rw [spoken,messages,List.filter_append]; rfl)
  | answered m fresh own messages nextId =>
    refine .add _ (by rw [spoken,messages,List.filter_append,List.filter_filter]; simp only [Bool.and_self]; rfl)
  | chosen id approved chosen =>
    subst chosen
    rcases choose_cases tidy id approved with same | ⟨m,listed,own,tier,pending,only,chosen⟩
    · rw [same]
      exact .refl client
    · rw [chosen]
      intro i n here
      refine ⟨_,by rw [updateMessage_spoken,List.getElem?_map,here]; rfl,?_⟩
      dsimp only
      split
      · next same =>
        have present : n ∈ client.messages := List.mem_of_mem_filter (List.mem_of_getElem? here)
        rw [only n present same]
        exact .inr ⟨pending,approved,rfl⟩
      · exact .refl n

section
variable (errorText : PyError → String) (trim : String → String)

-- Whatever was said, and each choice that was made, stays as it is in all that follows.
theorem messages_kept (earlier later : List Input) :
    let before := (after (step errorText trim) {} earlier).client
    let now := (after (step errorText trim) {} (earlier ++ later)).client
    Keeps before now ∧ (now.messages.map ChatMessage.id).Nodup := by
  intro before now
  refine ⟨?_,(run_tidy (earlier ++ later)).distinct⟩
  have whole : now = (after (step errorText trim) (after (step errorText trim) {} earlier) later).client :=
    congrArg System.client after_append
  rw [whole]
  exact related (R := fun a b : System => Keeps a.client b.client) (I := fun s : System => Tidy s.client)
    (fun s => .refl s.client) (fun _ _ _ => .trans) (fun s input => step_tidy s input)
    (fun s input tidy => (step_parts s input).1.keeps tidy) (run_tidy earlier)

-- What was served are runs of the pipeline.
theorem served_calls (inputs : List Input) :
    ∀ x ∈ (after (step errorText trim) {} inputs).served, ∃ call, x = serve errorText call x.frame := by
  refine invariant (I := fun s : System => ∀ x ∈ s.served, ∃ call, x = serve errorText call x.frame) ?_
    fun x present => absurd present List.not_mem_nil
  intro s input calls x present
  have serves : Serves errorText s (step errorText trim s input) := (step_parts s input).2
  rcases serves with same | ⟨call,frame,more⟩
  · exact calls x (same ▸ present)
  · rw [more] at present
    rcases List.mem_append.mp present with old | new
    · exact calls x old
    · rw [List.mem_singleton.mp new]
      exact ⟨call,rfl⟩

-- A client that waits for nothing shows the conversation with the server. Each exchange of it is
-- a run of the pipeline on a message with all that had been said before.
theorem transcript (inputs : List Input) :
    let system := after (step errorText trim) {} inputs
    (system.client.isProcessing = false → system.client.messages.map ChatMessage.entry = conversation system.served) ∧
    ∀ earlier x later, system.served = earlier ++ x :: later →
      ∃ call, x = serve errorText call ⟨x.frame.message,turns (conversation earlier)⟩ := by
  intro system
  have kept : dialogue.Kept system.abstract := run_kept inputs
  constructor
  · intro idle
    have rests := kept.rests idle
    rw [sequel_conversation] at rests
    exact congrArg View.entries rests
  · intro earlier x later split
    obtain ⟨text,asked⟩ := kept.inTurn earlier x later split
    rw [sequel_conversation] at asked
    have frame : x.frame = ⟨x.frame.message,turns (conversation earlier)⟩ := by
      rw [show x.frame = _ from asked]
      rfl
    have listed : x ∈ system.served := split ▸ List.mem_append_right _ List.mem_cons_self
    obtain ⟨call,same⟩ := served_calls errorText trim inputs x listed
    exact ⟨call,frame ▸ same⟩

theorem serve_answered (answers : (serve errorText call frame).ending = .answered result) :
    (outcomeOf call frame).value = .ok result := by
  unfold serve at answers
  dsimp only at answers
  split at answers <;> simp_all

theorem answerOf_some (shows : answerOf x = some entry) : ∃ result, x.ending = .answered result ∧ entry = answer result := by
  unfold answerOf at shows
  split at shows
  · next result ends => exact ⟨result,ends,(Option.some.inj shows).symm⟩
  · cases shows

theorem shown_served {inputs : List Input} {m : ChatMessage}
    (present : m ∈ (after (step errorText trim) {} inputs).client.messages) (shows : m.trace.isSome = true) :
    ∃ x ∈ (after (step errorText trim) {} inputs).served, answerOf x = some m.entry := by
  have kept : dialogue.Kept (after (step errorText trim) {} inputs).abstract := run_kept inputs
  obtain ⟨settled,rest,split,same⟩ := kept_traced kept
  have listed : m.entry ∈ traced (after (step errorText trim) {} inputs).abstract.view.entries :=
    List.mem_filter.mpr ⟨List.mem_map_of_mem present,shows⟩
  rw [same] at listed
  obtain ⟨x,earlier,answers⟩ := List.mem_filterMap.mp listed
  have served : x ∈ (after (step errorText trim) {} inputs).abstract.served := split ▸ List.mem_append_left _ earlier
  exact ⟨x,served,answers⟩

theorem yellow_silent {agent : Agent} {env : Environment} {request : Request} {cache : ConsequenceEngine.Cache}
    {result : PipelineResult} (returned : (process agent env request cache).value = .ok result)
    (yellow : result.riskClassification.tier = .yellow) : calls (process agent env request) cache = [] := by
  rcases called_or_silent agent env request cache with silent | ⟨prepared,judged,by_⟩
  · exact silent
  · rw [by_.concluded result returned] at yellow
    exact by_.quiet (.inl yellow)

-- The buttons stand at the answers of runs that came out YELLOW. Such a run has called no tool.
theorem confirmations (inputs : List Input) :
    let system := after (step errorText trim) {} inputs
    ∀ m ∈ system.client.messages, m.confirmationStatus.isSome = true →
      ∃ x ∈ system.served, ∃ call result, x = serve errorText call x.frame ∧
        (outcomeOf call x.frame).value = .ok result ∧ result.riskClassification.tier = .yellow ∧
        calls (process call.agent call.env (requestOf x.frame)) call.cache = [] ∧
        m.content = result.response ∧ m.trace = some (traceOf result) := by
  intro system m present status
  have tidy : Tidy system.client := run_tidy inputs
  have yellow := (tidy.yellow m present).mp status
  obtain ⟨x,served,shows⟩ := shown_served errorText trim present (tidy.traced m present (by rw [yellow]; rfl))
  obtain ⟨call,same⟩ := served_calls errorText trim inputs x served
  obtain ⟨result,ends,entry⟩ := answerOf_some shows
  rw [same] at ends
  have returned := serve_answered errorText ends
  have tier : result.riskClassification.tier = .yellow :=
    Option.some.inj ((congrArg Entry.tier entry).symm.trans yellow)
  exact ⟨x,served,call,result,same,returned,tier,yellow_silent returned tier,congrArg Entry.content entry,
    congrArg Entry.trace entry⟩

def Input.isChoice : Input → Bool
  | .choose _ _ => true
  | _ => false

-- What an input does for the two ends depends on no choice.
theorem abstract_congr {a b : System} (same : a.abstract = b.abstract) (input : Input) :
    input.abstract errorText trim a = input.abstract errorText trim b := by
  have view : a.client.view = b.client.view := congrArg HalfDuplex.System.view same
  have link : a.link = b.link := congrArg HalfDuplex.System.link same
  have processing : a.client.isProcessing = b.client.isProcessing := congrArg View.isProcessing view
  cases input with
  | submit text => simp only [Input.abstract,submitted,processing]
  | receive call => simp only [Input.abstract,link]
  | _ => rfl

theorem after_choices {a b : System} (same : a.abstract = b.abstract) (inputs : List Input) :
    (after (step errorText trim) a inputs).abstract =
      (after (step errorText trim) b (inputs.filter fun input => !input.isChoice)).abstract := by
  induction inputs generalizing a b with
  | nil => exact same
  | cons input inputs ih =>
    rw [after_cons,List.filter_cons]
    split
    · rw [after_cons]
      refine ih ?_
      rw [step_abstract,step_abstract,abstract_congr errorText trim same,same]
    · next choice =>
      refine ih ?_
      cases input with
      | choose id approved =>
        rw [step_abstract,← same]
        unfold Dialogue.step
        cases a.abstract.link <;> rfl
      | _ => exact absurd rfl choice

-- Neither end sends, runs or logs anything for a choice.
theorem choices_inert (inputs : List Input) :
    let system := after (step errorText trim) {} inputs
    let unchosen := after (step errorText trim) {} (inputs.filter fun input => !input.isChoice)
    system.served = unchosen.served ∧ system.audited = unchosen.audited ∧ system.link = unchosen.link := by
  have same := after_choices errorText trim (rfl : ({} : System).abstract = ({} : System).abstract) inputs
  exact ⟨congrArg HalfDuplex.System.served same,congrArg HalfDuplex.System.recorded same,congrArg HalfDuplex.System.link same⟩

-- All answers but at most the last are logged, each once and in their order.
theorem audited_answers (inputs : List Input) :
    let system := after (step errorText trim) {} inputs
    let answers := system.served.filter fun x => !closes x
    system.audited = answers ∨ ∃ x, system.audited ++ [x] = answers :=
  (run_kept inputs).recorded

end

end Sophia.Chat
