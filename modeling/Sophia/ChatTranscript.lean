import Sophia.ChatSocket

namespace Sophia.Chat
open StepRun HalfDuplex RiskClassifier AgentLoop Audit

-- A message without its id and without what the buttons do to it
structure Entry where
  role : Role
  content : String
  trace : Option PipelineTrace := none
  tier : Option Tier := none
  isAck : Bool := false

def ChatMessage.entry (m : ChatMessage) : Entry := ⟨m.role,m.content,m.trace,m.tier,m.isAck⟩

-- What the exchanges of a client make of its state
structure View where
  entries : List Entry := []
  trace : PipelineTrace := {}
  isProcessing : Bool := false

def Client.view (client : Client) : View := ⟨client.messages.map ChatMessage.entry,client.trace,client.isProcessing⟩

def asked (message : String) : Entry := {role := .user,content := message}
def acked (message : String) : Entry := {role := .assistant,content := message,isAck := true}
def failed (message : String) : Entry := {role := .assistant,content := "Error: " ++ message}

def turns (entries : List Entry) : List Turn := entries.map fun entry => ⟨entry.role.name,entry.content⟩

def View.settle (entries : List Entry) : View := {entries}

def View.handle (view : View) : WsEvent → View
  | .hatEquipped _ _ => view
  | .preflightAck message => {view with entries := view.entries ++ [acked message]}
  | .intentParsed intent => {view with trace := {view.trace with intent := some intent}}
  | .proposalsGenerated candidates => {view with trace := {view.trace with proposals := candidates}}
  | .consequencesAnalyzed trees => {view with trace := {view.trace with trees}}
  | .evaluatorComplete result => {view with trace := {view.trace with evaluations := view.trace.evaluations ++ [result]}}
  | .riskClassified classification => {view with trace := {view.trace with risk := some classification}}
  | .actionExecuted execution => {view with trace := {view.trace with execution := some execution}}
  | .responseReady response => .settle (view.entries.filter (fun entry => !entry.isAck) ++
      [{role := .assistant,content := response,trace := some view.trace,tier := answerTier view.trace}])
  | .error message => .settle (view.entries ++ [failed message])

def View.asking (view : View) (frame : ChatFrame) : View := ⟨view.entries ++ [asked frame.message],{},true⟩

def View.frame (view : View) (text : String) : ChatFrame := ⟨text,turns view.entries⟩

def isNotice : WsEvent → Bool
  | .hatEquipped _ _ => true
  | _ => false

-- An event that ends an exchange
def isLast : WsEvent → Bool
  | .responseReady _ => true
  | .error _ => true
  | _ => false

theorem handle_processing (view : View) (event : WsEvent) :
    (view.handle event).isProcessing = (view.isProcessing && !isLast event) := by
  cases event <;> simp [View.handle,View.settle,isLast]

theorem handled_processing (view : View) (events : List WsEvent) :
    (after View.handle view events).isProcessing = (view.isProcessing && events.all fun event => !isLast event) := by
  induction events generalizing view with
  | nil => simp
  | cons event events ih => rw [after_cons,ih,handle_processing,List.all_cons,Bool.and_assoc]

theorem stageEvents_kind (result : PipelineResult) :
    ∀ event ∈ stageEvents result, isLast event = false ∧ isNotice event = false := by
  intro event present
  simp only [stageEvents,List.mem_append,List.mem_cons,List.mem_map,List.not_mem_nil,or_false] at present
  rcases present with ((rfl | rfl | rfl) | ⟨evaluation,_,rfl⟩) | rfl | rfl <;> exact ⟨rfl,rfl⟩

-- The events of an exchange are stages up to the one that ends it.
theorem Ending.events_split (ending : Ending) : ∃ stages last, ending.events = stages ++ [last] ∧
    (∀ event ∈ stages, isLast event = false ∧ isNotice event = false) ∧ isLast last = true ∧ isNotice last = false := by
  cases ending with
  | answered result => exact ⟨_,_,rfl,stageEvents_kind result,rfl,rfl⟩
  | raised message => exact ⟨[],_,rfl,fun _ => nofun,rfl,rfl⟩
  | broken result sent message =>
    exact ⟨_,_,rfl,fun event present => stageEvents_kind result event (List.mem_of_mem_take present),rfl,rfl⟩

theorem Exchange.events_split (x : Exchange) : ∃ stages last, x.events = stages ++ [last] ∧
    (∀ event ∈ stages, isLast event = false ∧ isNotice event = false) ∧ isLast last = true ∧ isNotice last = false := by
  obtain ⟨stages,last,split,kinds,ends⟩ := x.ending.events_split
  refine ⟨x.acks.map .preflightAck ++ stages,last,by rw [Exchange.events,split,List.append_assoc],?_,ends⟩
  intro event present
  rcases List.mem_append.mp present with ack | stage
  · obtain ⟨text,_,rfl⟩ := List.mem_map.mp ack
    exact ⟨rfl,rfl⟩
  · exact kinds event stage

theorem events_plain (x : Exchange) : ∀ event ∈ x.events, isNotice event = false := by
  obtain ⟨stages,last,split,kinds,_,plain⟩ := x.events_split
  intro event present
  rw [split] at present
  rcases List.mem_append.mp present with stage | end_
  · exact (kinds event stage).2
  · rw [List.mem_singleton.mp end_]
    exact plain

theorem events_upto {x : Exchange} (split : x.events = sent ++ rest) (unfinished : rest ≠ []) :
    sent.all (fun event => !isLast event) = true := by
  obtain ⟨stages,last,whole,kinds,_⟩ := x.events_split
  obtain ⟨front,final,rfl⟩ := (List.eq_nil_or_concat rest).resolve_left unfinished
  rw [whole,List.concat_eq_append,← List.append_assoc] at split
  have same := (List.append_inj_left' split rfl)
  rw [List.all_eq_true]
  intro event present
  rw [(kinds event (same ▸ List.mem_append_left _ present)).1]
  rfl

theorem events_until (x : Exchange) : x.events.all (fun event => !isLast event) = false := by
  obtain ⟨stages,last,split,_,ends,_⟩ := x.events_split
  rw [split]
  simp [ends]

-- The dialogue of the hook and websocket_chat
def dialogue : Dialogue View String ChatFrame Exchange WsEvent where
  start := {}
  busy := View.isProcessing
  request := View.frame
  asking := View.asking
  handle := View.handle
  question := Exchange.frame
  frames := Exchange.events
  closes := closes
  notice := isNotice
  asking_busy _ _ := rfl
  notice_idle view event notice := by
    cases event with
    | hatEquipped name displayName => rfl
    | _ => cases notice
  frames_plain := events_plain
  busy_upto view x sent rest busy split unfinished := by
    rw [handled_processing,busy,events_upto split unfinished]
    rfl
  busy_until view x _ := by rw [handled_processing,events_until,Bool.and_false]

theorem handleEvent_view (client : Client) (event : WsEvent) : (client.handleEvent event).view = client.view.handle event := by
  cases event with
  | responseReady response =>
    simp [Client.handleEvent,Client.settle,Client.view,View.handle,View.settle,ChatMessage.entry,List.filter_map,
      Function.comp_def]
  | _ => simp [Client.handleEvent,Client.settle,Client.stage,Client.view,View.handle,View.settle,ChatMessage.entry,acked,failed]

theorem sendMessage_view (client : Client) (text : String) :
    (client.sendMessage text).view = client.view.asking (client.view.frame text) := by
  simp [Client.sendMessage,Client.view,View.asking,View.frame,ChatMessage.entry,asked]

theorem frame_view (client : Client) (text : String) : client.frame text = client.view.frame text := by
  simp [Client.frame,Client.view,View.frame,turns,ChatMessage.entry,turnOf,Function.comp_def]

@[simp] theorem choose_view (client : Client) (id : String) (approved : Bool) : (choose client id approved).view = client.view := by
  unfold choose
  split
  · simp only [Client.updateMessage,Client.view,List.map_map]
    congr 1
    refine List.map_congr_left fun m _ => ?_
    simp only [Function.comp]
    split <;> rfl
  · rfl

-- The system without what only the browser sees
def System.abstract (system : System) : HalfDuplex.System View ChatFrame Exchange WsEvent :=
  ⟨system.client.view,system.link,system.served,system.audited⟩

def Input.abstract (errorText : PyError → String) (trim : String → String) (system : System) :
    Input → HalfDuplex.Input String Exchange WsEvent
  | .connect => .connect
  | .accept hat => .accept (greeting hat)
  | .refuse => .refuse
  | .submit text => ((submitted trim system.client text).map .submit).getD .idle
  | .receive call => ((system.link.bind fun l => l.up.head?).map fun frame => .receive (serve errorText call frame)).getD .idle
  | .emit => .emit
  | .finish => .finish
  | .deliver => .deliver
  | .close => .close
  | .drop through => .drop through
  | .choose _ _ => .idle

section
variable {errorText : PyError → String} {trim : String → String} {system : System} {l : Link ChatFrame Exchange WsEvent}

theorem carried_dialogue (through : Bool) (phase : Phase Exchange WsEvent) :
    carried through phase = dialogue.carried through phase := by
  cases phase <;> rfl

theorem submit_abstract (linked : system.link = some l) (text : String) :
    (step errorText trim system (.submit text)).abstract =
      dialogue.step system.abstract ((Input.submit text).abstract errorText trim system) := by
  have abstracted : system.abstract.link = some l := linked
  unfold step Input.abstract Dialogue.step
  rw [linked,abstracted]
  dsimp only
  cases submits : submitted trim system.client text with
  | none => rfl
  | some sent =>
    have idle : system.client.isProcessing = false := by
      unfold submitted at submits
      split at submits
      · cases submits
      · next open_ => simp at open_; exact open_.2
    dsimp only [Option.map_some,Option.getD_some]
    rw [if_neg (by rw [Bool.not_eq_true]; exact idle)]
    simp only [System.abstract,Dialogue.submit,sendMessage_view,frame_view]
    rfl

theorem receive_abstract (linked : system.link = some l) (call : Call) :
    (step errorText trim system (.receive call)).abstract =
      dialogue.step system.abstract ((Input.receive call).abstract errorText trim system) := by
  have abstracted : system.abstract.link = some l := linked
  obtain ⟨up,down,phase⟩ := l
  unfold step Input.abstract Dialogue.step
  rw [linked,abstracted]
  cases up with
  | nil => cases phase <;> rfl
  | cons frame up =>
    cases phase with
    | waiting =>
      dsimp only [Option.bind_some,List.head?_cons,Option.map_some,Option.getD_some,Dialogue.receive]
      rw [if_pos (show dialogue.question (serve errorText call frame) = frame from rfl)]
      rfl
    | _ => rfl

theorem deliver_abstract (linked : system.link = some l) :
    (step errorText trim system .deliver).abstract =
      dialogue.step system.abstract (Input.deliver.abstract errorText trim system) := by
  have abstracted : system.abstract.link = some l := linked
  obtain ⟨up,down,phase⟩ := l
  unfold step Input.abstract Dialogue.step
  rw [linked,abstracted]
  cases down with
  | nil => rfl
  | cons event down => exact congrArg (HalfDuplex.System.mk · _ _ _) (handleEvent_view _ _)

theorem accept_abstract (linked : system.link = some l) (hat : Option (String × String)) :
    (step errorText trim system (.accept hat)).abstract =
      dialogue.step system.abstract ((Input.accept hat).abstract errorText trim system) := by
  have abstracted : system.abstract.link = some l := linked
  have listed : (greeting hat).all dialogue.notice = true := by cases hat <;> rfl
  obtain ⟨up,down,phase⟩ := l
  unfold step Input.abstract Dialogue.step
  rw [linked,abstracted]
  dsimp only
  rw [if_pos listed]
  cases phase <;> rfl

theorem refuse_abstract (linked : system.link = some l) :
    (step errorText trim system .refuse).abstract =
      dialogue.step system.abstract (Input.refuse.abstract errorText trim system) := by
  have abstracted : system.abstract.link = some l := linked
  obtain ⟨up,down,phase⟩ := l
  unfold step Input.abstract Dialogue.step
  rw [linked,abstracted]
  cases phase with
  | opening => simp [System.abstract,Dialogue.opened]
  | _ => rfl

-- The ends of the exchanges: what the server writes, and what is left of a connection
theorem ends_abstract (linked : system.link = some l) (through : Bool) :
    (step errorText trim system .emit).abstract = dialogue.step system.abstract .emit ∧
    (step errorText trim system .finish).abstract = dialogue.step system.abstract .finish ∧
    (step errorText trim system .close).abstract = dialogue.step system.abstract .close ∧
    (step errorText trim system (.drop through)).abstract = dialogue.step system.abstract (.drop through) := by
  have abstracted : system.abstract.link = some l := linked
  obtain ⟨up,down,phase⟩ := l
  unfold step Dialogue.step
  rw [linked,abstracted]
  refine ⟨?_,?_,?_,?_⟩
  · cases phase with
    | working x pending => cases pending <;> rfl
    | _ => rfl
  · cases phase with
    | working x pending =>
      cases pending with
      | nil =>
        dsimp only [Dialogue.finish]
        cases ends : closes x with
        | true => rw [if_pos rfl,if_pos (show dialogue.closes x = true from ends)]; rfl
        | false => rw [if_neg nofun,if_neg (show ¬dialogue.closes x = true from Bool.eq_false_iff.mp ends)]; rfl
      | cons event pending => rfl
    | _ => rfl
  · cases phase with
    | closed => cases down <;> rfl
    | _ => rfl
  · dsimp only
    rw [← carried_dialogue]
    rfl

-- One step of the two parties is one step of the dialogue.
theorem step_abstract (system : System) (input : Input) :
    (step errorText trim system input).abstract =
      dialogue.step system.abstract (input.abstract errorText trim system) := by
  cases linked : system.link with
  | none =>
    have abstracted : system.abstract.link = none := linked
    unfold step Dialogue.step
    rw [linked,abstracted]
    cases input with
    | choose id approved => simp [System.abstract,Input.abstract,linked]
    | submit text =>
      dsimp only [Input.abstract]
      cases submitted trim system.client text <;> rfl
    | receive call =>
      dsimp only [Input.abstract]
      rw [linked]
      rfl
    | _ => rfl
  | some l =>
    have abstracted : system.abstract.link = some l := linked
    cases input with
    | connect => simp [step,Input.abstract,Dialogue.step,linked,abstracted]
    | accept hat => exact accept_abstract linked hat
    | refuse => exact refuse_abstract linked
    | submit text => exact submit_abstract linked text
    | receive call => exact receive_abstract linked call
    | deliver => exact deliver_abstract linked
    | choose id approved => simp [step,Input.abstract,Dialogue.step,System.abstract,linked]
    | emit => exact (ends_abstract linked true).1
    | finish => exact (ends_abstract linked true).2.1
    | close => exact (ends_abstract linked true).2.2.1
    | drop through => exact (ends_abstract linked through).2.2.2

theorem step_kept (system : System) (input : Input) (kept : dialogue.Kept system.abstract) :
    dialogue.Kept (step errorText trim system input).abstract := by
  rw [step_abstract]
  exact Dialogue.step_kept _ _ kept

theorem run_kept (inputs : List Input) : dialogue.Kept (after (step errorText trim) {} inputs).abstract :=
  invariant step_kept Dialogue.initial_kept

end

-- The trace of a whole result, and the message that shows it
def traceOf (result : PipelineResult) : PipelineTrace where
  intent := some result.intent
  proposals := result.proposal.candidates
  trees := result.consequenceTrees.map treeToDict
  evaluations := result.evaluationResults
  risk := some (classificationToDict result.riskClassification)
  execution := some (executionToDict result.execution)

def answer (result : PipelineResult) : Entry where
  role := .assistant
  content := result.response
  trace := some (traceOf result)
  tier := some result.riskClassification.tier

-- What one exchange leaves of the messages before it. Only an answer takes the acknowledgements away.
def converse (before : List Entry) (x : Exchange) : List Entry :=
  match x.ending with
  | .answered result => (before ++ [asked x.frame.message]).filter (fun entry => !entry.isAck) ++ [answer result]
  | .raised message | .broken _ _ message => before ++ [asked x.frame.message] ++ x.acks.map acked ++ [failed message]

def conversation (served : List Exchange) : List Entry := served.foldl converse []

theorem handled_acks (view : View) (acks : List String) :
    after View.handle view (acks.map .preflightAck) = {view with entries := view.entries ++ acks.map acked} := by
  induction acks generalizing view with
  | nil => simp
  | cons ack acks ih => rw [List.map_cons,after_cons,ih]; simp [View.handle]

theorem handled_evaluations (view : View) (results : List Evaluators.EvaluatorResult) :
    after View.handle view (results.map .evaluatorComplete) =
      {view with trace := {view.trace with evaluations := view.trace.evaluations ++ results}} := by
  induction results generalizing view with
  | nil => simp
  | cons result results ih => rw [List.map_cons,after_cons,ih]; simp [View.handle]

-- The stages of a result fill an empty trace.
theorem handled_stages (entries : List Entry) (result : PipelineResult) :
    after View.handle ⟨entries,{},true⟩ (stageEvents result) = ⟨entries,traceOf result,true⟩ := by
  rw [stageEvents,after_append,after_append,handled_evaluations]
  rfl

-- The stages up to any point change no message.
theorem handled_entries (view : View) {events : List WsEvent}
    (stages : ∀ event ∈ events, isLast event = false ∧ ∀ message, event ≠ .preflightAck message) :
    (after View.handle view events).entries = view.entries := by
  induction events generalizing view with
  | nil => rfl
  | cons event events ih =>
    obtain ⟨stage,quiet⟩ := stages event List.mem_cons_self
    rw [after_cons,ih _ fun later present => stages later (List.mem_cons_of_mem _ present)]
    cases event with
    | preflightAck message => exact absurd rfl (quiet message)
    | responseReady response => cases stage
    | error message => cases stage
    | _ => rfl

theorem stageEvents_quiet (result : PipelineResult) :
    ∀ event ∈ stageEvents result, isLast event = false ∧ ∀ message, event ≠ .preflightAck message := by
  intro event present
  refine ⟨(stageEvents_kind result event present).1,fun message acks => ?_⟩
  subst acks
  simp [stageEvents] at present

theorem filtered_acks (acks : List String) : (acks.map acked).filter (fun entry => !entry.isAck) = [] := by
  simp [acked,List.filter_eq_nil_iff]

theorem handled_exchange (entries : List Entry) (x : Exchange) :
    after View.handle ⟨entries ++ [asked x.frame.message],{},true⟩ x.events = {entries := converse entries x} := by
  rw [Exchange.events,after_append,handled_acks]
  unfold converse
  cases x.ending with
  | answered result =>
    dsimp only
    rw [Ending.events,after_append,handled_stages]
    simp only [after_cons,after_nil,View.handle,View.settle,List.filter_append,filtered_acks,List.append_nil]
    rfl
  | raised message => rfl
  | broken result sent message =>
    dsimp only
    rw [Ending.events,after_append,after_cons,after_nil]
    have quiet : ∀ event ∈ (stageEvents result).take sent, isLast event = false ∧ ∀ message, event ≠ .preflightAck message :=
      fun event present => stageEvents_quiet result event (List.mem_of_mem_take present)
    rw [View.handle,handled_entries _ quiet]
    rfl

theorem sequel_conversation (served : List Exchange) : dialogue.sequel served = {entries := conversation served} := by
  induction served using List.reverseRecOn with
  | nil => rfl
  | append_singleton served x ih =>
    rw [Dialogue.sequel_last,ih]
    change after View.handle ⟨conversation served ++ [asked x.frame.message],{},true⟩ x.events = _
    rw [handled_exchange,conversation,conversation,List.foldl_append]
    rfl

-- The answer that an exchange is to show
def answerOf (x : Exchange) : Option Entry := match x.ending with
  | .answered result => some (answer result)
  | _ => none

def traced (entries : List Entry) : List Entry := entries.filter fun entry => entry.trace.isSome

-- Acknowledgements are plain messages of the assistant.
def Acks (entries : List Entry) : Prop := ∀ entry ∈ entries, entry.isAck = true → entry.role = .assistant ∧ entry.trace = none

theorem Acks.traced {entries : List Entry} (acks : Acks entries) :
    traced (entries.filter fun entry => !entry.isAck) = traced entries := by
  rw [Chat.traced,Chat.traced,List.filter_filter]
  refine List.filter_congr fun entry present => ?_
  cases ack : entry.isAck with
  | true => simp [(acks entry present ack).2]
  | false => simp

theorem Acks.append {entries more : List Entry} (acks : Acks entries) (others : Acks more) : Acks (entries ++ more) := by
  intro entry present
  exact (List.mem_append.mp present).elim (acks entry) (others entry)

theorem acks_plain {entry : Entry} (plain : entry.isAck = false) : Acks [entry] := by
  intro other present ack
  rw [List.mem_singleton.mp present,plain] at ack
  cases ack

theorem acks_acked (messages : List String) : Acks (messages.map acked) := by
  intro entry present _
  obtain ⟨message,_,rfl⟩ := List.mem_map.mp present
  exact ⟨rfl,rfl⟩

theorem Acks.converse {before : List Entry} (acks : Acks before) (x : Exchange) : Acks (converse before x) := by
  have question := acks.append (acks_plain (show (asked x.frame.message).isAck = false from rfl))
  unfold Chat.converse
  cases x.ending with
  | answered result =>
    refine Acks.append (fun entry present => question entry (List.mem_of_mem_filter present)) (acks_plain rfl)
  | raised message => exact (question.append (acks_acked _)).append (acks_plain rfl)
  | broken result sent message => exact (question.append (acks_acked _)).append (acks_plain rfl)

theorem traced_append (entries more : List Entry) : traced (entries ++ more) = traced entries ++ traced more :=
  List.filter_append ..

theorem traced_acked (messages : List String) : traced (messages.map acked) = [] := by
  simp [traced,acked,List.filter_eq_nil_iff]

theorem Acks.converse_traced {before : List Entry} (acks : Acks before) (x : Exchange) :
    Chat.traced (Chat.converse before x) = Chat.traced before ++ (answerOf x).toList := by
  have question := acks.append (acks_plain (show (asked x.frame.message).isAck = false from rfl))
  unfold Chat.converse answerOf
  cases x.ending with
  | answered result =>
    dsimp only
    rw [traced_append,question.traced,traced_append]
    exact congrArg (· ++ _) (List.append_nil _)
  | raised message =>
    dsimp only
    rw [traced_append,traced_append,traced_append,traced_acked]
    simp [Chat.traced,asked,failed]
  | broken result sent message =>
    dsimp only
    rw [traced_append,traced_append,traced_append,traced_acked]
    simp [Chat.traced,asked,failed]

theorem conversation_last (served : List Exchange) (x : Exchange) :
    conversation (served ++ [x]) = converse (conversation served) x := List.foldl_append

theorem conversation_acks (served : List Exchange) : Acks (conversation served) := by
  induction served using List.reverseRecOn with
  | nil => exact fun _ => nofun
  | append_singleton served x ih =>
    rw [conversation_last]
    exact ih.converse x

theorem conversation_traced (served : List Exchange) : traced (conversation served) = served.filterMap answerOf := by
  induction served using List.reverseRecOn with
  | nil => rfl
  | append_singleton served x ih =>
    rw [conversation_last,(conversation_acks served).converse_traced,ih,List.filterMap_append]
    cases shows : answerOf x <;> simp [shows]

-- Up to the last event of an exchange a client hears acknowledgements only.
theorem handled_upto (view : View) {events : List WsEvent} (upto : events.all (fun event => !isLast event) = true) :
    ∃ acks : List String, (after View.handle view events).entries = view.entries ++ acks.map acked := by
  induction events generalizing view with
  | nil => exact ⟨[],(List.append_nil _).symm⟩
  | cons event events ih =>
    rw [List.all_cons,Bool.and_eq_true] at upto
    obtain ⟨acks,heard⟩ := ih (view.handle event) upto.2
    rw [after_cons,heard]
    cases event with
    | preflightAck message => exact ⟨message :: acks,by simp [View.handle]⟩
    | responseReady response => cases upto.1
    | error message => cases upto.1
    | _ => exact ⟨acks,rfl⟩

-- A client shows the conversation so far, and of the exchange it waits for the question and acknowledgements.
def Awaited (said : List Entry) : Prop := said = [] ∨ ∃ (message : String) (acks : List String), said = asked message :: acks.map acked

theorem kept_entries {s : HalfDuplex.System View ChatFrame Exchange WsEvent} (kept : dialogue.Kept s) :
    ∃ settled rest said, s.served = settled ++ rest ∧ rest.length ≤ 1 ∧ s.view.entries = conversation settled ++ said ∧
      Awaited said := by
  rcases kept.hears with rests | ⟨text,asks⟩ | ⟨earlier,x,sent,rest,split,events,unfinished,hears⟩
  · exact ⟨s.served,[],[],(List.append_nil _).symm,Nat.zero_le _,by rw [rests,sequel_conversation,List.append_nil],.inl rfl⟩
  · refine ⟨s.served,[],[asked text],(List.append_nil _).symm,Nat.zero_le _,?_,.inr ⟨text,[],rfl⟩⟩
    rw [asks,sequel_conversation]
    rfl
  · obtain ⟨acks,heard⟩ := handled_upto (View.asking (dialogue.sequel earlier) x.frame) (events_upto events unfinished)
    refine ⟨earlier,[x],asked x.frame.message :: acks.map acked,split,Nat.le_refl _,?_,.inr ⟨_,acks,rfl⟩⟩
    rw [hears]
    refine heard.trans ?_
    rw [sequel_conversation]
    exact List.append_assoc ..

theorem kept_traced {s : HalfDuplex.System View ChatFrame Exchange WsEvent} (kept : dialogue.Kept s) :
    ∃ settled rest, s.served = settled ++ rest ∧ traced s.view.entries = settled.filterMap answerOf := by
  obtain ⟨settled,rest,said,split,_,entries,awaited⟩ := kept_entries kept
  refine ⟨settled,rest,split,?_⟩
  rw [entries,traced_append,conversation_traced]
  rcases awaited with rfl | ⟨message,acks,rfl⟩
  · exact List.append_nil _
  · rw [List.append_right_eq_self]
    exact traced_acked acks

end Sophia.Chat
