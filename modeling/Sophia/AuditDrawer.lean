import Sophia.ChatMessages

namespace Sophia.Chat
open StepRun HalfDuplex RiskClassifier AgentLoop

-- The entries of useAuditLog without their timestamps
structure AuditEntry where
  id : String
  userMessage : String
  response : String
  tier : Option Tier
  trace : PipelineTrace

def addEntry (entries : List AuditEntry) (userMsg assistantMsg : ChatMessage) : List AuditEntry :=
  match assistantMsg.trace with
  | none => entries
  | some trace => entries ++ [⟨assistantMsg.id,userMsg.content,assistantMsg.content,assistantMsg.tier,trace⟩]

structure App where
  system : System := {}
  entries : List AuditEntry := []
  prevCount : Nat := 0

inductive AppInput where
  | input (input : Input)
  | render

def App.messages (app : App) : List ChatMessage := app.system.client.messages

-- The user message that preceded the newest
def preceding (messages : List ChatMessage) : Option ChatMessage := messages.dropLast.reverse.find? fun m => m.role = .user

-- The effect of App on the messages. It runs some time after they change.
def effect (app : App) : App :=
  let entries := if app.prevCount < app.messages.length then
      match app.messages.getLast?,preceding app.messages with
      | some newest,some userMsg => if newest.role = .assistant then addEntry app.entries userMsg newest else app.entries
      | _,_ => app.entries
    else app.entries
  {app with entries,prevCount := app.messages.length}

def appStep (errorText : PyError → String) (trim : String → String) (app : App) : AppInput → App
  | .input input => {app with system := step errorText trim app.system input}
  | .render => effect app

-- Questions and what is made of the answers, in a list of both
section
variable {α β γ δ : Type} (user : α → Option String) (made : String → α → Option β)

def note (noted : Option String × List β) (a : α) : Option String × List β :=
  match user a with
  | some question => (some question,noted.2)
  | none => (noted.1,noted.2 ++ (noted.1.bind fun question => made question a).toList)

def notes (as : List α) : Option String × List β := after (note user made) (none,[]) as

variable {user made} {as : List α}

theorem notes_last (a : α) : notes user made (as ++ [a]) = note user made (notes user made as) a := after_last

theorem note_grows (noted : Option String × List β) (a : α) : noted.2 <+: (note user made noted a).2 := by
  unfold note
  split
  · exact List.prefix_refl _
  · exact List.prefix_append ..

-- What is neither a question nor of use for an answer may be left out.
theorem notes_filter (keep : α → Bool)
    (silent : ∀ a ∈ as, keep a = false → user a = none ∧ ∀ question, made question a = none) :
    notes user made (as.filter keep) = notes user made as := by
  induction as using List.reverseRecOn with
  | nil => rfl
  | append_singleton as a ih =>
    have before := ih fun other present => silent other (List.mem_append_left _ present)
    rw [List.filter_append,notes_last,List.filter_cons]
    cases kept : keep a with
    | true => rw [if_pos rfl,List.filter_nil,notes_last,before]
    | false =>
      obtain ⟨plain,nothing⟩ := silent a (List.mem_append_right _ List.mem_cons_self) kept
      rw [if_neg nofun,List.filter_nil,List.append_nil,before,note,plain]
      simp [nothing]

theorem notes_map {user' : γ → Option String} {made' : String → γ → Option δ} (f : γ → α) (g : δ → β)
    (users : ∀ c, user (f c) = user' c) (mades : ∀ question c, made question (f c) = (made' question c).map g) (cs : List γ) :
    notes user made (cs.map f) = ((notes user' made' cs).1,(notes user' made' cs).2.map g) := by
  induction cs using List.reverseRecOn with
  | nil => rfl
  | append_singleton cs c ih =>
    rw [List.map_append,List.map_singleton,notes_last,notes_last,ih]
    unfold note
    rw [users]
    cases user' c with
    | some question => rfl
    | none =>
      simp only [mades]
      cases (notes user' made' cs).1 with
      | none => simp
      | some question => cases answers : made' question c <;> simp [answers]

theorem notes_question : (notes user made as).1 = as.reverse.findSome? user := by
  induction as using List.reverseRecOn with
  | nil => rfl
  | append_singleton as a ih =>
    rw [notes_last,List.reverse_append,List.reverse_singleton,List.singleton_append,List.findSome?_cons,note]
    cases user a with
    | some question => rfl
    | none => exact ih

end

-- The entry of an answer, with the words of the user before it
def userText (m : ChatMessage) : Option String := if m.role = .user then some m.content else none
def entryOf (question : String) (m : ChatMessage) : Option AuditEntry :=
  m.trace.map fun trace => ⟨m.id,question,m.content,m.tier,trace⟩

def logged (messages : List ChatMessage) : List AuditEntry := (notes userText entryOf messages).2

theorem preceding_question (messages : List ChatMessage) :
    (preceding messages).map ChatMessage.content = (notes userText entryOf messages.dropLast).1 := by
  rw [notes_question,preceding]
  induction messages.dropLast.reverse with
  | nil => rfl
  | cons m others ih =>
    rw [List.find?_cons,List.findSome?_cons]
    by_cases own : m.role = .user
    · simp [own,userText]
    · simp only [own,decide_false,userText,if_false]
      exact ih

-- The drawer has the entries of the messages but the newest, or of all that the effect has seen.
def Drawn (app : App) : Prop :=
  app.entries.Sublist (logged app.messages.dropLast) ∨ app.entries.Sublist (logged app.messages) ∧ app.prevCount = app.messages.length

theorem logged_grows (messages : List ChatMessage) (m : ChatMessage) : logged messages <+: logged (messages ++ [m]) := by
  rw [logged,logged,notes_last]
  exact note_grows _ _

theorem logged_dropLast (messages : List ChatMessage) : (logged messages.dropLast).Sublist (logged messages) := by
  induction messages using List.reverseRecOn with
  | nil => exact List.Sublist.refl _
  | append_singleton messages m _ =>
    rw [List.dropLast_concat]
    exact (logged_grows messages m).sublist

theorem Drawn.all {app : App} (drawn : Drawn app) : app.entries.Sublist (logged app.messages) := by
  rcases drawn with recent | ⟨seen,_⟩
  · exact recent.trans (logged_dropLast _)
  · exact seen

theorem effect_drawn {app : App} (drawn : Drawn app) : Drawn (effect app) := by
  right
  refine ⟨?_,rfl⟩
  change (effect app).entries.Sublist (logged app.messages)
  unfold effect
  dsimp only
  split
  · next longer =>
    have recent : app.entries.Sublist (logged app.messages.dropLast) := by
      rcases drawn with recent | ⟨_,same⟩
      · exact recent
      · omega
    split
    · next newest userMsg last before =>
      split
      · next assistant =>
        have question : (notes userText entryOf app.messages.dropLast).1 = some userMsg.content := by
          rw [← preceding_question,before]
          rfl
        have whole : app.messages = app.messages.dropLast ++ [newest] := (List.dropLast_append_getLast? newest last).symm
        have noted : logged app.messages = logged app.messages.dropLast ++ (entryOf userMsg.content newest).toList := by
          conv_lhs => rw [whole]
          rw [logged,notes_last,note,userText,if_neg (by rw [assistant]; nofun),question]
          rfl
        rw [noted,addEntry]
        unfold entryOf
        split
        · next untraced => simpa [untraced] using recent
        · next trace traced => simpa [traced] using recent
      · exact recent.trans (logged_dropLast _)
    · exact recent.trans (logged_dropLast _)
  · exact drawn.all

-- Answers, but for their ids, among the entries of a conversation
def askedText (entry : Entry) : Option String := if entry.role = .user then some entry.content else none
def shownOf (question : String) (entry : Entry) : Option (String × String × Option Tier × PipelineTrace) :=
  entry.trace.map fun trace => (question,entry.content,entry.tier,trace)

def AuditEntry.plain (entry : AuditEntry) : String × String × Option Tier × PipelineTrace :=
  (entry.userMessage,entry.response,entry.tier,entry.trace)

-- What the exchanges are to leave in the drawer
def loggedOf (x : Exchange) : Option (String × String × Option Tier × PipelineTrace) := match x.ending with
  | .answered result => some (x.frame.message,result.response,some result.riskClassification.tier,traceOf result)
  | _ => none

abbrev shown (entries : List Entry) := notes askedText shownOf entries

theorem logged_shown (messages : List ChatMessage) :
    (logged messages).map AuditEntry.plain = (shown (messages.map ChatMessage.entry)).2 := by
  rw [shown,notes_map ChatMessage.entry AuditEntry.plain (fun _ => rfl) fun question m => ?_]
  · rfl
  · unfold shownOf entryOf
    rw [Option.map_map]
    rfl

theorem shown_asked (entries : List Entry) (message : String) :
    shown (entries ++ [asked message]) = (some message,(shown entries).2) := notes_last _

theorem shown_acked (entries : List Entry) (acks : List String) : shown (entries ++ acks.map acked) = shown entries := by
  induction acks using List.reverseRecOn with
  | nil => rw [List.map_nil,List.append_nil]
  | append_singleton acks ack ih =>
    rw [List.map_append,← List.append_assoc,List.map_singleton,shown,notes_last,← shown,ih]
    simp [note,askedText,acked,shownOf]

theorem shown_failed (entries : List Entry) (message : String) : shown (entries ++ [failed message]) = shown entries := by
  rw [shown,notes_last]
  simp [note,askedText,failed,shownOf]

theorem Acks.shown {entries : List Entry} (acks : Acks entries) :
    Chat.shown (entries.filter fun entry => !entry.isAck) = Chat.shown entries := by
  refine notes_filter _ fun entry present ack => ?_
  obtain ⟨role,trace⟩ := acks entry present (by simpa using ack)
  exact ⟨by rw [askedText,role]; rfl,fun question => by rw [shownOf,trace]; rfl⟩

theorem shown_converse {before : List Entry} (acks : Acks before) (x : Exchange) :
    (shown (converse before x)).2 = (shown before).2 ++ (loggedOf x).toList := by
  have question := acks.append (acks_plain (show (asked x.frame.message).isAck = false from rfl))
  unfold converse loggedOf
  cases x.ending with
  | answered result =>
    dsimp only
    rw [shown,notes_last,← shown,question.shown,shown_asked]
    rfl
  | raised message =>
    dsimp only
    rw [shown_failed,shown_acked,shown_asked,Option.toList_none,List.append_nil]
  | broken result sent message =>
    dsimp only
    rw [shown_failed,shown_acked,shown_asked,Option.toList_none,List.append_nil]

theorem shown_conversation (served : List Exchange) : (shown (conversation served)).2 = served.filterMap loggedOf := by
  induction served using List.reverseRecOn with
  | nil => rfl
  | append_singleton served x ih =>
    rw [conversation_last,shown_converse (conversation_acks served),ih,List.filterMap_append]
    cases logs : loggedOf x <;> simp [logs]

theorem kept_shown {s : HalfDuplex.System View ChatFrame Exchange WsEvent} (kept : dialogue.Kept s) :
    ∃ settled rest, s.served = settled ++ rest ∧ (shown s.view.entries).2 = settled.filterMap loggedOf := by
  obtain ⟨settled,rest,said,split,_,entries,awaited⟩ := kept_entries kept
  refine ⟨settled,rest,split,?_⟩
  rw [entries,← shown_conversation]
  rcases awaited with rfl | ⟨message,acks,rfl⟩
  · rw [List.append_nil]
  · rw [List.append_cons,shown_acked,shown_asked]

theorem choose_logged (client : Client) (id : String) (approved : Bool) :
    ∃ f : ChatMessage → ChatMessage, (choose client id approved).messages = client.messages.map f ∧
      ∀ messages : List ChatMessage, logged (messages.map f) = logged messages := by
  unfold choose
  split
  · refine ⟨_,rfl,fun messages => ?_⟩
    rw [logged,notes_map _ (fun entry => entry) (fun m => ?_) fun question m => ?_]
    · exact List.map_id' _
    · split <;> rfl
    · rw [Option.map_id']
      split <;> rfl
  · exact ⟨fun m => m,(List.map_id' _).symm,fun messages => by rw [List.map_id']⟩

theorem logged_ids (messages : List ChatMessage) :
    ((logged messages).map AuditEntry.id).Sublist (messages.map ChatMessage.id) := by
  induction messages using List.reverseRecOn with
  | nil => exact List.Sublist.refl _
  | append_singleton messages m ih =>
    rw [logged,notes_last,note,List.map_append,List.map_singleton]
    split
    · exact ih.trans (List.sublist_append_left ..)
    · rw [List.map_append]
      refine ih.append ?_
      cases (notes userText entryOf messages).1 with
      | none => exact List.nil_sublist _
      | some question =>
        unfold entryOf
        cases m.trace <;> simp

theorem Edit.drawn {app : App} {system : System} (edit : Edit app.system.client system.client) (tidy : Tidy app.system.client)
    (drawn : Drawn app) : Drawn {app with system} := by
  cases edit with
  | unchanged messages nextId =>
    unfold Drawn App.messages
    dsimp only
    rw [messages]
    exact drawn
  | said m fresh messages nextId =>
    left
    unfold App.messages
    dsimp only
    rw [messages,List.dropLast_concat]
    exact drawn.all
  | answered m fresh own messages nextId =>
    left
    unfold App.messages
    dsimp only
    have silent : logged (app.system.client.messages.filter fun m => !m.isAck) = logged app.system.client.messages := by
      refine congrArg Prod.snd (notes_filter _ fun m present ack => ?_)
      obtain ⟨role,trace⟩ := tidy.plain m present (by simpa using ack)
      exact ⟨by rw [userText,role]; rfl,fun question => by rw [entryOf,trace]; rfl⟩
    rw [messages,List.dropLast_concat,silent]
    exact drawn.all
  | chosen id approved chooses =>
    obtain ⟨f,messages,same⟩ := choose_logged app.system.client id approved
    unfold Drawn App.messages
    dsimp only
    rw [chooses,messages,← List.map_dropLast,same,same,List.length_map]
    exact drawn

section
variable (errorText : PyError → String) (trim : String → String)

theorem appStep_kept (app : App) (input : AppInput) (kept : Tidy app.system.client ∧ Drawn app) :
    Tidy (appStep errorText trim app input).system.client ∧ Drawn (appStep errorText trim app input) := by
  obtain ⟨tidy,drawn⟩ := kept
  cases input with
  | input input => exact ⟨step_tidy _ _ tidy,(step_parts app.system input).1.drawn tidy drawn⟩
  | render => exact ⟨tidy,effect_drawn drawn⟩

def inputOf : AppInput → Option Input
  | .input input => some input
  | .render => none

theorem app_system (app : App) (inputs : List AppInput) :
    (after (appStep errorText trim) app inputs).system = after (step errorText trim) app.system (inputs.filterMap inputOf) := by
  induction inputs generalizing app with
  | nil => rfl
  | cons input inputs ih =>
    rw [after_cons,ih]
    cases input <;> rfl

-- Whenever the effect runs, the drawer shows answers of the pipeline, each once, in their order,
-- beside the message that it answered and with the trace of its own run.
theorem drawer_faithful (inputs : List AppInput) :
    let app := after (appStep errorText trim) {} inputs
    (app.entries.map AuditEntry.plain).Sublist (app.system.served.filterMap loggedOf) ∧
      (app.entries.map AuditEntry.id).Nodup := by
  intro app
  have kept : Tidy app.system.client ∧ Drawn app :=
    invariant (I := fun app : App => Tidy app.system.client ∧ Drawn app) (appStep_kept errorText trim)
      ⟨initial_tidy,.inl (List.Sublist.refl _)⟩
  have system : app.system = after (step errorText trim) {} (inputs.filterMap inputOf) := app_system errorText trim {} inputs
  have run : dialogue.Kept app.system.abstract := by
    rw [system]
    exact run_kept _
  obtain ⟨settled,rest,split,shows⟩ := kept_shown run
  constructor
  · have served : app.system.served = settled ++ rest := split
    have drawn := kept.2.all.map AuditEntry.plain
    rw [logged_shown,show (shown (app.messages.map ChatMessage.entry)).2 = _ from shows] at drawn
    rw [served,List.filterMap_append]
    exact drawn.trans (List.sublist_append_left ..)
  · exact kept.1.distinct.sublist ((kept.2.all.map AuditEntry.id).trans (logged_ids _))

end

end Sophia.Chat
