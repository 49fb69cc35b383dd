import Sophia.ChatMessages
import Sophia.TierFloors

namespace Sophia.AgentLoop
open TracedRun Consequence ConsequenceEngine RiskClassifier EscalationGate RiskFloor

section
variable {agent : Agent} {env : Environment} {request : Request} {cache : Cache} {prepared : Prepared} {hat : HatConfig}

-- The trigger that decides a conversation: the message's own, else that of the earliest of the user's turns with one
def decidingTrigger (runtime : Runtime) (constraints : Constraints) (texts : List String) : Option String :=
  texts.findSome? (firstMatch runtime constraints)

-- What a result owes to the trigger that decides. A refusal by a tool's floor does not name it.
structure Escalated (constraints : Constraints) (deciding : Option String) (result : PipelineResult) : Prop where
  named : result.riskFloorShortCircuit = true ∧ result.riskClassification.tier = .red ∨
    result.escalationTriggerMatched = deciding
  floor : ∀ trigger tier, deciding = some trigger → Tier.ofName? (getTriggerMinTier trigger constraints) = some tier →
    result.proposal.candidates ≠ [] → result.bypassed = false ∧ tier ≤ result.riskClassification.tier ∧
      tier ≤ result.execution.riskTier

theorem matched_deciding (runtime : Runtime) (message : String) (constraints : Constraints) (history : List Turn) :
    (checkEscalationTriggers runtime message constraints history).matchedTrigger =
      decidingTrigger runtime constraints (texts message history) := by
  rw [check_texts,decidingTrigger]
  cases (texts message history).findSome? (firstMatch runtime constraints) <;> rfl

theorem triggered_deciding (found : decidingTrigger runtime constraints (texts message history) = some trigger) :
    (checkEscalationTriggers runtime message constraints history).triggered = true ∧
      (checkEscalationTriggers runtime message constraints history).minTier = getTriggerMinTier trigger constraints := by
  rw [decidingTrigger] at found
  rw [check_texts,found]
  exact ⟨rfl,rfl⟩

-- The run that a result came by: the refusal, the defensive exit or the last steps of the panel
theorem route_ways (returned : (route agent env request prepared cache).value = .ok result) :
    (shortCircuit agent env request prepared cache).value = .ok result ∨
      (∃ top, (defensive agent env request prepared top cache).value = .ok result) ∨
      ∃ floor judged state, (conclude agent env request prepared floor judged state).value = .ok result := by
  unfold route at returned
  by_cases red : getProposalFloor prepared.proposal.candidates agent.registry = some .red
  · rw [if_pos red] at returned
    exact .inl returned
  rw [if_neg red] at returned
  cases shape : defensiveTop prepared.proposal with
  | some top =>
    rw [shape] at returned
    exact .inr (.inl ⟨top,returned⟩)
  | none =>
    rw [shape] at returned
    obtain ⟨judged,_,concluded⟩ := bind_returns.mp returned
    exact .inr (.inr ⟨_,judged,_,concluded⟩)

theorem route_matched (returned : (route agent env request prepared cache).value = .ok result) :
    result.riskFloorShortCircuit = true ∧ result.riskClassification.tier = .red ∨
      result.escalationTriggerMatched = prepared.escalation.matchedTrigger := by
  rcases route_ways returned with refused | ⟨top,defended⟩ | ⟨floor,judged,_,concluded⟩
  · obtain ⟨response,_,refused⟩ := bind_returns.mp refused
    obtain ⟨_,_,refused⟩ := bind_returns.mp refused
    cases refused
    exact .inl ⟨rfl,rfl⟩
  · obtain ⟨inner,_,defended⟩ := bind_returns.mp defended
    cases defended
    exact .inr rfl
  · exact .inr (conclude_parts concluded).trigger

theorem process_escalated (equipped : agent.hat = some hat) (returned : (process agent env request cache).value = .ok result) :
    Escalated hat.constraints (decidingTrigger agent.runtime hat.constraints
      (texts request.message request.conversationHistory)) result := by
  obtain ⟨prepared,prepares,ready,exit⟩ := process_exit returned
  obtain rfl := ready.worn equipped
  obtain ⟨again,same,routed⟩ := bind_returns.mp returned
  cases prepares.symm.trans same
  constructor
  · rw [← matched_deciding,← escalationOf,← ready.escalation]
    exact route_matched routed
  · intro trigger tier deciding severity some_
    obtain ⟨fired,least⟩ := triggered_deciding deciding
    rw [← escalationOf,← ready.escalation] at fired least
    rw [exit.proposal] at some_
    rw [exit.sameTier]
    obtain ⟨notBypassed,reached⟩ := exit.escalated some_ fired (least ▸ severity)
    exact ⟨notBypassed,reached,reached⟩

end
end Sophia.AgentLoop

namespace Sophia.Chat
open StepRun HalfDuplex RiskClassifier AgentLoop EscalationGate

theorem userTexts_turns (entries : List Entry) :
    userTexts (turns entries) = (entries.filter fun entry => entry.role.name == "user").map Entry.content := by
  simp [userTexts,turns,List.filter_map,Function.comp_def]

theorem userTexts_acks {entries : List Entry} (acks : Acks entries) :
    userTexts (turns (entries.filter fun entry => !entry.isAck)) = userTexts (turns entries) := by
  rw [userTexts_turns,userTexts_turns,List.filter_filter]
  congr 1
  refine List.filter_congr fun entry present => ?_
  cases isAck : entry.isAck with
  | false => simp
  | true => simp [(acks entry present isAck).1,Role.name]

theorem userTexts_entries (one two : List Entry) :
    userTexts (turns (one ++ two)) = userTexts (turns one) ++ userTexts (turns two) := by
  rw [turns,List.map_append,userTexts_append]
  rfl

theorem userTexts_acked (messages : List String) : userTexts (turns (messages.map acked)) = [] := by
  simp [userTexts,turns,acked,Role.name,List.filter_eq_nil_iff]

-- One exchange adds its question to what the gate reads, however it ends.
theorem userTexts_converse {before : List Entry} (acks : Acks before) (x : Exchange) :
    userTexts (turns (converse before x)) = userTexts (turns before) ++ [x.frame.message] := by
  have question := acks.append (acks_plain (show (asked x.frame.message).isAck = false from rfl))
  have said : userTexts (turns [asked x.frame.message]) = [x.frame.message] := rfl
  unfold converse
  cases x.ending with
  | answered result =>
    dsimp only
    rw [userTexts_entries,userTexts_acks question,userTexts_entries,said]
    exact List.append_nil _
  | raised message =>
    dsimp only
    rw [userTexts_entries,userTexts_entries,userTexts_entries,said,userTexts_acked,List.append_nil]
    exact List.append_nil _
  | broken result sent message =>
    dsimp only
    rw [userTexts_entries,userTexts_entries,userTexts_entries,said,userTexts_acked,List.append_nil]
    exact List.append_nil _

theorem userTexts_conversation (served : List Exchange) :
    userTexts (turns (conversation served)) = served.map fun x => x.frame.message := by
  induction served using List.reverseRecOn with
  | nil => rfl
  | append_singleton served x ih =>
    rw [conversation_last,userTexts_converse (conversation_acks served),ih,List.map_append]
    rfl

-- Whatever comes between, lost connections and failed exchanges too, the gate reads every message that the user sent.
theorem threats_stick (errorText : PyError → String) (trim : String → String) (inputs : List Input) (earlier later : List Exchange)
    (x : Exchange) (served : (after (step errorText trim) {} inputs).served = earlier ++ x :: later) :
    (∃ call, x = serve errorText call x.frame) ∧ ∀ call hat result, x = serve errorText call x.frame →
      call.agent.hat = some hat → (outcomeOf call x.frame).value = .ok result →
      Escalated hat.constraints (decidingTrigger call.agent.runtime hat.constraints
        (x.frame.message :: earlier.map fun y => y.frame.message)) result := by
  have kept : dialogue.Kept (after (step errorText trim) {} inputs).abstract := run_kept inputs
  obtain ⟨text,asked⟩ := kept.inTurn earlier x later served
  rw [sequel_conversation] at asked
  have history : x.frame.history = turns (conversation earlier) := by
    rw [show x.frame = _ from asked]
    rfl
  have listed : x ∈ (after (step errorText trim) {} inputs).served := served ▸ List.mem_append_right _ List.mem_cons_self
  refine ⟨served_calls errorText trim inputs x listed,fun call hat result _ equipped returned => ?_⟩
  have escalated := process_escalated equipped returned
  rw [requestOf,texts,history,userTexts_conversation] at escalated
  exact escalated

def failingCall : Call where
  agent := legalAgent
  env := {calm complaint [] with parse := fun _ => .error .valueError}
  cache := ∅

def calmCall : Call := {agent := legalAgent,env := calm complaint [{toolName := "converse"}],cache := ∅}

-- The threat fails in the pipeline and the connection is closed; the user comes back with a greeting.
def reconnected : List Input := [.connect,.accept none,.submit "I will take legal action",.receive failingCall,.emit,.deliver,
  .finish,.close,.connect,.accept none,.submit "Good morning",.receive calmCall]

def greetingAgain : ChatFrame := ⟨"Good morning",[⟨"user","I will take legal action"⟩,⟨"assistant","Error: "⟩]⟩

theorem threats_stick_reconnected : ∃ result, (outcomeOf calmCall greetingAgain).value = .ok result ∧
    Escalated legalHat.constraints (decidingTrigger .ascii legalHat.constraints
      ["Good morning","I will take legal action"]) result := by
  have computed : ((outcomeOf calmCall greetingAgain).value.map (·.bypassed)).toOption = some false := by decide +kernel
  obtain ⟨result,returned,_⟩ := toOption_map.mp computed
  have served : (after (step (fun _ => "") id) {} reconnected).served =
      [serve (fun _ => "") failingCall ⟨"I will take legal action",[]⟩] ++ serve (fun _ => "") calmCall greetingAgain :: [] := rfl
  exact ⟨result,returned,(threats_stick (fun _ => "") id reconnected _ _ _ served).2 calmCall legalHat result rfl rfl returned⟩

end Sophia.Chat
