import Sophia.DecisionTrail

namespace Sophia.AgentLoop
open TracedRun ParameterGate PreflightAck RiskFloor EscalationGate

def ackConfig (hat : Option HatConfig) : AckConfig := (hat.map (·.ack)).getD {}

def Affordable (hat : Option HatConfig) (tool : Tool) : Prop :=
  ∀ impact, tool.maxFinancialImpact = some impact → impact ≤ (ackConfig hat).financialCeiling.getD 0

-- What the acknowledgement asks of the whole list
structure SafeToSend (candidates : List CandidateAction) (registry : ToolRegistry) (hat : Option HatConfig) : Prop where
  first : ∃ top rest tool, candidates = top :: rest ∧ isConverse top = false ∧ registry.get top.toolName = some tool ∧
    tool.authorityLevel = "agent"
  affordable : ∀ c ∈ candidates, ∀ tool, registry.get c.toolName = some tool → Affordable hat tool

-- Acknowledgements are on, and the first candidate other than converse has an agent's tool within the ceiling.
structure Announces (candidates : List CandidateAction) (registry : ToolRegistry) (hat : Option HatConfig)
    (top : CandidateAction) : Prop where
  first : candidates.find? (!isConverse ·) = some top
  tool : ∃ tool, registry.get top.toolName = some tool ∧ tool.authorityLevel = "agent" ∧ Affordable hat tool
  enabled : ((ackConfig hat).enabled.getD (.bool true)).truthy = true

-- Such a candidate leads the list, and nothing behind it is above the ceiling.
def Guarded (candidates : List CandidateAction) (registry : ToolRegistry) (hat : Option HatConfig) : Prop :=
  ∀ top, Announces candidates registry hat top → candidates.head? = some top ∧
    ∀ c ∈ candidates.tail, ∀ tool, registry.get c.toolName = some tool → Affordable hat tool

variable {candidates : List CandidateAction} {registry : ToolRegistry} {hat : Option HatConfig}

def ackText (runtime : Runtime) (draw : Nat) (intent : Intent) (hat : Option HatConfig) : String :=
  slotFill runtime (chooseTemplate draw (templateList (ackConfig hat).templates intent.actionRequested)) intent.parameters

theorem affordable_iff (tool : Tool) : Affordable hat tool ↔
    (tool.maxFinancialImpact.any fun impact => (ackConfig hat).financialCeiling.getD 0 < impact) = false := by
  unfold Affordable
  cases tool.maxFinancialImpact with
  | none => simp
  | some impact => simp

-- The function's four tests, one after the other
theorem ack_steps (runtime : Runtime) (draw : Nat) (intent : Intent) :
    maybeGenerateAck runtime draw intent candidates registry hat =
      ((candidates.find? (!isConverse ·)).bind fun top => (registry.get top.toolName).bind fun tool =>
        if tool.authorityLevel ≠ "agent" then none
        else if (tool.maxFinancialImpact.any fun impact => (ackConfig hat).financialCeiling.getD 0 < impact) then none
        else if !((ackConfig hat).enabled.getD (.bool true)).truthy then none
        else some (ackText runtime draw intent hat)) := rfl

theorem ack_text (runtime : Runtime) (draw : Nat) (intent : Intent) :
    maybeGenerateAck runtime draw intent candidates registry hat = some text ↔
      (∃ top, Announces candidates registry hat top) ∧ text = ackText runtime draw intent hat := by
  rw [ack_steps]
  constructor
  · intro sent
    obtain ⟨top,first,sent⟩ := Option.bind_eq_some_iff.mp sent
    obtain ⟨tool,known,sent⟩ := Option.bind_eq_some_iff.mp sent
    split at sent
    · cases sent
    · next agent =>
      split at sent
      · cases sent
      · next within =>
        split at sent
        · cases sent
        · next enabled =>
          refine ⟨⟨top,first,⟨tool,known,not_not.mp agent,?_⟩,by simpa using enabled⟩,(Option.some.inj sent).symm⟩
          exact (affordable_iff tool).mpr (by simpa using within)
  · rintro ⟨⟨top,first,⟨tool,known,agent,affordable⟩,enabled⟩,rfl⟩
    refine Option.bind_eq_some_iff.mpr ⟨top,first,Option.bind_eq_some_iff.mpr ⟨tool,known,?_⟩⟩
    rw [if_neg (not_not.mpr agent),(affordable_iff tool).mp affordable,if_neg Bool.false_ne_true,enabled]
    rfl

-- What leads a list is either converse or the first that is not.
theorem head_find (found : candidates.find? (!isConverse ·) = some top) :
    (∃ rest first, candidates = first :: rest ∧ isConverse first = false) ↔ candidates.head? = some top := by
  cases candidates with
  | nil => cases found
  | cons first rest =>
    rw [List.find?_cons] at found
    split at found
    · next acts =>
      cases found
      exact iff_of_true ⟨rest,_,rfl,by simpa using acts⟩ rfl
    · next converses =>
      have leads : isConverse first = true := by simpa using converses
      constructor
      · rintro ⟨_,_,same,acts⟩
        cases same
        exact nomatch leads.symm.trans acts
      · intro same
        cases same
        have other := List.find?_some found
        rw [leads] at other
        cases other

theorem safe_iff (announces : Announces candidates registry hat top) : SafeToSend candidates registry hat ↔
    candidates.head? = some top ∧ ∀ c ∈ candidates.tail, ∀ tool, registry.get c.toolName = some tool → Affordable hat tool := by
  obtain ⟨found,⟨tool,known,agent,affordable⟩,_⟩ := announces
  constructor
  · intro safe
    obtain ⟨first,rest,_,shape,acts,_⟩ := safe.first
    refine ⟨(head_find found).mp ⟨rest,first,shape,acts⟩,fun c behind => safe.affordable c (List.mem_of_mem_tail behind)⟩
  · rintro ⟨leads,behind⟩
    obtain ⟨rest,first,shape,acts⟩ := (head_find found).mpr leads
    subst shape
    cases leads
    refine ⟨⟨_,rest,tool,rfl,acts,known,agent⟩,?_⟩
    intro c present other registered
    rcases List.mem_cons.mp present with rfl | later
    · obtain rfl : tool = other := Option.some.inj (known.symm.trans registered)
      exact affordable
    · exact behind c later other registered

theorem ack_guarded (runtime : Runtime) (draw : Nat) (intent : Intent) (candidates : List CandidateAction)
    (registry : ToolRegistry) (hat : Option HatConfig) :
    (∀ text, maybeGenerateAck runtime draw intent candidates registry hat = some text → SafeToSend candidates registry hat) ↔
      Guarded candidates registry hat := by
  constructor
  · intro safe top announces
    exact (safe_iff announces).mp (safe _ ((ack_text runtime draw intent).mpr ⟨⟨top,announces⟩,rfl⟩))
  · intro guarded text sent
    obtain ⟨⟨top,announces⟩,_⟩ := (ack_text runtime draw intent).mp sent
    exact (safe_iff announces).mpr (guarded top announces)

section
variable {agent : Agent} {env : Environment} {request : Request} {cache : ConsequenceEngine.Cache} {worn : HatConfig}

-- The run goes the way of the conversational bypass: a defensive candidate leads and the situation is not evaluated.
structure Bypasses (agent : Agent) (request : Request) (worn : HatConfig) (intent : Intent) (proposal : Proposal) : Prop where
  low : getProposalFloor proposal.candidates agent.registry ≠ some .red
  defensive : ∃ top, defensiveTop proposal = some top
  unevaluated : shouldRunSituationEvaluation intent (escalationOf agent request worn) = false

-- Nothing is announced on the way to the bypass, nobody waits for it, or the template fills to no text.
def BypassGuarded (agent : Agent) (env : Environment) (request : Request) (worn : HatConfig) (intent : Intent)
    (proposal : Proposal) : Prop :=
  Bypasses agent request worn intent proposal → request.source ≠ "webhook" → request.onPreflightAck = true →
    ∀ top, Announces proposal.candidates agent.registry (some worn) top →
      ackText agent.runtime env.draw intent (some worn) = ""

theorem truthyText_silent : (truthyText (some text)).toList = [] ↔ text = "" := by
  unfold truthyText
  split <;> simp_all

theorem bypasses_iff (equipped : agent.hat = some worn) (parsed : env.parse request.message = .ok intent)
    (proposed : env.propose intent = .ok candidates) (returned : (process agent env request cache).value = .ok result) :
    result.bypassed = true ↔ Bypasses agent request worn intent (postGateProposal agent intent candidates) := by
  obtain ⟨prepared,_,ready,exit⟩ := process_exit returned
  obtain ⟨rfl,shape⟩ := ready.given parsed proposed
  obtain rfl := ready.worn equipped
  have escalation := ready.escalation
  rw [← shape]
  cases exit with
  | refused red refused => exact iff_of_false (by simp [refused.bypassed]) fun bypasses => bypasses.low red
  | evaluated top low waiting run _ evaluated =>
    refine iff_of_false (by simp [evaluated]) fun bypasses => ?_
    rw [escalation,bypasses.unevaluated] at run
    cases run
  | bypassed top low waiting run _ bypassed =>
    refine iff_of_true bypassed ⟨low,⟨top,waiting⟩,?_⟩
    rw [← escalation]
    exact run
  | judged _ low acting _ _ _ _ notBypassed =>
    refine iff_of_false (by simp [notBypassed]) fun bypasses => ?_
    obtain ⟨top,waiting⟩ := bypasses.defensive
    exact nomatch acting.symm.trans waiting

theorem heard_iff (equipped : agent.hat = some worn) (parsed : env.parse request.message = .ok intent)
    (proposed : env.propose intent = .ok candidates) (returned : (process agent env request cache).value = .ok result) :
    acknowledgements (process agent env request) cache = [] ↔ (request.source ≠ "webhook" → request.onPreflightAck = true →
      ∀ top, Announces (postGateProposal agent intent candidates).candidates agent.registry (some worn) top →
        ackText agent.runtime env.draw intent (some worn) = "") := by
  obtain ⟨prepared,ready,_⟩ := process_exit returned
  obtain ⟨_,generated,heard⟩ := prepare_trail equipped parsed proposed ready
  rw [process_heard,heard,generated,generatedAck]
  by_cases webhook : request.source = "webhook"
  · rw [if_pos webhook]
    refine iff_of_true (by split <;> rfl) fun other => absurd webhook other
  · rw [if_neg webhook]
    cases callback : request.onPreflightAck with
    | false => exact iff_of_true rfl fun _ none_ => nomatch none_
    | true =>
      rw [if_pos rfl]
      cases sent : maybeGenerateAck agent.runtime env.draw intent (postGateProposal agent intent candidates).candidates
          agent.registry (some worn) with
      | none =>
        refine iff_of_true rfl fun _ _ top announces => ?_
        have announced := (ack_text agent.runtime env.draw intent).mpr ⟨⟨top,announces⟩,rfl⟩
        exact nomatch sent.symm.trans announced
      | some text =>
        obtain ⟨⟨top,announces⟩,rfl⟩ := (ack_text agent.runtime env.draw intent).mp sent
        constructor
        · exact fun silent _ _ _ _ => truthyText_silent.mp silent
        · exact fun empty => truthyText_silent.mpr (empty webhook rfl top announces)

end

theorem ack_safety (runtime : Runtime) (draw : Nat) (registry : ToolRegistry) (hat : Option HatConfig) (agent : Agent)
    (env : Environment) (request : Request) (cache : ConsequenceEngine.Cache) :
    (∀ intent candidates,
      (∀ text, maybeGenerateAck runtime draw intent candidates registry hat = some text →
        SafeToSend candidates registry hat) ↔ Guarded candidates registry hat) ∧
    ∀ (worn : HatConfig) (intent : Intent) (candidates : List CandidateAction) (result : PipelineResult),
      agent.hat = some worn → env.parse request.message = .ok intent → env.propose intent = .ok candidates →
      (process agent env request cache).value = .ok result →
        ((result.bypassed = true → acknowledgements (process agent env request) cache = []) ↔
          BypassGuarded agent env request worn intent (postGateProposal agent intent candidates)) := by
  refine ⟨fun intent candidates => ack_guarded runtime draw intent candidates registry hat,?_⟩
  intro worn intent candidates result equipped parsed proposed returned
  rw [bypasses_iff equipped parsed proposed returned,heard_iff equipped parsed proposed returned]
  exact Iff.rfl

def lookUpTool : Tool := {name := "look_up_order"}
def payingTool : Tool := {name := "process_refund",maxFinancialImpact := some 100}
def orderTools : ToolRegistry := (ToolRegistry.empty.register lookUpTool).register payingTool

def orderAgent : Agent := {runtime := .ascii,hat := some legalHat,registry := orderTools}
def lookUpCandidate : CandidateAction := {toolName := "look_up_order"}

-- A lookup is announced and carried out; a refund above the ceiling behind an answer in words is not announced.
theorem ack_safety_orders :
    (∀ text, maybeGenerateAck .ascii 0 inquiry [lookUpCandidate,replyCandidate] orderTools (some legalHat) = some text →
      SafeToSend [lookUpCandidate,replyCandidate] orderTools (some legalHat)) ∧
    (∃ result, (process orderAgent (calm inquiry [lookUpCandidate,replyCandidate]) awaitedRequest ∅).value = .ok result ∧
      result.bypassed = false ∧
      acknowledgements (process orderAgent (calm inquiry [lookUpCandidate,replyCandidate]) awaitedRequest) ∅ =
        ["One moment while I look into that."] ∧
      BypassGuarded orderAgent (calm inquiry [lookUpCandidate,replyCandidate]) awaitedRequest legalHat inquiry
        (postGateProposal orderAgent inquiry [lookUpCandidate,replyCandidate])) ∧
    ∃ result, (process orderAgent (calm inquiry [replyCandidate,refundCandidate]) awaitedRequest ∅).value = .ok result ∧
      result.bypassed = true ∧
      acknowledgements (process orderAgent (calm inquiry [replyCandidate,refundCandidate]) awaitedRequest) ∅ = [] := by
  refine ⟨?_,?_,?_⟩
  · refine ((ack_safety .ascii 0 orderTools (some legalHat) orderAgent (calm inquiry []) awaitedRequest ∅).1 inquiry
      [lookUpCandidate,replyCandidate]).mpr ?_
    intro top announces
    cases announces.first
    refine ⟨rfl,fun c present tool known => ?_⟩
    cases List.mem_singleton.mp present
    cases known
  · have computed : ((process orderAgent (calm inquiry [lookUpCandidate,replyCandidate]) awaitedRequest ∅).value.map
        (·.bypassed)).toOption = some false := by decide +kernel
    obtain ⟨result,returned,judged⟩ := toOption_map.mp computed
    refine ⟨result,returned,judged,by decide +kernel,?_⟩
    exact ((ack_safety .ascii 0 orderTools (some legalHat) orderAgent _ awaitedRequest ∅).2 legalHat inquiry _ result rfl rfl rfl
      returned).mp fun bypassed => nomatch judged.symm.trans bypassed
  · have computed : ((process orderAgent (calm inquiry [replyCandidate,refundCandidate]) awaitedRequest ∅).value.map
        (·.bypassed)).toOption = some true := by decide +kernel
    obtain ⟨result,returned,bypassed⟩ := toOption_map.mp computed
    refine ⟨result,returned,bypassed,((ack_safety .ascii 0 orderTools (some legalHat) orderAgent _ awaitedRequest ∅).2 legalHat
      inquiry _ result rfl rfl rfl returned).mpr ?_ bypassed⟩
    intro _ _ _ top announces
    have first : (postGateProposal orderAgent inquiry [replyCandidate,refundCandidate]).candidates.find? (!isConverse ·) =
        some refundCandidate := by rfl
    cases first.symm.trans announces.first
    obtain ⟨tool,known,_,affordable⟩ := announces.tool
    have paying : orderAgent.registry.get refundCandidate.toolName = some payingTool := by rfl
    cases paying.symm.trans known
    exact absurd (affordable 100 rfl) (by decide +kernel)

-- An answer in words before a refund: the refund is announced, and the bypass only answers. Behind an agent's
-- lookup a refund above the ceiling is announced too.

theorem ack_unsafe : (∃ result,
    (process refundAgent (calm inquiry [replyCandidate,refundCandidate]) awaitedRequest ∅).value = .ok result ∧
      result.bypassed = true ∧
      acknowledgements (process refundAgent (calm inquiry [replyCandidate,refundCandidate]) awaitedRequest) ∅ =
        ["One moment while I look into that."]) ∧
    ∃ text, maybeGenerateAck .ascii 0 inquiry [{toolName := "look_up_order"},refundCandidate] orderTools (some legalHat) =
        some text ∧
      ¬ SafeToSend [{toolName := "look_up_order"},refundCandidate] orderTools (some legalHat) := by
  refine ⟨?_,"One moment while I look into that.",by decide +kernel,fun safe => ?_⟩
  · have computed : ((process refundAgent (calm inquiry [replyCandidate,refundCandidate]) awaitedRequest ∅).value.map
        (·.bypassed)).toOption = some true := by decide +kernel
    obtain ⟨result,returned,bypassed⟩ := toOption_map.mp computed
    exact ⟨result,returned,bypassed,by decide +kernel⟩
  · have within := safe.affordable refundCandidate (by simp) payingTool rfl 100 rfl
    exact absurd within (by decide +kernel)

end Sophia.AgentLoop
