import Sophia.TierFloors

namespace Sophia.AgentLoop
open TracedRun Consequence ConsequenceEngine Evaluators RiskClassifier EscalationGate RiskFloor ParameterGate
open PreflightAck Executor

-- The texts handed to on_preflight_ack
def ackText? : Event → Option String
  | .acknowledged text => some text
  | _ => none

def acknowledgements (m : AgentRun α) (cache : Cache) : List String := seen ackText? m cache

section
variable {agent : Agent} {env : Environment} {request : Request} {cache : Cache} {prepared : Prepared}

-- The acknowledgement the run generated, before anything is sent
def generatedAck (agent : Agent) (env : Environment) (request : Request) (hat : HatConfig) (intent : Intent)
    (candidates : List CandidateAction) : Option String :=
  if request.source = "webhook" then none
  else maybeGenerateAck agent.runtime env.draw intent (postGateProposal agent intent candidates).candidates
    agent.registry (some hat)

theorem sendAck_heard {ack : Option String} (returned : (sendAck env request ack cache).value = .ok at_) :
    acknowledgements (sendAck env request ack) cache = if request.onPreflightAck then (truthyText ack).toList else [] := by
  unfold sendAck at returned
  unfold acknowledgements sendAck
  cases sent : truthyText ack with
  | none => cases request.onPreflightAck <;> rfl
  | some text =>
    rw [sent] at returned
    cases callback : request.onPreflightAck with
    | false => rfl
    | true =>
      rw [callback] at returned
      obtain ⟨_,_,returned⟩ := bind_returns.mp returned
      obtain ⟨_,accepted,_⟩ := bind_returns.mp returned
      dsimp only
      rw [if_pos rfl,if_pos rfl,seen_bind]
      dsimp only [emit_value,emit_state]
      rw [lift_value] at accepted
      rw [accepted]
      rfl

theorem prepare_sends {hat : HatConfig} (equipped : agent.hat = some hat)
    (parsed : env.parse request.message = .ok intent) (proposed : env.propose intent = .ok candidates) :
    prepare agent env request cache =
      (sendAck env request (generatedAck agent env request hat intent candidates) >>= fun at_ => pure {
        hat := hat
        intent := intent
        gate := validate agent.runtime agent.placeholders agent.registry ⟨intent,candidates⟩
        proposal := postGateProposal agent intent candidates
        escalation := escalationOf agent request hat
        preflightAck := generatedAck agent env request hat intent candidates
        preflightAckAt := at_}) cache := by
  have active : activeHat agent = .ok hat := by rw [activeHat,equipped]
  unfold prepare
  rw [parsed,lift_bind_ok,proposed,lift_bind_ok,active,lift_bind_ok]
  rfl

-- What prepare keeps for the exits: the gate's result over all proposed candidates and the acknowledgement.
theorem prepare_trail {hat : HatConfig} (equipped : agent.hat = some hat)
    (parsed : env.parse request.message = .ok intent) (proposed : env.propose intent = .ok candidates)
    (returned : (prepare agent env request cache).value = .ok prepared) :
    prepared.gate = validate agent.runtime agent.placeholders agent.registry ⟨intent,candidates⟩ ∧
    prepared.preflightAck = generatedAck agent env request hat intent candidates ∧
    acknowledgements (prepare agent env request) cache =
      if request.onPreflightAck then (truthyText prepared.preflightAck).toList else [] := by
  have sends : prepare agent env request cache = _ := prepare_sends equipped parsed proposed
  rw [sends] at returned
  obtain ⟨at_,sent,returned⟩ := bind_returns.mp returned
  cases returned
  refine ⟨rfl,rfl,?_⟩
  rw [acknowledgements,seen,sends,bind_ok sent,← sendAck_heard sent]
  exact congrArg (List.filterMap ackText?) (List.append_nil _)

theorem process_heard (agent : Agent) (env : Environment) (request : Request) (cache : Cache) :
    acknowledgements (process agent env request) cache = acknowledgements (prepare agent env request) cache := by
  apply seen_then_silent
  intro prepared
  exact route_emits (fun _ _ => rfl) (fun _ _ _ => rfl) fun _ _ _ _ => rfl

-- A field written more than once is the last one written.
theorem record_snoc (fields : List (String × Json)) (field : String × Json) (key : String) :
    (record (fields ++ [field])).lookup key = if key = field.1 then some field.2 else (record fields).lookup key := by
  unfold record
  rw [List.foldl_append]
  by_cases same : key = field.1
  · rw [if_pos same,same]
    exact AList.lookup_insert _
  · rw [if_neg same]
    exact AList.lookup_insert_ne same

theorem record_absent (absent : ∀ field ∈ fields, field.1 ≠ key) : (record fields).lookup key = none := by
  induction fields using List.reverseRecOn with
  | nil => rfl
  | append_singleton earlier field ih =>
    have other := absent field (by simp)
    rw [record_snoc,if_neg other.symm]
    exact ih fun field present => absent field (by simp [present])

-- What the gate decided on one proposed candidate
def gateEntry (agent : Agent) (c : CandidateAction) : Json :=
  let validation := validateOne agent.runtime agent.placeholders agent.registry c
  .obj [("tool_name",.str c.toolName),("passed",.bool validation.passed),
    ("failures",.arr (validation.failures.map .str))]

def gateEntries (agent : Agent) (candidates : List CandidateAction) : Json := .arr (candidates.map (gateEntry agent))

theorem gateMetadata_entries (agent : Agent) (intent : Intent) (candidates : List CandidateAction) :
    gateMetadata (validate agent.runtime agent.placeholders agent.registry ⟨intent,candidates⟩) =
      gateEntries agent candidates := by
  unfold gateMetadata gateEntries
  rw [validate_validations,List.map_map]
  apply congrArg Json.arr
  apply List.map_congr_left
  intro c _
  simp only [Function.comp_apply,validateOne_candidate,gateEntry]

theorem shortCircuit_ungated (returned : (shortCircuit agent env request prepared cache).value = .ok result) :
    result.metadata.lookup "parameter_gate" = none := by
  obtain ⟨response,_,returned⟩ := bind_returns.mp returned
  obtain ⟨_,_,returned⟩ := bind_returns.mp returned
  cases returned
  exact record_absent (by simp)

theorem handleDefensive_unsourced (returned : (handleDefensive agent env request prepared top cache).value = .ok result) :
    result.metadata.lookup "source" = none := by
  unfold handleDefensive at returned
  split at returned
  · obtain ⟨tree,results,c,situated⟩ := handleConverseWithEvaluation_returned returned
    rw [situated.metadata]
    exact record_absent (by simp)
  · obtain ⟨response,_,returned⟩ := bind_returns.mp returned
    obtain ⟨_,_,returned⟩ := bind_returns.mp returned
    cases returned
    exact record_absent (by simp)

theorem defensive_unsourced (returned : (defensive agent env request prepared top cache).value = .ok result) :
    result.metadata.lookup "source" = none := by
  obtain ⟨inner,handled,returned⟩ := bind_returns.mp returned
  cases returned
  rw [AList.lookup_insert_ne (by decide)]
  exact handleDefensive_unsourced handled

-- What the caller gives stands before what the run writes.
theorem lookup_union {β : String → Type} (given own : AList β) (key : String) :
    (given ∪ own).lookup key = (given.lookup key).or (own.lookup key) := by
  cases known : given.lookup key with
  | none => exact AList.lookup_union_right (AList.lookup_eq_none.mp known)
  | some value =>
    rw [AList.lookup_union_left (AList.lookup_isSome.mp (by simp [known])),known]
    rfl

theorem panelMetadata_own (agent : Agent) (env : Environment) (request : Request) (prepared : Prepared)
    (stats : Nat × Nat) :
    (panelMetadata agent env request prepared stats).lookup "source" =
      some ((request.metadata.lookup "source").getD (.str request.source)) ∧
    (panelMetadata agent env request prepared stats).lookup "parameter_gate" =
      some ((request.metadata.lookup "parameter_gate").getD (gateMetadata prepared.gate)) := by
  unfold panelMetadata
  rw [lookup_union,lookup_union]
  constructor
  · cases request.metadata.lookup "source" <;> rfl
  · cases request.metadata.lookup "parameter_gate" <;> rfl

-- What a result should report about the steps before its exit
structure Trail (agent : Agent) (env : Environment) (request : Request) (cache : Cache) (hat : HatConfig)
    (intent : Intent) (candidates : List CandidateAction) (result : PipelineResult) : Prop where
  escalation : result.escalationTriggerMatched = (escalationOf agent request hat).matchedTrigger
  untriggered : result.escalationTriggerMatched = none ↔ (escalationOf agent request hat).triggered = false
  gate : result.metadata.lookup "parameter_gate" = some (gateEntries agent candidates)
  source : result.metadata.lookup "source" = some (.str request.source)
  callers : ∀ key ∈ request.metadata, key ∈ result.metadata
  generated : result.preflightAck = generatedAck agent env request hat intent candidates
  passed : request.onPreflightAck = true →
    acknowledgements (process agent env request) cache = result.preflightAck.toList

-- The run leaves through the panel, its caller writes no other source or gate result over the
-- run's own, and the text for a waiting callback is not empty.
structure TrailKept (agent : Agent) (env : Environment) (request : Request) (hat : HatConfig) (intent : Intent)
    (candidates : List CandidateAction) : Prop where
  low : getProposalFloor (postGateProposal agent intent candidates).candidates agent.registry ≠ some .red
  acting : defensiveTop (postGateProposal agent intent candidates) = none
  source : ∀ value, request.metadata.lookup "source" = some value → value = .str request.source
  gate : ∀ value, request.metadata.lookup "parameter_gate" = some value → value = gateEntries agent candidates
  ack : request.onPreflightAck = true → generatedAck agent env request hat intent candidates ≠ some ""

theorem getD_own {given : Option α} {own : α} : some (given.getD own) = some own ↔ ∀ value, given = some value → value = own := by
  cases given with
  | none => exact ⟨fun _ _ absent => (nomatch absent),fun _ => rfl⟩
  | some value =>
    constructor
    · intro same other present
      cases present
      exact Option.some.inj same
    · intro agree
      exact congrArg some (agree value rfl)

theorem truthyText_sent (ack : Option String) : (truthyText ack).toList = ack.toList ↔ ack ≠ some "" := by
  cases ack with
  | none => exact ⟨fun _ absent => (nomatch absent),fun _ => rfl⟩
  | some text =>
    by_cases empty : text = ""
    · rw [empty]
      exact ⟨fun same => (nomatch same),fun other => absurd rfl other⟩
    · rw [truthyText,if_neg empty]
      exact ⟨fun _ same => empty (Option.some.inj same),fun _ => rfl⟩

theorem panel_kept {hat : HatConfig} (equipped : agent.hat = some hat)
    (parsed : env.parse request.message = .ok intent) (proposed : env.propose intent = .ok candidates)
    (ready : (prepare agent env request cache).value = .ok prepared)
    (low : getProposalFloor prepared.proposal.candidates agent.registry ≠ some .red)
    (acting : defensiveTop prepared.proposal = none)
    (returned : (panel agent env request prepared floor cache).value = .ok result) :
    Trail agent env request cache hat intent candidates result ↔
      TrailKept agent env request hat intent candidates := by
  obtain ⟨gate,ack,heard⟩ := prepare_trail equipped parsed proposed ready
  have settled := prepare_parts ready
  obtain rfl := settled.worn equipped
  obtain ⟨rfl,shape⟩ := settled.given parsed proposed
  obtain ⟨judged,_,concluded⟩ := bind_returns.mp returned
  have reported := conclude_parts concluded
  obtain ⟨stats,metadata⟩ := reported.metadata
  have trigger := reported.trigger
  obtain ⟨source,entries⟩ := panelMetadata_own agent env request prepared stats
  rw [← metadata] at source entries
  rw [gate,gateMetadata_entries] at entries
  rw [← reported.preflightAck] at heard ack
  rw [settled.escalation] at trigger
  rw [shape] at low acting
  constructor
  · intro trail
    refine ⟨low,acting,getD_own.mp (source.symm.trans trail.source),getD_own.mp (entries.symm.trans trail.gate),
      fun callback => ?_⟩
    have sent := trail.passed callback
    rw [process_heard,heard,if_pos callback,truthyText_sent] at sent
    rwa [← ack]
  · intro kept
    refine ⟨trigger,?_,entries.trans (getD_own.mpr kept.gate),source.trans (getD_own.mpr kept.source),fun key given => ?_,
      ack,fun callback => ?_⟩
    · rw [trigger]
      exact check_matched _ _ _ _
    · rw [metadata]
      exact AList.mem_union.mpr (.inl given)
    · rw [process_heard,heard,if_pos callback,truthyText_sent,ack]
      exact kept.ack callback

theorem decision_trail (agent : Agent) (env : Environment) (request : Request) (cache : Cache) (hat : HatConfig)
    (intent : Intent) (candidates : List CandidateAction) (result : PipelineResult) (equipped : agent.hat = some hat)
    (parsed : env.parse request.message = .ok intent) (proposed : env.propose intent = .ok candidates)
    (returned : (process agent env request cache).value = .ok result) :
    Trail agent env request cache hat intent candidates result ↔
      TrailKept agent env request hat intent candidates := by
  obtain ⟨prepared,ready,routed⟩ := bind_returns.mp returned
  rw [prepare_keeps agent env request] at routed
  have shape := ((prepare_parts ready).given parsed proposed).2
  unfold route at routed
  by_cases red : getProposalFloor prepared.proposal.candidates agent.registry = some .red
  · rw [if_pos red] at routed
    constructor
    · intro trail
      exact nomatch (shortCircuit_ungated routed).symm.trans trail.gate
    · intro kept
      rw [shape] at red
      exact absurd red kept.low
  rw [if_neg red] at routed
  cases top : defensiveTop prepared.proposal with
  | some first =>
    rw [top] at routed
    constructor
    · intro trail
      exact nomatch (defensive_unsourced routed).symm.trans trail.source
    · intro kept
      rw [shape,kept.acting] at top
      cases top
  | none =>
    rw [top] at routed
    exact panel_kept equipped parsed proposed ready red top routed

def awaitedRequest : Request :=
  {message := "Good morning",onPreflightAck := true,metadata := record [("ticket",.str "T-1")]}

def refundCandidate : CandidateAction := {toolName := "process_refund"}
def replyCandidate : CandidateAction := {toolName := "converse"}

theorem decision_trail_panel : ∃ result,
    (process refundAgent (calm inquiry [refundCandidate]) awaitedRequest ∅).value = .ok result ∧
      Trail refundAgent (calm inquiry [refundCandidate]) awaitedRequest ∅ legalHat inquiry [refundCandidate] result := by
  have computed : ((process refundAgent (calm inquiry [refundCandidate]) awaitedRequest ∅).value.map
      (·.bypassed)).toOption = some false := by decide +kernel
  obtain ⟨result,returned,_⟩ := toOption_map.mp computed
  refine ⟨result,returned,(decision_trail refundAgent _ awaitedRequest ∅ legalHat inquiry _ result rfl rfl rfl
    returned).mpr ⟨by decide +kernel,rfl,?_,?_,fun _ => by decide +kernel⟩⟩
  · intro value absent
    cases absent
  · intro value absent
    cases absent

-- The callback is told to wait for an answer, and the bypass that follows records neither that nor the source.
theorem decision_trail_lost : ∃ result,
    (process refundAgent (calm inquiry [replyCandidate,refundCandidate]) awaitedRequest ∅).value = .ok result ∧
      acknowledgements (process refundAgent (calm inquiry [replyCandidate,refundCandidate]) awaitedRequest) ∅ =
        ["One moment while I look into that."] ∧
      result.preflightAck = none ∧ result.metadata.lookup "source" = none ∧ result.metadata.lookup "ticket" = none ∧
      ¬ Trail refundAgent (calm inquiry [replyCandidate,refundCandidate]) awaitedRequest ∅ legalHat inquiry
        [replyCandidate,refundCandidate] result := by
  have computed : ((process refundAgent (calm inquiry [replyCandidate,refundCandidate]) awaitedRequest ∅).value.map
      fun result => (result.preflightAck,(result.metadata.lookup "source").isNone,
        (result.metadata.lookup "ticket").isNone)).toOption = some (none,true,true) := by decide +kernel
  have heard : acknowledgements (process refundAgent (calm inquiry [replyCandidate,refundCandidate]) awaitedRequest) ∅ =
      ["One moment while I look into that."] := by decide +kernel
  obtain ⟨result,returned,fields⟩ := toOption_map.mp computed
  obtain ⟨ack,rest⟩ := Prod.mk.inj fields
  obtain ⟨source,ticket⟩ := Prod.mk.inj rest
  refine ⟨result,returned,heard,ack,Option.isNone_iff_eq_none.mp source,Option.isNone_iff_eq_none.mp ticket,fun trail => ?_⟩
  exact nomatch (Option.isNone_iff_eq_none.mp source).symm.trans trail.source

end

end Sophia.AgentLoop
