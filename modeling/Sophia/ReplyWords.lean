import Sophia.StickyEscalation
import Sophia.DecisionTrail
import Sophia.Library.RunAgreement

namespace Sophia.AgentLoop
open TracedRun Consequence ConsequenceEngine Evaluators RiskClassifier EscalationGate RiskFloor ParameterGate
open PreflightAck Executor

-- Everything an outsider sees of a run but what goes to memory
def acts : Event → Bool
  | .persisted _ _ _ _ => false
  | _ => true

-- A result without the words of its reply. The conversational bypass reports them as the tool's message too.
def wordless (result : PipelineResult) : PipelineResult :=
  {result with
    response := ""
    metadata := ∅
    execution := {result.execution with
      toolResult := {result.execution.toolResult with
        message := if result.bypassed then "" else result.execution.toolResult.message}}}

-- The same but for the words and for how much was recalled
structure SameDecision (left right : PipelineResult) : Prop where
  wordless : wordless left = wordless right
  metadata : ∀ key, key ≠ "memory_context" → left.metadata.lookup key = right.metadata.lookup key

abbrev Alike (m n : AgentRun PipelineResult) : Prop := Agree acts SameDecision m n

theorem record_apart (earlier later : List (String × Json)) (other : key ≠ name) (one two : Json) :
    (record (earlier ++ (name,one) :: later)).lookup key = (record (earlier ++ (name,two) :: later)).lookup key := by
  induction later using List.reverseRecOn with
  | nil => rw [record_snoc,record_snoc,if_neg other,if_neg other]
  | append_singleton later field ih =>
    rw [← List.cons_append,← List.append_assoc,record_snoc,← List.cons_append,← List.append_assoc,record_snoc,ih]

section
variable (agent : Agent) (env : Environment) (request : Request)
variable (recalled : Nat × Nat)
variable (generate : String → Tier → String → String → String → Option Json → List Turn → Except PyError String)
variable (converse : String → List Turn → Option Tier → Except PyError String)
variable (history : List Turn)

-- The same stages with another memory and another author of replies
def reworded : Environment := {env with recalled,generate,converse}

-- The same request after another conversation
def retold : Request := {request with conversationHistory := history}

theorem prepare_reworded (same : ∀ hat ∈ agent.hat, escalationOf agent request hat = escalationOf agent (retold request history) hat) :
    prepare agent (reworded env recalled generate converse) (retold request history) = prepare agent env request := by
  unfold prepare
  refine congrArg _ (funext fun intent => congrArg _ (funext fun candidates => ?_))
  refine funext fun cache => ?_
  cases worn : agent.hat with
  | none => simp only [activeHat,worn,lift_bind_error]
  | some hat =>
    have escalation := same hat worn
    unfold escalationOf at escalation
    simp only [activeHat,worn,lift_bind_ok,escalation]
    rfl

theorem beginAll_reworded (k : Nat) (candidates : List CandidateAction) (cache : Cache) :
    beginAll agent (reworded env recalled generate converse) k candidates cache = beginAll agent env k candidates cache := by
  induction candidates generalizing k cache with
  | nil => rfl
  | cons candidate rest ih => rw [beginAll,beginAll,ih]; rfl

theorem analyzeAll_reworded (candidates : List CandidateAction) (cache : Cache) :
    analyzeAll agent (reworded env recalled generate converse) candidates cache = analyzeAll agent env candidates cache := by
  unfold analyzeAll
  rw [beginAll_reworded]
  rfl

theorem judge_reworded (prepared : Prepared) (floor : Option Tier) :
    judge agent (reworded env recalled generate converse) prepared floor = judge agent env prepared floor := by
  unfold judge
  rw [show analyzeAll agent (reworded env recalled generate converse) = analyzeAll agent env from
    funext fun candidates => funext fun cache => analyzeAll_reworded agent env recalled generate converse candidates cache]
  rfl

-- What every exit does last: the words are asked for, and the result goes to memory.
def finish (message : String) (words : Except PyError String) (result : String → PipelineResult) : AgentRun PipelineResult := do
  let response ← lift words
  persistMemory message (result response)
  pure (result response)

theorem finish_emits {P : Event → Prop} {message : String} {words : Except PyError String} {result : String → PipelineResult}
    (memory : ∀ toolName parameters outcome, P (.persisted message toolName parameters outcome)) :
    Emits P (finish message words result) :=
  Emits.bind (Emits.lift _) fun _ => Emits.bind (Emits.emit (memory _ _ _)) fun _ => Emits.pure _

theorem finish_alike {message : String} {words others : Except PyError String} {one two : String → PipelineResult}
    (same : ∀ a b, SameDecision (one a) (two b)) : Alike (finish message words one) (finish message others two) := by
  have quiet (words : Except PyError String) (result : String → PipelineResult) : Quiet acts (finish message words result) :=
    (Quiet.lift words).bind fun _ => (Quiet.emit rfl).bind fun _ => Quiet.pure _
  refine (quiet words one).agree (quiet others two) fun s left right first second => ?_
  obtain ⟨a,_,first⟩ := bind_returns.mp first
  obtain ⟨_,_,first⟩ := bind_returns.mp first
  obtain ⟨b,_,second⟩ := bind_returns.mp second
  obtain ⟨_,_,second⟩ := bind_returns.mp second
  cases first
  cases second
  exact same a b

theorem shortCircuit_alike (prepared : Prepared) : Alike (shortCircuit agent env request prepared)
    (shortCircuit agent (reworded env recalled generate converse) (retold request history) prepared) :=
  finish_alike fun _ _ => ⟨rfl,fun _ _ => rfl⟩

theorem handleConverse_alike (prepared : Prepared) (top : CandidateAction) : Alike (handleConverse agent env request prepared top)
    (handleConverse agent (reworded env recalled generate converse) (retold request history) prepared top) :=
  finish_alike fun _ _ => ⟨rfl,fun _ _ => rfl⟩

theorem handleConverseWithEvaluation_alike (prepared : Prepared) (top : CandidateAction) :
    Alike (handleConverseWithEvaluation agent env request prepared top)
      (handleConverseWithEvaluation agent (reworded env recalled generate converse) (retold request history) prepared top) := by
  refine Agree.bind _ fun tree => Agree.bind _ fun results => Agree.bind _ fun situation => ?_
  exact finish_alike fun _ _ => ⟨rfl,fun _ _ => rfl⟩

theorem handleDefensive_alike (prepared : Prepared) (top : CandidateAction) : Alike (handleDefensive agent env request prepared top)
    (handleDefensive agent (reworded env recalled generate converse) (retold request history) prepared top) := by
  unfold handleDefensive
  split
  · exact handleConverseWithEvaluation_alike agent env request recalled generate converse history prepared top
  · exact handleConverse_alike agent env request recalled generate converse history prepared top

theorem defensive_alike (prepared : Prepared) (top : CandidateAction) : Alike (defensive agent env request prepared top)
    (defensive agent (reworded env recalled generate converse) (retold request history) prepared top) := by
  refine (handleDefensive_alike agent env request recalled generate converse history prepared top).map fun left right same => ?_
  refine ⟨congrArg (fun result : PipelineResult => {result with
    escalationTriggerMatched := prepared.escalation.matchedTrigger}) same.wordless,fun key other => ?_⟩
  by_cases gate : key = "parameter_gate"
  · rw [gate,AList.lookup_insert,AList.lookup_insert]
  · rw [AList.lookup_insert_ne gate,AList.lookup_insert_ne gate]
    exact same.metadata key other

theorem respond_quiet (execution : ExecutionResult) : Quiet acts (respond env request execution) := by
  unfold respond
  split
  · exact Quiet.lift _
  · exact Quiet.pure _

theorem conclude_alike (prepared : Prepared) (floor : Option Tier) (judged : Judged) :
    Alike (conclude agent env request prepared floor judged)
      (conclude agent (reworded env recalled generate converse) (retold request history) prepared floor judged) := by
  refine Agree.bind _ fun execution => ?_
  have counted : Quiet acts (overState fun cache => (cache,.ok (cacheStats cache)) : AgentRun (Nat × Nat)) :=
    ⟨fun _ => rfl,.overState _⟩
  refine Quiet.agree ?_ ?_ fun cache left right first second => ?_
  · exact (respond_quiet env request execution).bind fun _ => counted.bind fun _ => (Quiet.emit rfl).bind fun _ => Quiet.pure _
  · exact (respond_quiet (reworded env recalled generate converse) (retold request history) execution).bind fun _ =>
      counted.bind fun _ => (Quiet.emit rfl).bind fun _ => Quiet.pure _
  · obtain ⟨a,_,first⟩ := bind_returns.mp first
    obtain ⟨b,_,second⟩ := bind_returns.mp second
    rw [(respond_quiet ..).keeps] at first second
    obtain ⟨stats,read,first⟩ := bind_returns.mp first
    obtain ⟨others,again,second⟩ := bind_returns.mp second
    cases read
    cases again
    obtain ⟨_,_,first⟩ := bind_returns.mp first
    obtain ⟨_,_,second⟩ := bind_returns.mp second
    cases first
    cases second
    refine ⟨rfl,fun key other => ?_⟩
    change (panelMetadata ..).lookup key = (panelMetadata ..).lookup key
    unfold panelMetadata
    rw [lookup_union,lookup_union]
    exact congrArg _ (record_apart [("hat",_),("source",_),("model_config",_),("consequence_cache",_)] [("parameter_gate",_)]
      other _ _)

theorem process_alike (same : ∀ hat ∈ agent.hat, escalationOf agent request hat = escalationOf agent (retold request history) hat) :
    Alike (process agent env request) (process agent (reworded env recalled generate converse) (retold request history)) := by
  unfold process
  rw [prepare_reworded agent env request recalled generate converse history same]
  refine Agree.bind _ fun prepared => ?_
  unfold route
  by_cases red : getProposalFloor prepared.proposal.candidates agent.registry = some .red
  · rw [if_pos red,if_pos red]
    exact shortCircuit_alike agent env request recalled generate converse history prepared
  rw [if_neg red,if_neg red]
  cases defensiveTop prepared.proposal with
  | some top => exact defensive_alike agent env request recalled generate converse history prepared top
  | none =>
    dsimp only
    unfold panel
    rw [judge_reworded]
    exact Agree.bind _ fun judged => conclude_alike agent env request recalled generate converse history prepared _ judged

end

theorem escalationOf_deciding {agent : Agent} {request : Request} {hat : HatConfig} {history : List Turn}
    (same : decidingTrigger agent.runtime hat.constraints (EscalationGate.texts request.message request.conversationHistory) =
      decidingTrigger agent.runtime hat.constraints (EscalationGate.texts request.message history)) :
    escalationOf agent request hat = escalationOf agent (retold request history) hat := by
  unfold decidingTrigger at same
  unfold escalationOf retold
  rw [check_texts,check_texts,same]

-- Of the conversation a decision takes the trigger that decides, and of the memory and the replies it takes nothing.
theorem decisions_inert (agent : Agent) (env : Environment) (request : Request) (recalled : Nat × Nat)
    (generate : String → Tier → String → String → String → Option Json → List Turn → Except PyError String)
    (converse : String → List Turn → Option Tier → Except PyError String) (history : List Turn) (cache : Cache)
    (same : ∀ hat, agent.hat = some hat →
      decidingTrigger agent.runtime hat.constraints (EscalationGate.texts request.message request.conversationHistory) =
        decidingTrigger agent.runtime hat.constraints (EscalationGate.texts request.message history)) :
    let run := process agent env request cache
    let other := process agent (reworded env recalled generate converse) (retold request history) cache
    run.state = other.state ∧ run.trace.filter acts = other.trace.filter acts ∧
      ∀ result answer, run.value = .ok result → other.value = .ok answer → SameDecision result answer :=
  process_alike agent env request recalled generate converse history
    (fun hat worn => escalationOf_deciding (same hat worn)) cache

def smallTalk : List Turn := [⟨"user","How are you?"⟩,⟨"assistant","Fine, thank you."⟩]

theorem decisions_inert_greeting : ∃ result answer,
    (process refundAgent (calm inquiry [{toolName := "process_refund"}]) greeting ∅).value = .ok result ∧
    (process refundAgent (reworded (calm inquiry [{toolName := "process_refund"}]) (2,3) (fun _ _ _ _ _ _ _ => .ok "Done.")
      fun _ _ _ => .ok "Hello.") (retold greeting smallTalk) ∅).value = .ok answer ∧ SameDecision result answer := by
  have first : ((process refundAgent (calm inquiry [{toolName := "process_refund"}]) greeting ∅).value.map
    (·.bypassed)).toOption = some false := by decide +kernel
  have second : ((process refundAgent (reworded (calm inquiry [{toolName := "process_refund"}]) (2,3)
    (fun _ _ _ _ _ _ _ => .ok "Done.") fun _ _ _ => .ok "Hello.") (retold greeting smallTalk) ∅).value.map
      (·.bypassed)).toOption = some false := by decide +kernel
  obtain ⟨result,returned,_⟩ := toOption_map.mp first
  obtain ⟨answer,answered,_⟩ := toOption_map.mp second
  refine ⟨result,answer,returned,answered,?_⟩
  refine (decisions_inert refundAgent _ greeting _ _ _ smallTalk ∅ fun hat worn => ?_).2.2 result answer returned answered
  cases worn
  decide +kernel

end Sophia.AgentLoop
