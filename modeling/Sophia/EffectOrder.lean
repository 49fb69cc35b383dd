import Sophia.ExecutionGating
import Sophia.Library.RunPhases
import Sophia.ReplyWords
import Mathlib.Data.List.TakeWhile

namespace Sophia.AgentLoop
open TracedRun Consequence ConsequenceEngine Evaluators RiskClassifier EscalationGate RiskFloor ParameterGate
open PreflightAck Executor

-- The acknowledgement, the panel, the tool and the memory
def phase : Event → Nat
  | .acknowledged _ => 0
  | .scored _ _ _ => 1
  | .executed _ _ => 2
  | .persisted _ _ _ _ => 3

def scorer? : Event → Option Evaluator
  | .scored evaluator _ _ => some evaluator
  | _ => none

def memory? : Event → Option (String × String × Params × String)
  | .persisted message toolName parameters outcome => some (message,toolName,parameters,outcome)
  | _ => none

-- What memory is given of a result
def remembered (message : String) (result : PipelineResult) : String × String × Params × String :=
  (message,result.execution.actionTaken.toolName,result.execution.actionTaken.parameters,result.execution.toolResult.message)

section
variable {agent : Agent} {env : Environment} {request : Request} {cache : Cache} {prepared : Prepared}

theorem handleConverseWithEvaluation_phased (prepared : Prepared) (top : CandidateAction) :
    Phased phase 1 3 (handleConverseWithEvaluation agent env request prepared top) := by
  refine Phased.bind (Phased.silent fun _ => rfl) (fun tree => ?_) (Nat.le_refl 1) (by decide)
  refine Phased.bind (Phased.single (scoreAll_emits fun _ _ _ => rfl)) (fun results => ?_) (Nat.le_refl 1) (by decide)
  have last (words : RiskClassification → Except PyError String) (result : RiskClassification → String → PipelineResult)
      (judged : Except PyError RiskClassification) : Phased phase 3 3
        (lift judged >>= fun situation => finish request.message (words situation) (result situation)) :=
    Phased.single (Emits.bind (Emits.lift _) fun _ => finish_emits fun _ _ _ => rfl)
  exact (last _ _ _).widen (by decide) (Nat.le_refl 3)

theorem conclude_phased (prepared : Prepared) (floor : Option Tier) (judged : Judged) :
    Phased phase 2 3 (conclude agent env request prepared floor judged) := by
  refine Phased.bind (Phased.single (tieredExecute_emits fun _ _ => rfl)) (fun execution => ?_) (Nat.le_refl 2) (by decide)
  refine (Phased.single (Emits.bind respond_emits fun response => ?_)).widen (by decide) (Nat.le_refl 3)
  exact Emits.bind (Emits.overState _) fun stats => Emits.bind (Emits.emit rfl) fun _ => Emits.pure _

theorem route_phased (prepared : Prepared) : Phased phase 1 3 (route agent env request prepared) := by
  unfold route
  refine Phased.ite ?_ ?_
  · exact (Phased.single (shortCircuit_emits fun _ _ _ _ => rfl)).widen (by decide) (Nat.le_refl 3)
  · cases defensiveTop prepared.proposal with
    | some top =>
      refine Phased.bind (Phased.ite ?_ ?_) (fun _ => Phased.silent fun _ => rfl) (by decide) (Nat.le_refl 3)
      · exact handleConverseWithEvaluation_phased prepared top
      · exact (Phased.single (handleConverse_emits fun _ _ _ _ => rfl)).widen (by decide) (Nat.le_refl 3)
    | none =>
      refine Phased.bind (Phased.single (judge_emits fun _ _ _ => rfl)) (fun judged => ?_) (Nat.le_refl 1) (by decide)
      exact (conclude_phased prepared _ judged).widen (by decide) (Nat.le_refl 3)

theorem process_phased (agent : Agent) (env : Environment) (request : Request) : Phased phase 0 3 (process agent env request) :=
  Phased.bind (Phased.single (prepare_emits fun _ => rfl)) (fun prepared => (route_phased prepared).widen (by decide) (Nat.le_refl 3))
    (Nat.le_refl 0) (by decide)

-- A run puts its result into memory when it returns one, and otherwise nothing.
def Remembers (message : String) (m : AgentRun PipelineResult) : Prop :=
  ∀ s, seen memory? m s = (m s).value.toOption.toList.map (remembered message)

theorem Remembers.after {m : AgentRun α} {f : α → AgentRun PipelineResult} (silent : Emits (fun event => memory? event = none) m)
    (last : ∀ a, Remembers message (f a)) : Remembers message (m >>= f) := by
  intro s
  rw [seen_bind,silent.seen_nil,bind_value]
  cases (m s).value with
  | error e => rfl
  | ok a => exact last a _

theorem Remembers.map {m : AgentRun PipelineResult} (remembers : Remembers message m) {f : PipelineResult → PipelineResult}
    (same : ∀ result, remembered message (f result) = remembered message result) :
    Remembers message (m >>= fun result => pure (f result)) := by
  intro s
  rw [seen,bind_pure_outcome]
  refine (remembers s).trans ?_
  cases (m s).value with
  | error e => rfl
  | ok result => exact congrArg (fun kept => [kept]) (same result).symm

theorem finish_remembers {message : String} {words : Except PyError String} {result : String → PipelineResult} :
    Remembers message (finish message words result) := by
  intro s
  cases words with
  | error e => rfl
  | ok response => rfl

theorem conclude_remembers (prepared : Prepared) (floor : Option Tier) (judged : Judged) :
    Remembers request.message (conclude agent env request prepared floor judged) := by
  refine Remembers.after (tieredExecute_emits fun _ _ => rfl) fun execution => ?_
  refine Remembers.after respond_emits fun response => ?_
  exact Remembers.after (Emits.overState _) fun stats => fun s => rfl

theorem handleDefensive_remembers (prepared : Prepared) (top : CandidateAction) :
    Remembers request.message (handleDefensive agent env request prepared top) := by
  unfold handleDefensive
  split
  · refine Remembers.after (Emits.lift _) fun tree => Remembers.after (scoreAll_emits fun _ _ _ => rfl) fun results => ?_
    exact Remembers.after (Emits.lift _) fun situation => finish_remembers
  · exact finish_remembers

theorem route_remembers (prepared : Prepared) : Remembers request.message (route agent env request prepared) := by
  unfold route
  by_cases red : getProposalFloor prepared.proposal.candidates agent.registry = some .red
  · rw [if_pos red]
    exact finish_remembers
  · rw [if_neg red]
    cases defensiveTop prepared.proposal with
    | some top => exact (handleDefensive_remembers prepared top).map fun _ => rfl
    | none => exact Remembers.after (judge_emits fun _ _ _ => rfl) fun judged => conclude_remembers prepared _ judged

theorem process_remembers (agent : Agent) (env : Environment) (request : Request) :
    Remembers request.message (process agent env request) :=
  Remembers.after (prepare_emits fun _ => rfl) fun prepared => route_remembers prepared

theorem scoreOne_scorer (env : Environment) (context : EvaluationContext) (evaluator : Evaluator) (cache : Cache) :
    seen scorer? (scoreOne env context evaluator) cache = if (scoreOf env context evaluator).isOk then [evaluator] else [] := by
  unfold scoreOne scoreOf
  cases env.evaluate evaluator context with
  | error e => rfl
  | ok parsed =>
    rw [seen_lift_bind]
    dsimp only
    rw [seen_lift_bind]
    change _ = if (evaluator.evaluate parsed).isOk then [evaluator] else []
    cases evaluator.evaluate parsed with
    | error e => rfl
    | ok result => rfl

theorem scoreAll_scorers (env : Environment) (context : EvaluationContext) (cache : Cache) :
    seen scorer? (scoreAll env context) cache = evaluators.takeWhile fun evaluator => (scoreOf env context evaluator).isOk := by
  refine ((scoreOne_stateless env context).seen_gather (scoreOne_scorer env context) evaluators cache).trans ?_
  exact List.map_id _

theorem scoreAll_complete (returned : (scoreAll env context cache).value = .ok results) :
    seen scorer? (scoreAll env context) cache = evaluators := by
  rw [scoreAll_scorers]
  refine List.takeWhile_eq_self_iff.mpr fun evaluator member => ?_
  obtain ⟨result,scored⟩ := (scoreOne_stateless env context).returns returned member
  rw [scored]
  rfl

-- The evaluators score in the order of the panel, up to the first that raises.
def InPanelOrder (m : AgentRun α) : Prop := ∀ cache, ∃ rest, seen scorer? m cache ++ rest = evaluators

theorem InPanelOrder.silent {m : AgentRun α} (silent : Emits (fun event => scorer? event = none) m) : InPanelOrder m :=
  fun cache => ⟨evaluators,by rw [silent.seen_nil,List.nil_append]⟩

theorem InPanelOrder.after {m : AgentRun α} {f : α → AgentRun β} (silent : Emits (fun event => scorer? event = none) m)
    (last : ∀ a, InPanelOrder (f a)) : InPanelOrder (m >>= f) := by
  intro cache
  rw [seen_bind,silent.seen_nil]
  cases (m cache).value with
  | error e => exact ⟨evaluators,rfl⟩
  | ok a => exact last a _

theorem InPanelOrder.before {m : AgentRun α} {f : α → AgentRun β} (first : InPanelOrder m)
    (silent : ∀ a, Emits (fun event => scorer? event = none) (f a)) : InPanelOrder (m >>= f) := by
  intro cache
  rw [seen_then_silent silent]
  exact first cache

theorem scoreAll_inPanelOrder (env : Environment) (context : EvaluationContext) : InPanelOrder (scoreAll env context) := by
  intro cache
  rw [scoreAll_scorers]
  exact ⟨_,List.takeWhile_append_dropWhile⟩

theorem judge_inPanelOrder (prepared : Prepared) (floor : Option Tier) : InPanelOrder (judge agent env prepared floor) := by
  refine InPanelOrder.after (Emits.overState _) fun trees => InPanelOrder.after (Emits.lift _) fun minTier => ?_
  refine InPanelOrder.before ?_ fun _ => Emits.pure _
  unfold runEvaluationPanel
  split
  · exact InPanelOrder.silent (Emits.pure _)
  · exact (scoreAll_inPanelOrder env _).before fun _ => Emits.bind (Emits.lift _) fun _ => Emits.pure _

theorem handleDefensive_inPanelOrder (prepared : Prepared) (top : CandidateAction) :
    InPanelOrder (handleDefensive agent env request prepared top) := by
  unfold handleDefensive
  split
  · refine InPanelOrder.after (Emits.lift _) fun tree => (scoreAll_inPanelOrder env _).before fun results => ?_
    exact Emits.bind (Emits.lift _) fun situation => finish_emits fun _ _ _ => rfl
  · exact InPanelOrder.silent (handleConverse_emits fun _ _ _ _ => rfl)

theorem process_inPanelOrder (agent : Agent) (env : Environment) (request : Request) :
    InPanelOrder (process agent env request) := by
  refine InPanelOrder.after (prepare_emits fun _ => rfl) fun prepared => ?_
  unfold route
  by_cases red : getProposalFloor prepared.proposal.candidates agent.registry = some .red
  · rw [if_pos red]
    exact InPanelOrder.silent (shortCircuit_emits fun _ _ _ _ => rfl)
  · rw [if_neg red]
    cases defensiveTop prepared.proposal with
    | some top => exact (handleDefensive_inPanelOrder prepared top).before fun _ => Emits.pure _
    | none => exact (judge_inPanelOrder prepared _).before fun judged => conclude_emits (fun _ _ => rfl) fun _ _ _ _ => rfl

-- A panel that judged a candidate heard all four.
theorem judge_complete (shape : prepared.proposal.candidates = c :: rest)
    (returned : (judge agent env prepared floor cache).value = .ok judged) :
    seen scorer? (judge agent env prepared floor) cache = evaluators := by
  obtain ⟨trees,built,later⟩ := bind_returns.mp returned
  have builtFirst := built
  rw [overState_value,shape] at builtFirst
  obtain ⟨tree,others,rfl,_⟩ := analyzeAll_first builtFirst
  obtain ⟨minTier,combined,later⟩ := bind_returns.mp later
  obtain ⟨evaluated,paneled,_⟩ := bind_returns.mp later
  obtain ⟨results,scored,_⟩ := bind_returns.mp paneled
  unfold judge
  rw [seen_after_silent (Emits.overState _) built,seen_after_silent (Emits.lift _) combined,seen_then_silent fun _ => Emits.pure _]
  refine (seen_then_silent fun _ => ?_).trans (scoreAll_complete scored)
  exact Emits.bind (Emits.lift _) fun _ => Emits.pure _

theorem acted_complete (acted : calls (process agent env request) cache ≠ []) :
    seen scorer? (process agent env request) cache = evaluators := by
  rw [process_calls] at acted
  cases ready : (prepare agent env request cache).value with
  | error e => simp [ready] at acted
  | ok prepared =>
    simp only [ready] at acted
    by_cases open_ : getProposalFloor prepared.proposal.candidates agent.registry ≠ some .red ∧
        defensiveTop prepared.proposal = none
    · rw [if_pos open_,panel_calls] at acted
      cases decided : (judge agent env prepared (getProposalFloor prepared.proposal.candidates agent.registry) cache).value with
      | error e => simp [decided] at acted
      | ok judged =>
        simp only [decided] at acted
        unfold process
        rw [seen_after_silent (prepare_emits fun _ => rfl) ready,route_panel open_.1 open_.2,prepare_keeps agent env request]
        refine (seen_then_silent fun _ => conclude_emits (fun _ _ => rfl) fun _ _ _ _ => rfl).trans ?_
        cases shape : prepared.proposal.candidates with
        | cons first rest => exact shape ▸ judge_complete shape decided
        | nil =>
          rw [tiered_calls,(judge_empty shape decided).1] at acted
          simp [noTreeClassification,execute_calls,shape] at acted
    · rw [if_neg open_] at acted
      exact absurd rfl acted

theorem process_calls_once (agent : Agent) (env : Environment) (request : Request) (cache : Cache) :
    (calls (process agent env request) cache).length ≤ 1 := by
  rcases called_or_silent agent env request cache with silent | ⟨prepared,judged,by_⟩
  · rw [silent]
    exact Nat.zero_le _
  · exact by_.once

theorem sendAck_once (env : Environment) (request : Request) (ack : Option String) (cache : Cache) :
    (acknowledgements (sendAck env request ack) cache).length ≤ 1 := by
  unfold acknowledgements sendAck
  cases truthyText ack with
  | none => exact Nat.zero_le _
  | some text =>
    dsimp only
    split
    · rw [seen_bind,emit_value,emit_state]
      dsimp only
      rw [(Emits.bind (Emits.lift _) fun _ => Emits.pure _ : Emits (fun event => ackText? event = none) _).seen_nil]
      exact Nat.le_refl 1
    · exact Nat.zero_le _

theorem process_once (agent : Agent) (env : Environment) (request : Request) (cache : Cache) :
    (acknowledgements (process agent env request) cache).length ≤ 1 := by
  rw [process_heard]
  unfold acknowledgements prepare
  rw [seen_lift_bind]
  cases env.parse request.message with
  | error e => exact Nat.zero_le _
  | ok intent =>
    dsimp only
    rw [seen_lift_bind]
    cases env.propose intent with
    | error e => exact Nat.zero_le _
    | ok candidates =>
      dsimp only
      rw [seen_lift_bind]
      cases activeHat agent with
      | error e => exact Nat.zero_le _
      | ok hat =>
        dsimp only
        rw [seen_then_silent fun _ => Emits.pure _]
        exact sendAck_once env request _ cache

end

-- The order of what a run does, whether it returns or raises: at most one acknowledgement, each evaluator at most once,
-- at most one call of a tool and only after all four have scored, and last the memory of what is returned.
theorem effects_in_order (agent : Agent) (env : Environment) (request : Request) (cache : Cache) :
    ((process agent env request cache).trace.map phase).Pairwise (· ≤ ·) ∧
    (acknowledgements (process agent env request) cache).length ≤ 1 ∧
    (seen scorer? (process agent env request) cache).Nodup ∧
    (calls (process agent env request) cache).length ≤ 1 ∧
    (calls (process agent env request) cache ≠ [] → ∀ evaluator, evaluator ∈ seen scorer? (process agent env request) cache) ∧
    seen memory? (process agent env request) cache =
      (process agent env request cache).value.toOption.toList.map (remembered request.message) := by
  refine ⟨(process_phased agent env request).sorted cache,process_once agent env request cache,?_,
    process_calls_once agent env request cache,fun acted evaluator => ?_,process_remembers agent env request cache⟩
  · obtain ⟨rest,order⟩ := process_inPanelOrder agent env request cache
    have distinct : evaluators.Nodup := by decide
    rw [← order] at distinct
    exact distinct.of_append_left
  · rw [acted_complete acted]
    cases evaluator <;> decide

end Sophia.AgentLoop
