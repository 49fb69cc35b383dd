import Sophia.RiskClassifier
import Sophia.ConsequenceEngine
import Sophia.Library.TracedRun

namespace Sophia.Executor
open TracedRun Consequence Evaluators RiskClassifier PyText

-- What a run does that others can see, in order
inductive Event where
  | executed (toolName : String) (parameters : Params)
  | scored (evaluator : Evaluator) (context : EvaluationContext) (result : EvaluatorResult)
  | acknowledged (text : String)
  | persisted (message toolName : String) (parameters : Params) (outcome : String)

-- The calls of ToolRegistry.execute
def call? : Event → Option (String × Params)
  | .executed toolName parameters => some (toolName,parameters)
  | _ => none

abbrev AgentRun := Run PyError ConsequenceEngine.Cache Event

abbrev Silent (m : AgentRun α) : Prop := Emits (fun event => call? event = none) m

def calls (m : AgentRun α) (cache : ConsequenceEngine.Cache) : List (String × Params) := seen call? m cache

structure ExecutionResult where
  actionTaken : CandidateAction
  toolResult : ToolResult
  riskTier : Tier
  riskClassification : Option RiskClassification := none

-- ToolRegistry.execute. What a registered tool does is the environment's.
def registryExecute (registry : ToolRegistry) (perform : String → Params → Except PyError ToolResult)
    (toolName : String) (parameters : Params) : AgentRun ToolResult := do
  emit (.executed toolName parameters)
  match registry.get toolName with
  | none => pure ⟨false,.null,"Unknown tool: " ++ toolName⟩
  | some _ => lift (perform toolName parameters)

section
variable (registry : ToolRegistry) (perform : String → Params → Except PyError ToolResult) (runtime : Runtime)

def execute (proposal : Proposal) : AgentRun ExecutionResult :=
  match proposal.candidates with
  | [] => pure {
      actionTaken := {toolName := "none",reasoning := "No candidates proposed"}
      toolResult := ⟨false,.null,"No action candidates were proposed"⟩
      riskTier := .green}
  | candidate :: _ =>
    if candidate.toolName = "converse" then
      pure {actionTaken := candidate,toolResult := ⟨true,.null,"Conversational response"⟩,riskTier := .green}
    else do
      let toolResult ← registryExecute registry perform candidate.toolName candidate.parameters
      pure {actionTaken := candidate,toolResult,riskTier := .green}

def topCandidate (proposal : Proposal) : CandidateAction :=
  proposal.candidates.head?.getD {toolName := "none",reasoning := "No candidates"}

def confirmationData : Json := .obj [("requires_confirmation",.bool true)]

def ExecutionResult.awaitsConfirmation (execution : ExecutionResult) : Prop :=
  execution.riskTier = .yellow ∧ execution.toolResult.data = confirmationData

def worstOf (trees : List ConsequenceTree) : Option ConsequenceNode := trees.head?.bind (·.worstTerminal)

def buildConfirmation (proposal : Proposal) (rc : RiskClassification) (trees : List ConsequenceTree) : ExecutionResult :=
  let candidate := topCandidate proposal
  let concernLines := (if rc.explanation = "" then [] else [rc.explanation]) ++ (worstOf trees).toList.map fun worst =>
    "Top concern: " ++ runtime.str worst.description ++ " (probability: " ++ percent worst.probability ++ ")"
  let message := "I'd like to proceed with " ++ candidate.toolName ++ ", but this requires your confirmation.\n\n" ++
    join "\n" concernLines
  {actionTaken := candidate,toolResult := ⟨true,confirmationData,message⟩,riskTier := .yellow,riskClassification := some rc}

def escalationParameters (rc : RiskClassification) : Params :=
  ((AList.singleton "reason" (.str ("Risk assessment: " ++ rc.tier.name))).insert "priority" (.str "high")).insert
    "context_summary" (.str rc.explanation)

def escalated (rc : RiskClassification) (toolResult : ToolResult) : ExecutionResult where
  actionTaken := {toolName := "escalate_to_human",reasoning := "Auto-escalated due to ORANGE risk tier"}
  toolResult := toolResult
  riskTier := .orange
  riskClassification := some rc

def unescalated (proposal : Proposal) (rc : RiskClassification) : ExecutionResult where
  actionTaken := topCandidate proposal
  toolResult := ⟨false,.null,
    "This request requires human review and cannot be processed automatically.\n\n" ++ rc.explanation⟩
  riskTier := .orange
  riskClassification := some rc

def buildEscalation (proposal : Proposal) (rc : RiskClassification) : AgentRun ExecutionResult :=
  if registry.hasTool "escalate_to_human" then do
    let toolResult ← registryExecute registry perform "escalate_to_human" (escalationParameters rc)
    if toolResult.success then pure (escalated rc toolResult) else pure (unescalated proposal rc)
  else pure (unescalated proposal rc)

def buildRefusal (proposal : Proposal) (rc : RiskClassification) (trees : List ConsequenceTree) : ExecutionResult :=
  let citations := (worstOf trees).toList.map fun worst =>
    "- " ++ runtime.str worst.description ++ " (harm_benefit=" ++ fixed 2 worst.harmBenefit ++ ", probability=" ++
      percent worst.probability ++ ")"
  let citationText := if citations.isEmpty then "Multiple risk factors identified." else join "\n" citations
  let override := match truthyText rc.overrideReason with
    | some reason => " Override: " ++ reason ++ "."
    | none => ""
  let message := "Action refused: consequence analysis identified unacceptable risk." ++ override ++
    "\n\nHarmful consequences identified:\n" ++ citationText
  {actionTaken := topCandidate proposal,toolResult := ⟨false,.null,message⟩,riskTier := .red,riskClassification := some rc}

-- _tiered_execute
def tieredExecute (rc : RiskClassification) (proposal : Proposal) (trees : List ConsequenceTree) :
    AgentRun ExecutionResult :=
  match rc.tier with
  | .green => do
    let execution ← execute registry perform proposal
    pure {execution with riskTier := .green,riskClassification := some rc}
  | .yellow => pure (buildConfirmation runtime proposal rc trees)
  | .orange => buildEscalation registry perform proposal rc
  | .red => pure (buildRefusal runtime proposal rc trees)

end

section
variable {registry : ToolRegistry} {perform : String → Params → Except PyError ToolResult} {runtime : Runtime}
variable {cache : ConsequenceEngine.Cache} {proposal : Proposal} {rc : RiskClassification} {trees : List ConsequenceTree}

variable {P : Event → Prop}

theorem registryExecute_emits (executed : ∀ toolName parameters, P (.executed toolName parameters)) :
    Emits P (registryExecute registry perform toolName parameters) := by
  refine Emits.bind (Emits.emit (executed _ _)) fun _ => ?_
  cases registry.get toolName with
  | none => exact Emits.pure _
  | some tool => exact Emits.lift _

theorem tieredExecute_emits (executed : ∀ toolName parameters, P (.executed toolName parameters)) :
    Emits P (tieredExecute registry perform runtime rc proposal trees) := by
  unfold tieredExecute
  cases rc.tier with
  | green =>
    refine Emits.bind ?_ fun _ => Emits.pure _
    unfold execute
    cases proposal.candidates with
    | nil => exact Emits.pure _
    | cons first rest =>
      refine Emits.ite (Emits.pure _) ?_
      exact Emits.bind (registryExecute_emits executed) fun _ => Emits.pure _
  | yellow => exact Emits.pure _
  | orange =>
    refine Emits.ite ?_ (Emits.pure _)
    exact Emits.bind (registryExecute_emits executed) fun _ => Emits.ite (Emits.pure _) (Emits.pure _)
  | red => exact Emits.pure _

theorem registryExecute_calls (toolName : String) (parameters : Params) :
    calls (registryExecute registry perform toolName parameters) cache = [(toolName,parameters)] := by
  unfold registryExecute calls
  rw [seen_bind]
  cases registry.get toolName <;> rfl

-- What follows a call and makes none itself adds nothing to the calls.
theorem calls_then_pure {m : AgentRun α} {f : α → AgentRun β} (quiet : ∀ a, Silent (f a)) :
    calls (m >>= f) cache = calls m cache := seen_then_silent quiet

theorem execute_calls : calls (execute registry perform proposal) cache =
    match proposal.candidates with
    | [] => []
    | c :: _ => if c.toolName = "converse" then [] else [(c.toolName,c.parameters)] := by
  unfold execute
  cases proposal.candidates with
  | nil => rfl
  | cons c rest =>
    by_cases converse : c.toolName = "converse"
    · simp only [if_pos converse]; rfl
    · simp only [if_neg converse]
      rw [calls_then_pure fun _ => Emits.pure _,registryExecute_calls]

theorem execute_value (returned : (execute registry perform proposal cache).value = .ok execution) :
    execution.toolResult.success = true → execution.actionTaken.toolName ≠ "converse" →
      ∃ parameters, (execution.actionTaken.toolName,parameters) ∈ calls (execute registry perform proposal) cache := by
  rw [execute_calls]
  unfold execute at returned
  cases shape : proposal.candidates with
  | nil =>
    rw [shape] at returned
    cases returned
    intro success
    cases success
  | cons c rest =>
    rw [shape] at returned
    intro _ acted
    by_cases converse : c.toolName = "converse"
    · simp only [if_pos converse] at returned
      cases returned
      exact absurd converse acted
    · simp only [if_neg converse] at returned
      obtain ⟨toolResult,_,returned⟩ := bind_returns.mp returned
      cases returned
      exact ⟨c.parameters,by simp only [if_neg converse,List.mem_singleton]⟩

theorem escalation_calls : calls (buildEscalation registry perform proposal rc) cache =
    if registry.hasTool "escalate_to_human" then [("escalate_to_human",escalationParameters rc)] else [] := by
  unfold buildEscalation
  split
  · rw [calls_then_pure,registryExecute_calls]
    intro toolResult
    exact Emits.ite (Emits.pure _) (Emits.pure _)
  · rfl

theorem escalation_value (returned : (buildEscalation registry perform proposal rc cache).value = .ok execution) :
    execution.riskTier = .orange ∧ (execution.toolResult.success = true →
      execution.actionTaken.toolName = "escalate_to_human" ∧ registry.hasTool "escalate_to_human" = true) := by
  unfold buildEscalation at returned
  split at returned
  · next registered =>
    obtain ⟨toolResult,_,returned⟩ := bind_returns.mp returned
    split at returned
    · cases returned; exact ⟨rfl,fun _ => ⟨rfl,registered⟩⟩
    · cases returned; exact ⟨rfl,fun success => (nomatch success)⟩
  · cases returned; exact ⟨rfl,fun success => (nomatch success)⟩

-- The calls that each tier makes
theorem tiered_calls : calls (tieredExecute registry perform runtime rc proposal trees) cache =
    match rc.tier with
    | .green => calls (execute registry perform proposal) cache
    | .orange => calls (buildEscalation registry perform proposal rc) cache
    | _ => [] := by
  unfold tieredExecute
  cases rc.tier with
  | green => exact calls_then_pure fun _ => Emits.pure _
  | yellow => rfl
  | orange => rfl
  | red => rfl

theorem tiered_tier (returned : (tieredExecute registry perform runtime rc proposal trees cache).value = .ok execution) :
    execution.riskTier = rc.tier := by
  unfold tieredExecute at returned
  cases tier : rc.tier with
  | green =>
    rw [tier] at returned
    obtain ⟨_,_,returned⟩ := bind_returns.mp returned
    cases returned; rfl
  | yellow => rw [tier] at returned; cases returned; rfl
  | orange => rw [tier] at returned; exact (escalation_value returned).1
  | red => rw [tier] at returned; cases returned; rfl

-- A success that is no confirmation request and no conversation was a call of the tool named.
theorem tiered_report (returned : (tieredExecute registry perform runtime rc proposal trees cache).value = .ok execution)
    (success : execution.toolResult.success = true) (acted : execution.actionTaken.toolName ≠ "converse")
    (settled : ¬ execution.awaitsConfirmation) :
    ∃ parameters, (execution.actionTaken.toolName,parameters) ∈
      calls (tieredExecute registry perform runtime rc proposal trees) cache := by
  rw [tiered_calls]
  unfold tieredExecute at returned
  cases tier : rc.tier with
  | green =>
    rw [tier] at returned
    obtain ⟨inner,ran,returned⟩ := bind_returns.mp returned
    cases returned
    have report := execute_value ran
    exact report success acted
  | yellow =>
    rw [tier] at returned
    cases returned
    exact absurd ⟨rfl,rfl⟩ settled
  | orange =>
    rw [tier] at returned
    obtain ⟨named,registered⟩ := (escalation_value returned).2 success
    rw [escalation_calls,if_pos registered,named]
    exact ⟨_,List.mem_singleton_self _⟩
  | red =>
    rw [tier] at returned
    cases returned
    cases success

end

end Sophia.Executor
