import Sophia.ExecutionGating
import Sophia.GateRanking
import Sophia.FinancialLimits
import Sophia.ToolSchemas
import Sophia.ToolScoping

namespace Sophia.AgentLoop
open ParameterGate

section
variable {agent : Agent} {intent : Intent} {candidates : List CandidateAction}

theorem unpassed_converse (none_ : ¬ ∃ c ∈ candidates, passes agent c = true) :
    ∀ c ∈ (postGateProposal agent intent candidates).candidates, isConverse c = true := by
  have empty : (⟨intent,candidates⟩ : Proposal).candidates.filter
      (ParameterGate.passes agent.runtime agent.placeholders agent.registry) = [] := by
    rw [passing_nil]
    intro c present plain sound
    exact none_ ⟨c,present,by rw [passes,plain,passed_iff.mpr sound]; rfl⟩
  have outcome := validate_outcome agent.runtime agent.placeholders agent.registry ⟨intent,candidates⟩
  obtain ⟨converse,parts,all⟩ := survivors_parts outcome
  rw [empty,List.nil_append] at parts
  intro c present
  rw [postGateProposal,postGate] at present
  split at present
  · rw [parts] at present
    exact all c present
  · next kept =>
    cases plain : isConverse c with
    | true => rfl
    | false =>
      have promoted : (validate agent.runtime agent.placeholders agent.registry ⟨intent,candidates⟩).promotedConverse = true :=
        outcome.promoted_iff.mpr ⟨⟨c,present,plain⟩,passing_nil.mp empty⟩
      rw [promoted,Bool.true_or] at kept
      exact absurd rfl kept

-- Whatever the run goes on with is a reply or was let through by the gate.
theorem postGate_passed (present : c ∈ (postGateProposal agent intent candidates).candidates) :
    isConverse c = true ∨ passes agent c = true := by
  by_cases some_ : ∃ c ∈ candidates, passes agent c = true
  · rw [postGateProposal_passing some_] at present
    split at present
    · rcases List.mem_append.mp present with passing | converse
      · exact .inr (List.mem_filter.mp passing).2
      · exact .inl (List.mem_filter.mp converse).2
    · next unfailing =>
      have fine : fails agent c = false := Bool.eq_false_iff.mpr fun failing =>
        unfailing (List.any_eq_true.mpr ⟨c,present,failing⟩)
      have kept := kept_or_fails agent c
      rw [fine,Bool.not_false,Bool.or_eq_true] at kept
      exact kept.symm
  · exact .inl (unpassed_converse some_ c present)

end
end Sophia.AgentLoop

namespace Sophia.CustomerService
open TracedRun Json ServiceModels Mcp MockServices StepRun ParameterGate ConsequenceEngine Executor AgentLoop RiskFloor

def hatTools : List HatTool := registered.filterMap fun
  | .hat tool => some tool
  | .escalateToHuman => none

def riskFloor : HatTool → Option Tier
  | .offerFreeItem => some .red
  | _ => none

def consequenceCacheTtl : HatTool → Option ℚ
  | .offerDiscount => some 600
  | .offerPartialRefund => some 600
  | .offerFullRefund => some 600
  | .offerFreeItem => some 0
  | _ => none

def shopTool (tool : HatTool) : Tool := {toolOf tool with
  maxFinancialImpact := maxFinancialImpact tool
  riskFloor := riskFloor tool
  consequenceCacheTtl := consequenceCacheTtl tool}

-- What equipping the hat registers. The tools for communication are the framework's, and work on no store.
def shopRegistry : ToolRegistry :=
  (hatTools.map shopTool ++ Hats.converseTool :: Hats.frameworkCommunicationTools).foldl ToolRegistry.register .empty

def hatTool? (toolName : String) : Option HatTool := hatTools.find? fun tool => (toolOf tool).name == toolName

-- The hat as it is worn: its tools are registered.
def shopAgent (agent : Agent) : Agent := {agent with registry := shopRegistry}

structure Desk where
  cache : Cache := ∅
  world : World := initialWorld

-- A request and the answers that the stages, the clocks and the callback have for it
structure Asked where
  env : Environment
  request : Request

section
variable (texts : Texts) (errorText : PyError → String) (outside : Outside) (jsonOf : ToolData → Json)

def toolResult (result : HatResult) : ToolResult := ⟨result.success,jsonOf result.data,result.message⟩

-- execute of the tool of that name; env.perform stands for the tools of the framework.
def performOn (env : Environment) (w : World) (toolName : String) (params : Params) : Except PyError ToolResult :=
  match hatTool? toolName with
  | some tool => (execute texts errorText (mock outside) tool params w).value.map (toolResult jsonOf)
  | none => env.perform toolName params

-- What a call of ToolRegistry.execute leaves of the store
def callOn (w : World) (call : String × Params) : World :=
  match shopRegistry.get call.1,hatTool? call.1 with
  | some _,some tool => runTool texts errorText outside w tool call.2
  | _,_ => w

def Asked.on (asked : Asked) (w : World) : Environment :=
  {asked.env with perform := performOn texts errorText outside jsonOf asked.env w}

variable (agent : Agent)

abbrev requestOn (desk : Desk) (asked : Asked) : AgentRun PipelineResult :=
  process (shopAgent agent) (asked.on texts errorText outside jsonOf desk.world) asked.request

-- One request after another, each with the store as the one before left it
def serve (desk : Desk) (asked : Asked) : Desk where
  cache := (requestOn texts errorText outside jsonOf agent desk asked desk.cache).state
  world := (calls (requestOn texts errorText outside jsonOf agent desk asked) desk.cache).foldl
    (callOn texts errorText outside) desk.world

-- The execution that a request comes to, if any
def executionOf (desk : Desk) (asked : Asked) : Option (Execution agent.runtime (shopAgent agent).placeholders) := do
  let call ← (calls (requestOn texts errorText outside jsonOf agent desk asked) desk.cache).head?
  let tool ← hatTool? call.1
  if accepted : (validateCandidate agent.runtime (shopAgent agent).placeholders (.register .empty (toolOf tool))
      {toolName := (toolOf tool).name,parameters := call.2}).passed = true then some ⟨tool,call.2,accepted⟩
  else none

end

theorem hatTool_named {name : String} (found : hatTool? name = some tool) : (toolOf tool).name = name := by
  have same := List.find?_some found
  exact beq_iff_eq.mp same

theorem hatTool_escalation : hatTool? "escalate_to_human" = none := by decide +kernel

theorem shopRegistry_get (tool : HatTool) : shopRegistry.get (toolOf tool).name = some (shopTool tool) := by
  cases tool <;> rfl

-- The gate asks the registered tool for nothing else than its own schema does.
theorem shop_accepted {runtime : Runtime} {known : List String} {candidate : CandidateAction}
    (named : (toolOf tool).name = candidate.toolName)
    (passed : (validateCandidate runtime known shopRegistry candidate).passed = true) :
    (validateCandidate runtime known (.register .empty (toolOf tool))
      {toolName := (toolOf tool).name,parameters := candidate.parameters}).passed = true := by
  have sound := passed_iff.mp passed (shopTool tool) (by rw [← named]; exact shopRegistry_get tool)
  refine passed_iff.mpr fun other found field needed => ?_
  cases (ToolRegistry.get_register _ _).symm.trans found
  exact sound field needed

-- What stands before an execution: the proposer named it, it came first among what the gate let through, four
-- evaluators saw its consequences, and nothing held it above GREEN.
structure Authorized (agent : Agent) (env : Environment) (request : Request) (cache : Cache) (tool : HatTool)
    (params : Params) : Prop where
  named : ∃ hat intent candidates first, agent.hat = some hat ∧ env.parse request.message = .ok intent ∧
    env.propose intent = .ok candidates ∧ first.toolName = (toolOf tool).name ∧ first.parameters = params ∧
    Cleared agent request hat (postGateProposal agent intent candidates) first ∧
    Scored (process agent env request cache).trace first
  green : ∀ result, (process agent env request cache).value = .ok result → result.riskClassification.tier = .green

-- The tool that gives products away is registered as prohibited.
theorem Authorized.allowed {request : Request} (authorized : Authorized (shopAgent agent) env request cache tool params) :
    tool ≠ .offerFreeItem := by
  rintro rfl
  obtain ⟨_,_,_,first,_,_,_,named,_,cleared,_⟩ := authorized.named
  have floor : floorOf shopRegistry first = some .red := by
    rw [floorOf,named,shopRegistry_get]
    rfl
  cases cleared.floors first (List.mem_of_mem_head? cleared.top) _ floor

section
variable {texts : Texts} {errorText : PyError → String} {outside : Outside} {jsonOf : ToolData → Json} {agent : Agent}
  {desk : Desk} {asked : Asked} {call : String × Params}

theorem executionOf_silent (silent : calls (requestOn texts errorText outside jsonOf agent desk asked) desk.cache = []) :
    (serve texts errorText outside jsonOf agent desk asked).world = desk.world ∧
      executionOf texts errorText outside jsonOf agent desk asked = none := by
  rw [serve,executionOf,silent]
  exact ⟨rfl,rfl⟩

theorem executionOf_other (once : calls (requestOn texts errorText outside jsonOf agent desk asked) desk.cache = [call])
    (other : hatTool? call.1 = none) : (serve texts errorText outside jsonOf agent desk asked).world = desk.world ∧
      executionOf texts errorText outside jsonOf agent desk asked = none := by
  rw [serve,executionOf,once]
  simp [callOn,other]

theorem executionOf_tool (once : calls (requestOn texts errorText outside jsonOf agent desk asked) desk.cache = [call])
    (named : hatTool? call.1 = some tool)
    (accepted : (validateCandidate agent.runtime (shopAgent agent).placeholders (.register .empty (toolOf tool))
      {toolName := (toolOf tool).name,parameters := call.2}).passed = true) :
    (serve texts errorText outside jsonOf agent desk asked).world = runTool texts errorText outside desk.world tool call.2 ∧
      executionOf texts errorText outside jsonOf agent desk asked = some ⟨tool,call.2,accepted⟩ := by
  have there : shopRegistry.get call.1 = some (shopTool tool) := by
    rw [← hatTool_named named]
    exact shopRegistry_get tool
  rw [serve,executionOf,once]
  simp [callOn,there,named,accepted]

-- One request is one execution on the store, or none, and an execution is authorized.
theorem serve_executes (texts : Texts) (errorText : PyError → String) (outside : Outside) (jsonOf : ToolData → Json)
    (agent : Agent) (desk : Desk) (asked : Asked) :
    (serve texts errorText outside jsonOf agent desk asked).world =
      execution texts errorText outside desk.world (executionOf texts errorText outside jsonOf agent desk asked) ∧
    ∀ run ∈ executionOf texts errorText outside jsonOf agent desk asked,
      Authorized (shopAgent agent) (asked.on texts errorText outside jsonOf desk.world) asked.request desk.cache run.tool
        run.params := by
  rcases called_or_silent (shopAgent agent) (asked.on texts errorText outside jsonOf desk.world) asked.request desk.cache
    with silent | ⟨prepared,judged,by_⟩
  · obtain ⟨kept,none_⟩ := executionOf_silent silent
    rw [kept,none_]
    exact ⟨rfl,fun _ => nofun⟩
  · have once := by_.once
    cases shape : calls (requestOn texts errorText outside jsonOf agent desk asked) desk.cache with
    | nil =>
      obtain ⟨kept,none_⟩ := executionOf_silent shape
      rw [kept,none_]
      exact ⟨rfl,fun _ => nofun⟩
    | cons call more =>
      rw [shape] at once
      obtain rfl := List.length_eq_zero_iff.mp (Nat.le_zero.mp (Nat.le_of_succ_le_succ once))
      cases named : hatTool? call.1 with
      | none =>
        obtain ⟨kept,none_⟩ := executionOf_other shape named
        rw [kept,none_]
        exact ⟨rfl,fun _ => nofun⟩
      | some tool =>
        have acting : call.1 ≠ "escalate_to_human" := by
          intro same
          rw [same,hatTool_escalation] at named
          cases named
        obtain ⟨green,first,rest,candidates,rfl⟩ := by_.first (by rw [shape]; exact List.mem_singleton.mpr rfl) acting
        obtain ⟨cleared,scored⟩ := by_.cleared candidates green
        obtain ⟨proposed,answered,same⟩ := by_.ready.proposed
        have present : first ∈ (postGateProposal (shopAgent agent) prepared.intent proposed).candidates := by
          rw [← same,candidates]
          exact List.mem_cons_self
        have passing : AgentLoop.passes (shopAgent agent) first = true := by
          refine (postGate_passed present).resolve_left fun converse => ?_
          exact cleared.acting.1 (beq_iff_eq.mp converse)
        rw [AgentLoop.passes,Bool.and_eq_true] at passing
        have accepted := shop_accepted (hatTool_named named) passing.2
        obtain ⟨ran,execution_⟩ := executionOf_tool shape named accepted
        rw [ran,execution_]
        refine ⟨rfl,fun run listed => ?_⟩
        cases listed
        refine ⟨⟨prepared.hat,prepared.intent,proposed,first,by_.ready.hat,by_.ready.parsed,answered,
          (hatTool_named named).symm,rfl,same ▸ cleared,scored⟩,fun result returned => ?_⟩
        rw [by_.concluded result returned]
        exact green

variable (texts errorText outside jsonOf agent)

-- The executions that a run of requests comes to
def executions (start : Desk) (inputs : List Asked) : List (Option (Execution agent.runtime (shopAgent agent).placeholders)) :=
  (answers (serve texts errorText outside jsonOf agent) (executionOf texts errorText outside jsonOf agent) start inputs).map
    Prod.snd

variable {texts errorText outside jsonOf agent}

theorem executions_run (start : Desk) (inputs : List Asked) :
    (after (serve texts errorText outside jsonOf agent) start inputs).world =
      after (execution texts errorText outside) start.world (executions texts errorText outside jsonOf agent start inputs) := by
  induction inputs generalizing start with
  | nil => rfl
  | cons asked rest ih =>
    rw [after_cons,ih,(serve_executes texts errorText outside jsonOf agent start asked).1]
    rfl

theorem execution_reached (run : Option (Execution runtime known)) (reached : ∃ calls, w = worldAfter outside calls) :
    ∃ calls, execution texts errorText outside w run = worldAfter outside calls := by
  obtain ⟨calls,rfl⟩ := reached
  cases run with
  | none => exact ⟨calls,rfl⟩
  | some run => exact runTool_reached texts errorText outside calls run.tool run.params

-- Requests lead to no other stores than the operations of the services.
theorem requests_reached (inputs : List Asked) :
    ∃ calls, (after (serve texts errorText outside jsonOf agent) {} inputs).world = worldAfter outside calls := by
  rw [executions_run]
  exact invariant (I := fun w => ∃ calls, w = worldAfter outside calls) (fun _ run reached => execution_reached run reached)
    ⟨[],rfl⟩

-- A request that is not answered at GREEN leaves the store alone.
theorem serve_held (returned : (requestOn texts errorText outside jsonOf agent desk asked desk.cache).value = .ok result)
    (held : result.riskClassification.tier ≠ .green) :
    (serve texts errorText outside jsonOf agent desk asked).world = desk.world := by
  obtain ⟨ran,authorized⟩ := serve_executes texts errorText outside jsonOf agent desk asked
  cases came : executionOf texts errorText outside jsonOf agent desk asked with
  | none => rw [ran,came]; rfl
  | some run => exact absurd ((authorized run came).green result returned) held

end

-- Requests one after another are authorized executions one after another, at most one each.
theorem requests_execute (texts : Texts) (errorText : PyError → String) (outside : Outside) (jsonOf : ToolData → Json)
    (agent : Agent) (inputs : List Asked) :
    (after (serve texts errorText outside jsonOf agent) {} inputs).world = after (execution texts errorText outside)
      initialWorld (executions texts errorText outside jsonOf agent {} inputs) ∧
    Along (serve texts errorText outside jsonOf agent) (fun desk asked =>
      (∀ run ∈ executionOf texts errorText outside jsonOf agent desk asked, run.tool ≠ .offerFreeItem ∧
        Authorized (shopAgent agent) (asked.on texts errorText outside jsonOf desk.world) asked.request desk.cache run.tool
          run.params) ∧
      ∀ result, (requestOn texts errorText outside jsonOf agent desk asked desk.cache).value = .ok result →
        result.riskClassification.tier ≠ .green → (serve texts errorText outside jsonOf agent desk asked).world = desk.world)
      {} inputs ∧
    ∃ calls, (after (serve texts errorText outside jsonOf agent) {} inputs).world = worldAfter outside calls := by
  refine ⟨executions_run {} inputs,fun earlier asked later _ => ⟨fun run came => ?_,fun result returned held => ?_⟩,
    requests_reached inputs⟩
  · have authorized := (serve_executes texts errorText outside jsonOf agent _ asked).2 run came
    exact ⟨authorized.allowed,authorized⟩
  · exact serve_held returned held

end Sophia.CustomerService
