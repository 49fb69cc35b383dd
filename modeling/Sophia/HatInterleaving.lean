import Sophia.HatSwitch

namespace Sophia.HatInterleaving
open TracedRun Services Hats HatSwitch ConsequenceEngine ParameterGate RiskFloor PreflightAck Executor AgentLoop

-- How far one call of equip_hat has come: what it has loaded and which services are still to be made
inductive Stage where
  | called
  | unequipping
  | closing (hat : HatConfig)
  | initializing (hat : HatConfig) (services : List String)

structure EquipCall where
  around : Surroundings
  name : String
  stage : Stage := .called

section
variable (around : Surroundings)

def loadStage (name : String) : HatRun Stage := do
  let hat ← lift (around.loadHat name)
  onServices (change fun services => {services with services := ∅})
  pure (.closing hat)

def closeClients : HatRun Unit := onServices do
  let clients ← read (·.mcpClients)
  lift (closeAll around clients)
  change fun services => {services with mcpClients := []}

-- What equip does from one await to the next, up to the step that registers the tools
def advanceStage (name : String) : Stage → HatRun Stage
  | .called => do
    checkKnown name
    let active ← read (·.active)
    match active with
    | none => loadStage around name
    | some _ => do
      onServices (change fun services => {services with services := ∅})
      pure .unequipping
  | .unequipping => do
    closeClients around
    clearTools
    change fun hats => {hats with webhooks := none,active := none}
    loadStage around name
  | .closing hat => do
    closeClients around
    pure (.initializing hat serviceNames)
  | .initializing hat [] => pure (.initializing hat [])
  | .initializing hat (service :: rest) => do
    onServices (initializeService around hat.manifest.backends service)
    pure (.initializing hat rest)

end

-- A step of another task while the run awaits: a call of equip_hat begins, one of the calls under way
-- goes on to its next await, or one puts its hat on and rebuilds the pipeline.
inductive Move where
  | begins (around : Surroundings) (name : String)
  | advances (i : Nat)
  | registers (i : Nat)

def Move.isRegistration : Move → Bool
  | .registers _ => true
  | _ => false

-- The shared objects and the calls of equip_hat under way. Every registration has a number: who
-- registered a tool, and who put the active hat on. The schedule holds the moves of each await.
structure World where
  loop : Loop
  cache : Cache := ∅
  calls : List EquipCall := []
  registrations : Nat := 0
  registeredBy : String → Nat := fun _ => 0
  wornSince : Nat := 0
  schedule : List (List Move) := []

def World.tools (world : World) : ToolRegistry := world.loop.hatRegistry.toolRegistry

def advance (world : World) (i : Nat) (call : EquipCall) : World :=
  let stepped := advanceStage call.around call.name call.stage world.loop.hatRegistry
  match stepped.value with
  | .ok stage => {world with
      loop := {world.loop with hatRegistry := stepped.state}
      calls := world.calls.set i {call with stage}}
  | .error _ => {world with
      loop := {world.loop with hatRegistry := stepped.state}
      calls := world.calls.eraseIdx i}

-- The tools that putOn registers up to its end, or up to what raises
def registeredTools (around : Surroundings) (hat : HatConfig) : List Tool :=
  match loadHatTools around hat with
  | .error _ => []
  | .ok loaded =>
    let served := (ownTools loaded).takeWhile fun tool => (around.injectServices tool).isOk
    if served.length < (ownTools loaded).length then served
    else match communicationService around.environ hat with
      | .error _ => served ++ [converseTool]
      | .ok _ => served ++ converseTool :: namedFramework hat

-- The last part of equip and the rebuilding of the pipeline: no await in between. Where it raises, the tools
-- that it has registered stay.
def registration (world : World) (i : Nat) (around : Surroundings) (hat : HatConfig) : World :=
  let stepped := putOn around hat world.loop.hatRegistry
  let next := {world with
    loop := {world.loop with hatRegistry := stepped.state}
    calls := world.calls.eraseIdx i
    registrations := world.registrations + 1
    registeredBy := fun name => if (lastNamed (registeredTools around hat) name).isSome then world.registrations + 1
      else world.registeredBy name}
  match stepped.value with
  | .ok _ => {next with
      loop := {rebuildPipeline next.loop with hatEquipped := true}
      cache := ∅
      wornSince := next.registrations}
  | .error _ => next

def perform (world : World) : Move → World
  | .begins around name => {world with calls := world.calls ++ [{around,name}]}
  | .advances i => match world.calls[i]? with
    | some call => advance world i call
    | none => world
  | .registers i => match world.calls[i]? with
    | some ⟨around,_,.initializing hat []⟩ => registration world i around hat
    | _ => world

-- An event with the tools its parameters and its floor had been checked against, and the tools at its own time
structure Observed where
  event : Event
  checks : List ToolRegistry
  tools : ToolRegistry
  registeredBy : String → Nat

abbrev WorldRun := Run PyError World Observed

def World.pass (world : World) : World :=
  match world.schedule with
  | [] => world
  | moves :: rest => {moves.foldl perform world with schedule := rest}

def await : WorldRun Unit := change World.pass

-- The components as they are now: built from the pipeline's hat, looking tools up in the shared registry
def World.components (world : World) : Agent := {world.loop.agent with hat := world.loop.pipeline.hat}

-- prepare from the parameter gate on, under the hat that the run read at its start
def gateStage (agent : Agent) (env : Environment) (request : Request) (hat : Option HatConfig) (intent : Intent)
    (candidates : List CandidateAction) : AgentRun Prepared := do
  let gate := validate agent.runtime agent.placeholders agent.registry ⟨intent,candidates⟩
  let proposal := postGate gate ⟨intent,candidates⟩
  let hat ← lift (activeHat {agent with hat})
  let escalation := EscalationGate.checkEscalationTriggers agent.runtime request.message hat.constraints
    request.conversationHistory
  let preflightAck := if request.source = "webhook" then none
    else maybeGenerateAck agent.runtime env.draw intent proposal.candidates agent.registry (some hat)
  let preflightAckAt ← sendAck env request preflightAck
  pure {hat,intent,gate,proposal,escalation,preflightAck,preflightAckAt}

-- The stages answer as the components of the moment do.
section
variable (env : Option HatConfig → Environment) (request : Request)

def ask (question : Environment → Except PyError α) : WorldRun α := fun world =>
  ⟨question (env world.loop.pipeline.hat),world,[]⟩

-- What runs from one await to the next reads the shared objects as they are at its beginning.
def atOnce (checks : List ToolRegistry) (m : Agent → Environment → AgentRun α) : WorldRun α := fun world =>
  let outcome := m world.components (env world.loop.pipeline.hat) world.cache
  ⟨outcome.value,{world with cache := outcome.state},
    outcome.trace.map fun event => ⟨event,checks,world.tools,world.registeredBy⟩⟩

def panelAmong (checks : List ToolRegistry) (prepared : Prepared) (floor : Option Tier) : WorldRun PipelineResult := do
  let trees ← atOnce env checks fun agent env => overState (analyzeAll agent env prepared.proposal.candidates)
  await
  let minTier ← lift (maxTier (escalationMinTier prepared.escalation) (floor.map Tier.name))
  let evaluated ← atOnce env checks fun agent env =>
    runEvaluationPanel agent env trees.head? prepared.hat prepared.intent prepared.proposal.candidates minTier
  await
  atOnce env checks fun agent env => conclude agent env request prepared floor ⟨trees,evaluated.1,evaluated.2⟩

-- The defensive exits and the refusal execute no tool; they are taken in one step.
def routeAmong (checks : List ToolRegistry) (prepared : Prepared) : WorldRun PipelineResult := do
  let floored ← read World.tools
  let floor := getProposalFloor prepared.proposal.candidates floored
  if floor = some .red then atOnce env (floored :: checks) fun agent env => shortCircuit agent env request prepared
  else match defensiveTop prepared.proposal with
    | some top => atOnce env (floored :: checks) fun agent env => defensive agent env request prepared top
    | none => panelAmong env request (floored :: checks) prepared floor

-- process() with the moves of other tasks at its awaits: memory recall, parser, proposer,
-- acknowledgement, consequence trees, evaluation panel
def processAmong : WorldRun PipelineResult := do
  let hat ← read (·.loop.hatRegistry.active)
  await
  let intent ← ask env (·.parse request.message)
  await
  let candidates ← ask env (·.propose intent)
  await
  let checked ← read World.tools
  let prepared ← atOnce env [checked] fun agent env => gateStage agent env request hat intent candidates
  await
  routeAmong env request [checked] prepared

end

-- The stages one after another, with no other task in between
def advanceFor (around : Surroundings) (name : String) : Nat → Stage → HatRun Stage
  | 0,stage => pure stage
  | n + 1,stage => do
    let next ← advanceStage around name stage
    advanceFor around name n next

theorem onServices_bind (m : ServiceRun α) (f : α → ServiceRun β) :
    onServices (m >>= f) = onServices m >>= fun a => onServices (f a) :=
  focus_bind HatRegistry.serviceRegistry (fun services hats => {hats with serviceRegistry := services}) (fun _ _ => rfl)
    (fun _ _ _ => rfl) m f

theorem onServices_teardown (around : Surroundings) : onServices (teardown around) =
    onServices (change fun services => {services with services := ∅}) >>= fun _ => closeClients around :=
  onServices_bind _ _

theorem initializing_alone (around : Surroundings) (name : String) (hat : HatConfig) (services : List String) (m : Nat) :
    advanceFor around name (services.length + m) (.initializing hat services) =
      onServices (initializeAll around hat.manifest.backends services) >>= fun _ => pure (.initializing hat []) := by
  induction services with
  | nil =>
    have still : advanceFor around name m (.initializing hat []) = pure (.initializing hat []) := by
      induction m with
      | zero => rfl
      | succ m ih => rw [advanceFor,advanceStage,pure_bind,ih]
    rw [List.length_nil,Nat.zero_add,still]
    rfl
  | cons service rest ih =>
    rw [List.length_cons,Nat.succ_add,advanceFor,advanceStage,initializeAll,onServices_bind,bind_assoc,bind_assoc]
    simp only [pure_bind,ih]

theorem loading_alone (around : Surroundings) (name : String) (m : Nat) :
    (loadStage around name >>= advanceFor around name (m + 6)) =
      loadServices around name >>= fun hat => pure (.initializing hat []) := by
  have closing (hat : HatConfig) : advanceFor around name (m + 6) (.closing hat) = closeClients around >>= fun _ =>
      onServices (initializeServices around hat.manifest.backends) >>= fun _ => pure (.initializing hat []) := by
    rw [advanceFor,advanceStage,bind_assoc]
    simp only [pure_bind]
    have rest := initializing_alone around name hat serviceNames m
    rw [Nat.add_comm] at rest
    rw [show m + 5 = m + serviceNames.length from rfl,rest]
    rfl
  unfold loadStage loadServices
  simp only [onServices_teardown,bind_assoc,pure_bind,closing]

-- Alone, the stages do what prepareHat does.
theorem stages_alone (around : Surroundings) (name : String) : advanceFor around name 8 .called =
    prepareHat around name >>= fun hat => pure (.initializing hat []) := by
  funext hats
  unfold prepareHat
  rw [advanceFor,advanceStage]
  simp only [bind_assoc]
  rw [checkKnown_bind,checkKnown_bind]
  by_cases known : hats.available.contains name = true
  · rw [if_pos known,if_pos known]
    unfold unequip
    simp only [bind_assoc]
    rw [read_bind,read_bind]
    cases hats.active with
    | none =>
      dsimp only
      rw [loading_alone,pure_bind]
    | some hat =>
      dsimp only
      simp only [bind_assoc,pure_bind]
      rw [advanceFor,advanceStage,onServices_teardown]
      simp only [bind_assoc]
      rw [loading_alone]
  · rw [if_neg known,if_neg known]

section
variable {env : Option HatConfig → Environment} {request : Request} {loop : Loop}

-- With no move to come, a run in the world does what the other does on the cache.
def Alone (loop : Loop) (m : WorldRun α) (n : AgentRun α) : Prop :=
  ∀ world, world.loop = loop → world.schedule = [] → (m world).value = (n world.cache).value ∧
    (m world).state = {world with cache := (n world.cache).state} ∧
    (m world).trace.map (·.event) = (n world.cache).trace

theorem Alone.bind {m : WorldRun α} {n : AgentRun α} {f : α → WorldRun β} {g : α → AgentRun β} (first : Alone loop m n)
    (second : ∀ a, Alone loop (f a) (g a)) : Alone loop (m >>= f) (n >>= g) := by
  intro world same empty
  obtain ⟨value,state,trace⟩ := first world same empty
  cases returned : (n world.cache).value with
  | error e =>
    rw [returned] at value
    rw [bind_error value,bind_error returned]
    exact ⟨rfl,state,trace⟩
  | ok a =>
    rw [returned] at value
    rw [bind_ok value,bind_ok returned,state]
    obtain ⟨value',state',trace'⟩ := second a {world with cache := (n world.cache).state} same empty
    refine ⟨value',state',?_⟩
    rw [List.map_append,trace,trace']

theorem Alone.await {m : WorldRun α} {n : AgentRun α} (rest : Alone loop m n) :
    Alone loop (HatInterleaving.await >>= fun _ => m) n := by
  intro world same empty
  have still : world.pass = world := by rw [World.pass,empty]
  rw [HatInterleaving.await,change_bind,still]
  exact rest world same empty

theorem Alone.read {look : World → α} {a : α} {f : α → WorldRun β} {n : AgentRun β}
    (known : ∀ world, world.loop = loop → look world = a) (rest : Alone loop (f a) n) :
    Alone loop (TracedRun.read look >>= f) n := by
  intro world same empty
  rw [read_bind,known world same]
  exact rest world same empty

theorem Alone.lift (x : Except PyError α) : Alone loop (TracedRun.lift x) (TracedRun.lift x) :=
  fun _ _ _ => ⟨rfl,rfl,rfl⟩

theorem Alone.ask {question : Environment → Except PyError α} :
    Alone loop (HatInterleaving.ask env question) (TracedRun.lift (question (env loop.pipeline.hat))) := by
  intro world same _
  cases same
  exact ⟨rfl,rfl,rfl⟩

theorem Alone.atOnce {checks : List ToolRegistry} {m : Agent → Environment → AgentRun α}
    (settled : loop.pipeline.hat = loop.hatRegistry.active) :
    Alone loop (HatInterleaving.atOnce env checks m) (m loop.agent (env loop.pipeline.hat)) := by
  intro world same _
  cases same
  have components : world.components = world.loop.agent := by
    rw [World.components,settled]
    rfl
  unfold HatInterleaving.atOnce
  rw [components]
  refine ⟨rfl,rfl,?_⟩
  rw [List.map_map]
  exact List.map_id _

theorem Alone.ite {p : Prop} [Decidable p] {m m' : WorldRun α} {n n' : AgentRun α} (yes : Alone loop m n)
    (no : Alone loop m' n') : Alone loop (if p then m else m') (if p then n else n') := by
  split
  · exact yes
  · exact no

theorem prepare_stages (agent : Agent) (environment : Environment) : prepare agent environment request = (do
    let intent ← lift (environment.parse request.message)
    let candidates ← lift (environment.propose intent)
    gateStage agent environment request agent.hat intent candidates) := rfl

theorem process_alone (settled : loop.pipeline.hat = loop.hatRegistry.active) :
    Alone loop (processAmong env request) (process loop.agent (env loop.pipeline.hat) request) := by
  unfold processAmong process
  rw [prepare_stages]
  simp only [bind_assoc]
  refine Alone.read (fun world same => by rw [same]) ?_
  apply Alone.await
  refine Alone.bind Alone.ask fun intent => Alone.await ?_
  refine Alone.bind Alone.ask fun candidates => Alone.await ?_
  refine Alone.read (fun world same => by rw [World.tools,same]) ?_
  refine Alone.bind (Alone.atOnce settled) fun prepared => Alone.await ?_
  refine Alone.read (fun world same => by rw [World.tools,same]) ?_
  refine Alone.ite (Alone.atOnce settled) ?_
  cases defensiveTop prepared.proposal with
  | some top => exact Alone.atOnce settled
  | none =>
    unfold panelAmong panel judge
    simp only [bind_assoc,pure_bind]
    refine Alone.bind (Alone.atOnce settled) fun trees => Alone.await ?_
    refine Alone.bind (Alone.lift _) fun minTier => Alone.bind (Alone.atOnce settled) fun evaluated => ?_
    exact Alone.await (Alone.atOnce settled)

end

end Sophia.HatInterleaving
