import Sophia.HatInterleaving

namespace Sophia.HatInterleaving
open TracedRun Services Hats HatSwitch ConsequenceEngine ParameterGate RiskFloor PreflightAck Executor AgentLoop

def awaitsBeforeCall : Nat := 6

-- A move that registers nothing leaves the tools as they are or takes them all away.
structure Narrowed (before after : World) : Prop where
  tools : after.tools = before.tools ∨ after.tools = .empty
  registeredBy : after.registeredBy = before.registeredBy

theorem Narrowed.refl (world : World) : Narrowed world world := ⟨.inl rfl,rfl⟩

theorem Narrowed.trans {first second third : World} (early : Narrowed first second) (late : Narrowed second third) :
    Narrowed first third := by
  refine ⟨?_,late.registeredBy.trans early.registeredBy⟩
  rcases late.tools with same | emptied
  · rw [same]; exact early.tools
  · exact .inr emptied

theorem loadStage_frames (around : Surroundings) (name : String) :
    Frames (fun hats : HatRegistry => hats.toolRegistry) (loadStage around name) :=
  Frames.bind (Frames.lift _) fun _ => Frames.bind (fun _ => rfl) fun _ => Frames.pure _

theorem advanceStage_tools (around : Surroundings) (name : String) (stage : Stage) (hats : HatRegistry) :
    (advanceStage around name stage hats).state.toolRegistry = hats.toolRegistry ∨
      (advanceStage around name stage hats).state.toolRegistry = .empty := by
  cases stage with
  | called =>
    left
    rw [advanceStage,checkKnown_bind]
    split
    · rw [read_bind]
      cases hats.active with
      | none => exact loadStage_frames around name hats
      | some hat => rfl
    · rfl
  | unequipping =>
    rw [advanceStage]
    cases closed : (closeClients around hats).value with
    | error e => rw [bind_error closed]; exact .inl rfl
    | ok _ =>
      right
      rw [bind_state closed,clearTools,change_bind,change_bind]
      exact loadStage_frames around name _
  | closing hat => exact .inl (Frames.bind (fun _ => rfl) (fun _ => Frames.pure _) hats)
  | initializing hat services =>
    left
    cases services with
    | nil => rfl
    | cons service rest => exact Frames.bind (fun _ => rfl) (fun _ => Frames.pure _) hats

theorem advance_narrowed (world : World) (i : Nat) (call : EquipCall) : Narrowed world (advance world i call) := by
  have tools := advanceStage_tools call.around call.name call.stage world.loop.hatRegistry
  unfold advance
  dsimp only
  cases (advanceStage call.around call.name call.stage world.loop.hatRegistry).value with
  | ok stage => exact ⟨tools,rfl⟩
  | error e => exact ⟨tools,rfl⟩

theorem perform_narrowed (quiet : move.isRegistration = false) (world : World) : Narrowed world (perform world move) := by
  cases move with
  | begins around name => exact ⟨.inl rfl,rfl⟩
  | registers i => cases quiet
  | advances i =>
    unfold perform
    dsimp only
    cases world.calls[i]? with
    | none => exact .refl world
    | some call => exact advance_narrowed world i call

theorem moves_narrowed (moves : List Move) (quiet : ∀ move ∈ moves, move.isRegistration = false) (world : World) :
    Narrowed world (moves.foldl perform world) := by
  induction moves generalizing world with
  | nil => exact .refl world
  | cons move rest ih =>
    have first := perform_narrowed (quiet move (List.mem_cons_self ..)) world
    exact first.trans (ih (fun other present => quiet other (List.mem_cons_of_mem _ present)) _)

-- Every registered tool was there at each check and is the worn hat's, and no registration is to come
-- at the next awaits.
structure Held (worn : Nat) (checks : List ToolRegistry) (awaits : Nat) (world : World) : Prop where
  checked : ∀ name tool, world.tools.get name = some tool → ∀ registry ∈ checks, registry.get name = some tool
  own : ∀ name tool, world.tools.get name = some tool → world.registeredBy name = worn
  quiet : ∀ moves ∈ world.schedule.take awaits, ∀ move ∈ moves, move.isRegistration = false

-- A tool object that is called was checked, and is one of the hat whose number is worn.
def Owned (worn : Nat) (seen : Observed) : Prop := ∀ toolName parameters, seen.event = .executed toolName parameters →
  ∀ tool, seen.tools.get toolName = some tool →
    seen.registeredBy toolName = worn ∧ ∀ registry ∈ seen.checks, registry.get toolName = some tool

section
variable {worn awaits : Nat} {checks : List ToolRegistry} {env : Option HatConfig → Environment} {request : Request}

theorem await_held : Triple (Held worn checks (awaits + 1)) await (fun _ => Held worn checks awaits) (Owned worn) := by
  apply Triple.change
  intro world held
  unfold World.pass
  cases ahead : world.schedule with
  | nil => exact ⟨held.checked,held.own,by simp [ahead]⟩
  | cons moves rest =>
    have quiet := held.quiet
    rw [ahead,List.take_succ_cons] at quiet
    have narrowed := moves_narrowed moves (quiet moves (List.mem_cons_self ..)) world
    have kept : ∀ name tool, (moves.foldl perform world).tools.get name = some tool →
        world.tools.get name = some tool := by
      intro name tool found
      rcases narrowed.tools with same | emptied
      · rw [← same]; exact found
      · rw [emptied] at found; cases found
    refine ⟨fun name tool found => held.checked name tool (kept name tool found),fun name tool found => ?_,
      fun others present => quiet others (List.mem_cons_of_mem _ present)⟩
    change (moves.foldl perform world).registeredBy name = worn
    rw [narrowed.registeredBy]
    exact held.own name tool (kept name tool found)

theorem atOnce_held {m : Agent → Environment → AgentRun α} :
    Triple (Held worn checks awaits) (atOnce env checks m) (fun _ => Held worn checks awaits) (Owned worn) := by
  intro world held
  refine ⟨fun _ _ => ⟨held.checked,held.own,held.quiet⟩,fun seen present => ?_⟩
  obtain ⟨event,_,rfl⟩ := List.mem_map.mp present
  intro toolName parameters _ tool found
  exact ⟨held.own toolName tool found,held.checked toolName tool found⟩

theorem ask_held {question : Environment → Except PyError α} :
    Triple (Held worn checks awaits) (ask env question) (fun _ => Held worn checks awaits) (Owned worn) :=
  fun _ held => ⟨fun _ _ => held,fun _ present => (nomatch present)⟩

-- Reading the tools is one more check that they pass.
theorem tools_held : Triple (Held worn checks awaits) (read World.tools : WorldRun ToolRegistry)
    (fun registry => Held worn (registry :: checks) awaits) (Owned worn) := by
  apply Triple.read
  intro world held
  refine ⟨fun name tool found registry present => ?_,held.own,held.quiet⟩
  rcases List.mem_cons.mp present with rfl | earlier
  · exact found
  · exact held.checked name tool found registry earlier

theorem panelAmong_held : Triple (Held worn checks 2) (panelAmong env request checks prepared floor)
    (fun _ => Held worn checks 0) (Owned worn) := by
  refine Triple.bind atOnce_held fun trees => Triple.bind await_held fun _ => ?_
  refine Triple.bind (Triple.lift _) fun minTier => Triple.bind atOnce_held fun evaluated => ?_
  exact Triple.bind await_held fun _ => atOnce_held

theorem routeAmong_owned : Triple (Held worn checks 2) (routeAmong env request checks prepared) (fun _ _ => True)
    (Owned worn) := by
  refine Triple.bind tools_held fun floored => ?_
  apply Triple.ite
  · exact Triple.weaken atOnce_held fun _ _ _ => trivial
  · cases defensiveTop prepared.proposal with
    | some top => exact Triple.weaken atOnce_held fun _ _ _ => trivial
    | none => exact Triple.weaken panelAmong_held fun _ _ _ => trivial

theorem processAmong_owned : Triple (Held worn [] awaitsBeforeCall) (processAmong env request) (fun _ _ => True)
    (Owned worn) := by
  refine Triple.bind (J := fun _ => Held worn [] 6) (Triple.read fun _ held => held) fun hat => ?_
  refine Triple.bind await_held fun _ => Triple.bind ask_held fun intent => ?_
  refine Triple.bind await_held fun _ => Triple.bind ask_held fun candidates => ?_
  refine Triple.bind await_held fun _ => Triple.bind tools_held fun checked => ?_
  refine Triple.bind atOnce_held fun prepared => Triple.bind await_held fun _ => ?_
  exact routeAmong_owned

theorem hat_interleaving (env : Option HatConfig → Environment) (request : Request) (world : World)
    (own : ∀ name tool, world.tools.get name = some tool → world.registeredBy name = world.wornSince)
    (quiet : ∀ moves ∈ world.schedule.take awaitsBeforeCall, ∀ move ∈ moves, move.isRegistration = false) :
    ∀ seen ∈ (processAmong env request world).trace, Owned world.wornSince seen :=
  (processAmong_owned world ⟨fun _ _ _ _ absent => (nomatch absent),own,quiet⟩).2

end

theorem setUp_registers (around : Surroundings) (hat : HatConfig) (hats : HatRegistry) :
    (setUp around hat hats).state.toolRegistry = match communicationService around.environ hat with
      | .error _ => hats.toolRegistry.register converseTool
      | .ok _ => (converseTool :: namedFramework hat).foldl ToolRegistry.register hats.toolRegistry := by
  unfold setUp
  rw [register,change_bind]
  cases communicationService around.environ hat with
  | error e => rw [lift_bind_error]
  | ok service =>
    rw [lift_bind_ok,bind_ok (by rw [registerAll_run]),registerAll_run]
    cases notificationService around.environ hat with
    | error e => rw [lift_bind_error]; rfl
    | ok notifier =>
      rw [lift_bind_ok]
      exact congrArg Prod.fst (configureWebhooks_parts hat _).2

-- Whether it returns or raises, putOn leaves the tools that it came to.
theorem putOn_registers (around : Surroundings) (hat : HatConfig) (hats : HatRegistry) :
    (putOn around hat hats).state.toolRegistry =
      (registeredTools around hat).foldl ToolRegistry.register hats.toolRegistry := by
  unfold putOn registeredTools
  cases loadHatTools around hat with
  | error e =>
    rw [lift_bind_error]
    rfl
  | ok loaded =>
    rw [lift_bind_ok]
    change ((registerHatTools around (ownTools loaded) >>= fun _ => _) hats).state.toolRegistry = _
    obtain ⟨done,rest,split,served,state,ending⟩ := registerHatTools_parts around (ownTools loaded) hats
    have taken : (ownTools loaded).takeWhile (fun tool => (around.injectServices tool).isOk) = done := by
      rw [split,List.takeWhile_append_of_pos fun tool present => by rw [served tool present]; rfl]
      rcases ending with ⟨_,rfl⟩ | ⟨tool,later,e,rfl,refused,_⟩
      · exact List.append_nil done
      · rw [List.takeWhile_cons_of_neg (by rw [refused]; nofun),List.append_nil]
    dsimp only
    rw [taken]
    rcases ending with ⟨finished,rfl⟩ | ⟨tool,later,e,rfl,_,raised⟩
    · rw [List.append_nil] at split
      rw [bind_state finished,split,if_neg (lt_irrefl _)]
      have after : ((setUp around hat >>= fun _ => change fun hats => {hats with active := some hat})
          (registerHatTools around done hats).state).state.toolRegistry =
          (setUp around hat (registerHatTools around done hats).state).state.toolRegistry := by
        cases completed : (setUp around hat (registerHatTools around done hats).state).value with
        | ok _ => rw [bind_state completed]; rfl
        | error e => rw [bind_error completed]
      rw [split] at state
      rw [after,setUp_registers,state]
      cases communicationService around.environ hat with
      | error e =>
        rw [List.foldl_append]
        rfl
      | ok service =>
        rw [List.foldl_append]
    · rw [bind_error raised,if_pos (by rw [split]; simp),state]

-- A registration that finds no tools makes every tool that of the hat it puts on.
theorem registration_own (i : Nat) (bare : ∀ name, world.tools.get name = none)
    (worn : (putOn around hat world.loop.hatRegistry).value = .ok ()) :
    (registration world i around hat).loop.hatRegistry.active = some hat ∧
      ∀ name tool, (registration world i around hat).tools.get name = some tool →
        (registration world i around hat).registeredBy name = (registration world i around hat).wornSince := by
  obtain ⟨_,_,on,_⟩ := putOn_returned worn
  unfold registration
  simp only [worn]
  refine ⟨on,fun name tool present => ?_⟩
  have old : world.loop.hatRegistry.toolRegistry.get name = none := bare name
  have held : (putOn around hat world.loop.hatRegistry).state.toolRegistry.get name = some tool := present
  rw [putOn_registers,get_registerAll,old,Option.or_none] at held
  rw [held]
  rfl

def counterHat : HatConfig := {manifest := {name := "counter",tools := ["process_refund"]}}
def vaultHat : HatConfig := {manifest := {name := "vault",tools := ["process_refund"]}}
def payout : Tool := {name := "process_refund"}

def branches : Surroundings where
  loadHat name := if name = "counter" then .ok counterHat else if name = "vault" then .ok vaultHat else
    .error (.raised "FileNotFoundError")
  toolModules hat := if hat.name = "counter" then [.ok [.ok payout]] else [.ok [.ok payoutTool]]

def bareLoop : Loop where
  runtime := .ascii
  hatRegistry := {available := ["counter","vault"]}
  pipeline := ⟨none,[]⟩
  hatEquipped := false

-- A whole switch, as another task makes it
def switchTo (name : String) : List Move := .begins branches name :: List.replicate 8 (.advances 0) ++ [.registers 0]

def counterWorld (schedule : List (List Move)) : World :=
  {(switchTo "counter").foldl perform {loop := bareLoop} with schedule}

def refundRun (schedule : List (List Move)) : Outcome PyError World Observed PipelineResult :=
  processAmong (fun _ => calm inquiry [{toolName := "process_refund"}]) greeting (counterWorld schedule)

-- Which tool was called: the floor it declares and the number of its registration
def servedBy (seen : Observed) : Option (Option Tier × Nat) :=
  match seen.event with
  | .executed toolName _ => (seen.tools.get toolName).map fun tool => (tool.riskFloor,seen.registeredBy toolName)
  | _ => none

theorem counterWorld_own (name : String) (tool : Tool) (found : (counterWorld schedule).tools.get name = some tool) :
    (counterWorld schedule).registeredBy name = (counterWorld schedule).wornSince :=
  (registration_own 0 (fun _ => rfl) (rfl : (putOn branches counterHat _).value = .ok ())).2 name tool found

-- The other call has come up to its last step when the refund is called, and takes it afterwards.
theorem hat_interleaving_late : (counterWorld [[.begins branches "vault"],[],[],[],[],[],[.registers 0]]).wornSince = 1 ∧
    ∀ seen ∈ (refundRun [[.begins branches "vault"],[],[],[],[],[],[.registers 0]]).trace, Owned 1 seen :=
  ⟨by decide,hat_interleaving _ _ _ counterWorld_own (by decide)⟩

theorem servedBy_number {observed : Observed} {wornSince : Nat} (served : servedBy observed = some (floor,number))
    (owned : Owned wornSince observed) : number = wornSince := by
  unfold servedBy at served
  split at served
  · next toolName parameters called =>
    obtain ⟨tool,found,pair⟩ := Option.map_eq_some_iff.mp served
    cases pair
    exact (owned toolName parameters called tool found).1
  · cases served

-- The gate found no floor on the counter's tool; the tool called is the vault's, which declares one.
theorem hat_interleaving_switched :
    (refundRun [[],[],[],[],[],switchTo "vault"]).trace.filterMap servedBy = [(some .orange,2)] ∧
    ∃ seen ∈ (refundRun [[],[],[],[],[],switchTo "vault"]).trace,
      ¬ Owned (counterWorld [[],[],[],[],[],switchTo "vault"]).wornSince seen := by
  have served : (refundRun [[],[],[],[],[],switchTo "vault"]).trace.filterMap servedBy = [(some .orange,2)] := by
    decide +kernel
  refine ⟨served,?_⟩
  have member : (some Tier.orange,2) ∈ (refundRun [[],[],[],[],[],switchTo "vault"]).trace.filterMap servedBy := by
    rw [served]
    exact List.mem_singleton_self _
  obtain ⟨seen,present,view⟩ := List.mem_filterMap.mp member
  exact ⟨seen,present,fun owned => (nomatch (servedBy_number view owned : 2 = 1))⟩

end Sophia.HatInterleaving
