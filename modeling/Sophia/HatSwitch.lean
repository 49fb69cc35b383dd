import Sophia.ToolScoping
import Sophia.TierFloors

namespace Sophia.HatSwitch
open TracedRun Services Hats AgentLoop

-- What the components were built from. They look tools up in the shared registry.
structure Pipeline where
  hat : Option HatConfig
  definitions : List Tool

-- The AgentLoop object, for as long as its components and its active hat agree
structure Loop where
  runtime : Runtime
  settings : Settings := {}
  treeMaxDepth : Int := 3
  cacheTtl : ℚ := 3600
  hatRegistry : HatRegistry
  pipeline : Pipeline
  hatEquipped : Bool := true

def definitionsOf (registry : ToolRegistry) : List Tool := registry.tools.entries.map (·.2)

def rebuildPipeline (loop : Loop) : Loop :=
  {loop with pipeline := ⟨loop.hatRegistry.active,definitionsOf loop.hatRegistry.toolRegistry⟩}

abbrev LoopRun := Run PyError Loop Empty

def onHats (m : HatRun α) : LoopRun α := focus (·.hatRegistry) (fun hats loop => {loop with hatRegistry := hats}) m

def equipHat (around : Surroundings) (name : String) : LoopRun HatConfig := do
  let hat ← onHats (equip around name)
  change rebuildPipeline
  change fun loop => {loop with hatEquipped := true}
  pure hat

-- The agent a call of process() finds
def Loop.agent (loop : Loop) : Agent where
  runtime := loop.runtime
  settings := loop.settings
  hat := loop.hatRegistry.active
  registry := loop.hatRegistry.toolRegistry
  treeMaxDepth := loop.treeMaxDepth
  cacheTtl := loop.cacheTtl

structure Unchanged (before after : Loop) : Prop where
  hat : after.hatRegistry.active = before.hatRegistry.active
  tools : after.hatRegistry.toolRegistry = before.hatRegistry.toolRegistry
  services : after.hatRegistry.serviceRegistry = before.hatRegistry.serviceRegistry
  pipeline : after.pipeline = before.pipeline
  following : ∀ env request cache, process after.agent env request cache = process before.agent env request cache

section
variable {around : Surroundings} {loop : Loop} {hats : HatRegistry} {hat : HatConfig}

theorem equip_raised (raised : (equip around name hats).value = .error e) (on : hats.active = some hat)
    (kept : (equip around name hats).state.active = hats.active) :
    (hats.available.contains name = false ∧ (equip around name hats).state = hats) ∨
      (∃ e', closeAll around hats.serviceRegistry.mcpClients = .error e') ∧ (equip around name hats).state =
        {hats with serviceRegistry := {hats.serviceRegistry with services := ∅}} := by
  unfold equip at raised kept ⊢
  cases prepared : (prepareHat around name hats).value with
  | ok other =>
    have off : (prepareHat around name hats).state.active = none := congrArg Prod.snd (prepareHat_returned prepared)
    rw [bind_ok prepared] at raised
    rw [bind_state prepared] at kept
    cases dressed : (putOn around other (prepareHat around name hats).state).value with
    | ok _ => rw [bind_ok dressed] at raised; cases raised
    | error e' =>
      rw [bind_error dressed] at kept
      have same := (putOn_raised dressed).1
      dsimp only at kept
      rw [same,off,on] at kept
      cases kept
  | error e' =>
    rw [bind_error prepared] at kept ⊢
    cases prepareHat_parts around name hats with
    | unknown absent whole => exact .inl ⟨absent,by rw [whole]⟩
    | held _ taken _ state =>
      obtain ⟨_,refused,left⟩ := unequip_raised taken
      exact .inr ⟨⟨_,refused⟩,state.trans left⟩
    | off _ _ shape =>
      have off : (prepareHat around name hats).state.active = none := congrArg Prod.snd shape
      dsimp only at kept
      rw [off,on] at kept
      cases kept

theorem unequip_closed (taken : (unequip around hats).value = .ok ()) (on : hats.active = some hat) :
    closeAll around hats.serviceRegistry.mcpClients = .ok () := by
  unfold unequip at taken
  rw [read_bind,on] at taken
  obtain ⟨_,closed,_⟩ := bind_returns.mp taken
  exact (teardown_parts around hats.serviceRegistry).1.symm.trans closed

-- A client that refuses to close stops the switch before the hat comes off.
theorem equip_refused (on : hats.active = some hat) (bare : hats.serviceRegistry.services = ∅)
    (refused : closeAll around hats.serviceRegistry.mcpClients = .error e) : (equip around name hats).state = hats := by
  unfold equip
  cases prepareHat_parts around name hats with
  | unknown _ whole => rw [bind_error (by rw [whole]),whole]
  | held _ taken raised state =>
    rw [bind_error raised]
    refine state.trans ((unequip_raised taken).2.2.trans ?_)
    rw [← bare]
  | off _ taken _ =>
    rw [unequip_closed taken on] at refused
    cases refused

theorem equipHat_raised (raised : (equipHat around name loop).value = .error e) :
    (equip around name loop.hatRegistry).value = .error e ∧
      (equipHat around name loop).state = {loop with hatRegistry := (equip around name loop.hatRegistry).state} := by
  unfold equipHat at raised ⊢
  cases equipped : (onHats (equip around name) loop).value with
  | error e' =>
    rw [bind_error equipped] at raised ⊢
    cases raised
    exact ⟨equipped,rfl⟩
  | ok hat =>
    rw [bind_ok equipped] at raised
    cases raised

theorem equip_unknown (absent : hats.available.contains name = false) : (equip around name hats).state = hats := by
  unfold equip
  cases prepareHat_parts around name hats with
  | unknown _ whole => rw [bind_error (by rw [whole]),whole]
  | held known => rw [absent] at known; cases known
  | off known => rw [absent] at known; cases known

theorem failed_switch (around : Surroundings) (name : String) (loop : Loop) (hat : HatConfig) (e : PyError)
    (on : loop.hatRegistry.active = some hat) (raised : (equipHat around name loop).value = .error e) :
    Unchanged loop (equipHat around name loop).state ↔
      (loop.hatRegistry.available.contains name = false ∨ loop.hatRegistry.serviceRegistry.services = ∅ ∧
        ∃ e', closeAll around loop.hatRegistry.serviceRegistry.mcpClients = .error e') := by
  obtain ⟨stopped,state⟩ := equipHat_raised raised
  rw [state]
  constructor
  · intro unchanged
    rcases equip_raised stopped on unchanged.hat with ⟨absent,_⟩ | ⟨refused,left⟩
    · exact .inl absent
    · have services := unchanged.services
      dsimp only at services
      rw [left] at services
      exact .inr ⟨(congrArg (·.services) services).symm,refused⟩
  · intro early
    have same : (equip around name loop.hatRegistry).state = loop.hatRegistry := by
      rcases early with absent | ⟨bare,e',refused⟩
      · exact equip_unknown absent
      · exact equip_refused on bare refused
    rw [same]
    exact ⟨rfl,rfl,rfl,rfl,fun _ _ _ => rfl⟩

-- Without a hat every request ends at the constraints.
theorem process_hatless (off : loop.hatRegistry.active = none) (parsed : env.parse request.message = .ok intent)
    (proposed : env.propose intent = .ok candidates) :
    (process loop.agent env request cache).value = .error .attributeError := by
  unfold process prepare
  have none : activeHat loop.agent = .error .attributeError := by
    rw [activeHat,Loop.agent,off]
  rw [bind_value,parsed,lift_bind_ok,proposed,lift_bind_ok,none,lift_bind_error]
  rfl

end

def newLoop : Loop where
  runtime := .ascii
  hatRegistry := {available := ["shop","lost"]}
  pipeline := ⟨none,[]⟩
  hatEquipped := false

def shopLoop : Loop := (equipHat disk "shop" newLoop).state

theorem failed_switch_unknown : Unchanged shopLoop (equipHat disk "unknown" shopLoop).state :=
  (failed_switch disk "unknown" shopLoop shopHat .valueError rfl rfl).mpr (.inl rfl)

-- The directory of a known hat cannot be read: the old hat is gone, and the next request is an error.
theorem failed_switch_bare : (equipHat disk "lost" shopLoop).value = .error (.raised "FileNotFoundError") ∧
    (equipHat disk "lost" shopLoop).state.hatRegistry.active = none ∧
    (process (equipHat disk "lost" shopLoop).state.agent (calm inquiry [{toolName := "look_up_order"}]) greeting ∅).value =
      .error .attributeError ∧
    ¬ Unchanged shopLoop (equipHat disk "lost" shopLoop).state := by
  refine ⟨rfl,rfl,process_hatless rfl rfl rfl,fun unchanged => ?_⟩
  exact nomatch unchanged.hat

end Sophia.HatSwitch

namespace Sophia.Hats
open TracedRun Services

section
variable {around : Surroundings} {hats : HatRegistry} {hat : HatConfig}

theorem prepareHat_loads (returned : (prepareHat around name hats).value = .ok hat) : around.loadHat name = .ok hat := by
  unfold prepareHat at returned
  obtain ⟨_,_,returned⟩ := bind_returns.mp returned
  obtain ⟨_,_,returned⟩ := bind_returns.mp returned
  unfold loadServices at returned
  obtain ⟨loaded,found,returned⟩ := bind_returns.mp returned
  obtain ⟨_,_,returned⟩ := bind_returns.mp returned
  obtain ⟨_,_,returned⟩ := bind_returns.mp returned
  cases returned
  exact found

theorem equip_worn (returned : (equip around name hats).value = .ok hat) :
    (equip around name hats).state.active = some hat ∧ around.loadHat name = .ok hat := by
  unfold equip at returned ⊢
  obtain ⟨loaded,prepared,returned⟩ := bind_returns.mp returned
  obtain ⟨_,dressed,returned⟩ := bind_returns.mp returned
  cases returned
  obtain ⟨_,_,active,_⟩ := putOn_returned dressed
  rw [bind_state prepared,bind_state dressed]
  exact ⟨active,prepareHat_loads prepared⟩

end

end Sophia.Hats
