import Sophia.Hats

namespace Sophia.Hats
open TracedRun Json Services

section
variable {around : Surroundings} {hats : HatRegistry} {hat : HatConfig}

-- The tool a registry holds under a name once the list has been registered: the last of that name.
def lastNamed (tools : List Tool) (name : String) : Option Tool := tools.reverse.find? (·.name == name)

theorem lastNamed_cons (tool : Tool) (rest : List Tool) (name : String) : lastNamed (tool :: rest) name =
    (lastNamed rest name).or (if tool.name = name then some tool else none) := by
  unfold lastNamed
  rw [List.reverse_cons,List.find?_append]
  by_cases same : tool.name = name <;> simp [same]

theorem lastNamed_append (early late : List Tool) (name : String) :
    lastNamed (early ++ late) name = (lastNamed late name).or (lastNamed early name) := by
  unfold lastNamed
  rw [List.reverse_append,List.find?_append]

theorem get_registerAll (tools : List Tool) (registry : ToolRegistry) (name : String) :
    (tools.foldl ToolRegistry.register registry).get name = (lastNamed tools name).or (registry.get name) := by
  induction tools generalizing registry with
  | nil => rfl
  | cons tool rest ih =>
    rw [List.foldl_cons,ih,lastNamed_cons,Option.or_assoc]
    by_cases same : tool.name = name
    · rw [if_pos same,Option.some_or,← same,ToolRegistry.get_register]
    · rw [if_neg same,Option.none_or,ToolRegistry.get_register_ne _ _ (Ne.symm same)]

-- What ADR-010 lets an equipped hat's registry hold
def scopedTools (hat : HatConfig) (loaded : List Tool) : List Tool := loaded ++ converseTool :: namedFramework hat

def Holds (registry : ToolRegistry) (tools : List Tool) : Prop := ∀ name, registry.get name = lastNamed tools name

-- Where no two tools share a name, the registry holds every one of them and nothing else.
theorem Holds.exact (holds : Holds registry tools) (distinct : (tools.map (·.name)).Nodup) (tool : Tool) :
    registry.get tool.name = some tool ↔ tool ∈ tools := by
  rw [holds tool.name,lastNamed]
  constructor
  · intro found
    exact List.mem_reverse.mp (List.mem_of_find?_eq_some found)
  · intro present
    cases found : tools.reverse.find? (·.name == tool.name) with
    | none =>
      have absent := List.find?_eq_none.mp found tool (List.mem_reverse.mpr present)
      simp at absent
    | some other =>
      have named : other.name = tool.name := by simpa using List.find?_some found
      have member := List.mem_reverse.mp (List.mem_of_find?_eq_some found)
      rw [List.inj_on_of_nodup_map distinct member present named]

theorem lastNamed_none : lastNamed tools name = none ↔ ∀ tool ∈ tools, tool.name ≠ name := by
  simp [lastNamed]

theorem isFramework_named (framework : isFramework tool = true) (named : hat.manifest.tools.contains tool.name = true) :
    ∃ other ∈ namedFramework hat, other.name = tool.name := by
  obtain ⟨other,present,same⟩ := List.any_eq_true.mp framework
  have same : other.name = tool.name := by simpa using same
  exact ⟨other,List.mem_filter.mpr ⟨present,by rw [same]; exact named⟩,same⟩

-- The framework's own tool comes last, so a hat's tool under its name leaves no trace.
theorem framework_covers (loaded : ∀ tool ∈ tools, hat.manifest.tools.contains tool.name = true) (name : String) :
    lastNamed (tools.filter (!isFramework ·) ++ converseTool :: namedFramework hat) name =
      lastNamed (scopedTools hat tools) name := by
  rw [scopedTools,lastNamed_append,lastNamed_append]
  cases own : lastNamed (converseTool :: namedFramework hat) name with
  | some tool => rfl
  | none =>
    rw [Option.none_or,Option.none_or,lastNamed,lastNamed,← List.head?_filter,← List.head?_filter,List.filter_reverse,
      List.filter_reverse,List.filter_filter]
    apply congrArg (fun named : List Tool => named.reverse.head?)
    apply List.filter_congr
    intro tool present
    by_cases named : tool.name = name
    · cases framework : isFramework tool with
      | false => simp
      | true =>
        obtain ⟨other,among,same⟩ := isFramework_named framework (loaded tool present)
        exact absurd (same.trans named) (lastNamed_none.mp own other (List.mem_cons_of_mem _ among))
    · simp [named]

-- The tools and the hat, which the services do not touch
def worn (hats : HatRegistry) : ToolRegistry × Option HatConfig := (hats.toolRegistry,hats.active)

theorem onServices_frames (m : ServiceRun α) : Frames worn (onServices m) := fun _ => rfl

-- A teardown forgets the services whether or not a client refuses to close.
theorem teardown_parts (around : Surroundings) (registry : ServiceRegistry) :
    (teardown around registry).value = closeAll around registry.mcpClients ∧
      (teardown around registry).state = {
        services := ∅
        mcpClients := if (closeAll around registry.mcpClients).isOk then [] else registry.mcpClients} := by
  unfold teardown
  rw [change_bind,read_bind]
  cases closed : closeAll around registry.mcpClients with
  | ok _ => rw [lift_bind_ok]; exact ⟨rfl,rfl⟩
  | error e => rw [lift_bind_error]; exact ⟨rfl,rfl⟩

-- What is registered once a hat that was on has been taken off
def cleared (hats : HatRegistry) : ToolRegistry :=
  match hats.active with
  | none => hats.toolRegistry
  | some _ => .empty

theorem unequip_returned (returned : (unequip around hats).value = .ok ()) :
    worn (unequip around hats).state = (cleared hats,none) := by
  unfold unequip at returned ⊢
  unfold cleared
  rw [read_bind] at returned ⊢
  cases equipped : hats.active with
  | none => exact Prod.ext rfl equipped
  | some hat =>
    rw [equipped] at returned
    obtain ⟨_,closed,_⟩ := bind_returns.mp returned
    dsimp only
    rw [bind_ok closed,clearTools,change_bind]
    rfl

theorem unequip_raised (raised : (unequip around hats).value = .error e) :
    (∃ hat, hats.active = some hat) ∧ closeAll around hats.serviceRegistry.mcpClients = .error e ∧
      (unequip around hats).state = {hats with serviceRegistry := {hats.serviceRegistry with services := ∅}} := by
  unfold unequip at raised ⊢
  rw [read_bind] at raised ⊢
  cases equipped : hats.active with
  | none => rw [equipped] at raised; cases raised
  | some hat =>
    rw [equipped] at raised
    dsimp only at raised ⊢
    have parts := teardown_parts around hats.serviceRegistry
    cases closed : (onServices (teardown around) hats).value with
    | ok _ =>
      rw [bind_ok closed] at raised
      cases raised
    | error e' =>
      rw [bind_error closed] at raised ⊢
      cases raised
      have refused : closeAll around hats.serviceRegistry.mcpClients = .error e := parts.1.symm.trans closed
      refine ⟨⟨hat,rfl⟩,refused,?_⟩
      rw [refused] at parts
      change {hats with serviceRegistry := (teardown around hats.serviceRegistry).state} = _
      rw [parts.2,equipped]
      rfl

theorem checkKnown_bind {f : Unit → HatRun α} (name : String) : (checkKnown name >>= f) hats =
    if hats.available.contains name then f () hats else ⟨.error .valueError,hats,[]⟩ := by
  have known : checkKnown name hats = if hats.available.contains name then ⟨.ok (),hats,[]⟩ else
      ⟨.error .valueError,hats,[]⟩ := by
    unfold checkKnown
    rw [read_bind]
    split <;> rfl
  by_cases available : hats.available.contains name = true
  · rw [if_pos available] at known ⊢
    rw [bind_ok (by rw [known]),known]
    rfl
  · rw [if_neg available] at known ⊢
    rw [bind_error (by rw [known]),known]

theorem loadServices_frames (around : Surroundings) (name : String) : Frames worn (loadServices around name) := by
  refine Frames.bind (Frames.lift _) fun hat => Frames.bind (onServices_frames _) fun _ => ?_
  exact Frames.bind (onServices_frames _) fun _ => Frames.pure _

-- How far a call came before it registers anything, and what it has done to the tools and the hat by then
inductive Prepared (around : Surroundings) (name : String) (hats : HatRegistry) : Prop where
  | unknown : hats.available.contains name = false → prepareHat around name hats = ⟨.error .valueError,hats,[]⟩ →
      Prepared around name hats
  | held : hats.available.contains name = true → (unequip around hats).value = .error e →
      (prepareHat around name hats).value = .error e → (prepareHat around name hats).state = (unequip around hats).state →
      Prepared around name hats
  | off : hats.available.contains name = true → (unequip around hats).value = .ok () →
      worn (prepareHat around name hats).state = (cleared hats,none) →
      Prepared around name hats

theorem prepareHat_parts (around : Surroundings) (name : String) (hats : HatRegistry) : Prepared around name hats := by
  have whole : prepareHat around name hats = if hats.available.contains name then
      (unequip around >>= fun _ => loadServices around name) hats else ⟨.error .valueError,hats,[]⟩ :=
    checkKnown_bind name
  cases known : hats.available.contains name with
  | false =>
    rw [known] at whole
    exact .unknown known whole
  | true =>
    rw [known,if_pos rfl] at whole
    cases taken : (unequip around hats).value with
    | error e =>
      rw [bind_error taken] at whole
      exact .held known taken (by rw [whole]) (by rw [whole])
    | ok _ =>
      rw [bind_ok taken] at whole
      refine .off known taken ?_
      rw [whole]
      exact (loadServices_frames around name _).trans (unequip_returned taken)

theorem prepareHat_returned (returned : (prepareHat around name hats).value = .ok hat) :
    worn (prepareHat around name hats).state = (cleared hats,none) := by
  cases prepareHat_parts around name hats with
  | unknown _ whole => rw [whole] at returned; cases returned
  | held _ _ raised => rw [raised] at returned; cases returned
  | off _ _ worn => exact worn

-- The hat's own tools are registered up to the first that raises.
theorem registerHatTools_parts (around : Surroundings) (tools : List Tool) (hats : HatRegistry) :
    ∃ done rest, tools = done ++ rest ∧ (∀ tool ∈ done, around.injectServices tool = .ok ()) ∧
      (registerHatTools around tools hats).state = {hats with toolRegistry := done.foldl ToolRegistry.register hats.toolRegistry} ∧
      ((registerHatTools around tools hats).value = .ok () ∧ rest = [] ∨
        ∃ tool later e, rest = tool :: later ∧ around.injectServices tool = .error e ∧
          (registerHatTools around tools hats).value = .error e) := by
  induction tools generalizing hats with
  | nil => exact ⟨[],[],rfl,by simp,rfl,.inl ⟨rfl,rfl⟩⟩
  | cons tool later ih =>
    rw [registerHatTools]
    cases injected : around.injectServices tool with
    | error e =>
      rw [lift_bind_error]
      exact ⟨[],tool :: later,rfl,by simp,rfl,.inr ⟨tool,later,e,rfl,injected,rfl⟩⟩
    | ok _ =>
      rw [lift_bind_ok,register,change_bind]
      obtain ⟨done,rest,split,served,state,ending⟩ := ih {hats with toolRegistry := hats.toolRegistry.register tool}
      refine ⟨tool :: done,rest,by rw [split]; rfl,fun other present => ?_,state,ending⟩
      rcases List.mem_cons.mp present with rfl | late
      · exact injected
      · exact served other late

theorem registerHatTools_returned (returned : (registerHatTools around tools hats).value = .ok ()) :
    (∀ tool ∈ tools, around.injectServices tool = .ok ()) ∧ (registerHatTools around tools hats).state =
      {hats with toolRegistry := tools.foldl ToolRegistry.register hats.toolRegistry} := by
  obtain ⟨done,rest,split,served,state,ending⟩ := registerHatTools_parts around tools hats
  rcases ending with ⟨_,rfl⟩ | ⟨tool,later,e,_,_,raised⟩
  · rw [List.append_nil] at split
    rw [split]
    rw [split] at state
    exact ⟨served,state⟩
  · rw [raised] at returned
    cases returned

theorem registerAll_run (tools : List Tool) (hats : HatRegistry) : registerAll tools hats =
    ⟨.ok (),{hats with toolRegistry := tools.foldl ToolRegistry.register hats.toolRegistry},[]⟩ := by
  induction tools generalizing hats with
  | nil => rfl
  | cons tool rest ih => rw [registerAll,register,change_bind,ih]; rfl

def ownTools (loaded : List Tool) : List Tool := loaded.filter (!isFramework ·)

def configured (hat : HatConfig) : Except PyError Unit :=
  if hat.manifest.webhooks.entries.isEmpty then .ok () else secretsReadable hat.manifest.webhooks

-- What can raise after the hat's own tools: it depends on the hat and the surroundings alone.
def settled (around : Surroundings) (hat : HatConfig) : Except PyError Unit := do
  let _ ← communicationService around.environ hat
  let _ ← notificationService around.environ hat
  configured hat

theorem configureWebhooks_parts (hat : HatConfig) (hats : HatRegistry) :
    (configureWebhooks hat hats).value = configured hat ∧ worn (configureWebhooks hat hats).state = worn hats := by
  unfold configureWebhooks configured
  split
  · exact ⟨rfl,rfl⟩
  · rw [change_bind]
    exact ⟨rfl,rfl⟩

theorem setUp_value (around : Surroundings) (hat : HatConfig) (hats : HatRegistry) :
    (setUp around hat hats).value = settled around hat := by
  unfold setUp settled
  rw [register,change_bind]
  cases communicationService around.environ hat with
  | error e => rw [lift_bind_error]; rfl
  | ok service =>
    rw [lift_bind_ok,bind_ok (by rw [registerAll_run]),registerAll_run]
    cases notificationService around.environ hat with
    | error e => rw [lift_bind_error]; rfl
    | ok notifier => rw [lift_bind_ok]; exact (configureWebhooks_parts hat _).1

theorem setUp_keeps (around : Surroundings) (hat : HatConfig) :
    Frames (fun hats : HatRegistry => hats.active) (setUp around hat) := by
  refine Frames.bind (Frames.change fun _ => rfl) fun _ => Frames.bind (Frames.lift _) fun _ => ?_
  refine Frames.bind (fun hats => by rw [registerAll_run]) fun _ => Frames.bind (Frames.lift _) fun _ => ?_
  exact fun hats => congrArg Prod.snd (configureWebhooks_parts hat hats).2

theorem setUp_returned (returned : (setUp around hat hats).value = .ok ()) : (setUp around hat hats).state.toolRegistry =
    (converseTool :: namedFramework hat).foldl ToolRegistry.register hats.toolRegistry := by
  unfold setUp at returned ⊢
  rw [register,change_bind] at returned ⊢
  cases built : communicationService around.environ hat with
  | error e => rw [built,lift_bind_error] at returned; cases returned
  | ok service =>
    rw [built,lift_bind_ok,bind_ok (by rw [registerAll_run]),registerAll_run] at returned
    rw [lift_bind_ok,bind_ok (by rw [registerAll_run]),registerAll_run]
    cases notified : notificationService around.environ hat with
    | error e => rw [notified,lift_bind_error] at returned; cases returned
    | ok notifier =>
      rw [lift_bind_ok]
      exact congrArg Prod.fst (configureWebhooks_parts hat _).2

theorem registerHatTools_keeps (tools : List Tool) :
    Frames (fun hats : HatRegistry => hats.active) (registerHatTools around tools) := by
  induction tools with
  | nil => exact Frames.pure _
  | cons tool later ih => exact Frames.bind (Frames.lift _) fun _ => Frames.bind (Frames.change fun _ => rfl) fun _ => ih

theorem putOn_returned (returned : (putOn around hat hats).value = .ok ()) :
    ∃ loaded, loadHatTools around hat = .ok loaded ∧ (putOn around hat hats).state.active = some hat ∧
      (putOn around hat hats).state.toolRegistry =
        (ownTools loaded ++ converseTool :: namedFramework hat).foldl ToolRegistry.register hats.toolRegistry := by
  unfold putOn at returned ⊢
  cases found : loadHatTools around hat with
  | error e => rw [found,lift_bind_error] at returned; cases returned
  | ok loaded =>
    rw [found,lift_bind_ok] at returned
    rw [lift_bind_ok]
    obtain ⟨_,registered,returned⟩ := bind_returns.mp returned
    obtain ⟨_,completed,_⟩ := bind_returns.mp returned
    refine ⟨loaded,rfl,?_,?_⟩
    · rw [bind_state registered,bind_state completed]
      rfl
    · rw [bind_state registered,bind_state completed,List.foldl_append]
      refine (setUp_returned completed).trans ?_
      rw [(registerHatTools_returned registered).2]
      rfl

-- Something raises after the first tool has been registered: the tools load and the first one that
-- needs the services gets them, but not everything that follows succeeds.
def RaisesLate (around : Surroundings) (hat : HatConfig) : Prop :=
  ∃ loaded, loadHatTools around hat = .ok loaded ∧
    (∀ first ∈ (ownTools loaded).head?, around.injectServices first = .ok ()) ∧
    ¬ ((∀ tool ∈ ownTools loaded, around.injectServices tool = .ok ()) ∧ settled around hat = .ok ())

theorem registerHatTools_raised (raised : (registerHatTools around tools hats).value = .error e) :
    (∃ tool ∈ tools, around.injectServices tool ≠ .ok ()) ∧
      ((∀ first ∈ tools.head?, around.injectServices first = .ok ()) ∨
        (registerHatTools around tools hats).state.toolRegistry = hats.toolRegistry) := by
  obtain ⟨done,rest,split,served,state,ending⟩ := registerHatTools_parts around tools hats
  rcases ending with ⟨finished,_⟩ | ⟨tool,later,e',shape,refused,_⟩
  · rw [finished] at raised
    cases raised
  · refine ⟨⟨tool,by rw [split,shape]; simp,by rw [refused]; exact fun same => (nomatch same)⟩,?_⟩
    cases done with
    | nil => right; rw [state]; rfl
    | cons first others =>
      left
      intro head found
      rw [split] at found
      cases found
      exact served first List.mem_cons_self

theorem putOn_raised (raised : (putOn around hat hats).value = .error e) :
    (putOn around hat hats).state.active = hats.active ∧
      (RaisesLate around hat ∨ (putOn around hat hats).state.toolRegistry = hats.toolRegistry) := by
  unfold putOn at raised ⊢
  cases found : loadHatTools around hat with
  | error e => rw [lift_bind_error]; exact ⟨rfl,.inr rfl⟩
  | ok loaded =>
    rw [found,lift_bind_ok] at raised
    rw [lift_bind_ok]
    cases registered : (registerHatTools around (loaded.filter (!isFramework ·)) hats).value with
    | error e' =>
      rw [bind_error registered]
      obtain ⟨refused,early⟩ := registerHatTools_raised registered
      refine ⟨registerHatTools_keeps _ hats,early.imp_left fun first => ⟨loaded,found,first,fun all => ?_⟩⟩
      obtain ⟨tool,present,refuses⟩ := refused
      exact refuses (all.1 tool present)
    | ok _ =>
      obtain ⟨served,state⟩ := registerHatTools_returned registered
      rw [bind_ok registered] at raised ⊢
      cases completed : (setUp around hat (registerHatTools around (loaded.filter (!isFramework ·)) hats).state).value with
      | ok _ => rw [bind_ok completed] at raised; cases raised
      | error e'' =>
        rw [bind_error completed]
        refine ⟨(setUp_keeps around hat _).trans (registerHatTools_keeps _ hats),.inl ⟨loaded,found,?_,fun all => ?_⟩⟩
        · intro first head
          exact served first (List.mem_of_mem_head? head)
        · rw [setUp_value,all.2] at completed
          cases completed

-- The calls of the registry, each in surroundings of its own
inductive Call where
  | equip (around : Surroundings) (name : String)
  | unequip (around : Surroundings)

def after (hats : HatRegistry) : Call → HatRegistry
  | .equip around name => (equip around name hats).state
  | .unequip around => (unequip around hats).state

-- The call does not get as far as the tools of a hat that raises among them.
def Orderly (hats : HatRegistry) : Call → Prop
  | .equip around name => ∀ hat, (prepareHat around name hats).value = .ok hat → ¬ RaisesLate around hat
  | .unequip _ => True

def replay : HatRegistry → List Call → HatRegistry
  | hats,[] => hats
  | hats,call :: rest => replay (after hats call) rest

def OrderlyRun : HatRegistry → List Call → Prop
  | _,[] => True
  | hats,call :: rest => Orderly hats call ∧ OrderlyRun (after hats call) rest

-- While no hat is on, no tool is registered.
def Bare (hats : HatRegistry) : Prop := hats.active = none → ∀ name, hats.toolRegistry.get name = none

theorem cleared_bare (bare : Bare hats) (name : String) : (cleared hats).get name = none := by
  unfold cleared
  cases equipped : hats.active with
  | none => exact bare equipped name
  | some hat => rfl

theorem unequip_bare (bare : Bare hats) : Bare (unequip around hats).state := by
  cases taken : (unequip around hats).value with
  | ok _ =>
    have shape := unequip_returned taken
    intro _ name
    have same : (unequip around hats).state.toolRegistry = cleared hats := congrArg Prod.fst shape
    rw [same]
    exact cleared_bare bare name
  | error e =>
    obtain ⟨_,_,state⟩ := unequip_raised taken
    rw [state]
    exact bare

theorem prepareHat_bare (around : Surroundings) (name : String) (bare : Bare hats) :
    Bare (prepareHat around name hats).state := by
  cases prepareHat_parts around name hats with
  | unknown _ whole => rw [whole]; exact bare
  | held _ _ _ state => rw [state]; exact unequip_bare bare
  | off _ _ shape =>
    intro _ name
    have same : (prepareHat around _ hats).state.toolRegistry = cleared hats := congrArg Prod.fst shape
    rw [same]
    exact cleared_bare bare name

theorem after_bare (bare : Bare hats) (orderly : Orderly hats call) : Bare (after hats call) := by
  cases call with
  | unequip around => exact unequip_bare bare
  | equip around name =>
    change Bare (equip around name hats).state
    unfold equip
    cases prepared : (prepareHat around name hats).value with
    | error e =>
      rw [bind_error prepared]
      exact prepareHat_bare around name bare
    | ok hat =>
      have before := prepareHat_bare around name bare
      rw [bind_state prepared]
      cases dressed : (putOn around hat (prepareHat around name hats).state).value with
      | ok _ =>
        rw [bind_state dressed]
        obtain ⟨_,_,on,_⟩ := putOn_returned dressed
        intro off
        rw [pure_state,on] at off
        cases off
      | error e =>
        rw [bind_error dressed]
        obtain ⟨same,late⟩ := putOn_raised dressed
        intro off name
        rw [late.resolve_left (orderly hat prepared)]
        exact before (same.symm.trans off) name

theorem replay_bare (calls : List Call) (bare : Bare hats) (orderly : OrderlyRun hats calls) : Bare (replay hats calls) := by
  induction calls generalizing hats with
  | nil => exact bare
  | cons call rest ih => exact ih (after_bare bare orderly.1) orderly.2

-- What an equip that returns leaves, whatever it found
theorem equip_returned (returned : (equip around name hats).value = .ok hat) :
    ∃ loaded, loadHatTools around hat = .ok loaded ∧ (equip around name hats).state.toolRegistry =
      (ownTools loaded ++ converseTool :: namedFramework hat).foldl ToolRegistry.register (cleared hats) := by
  unfold equip at returned ⊢
  obtain ⟨on,prepared,returned⟩ := bind_returns.mp returned
  obtain ⟨_,dressed,finished⟩ := bind_returns.mp returned
  cases finished
  obtain ⟨loaded,found,_,registry⟩ := putOn_returned dressed
  have bare : (prepareHat around name hats).state.toolRegistry = cleared hats :=
    congrArg Prod.fst (prepareHat_returned prepared)
  rw [bind_state prepared,bind_state dressed,pure_state,registry,bare]
  exact ⟨loaded,found,rfl⟩

theorem loadHatTools_named (found : loadHatTools around hat = .ok loaded) :
    ∀ tool ∈ loaded, hat.manifest.tools.contains tool.name = true := by
  obtain ⟨modules,_,found⟩ := except_bind.mp found
  cases found
  intro tool present
  obtain ⟨made,_,kept⟩ := List.mem_filterMap.mp present
  unfold instantiated at kept
  split at kept
  · split at kept
    · next listed => cases kept; exact listed
    · cases kept
  · cases kept

-- An equip that returns leaves exactly its hat's tools when every tool it found without a hat is
-- replaced by one of the same name.
theorem equip_holds (returned : (equip around name hats).value = .ok hat) :
    ∃ loaded, loadHatTools around hat = .ok loaded ∧
      (Holds (equip around name hats).state.toolRegistry (scopedTools hat loaded) ↔
        ∀ other, lastNamed (scopedTools hat loaded) other = none → (cleared hats).get other = none) := by
  obtain ⟨loaded,found,registry⟩ := equip_returned returned
  refine ⟨loaded,found,?_⟩
  have held (other : String) : (equip around name hats).state.toolRegistry.get other =
      (lastNamed (scopedTools hat loaded) other).or ((cleared hats).get other) := by
    rw [registry,get_registerAll,ownTools,framework_covers (loadHatTools_named found)]
  constructor
  · intro holds other unnamed
    have same := (held other).symm.trans (holds other)
    rwa [unnamed] at same
  · intro replaced other
    rw [held other]
    cases named : lastNamed (scopedTools hat loaded) other with
    | some tool => rfl
    | none => exact replaced other named

theorem tool_scoping (available : List String) (calls : List Call) (around : Surroundings) (name : String)
    (hat : HatConfig) (orderly : OrderlyRun {available} calls)
    (returned : (equip around name (replay {available} calls)).value = .ok hat) :
    ∃ loaded, loadHatTools around hat = .ok loaded ∧
      Holds (equip around name (replay {available} calls)).state.toolRegistry (scopedTools hat loaded) := by
  have bare : Bare (replay {available} calls) := replay_bare calls (fun _ _ => rfl) orderly
  obtain ⟨loaded,found,exact_⟩ := equip_holds returned
  exact ⟨loaded,found,exact_.mpr fun other _ => cleared_bare bare other⟩

end

def shopHat : HatConfig := {manifest := {name := "shop",tools := ["look_up_order"]}}
def deskHat : HatConfig := {
  manifest := {name := "desk",tools := ["process_refund"],communications := AList.singleton "channels" (.obj [])}
  constraints := {communicationsPolicy := .obj [("contacts",.obj [("manager",.obj [])])]}}

def orderTool : Tool := {name := "look_up_order",required := ["order_id"]}
def payoutTool : Tool := {name := "process_refund",riskFloor := some .orange}

def disk : Surroundings where
  loadHat name := if name = "shop" then .ok shopHat else if name = "desk" then .ok deskHat else .error (.raised "FileNotFoundError")
  toolModules hat := if hat.name = "shop" then [.ok [.ok orderTool]] else [.ok [.ok payoutTool]]

theorem shop_calm : ¬ RaisesLate disk shopHat := by
  intro late
  obtain ⟨loaded,found,_,fails⟩ := late
  cases found
  exact fails ⟨fun _ _ => rfl,rfl⟩

theorem tool_scoping_twice :
    Holds (equip disk "shop" (replay {available := ["shop"]} [.equip disk "lost",.equip disk "shop"])).state.toolRegistry
      (scopedTools shopHat [orderTool]) := by
  have orderly : OrderlyRun {available := ["shop"]} [.equip disk "lost",.equip disk "shop"] := by
    refine ⟨fun hat prepared => (nomatch prepared),fun hat prepared => ?_,trivial⟩
    cases prepared
    exact shop_calm
  obtain ⟨loaded,found,holds⟩ := tool_scoping ["shop"] [.equip disk "lost",.equip disk "shop"] disk "shop" shopHat
    orderly rfl
  cases found
  exact holds

-- The desk's contact names no channel, which is noticed only after the desk's refund tool is registered.
theorem tool_scoping_left_over :
    (equip disk "desk" {available := ["shop","desk"]}).value = .error .keyError ∧
    (equip disk "shop" (replay {available := ["shop","desk"]} [.equip disk "desk"])).value = .ok shopHat ∧
    (equip disk "shop" (replay {available := ["shop","desk"]} [.equip disk "desk"])).state.toolRegistry.get
      "process_refund" = some payoutTool ∧
    ¬ Holds (equip disk "shop" (replay {available := ["shop","desk"]} [.equip disk "desk"])).state.toolRegistry
      (scopedTools shopHat [orderTool]) := by
  refine ⟨rfl,rfl,rfl,fun holds => ?_⟩
  exact nomatch holds "process_refund"

end Sophia.Hats
