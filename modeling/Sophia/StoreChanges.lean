import Sophia.StoreRequests

namespace Sophia.TracedRun

-- Where what is lifted is known to the rest
theorem Preserves.lift_bind {I : σ → Prop} {x : Except ε α} {f : α → Run ε σ ω β}
    (later : ∀ a, x = .ok a → Preserves I (f a)) : Preserves I (TracedRun.lift x >>= f) := by
  intro s holds
  cases x with
  | error e => rw [lift_bind_error]; exact holds
  | ok a => rw [lift_bind_ok]; exact later a rfl s holds

end Sophia.TracedRun

namespace Sophia.CustomerService
open TracedRun Json ServiceModels Mcp MockServices StepRun AgentLoop

def isWrite : ServiceCall → Bool
  | .cancelOrder _ _ => true
  | .updateOrder _ _ => true
  | .updateShippingAddress _ _ => true
  | .placeOrder _ _ => true
  | .initiateReturn _ _ _ => true
  | _ => false

-- What a tool can ask of the services with these parameters
inductive Issues (texts : Texts) (params : Params) : HatTool → ServiceCall → Prop where
  | reads {call : ServiceCall} : isWrite call = false → Issues texts params tool call
  | cancels : normalizeOrderId texts (param params "order_id" (.str "")) = .ok key →
      Issues texts params .cancelOrder (.cancelOrder (.str key) reason)
  | readdresses : required params "order_id" = .ok orderId →
      Issues texts params .updateShippingAddress (.updateShippingAddress orderId address)
  | places : Issues texts params .placeNewOrder (.placeOrder customerId items)
  | replaces : Issues texts params .sendReplacementProduct (.placeOrder customerId items)
  | returns : required params "order_id" = .ok orderId →
      Issues texts params .initiateReturn (.initiateReturn orderId items reason)

section
variable {texts : Texts} {errorText : PyError → String} {params : Params} {tool : HatTool} {I : σ → Prop}
  {service : ServiceCall → Run PyError σ ω ServiceValue}

theorem reported_asks {call : ServiceCall} (kept : Preserves I (service call)) (report : ServiceValue → Except PyError HatResult) :
    Preserves I (reported errorText service report call) := by
  refine .bind (.rescue ?_) fun outcome => ?_
  · rw [← bind_pure_comp]
    exact .bind kept fun _ => .pure _
  · cases outcome with
    | inl message => exact .pure _
    | inr value => exact .lift _

theorem newItems_asks (kept : ∀ id, Preserves I (service (.getProductDetails id))) (rawItems : List Json) :
    Preserves I (newItems service rawItems) := by
  induction rawItems with
  | nil => exact .pure _
  | cons item rest ih =>
    refine .bind (.lift _) fun _ => .bind (.lift _) fun _ => .bind (kept _) fun _ => .ite ?_ (.pure _)
    exact .bind (.lift _) fun _ => .bind ih fun _ => .pure _

-- What every call that the tool can ask for keeps, the tool keeps.
theorem tool_issues (kept : ∀ call, Issues texts params tool call → Preserves I (service call)) :
    Preserves I (execute texts errorText service tool params) := by
  have reads {call : ServiceCall} (quiet : isWrite call = false) : Preserves I (service call) := kept call (.reads quiet)
  cases tool with
  | lookUpOrder =>
    refine .bind (.lift _) fun _ => .bind (reads rfl) fun _ => .ite ?_ (.pure _)
    exact .bind (.lift _) fun _ => .pure _
  | checkOrderStatus =>
    refine .bind (.lift _) fun _ => .bind (reads rfl) fun _ => .ite ?_ (.pure _)
    exact .bind (.lift _) fun _ => .bind (.lift _) fun _ => .pure _
  | placeNewOrder =>
    refine .bind (.lift _) fun _ => .bind (newItems_asks (fun _ => reads rfl) _) fun items => ?_
    cases items with
    | inl productId => exact .pure _
    | inr items => exact .bind (kept _ .places) fun _ => .bind (.lift _) fun _ => .pure _
  | cancelOrder =>
    refine .lift_bind fun orderId named => .bind (.lift _) fun _ => .bind (kept _ (.cancels named)) fun _ => ?_
    refine .bind (.lift _) fun _ => .ite ?_ (.pure _)
    exact .bind (.lift _) fun _ => .bind (.lift _) fun _ => .pure _
  | lookUpCustomer =>
    refine .ite (.bind (reads rfl) fun _ => .ite ?_ (.pure _)) (.pure _)
    exact .bind (.lift _) fun _ => .pure _
  | getCustomerOrderHistory => exact .bind (.lift _) fun _ => reported_asks (reads rfl) _
  | checkCurrentInventory =>
    refine .bind (reads rfl) fun _ => .ite (.pure _) ?_
    exact .bind (.lift _) fun _ => .pure _
  | lookUpProduct =>
    refine .bind (.lift _) fun _ => .bind (reads rfl) fun _ => .ite ?_ (.pure _)
    exact .bind (.lift _) fun _ => .bind (.lift _) fun _ => .pure _
  | checkWarrantyStatus => exact .bind (.lift _) fun _ => .bind (.lift _) fun _ => reported_asks (reads rfl) _
  | trackShipment =>
    refine .bind (.lift _) fun _ => .bind (reads rfl) fun _ => .ite ?_ (.pure _)
    exact .bind (.lift _) fun _ => .bind (.lift _) fun _ => .pure _
  | updateShippingAddress =>
    refine .bind (.lift _) fun _ => .lift_bind fun orderId ordered => .bind (kept _ (.readdresses ordered)) fun _ => ?_
    exact .bind (.lift _) fun _ => .ite (.pure _) (.pure _)
  | offerDiscount =>
    refine .bind (.lift _) fun _ => .bind (.lift _) fun _ => .bind (.lift _) fun _ => .bind (reads rfl) fun _ => ?_
    exact .bind (.lift _) fun _ => .bind (.lift _) fun _ => .pure _
  | offerFreeShipping =>
    refine .bind (.lift _) fun _ => .bind (.lift _) fun _ => .bind (reads rfl) fun _ => ?_
    exact .bind (.lift _) fun _ => .pure _
  | offerPartialRefund =>
    refine .bind (.lift _) fun _ => .bind (.lift _) fun _ => .bind (.lift _) fun _ => .bind (reads rfl) fun _ => ?_
    exact .bind (.lift _) fun _ => .bind (.lift _) fun _ => .bind (.lift _) fun _ => .pure _
  | offerFullRefund =>
    refine .bind (.lift _) fun _ => .bind (.lift _) fun _ => .bind (reads rfl) fun _ => ?_
    exact .bind (.lift _) fun _ => .pure _
  | sendReplacementProduct =>
    refine .bind (.lift _) fun _ => .bind (reads rfl) fun _ => .ite (.bind (.lift _) fun _ => ?_) (.pure _)
    exact .bind (kept _ .replaces) fun _ => .bind (.lift _) fun _ => .bind (.lift _) fun _ => .pure _
  | offerFreeItem => exact .pure _
  | initiateReturn =>
    refine .bind (.lift _) fun _ => .bind (.lift _) fun _ => .lift_bind fun orderId ordered => .bind (.lift _) fun _ => ?_
    exact reported_asks (kept _ (.returns ordered)) _
  | checkReturnStatus =>
    refine .bind (.lift _) fun _ => .bind (reads rfl) fun _ => .ite ?_ (.pure _)
    exact .bind (.lift _) fun _ => .bind (.lift _) fun _ => .pure _

end

-- The executions that can write an order: a cancellation or a new address of this order, or an order under a new number
inductive WritesOrder (texts : Texts) (key : String) (known : Option Order) : HatTool → Params → Prop where
  | cancels : normalizeOrderId texts (param params "order_id" (.str "")) = .ok key →
      WritesOrder texts key known .cancelOrder params
  | readdresses : required params "order_id" = .ok (.str key) → WritesOrder texts key known .updateShippingAddress params
  | places : known = none → WritesOrder texts key known .placeNewOrder params
  | replaces : known = none → WritesOrder texts key known .sendReplacementProduct params

section
variable {texts : Texts} {errorText : PyError → String} {outside : Outside} {params : Params} {tool : HatTool} {w : World}
  {call : ServiceCall}

-- A call that a tool asks for writes the orders that the tool can write.
theorem asked_order (asks : Issues texts params tool call) (other : ¬ WritesOrder texts key known tool params)
    (inv : StoreInvariant outside w.store) (here : w.store.orders.get key = known) :
    (step outside w call).store.orders.get key = known := by
  obtain ⟨write,writes,ends⟩ := step_writes outside call w
  rw [ends]
  cases writes with
  | nothing => exact here
  | cancelled there open_ =>
    cases asks with
    | reads quiet => cases quiet
    | cancels named =>
      have apart : key ≠ _ := fun same => other (.cancels (same ▸ named))
      exact (PyDict.get_set_other apart).trans here
  | updated there =>
    cases asks with
    | reads quiet => cases quiet
  | readdressed there open_ =>
    cases asks with
    | reads quiet => cases quiet
    | readdresses ordered =>
      have apart : key ≠ _ := fun same => other (.readdresses (same ▸ ordered))
      exact (PyDict.get_set_other apart).trans here
  | placed =>
    have old : known ≠ none := by
      intro absent
      cases asks with
      | reads quiet => cases quiet
      | places => exact other (.places absent)
      | replaces => exact other (.replaces absent)
    obtain ⟨order,rfl⟩ := Option.ne_none_iff_exists'.mp old
    exact (PyDict.get_set_other (order_apart inv here)).trans here
  | returned there delivered since within free => exact here

theorem asked_return (asks : Issues texts params tool call) (other : ¬ (known = none ∧ tool = .initiateReturn))
    (inv : StoreInvariant outside w.store) (here : w.store.returns.get key = known) :
    (step outside w call).store.returns.get key = known := by
  obtain ⟨write,writes,ends⟩ := step_writes outside call w
  rw [ends]
  cases writes with
  | returned there delivered since within free =>
    cases asks with
    | reads quiet => cases quiet
    | returns ordered =>
      obtain ⟨ret,rfl⟩ := Option.ne_none_iff_exists'.mp fun absent => other ⟨absent,rfl⟩
      exact (PyDict.get_set_other (PyDict.get_apart here (return_unused inv))).trans here
  | _ => exact here

-- What is true of the store and kept by every call that the tool asks for is true after the tool.
theorem runTool_asks {P : World → Prop} (inv : StoreInvariant outside w.store) (holds : P w)
    (kept : ∀ call v, Issues texts params tool call → StoreInvariant outside v.store → P v → P (step outside v call)) :
    P (runTool texts errorText outside w tool params) := by
  have stays : Preserves (fun v => StoreInvariant outside v.store ∧ P v) (execute texts errorText (mock outside) tool params) :=
    tool_issues fun call asks v both => ⟨step_invariant v call both.1,kept call v asks both.1 both.2⟩
  exact (stays w ⟨inv,holds⟩).2

theorem runTool_order (inv : StoreInvariant outside w.store)
    (other : ¬ WritesOrder texts key (w.store.orders.get key) tool params) :
    (runTool texts errorText outside w tool params).store.orders.get key = w.store.orders.get key :=
  runTool_asks (P := fun v => v.store.orders.get key = w.store.orders.get key) inv rfl
    fun _ _ asks inv here => asked_order asks other inv here

theorem runTool_return (inv : StoreInvariant outside w.store)
    (other : ¬ (w.store.returns.get key = none ∧ tool = .initiateReturn)) :
    (runTool texts errorText outside w tool params).store.returns.get key = w.store.returns.get key :=
  runTool_asks (P := fun v => v.store.returns.get key = w.store.returns.get key) inv rfl
    fun _ _ asks inv here => asked_return asks other inv here

-- The tables that no operation writes
def fixedTables (store : MockDataStore) := (store.customers,store.shipments,store.products,store.inventory)

theorem runTool_tables (inv : StoreInvariant outside w.store) :
    fixedTables (runTool texts errorText outside w tool params).store = fixedTables w.store := by
  refine runTool_asks (P := fun v => fixedTables v.store = fixedTables w.store) inv rfl fun call v _ _ here => ?_
  obtain ⟨write,writes,ends⟩ := step_writes outside call v
  obtain ⟨customers,shipments,products,inventory⟩ := tables_same writes
  rw [← here,ends,fixedTables,customers,shipments,products,inventory]
  rfl

theorem runTool_kept (inv : StoreInvariant outside w.store) : Kept w (runTool texts errorText outside w tool params) := by
  refine runTool_asks (P := Kept w) inv ⟨ordersKept_refl _,fun _ _ known => known⟩ fun call v _ inv here => ?_
  obtain ⟨write,writes,ends⟩ := step_writes outside call v
  rw [Kept,ends]
  exact ⟨here.1.trans (writes_orders inv writes),fun key ret known => writes_returns inv writes key ret (here.2 key ret known)⟩

end

section
variable (texts : Texts) (errorText : PyError → String) (outside : Outside) (jsonOf : ToolData → Json) (agent : Agent)

def deskAfter (inputs : List Asked) : Desk := after (serve texts errorText outside jsonOf agent) {} inputs

-- One of the later requests came to an authorized execution of this kind.
def AccountedFor (kind : World → HatTool → Params → Prop) (earlier later : List Asked) : Prop :=
  ∃ between asked rest run, later = between ++ asked :: rest ∧
    run ∈ executionOf texts errorText outside jsonOf agent (deskAfter texts errorText outside jsonOf agent
      (earlier ++ between)) asked ∧
    kind (deskAfter texts errorText outside jsonOf agent (earlier ++ between)).world run.tool run.params ∧
    Authorized (shopAgent agent) (asked.on texts errorText outside jsonOf
      (deskAfter texts errorText outside jsonOf agent (earlier ++ between)).world) asked.request
      (deskAfter texts errorText outside jsonOf agent (earlier ++ between)).cache run.tool run.params

theorem desk_invariant (inputs : List Asked) :
    StoreInvariant outside (deskAfter texts errorText outside jsonOf agent inputs).world.store := by
  obtain ⟨calls,reached⟩ : ∃ calls, (deskAfter texts errorText outside jsonOf agent inputs).world = worldAfter outside calls :=
    requests_reached inputs
  rw [reached]
  exact reached_invariant outside calls

variable {texts errorText outside jsonOf agent}

theorem deskAfter_last (inputs : List Asked) (asked : Asked) : deskAfter texts errorText outside jsonOf agent (inputs ++ [asked]) =
    serve texts errorText outside jsonOf agent (deskAfter texts errorText outside jsonOf agent inputs) asked := after_last

-- What only executions of a kind change is as it was, or one of them is to be found.
theorem same_or_accounted (look : MockDataStore → α) (kind : World → HatTool → Params → Prop)
    (kept : ∀ (w : World) tool params, StoreInvariant outside w.store → ¬ kind w tool params →
      look (runTool texts errorText outside w tool params).store = look w.store) (earlier later : List Asked) :
    look (deskAfter texts errorText outside jsonOf agent (earlier ++ later)).world.store =
      look (deskAfter texts errorText outside jsonOf agent earlier).world.store ∨
    AccountedFor texts errorText outside jsonOf agent kind earlier later := by
  induction later using List.reverseRecOn with
  | nil => exact .inl (by rw [List.append_nil])
  | append_singleton later asked ih =>
    rcases ih with same | ⟨between,one,rest,run,split,came,found⟩
    · rw [← List.append_assoc,deskAfter_last,← same]
      obtain ⟨ran,authorized⟩ := serve_executes texts errorText outside jsonOf agent
        (deskAfter texts errorText outside jsonOf agent (earlier ++ later)) asked
      cases came : executionOf texts errorText outside jsonOf agent
          (deskAfter texts errorText outside jsonOf agent (earlier ++ later)) asked with
      | none => exact .inl (by rw [ran,came]; rfl)
      | some run =>
        by_cases written : kind (deskAfter texts errorText outside jsonOf agent (earlier ++ later)).world run.tool run.params
        · exact .inr ⟨later,asked,[],run,rfl,came,written,authorized run came⟩
        · refine .inl ?_
          rw [ran,came]
          exact kept _ _ _ (desk_invariant ..) written
    · refine .inr ⟨between,one,rest ++ [asked],run,?_,came,found⟩
      rw [split,List.append_assoc,List.cons_append]

theorem desk_kept (earlier later : List Asked) : Kept (deskAfter texts errorText outside jsonOf agent earlier).world
    (deskAfter texts errorText outside jsonOf agent (earlier ++ later)).world := by
  induction later using List.reverseRecOn with
  | nil => rw [List.append_nil]; exact ⟨ordersKept_refl _,fun _ _ known => known⟩
  | append_singleton later asked ih =>
    rw [← List.append_assoc,deskAfter_last,(serve_executes _ _ _ _ _ _ _).1]
    cases executionOf texts errorText outside jsonOf agent
        (deskAfter texts errorText outside jsonOf agent (earlier ++ later)) asked with
    | none => exact ih
    | some run =>
      have kept : Kept _ (runTool texts errorText outside _ run.tool run.params) :=
        runTool_kept (desk_invariant texts errorText outside jsonOf agent (earlier ++ later))
      exact ⟨ih.1.trans kept.1,fun key ret known => kept.2 key ret (ih.2 key ret known)⟩

end

-- Every order and every return that a run of requests leaves otherwise than it was goes back to a request that was
-- authorized to write it; nothing else is written, and no order or return is lost.
theorem changes_accounted (texts : Texts) (errorText : PyError → String) (outside : Outside) (jsonOf : ToolData → Json)
    (agent : Agent) (earlier later : List Asked) :
    (∀ key, (deskAfter texts errorText outside jsonOf agent (earlier ++ later)).world.store.orders.get key =
        (deskAfter texts errorText outside jsonOf agent earlier).world.store.orders.get key ∨
      AccountedFor texts errorText outside jsonOf agent
        (fun w => WritesOrder texts key (w.store.orders.get key)) earlier later) ∧
    (∀ key, (deskAfter texts errorText outside jsonOf agent (earlier ++ later)).world.store.returns.get key =
        (deskAfter texts errorText outside jsonOf agent earlier).world.store.returns.get key ∨
      AccountedFor texts errorText outside jsonOf agent
        (fun w tool _ => w.store.returns.get key = none ∧ tool = .initiateReturn) earlier later) ∧
    fixedTables (deskAfter texts errorText outside jsonOf agent (earlier ++ later)).world.store =
      fixedTables (deskAfter texts errorText outside jsonOf agent earlier).world.store ∧
    Kept (deskAfter texts errorText outside jsonOf agent earlier).world
      (deskAfter texts errorText outside jsonOf agent (earlier ++ later)).world := by
  refine ⟨fun key => ?_,fun key => ?_,?_,desk_kept earlier later⟩
  · exact same_or_accounted (fun store => store.orders.get key) _ (fun w tool params inv other => runTool_order inv other)
      earlier later
  · exact same_or_accounted (fun store => store.returns.get key) _ (fun w tool params inv other => runTool_return inv other)
      earlier later
  · refine (same_or_accounted fixedTables (fun _ _ _ => False) (fun w tool params inv _ => runTool_tables inv)
      earlier later).resolve_right ?_
    rintro ⟨between,asked,rest,run,_,_,never,_⟩
    exact never

end Sophia.CustomerService
