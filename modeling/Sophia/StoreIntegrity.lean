import Sophia.ShippingAddress
import Sophia.HatTools
import Sophia.ParameterGate

namespace Sophia.CustomerService
open TracedRun Json ServiceModels Mcp MockServices StepRun ParameterGate

-- The name of a tool and the parameters that its schema requires
def toolOf : HatTool → Tool
  | .lookUpOrder => {name := "look_up_order",required := ["order_id"]}
  | .checkOrderStatus => {name := "check_order_status",required := ["order_id"]}
  | .placeNewOrder => {name := "place_new_order",required := ["customer_id","items"]}
  | .cancelOrder => {name := "cancel_order",required := ["order_id","reason"]}
  | .lookUpCustomer => {name := "look_up_customer"}
  | .getCustomerOrderHistory => {name := "get_customer_order_history",required := ["customer_id"]}
  | .checkCurrentInventory => {name := "check_current_inventory"}
  | .lookUpProduct => {name := "look_up_product",required := ["product_id"]}
  | .checkWarrantyStatus => {name := "check_warranty_status",required := ["order_id","product_id"]}
  | .trackShipment => {name := "track_shipment",required := ["order_id"]}
  | .updateShippingAddress =>
    {name := "update_shipping_address",required := ["order_id","line1","city","state","postal_code"]}
  | .offerDiscount => {name := "offer_discount",required := ["customer_id","discount_percent","reason"]}
  | .offerFreeShipping => {name := "offer_free_shipping",required := ["customer_id","reason"]}
  | .offerPartialRefund => {name := "offer_partial_refund",required := ["order_id","amount","reason"]}
  | .offerFullRefund => {name := "offer_full_refund",required := ["order_id","reason"]}
  | .sendReplacementProduct => {name := "send_replacement_product",required := ["order_id","product_id","reason"]}
  | .offerFreeItem => {name := "offer_free_item",required := ["customer_id","product_id","reason"]}
  | .initiateReturn => {name := "initiate_return",required := ["order_id","items","reason"]}
  | .checkReturnStatus => {name := "check_return_status",required := ["return_id"]}

-- A tool of the hat with parameters that the gate lets pass
structure Execution (runtime : Runtime) (known : List String) where
  tool : HatTool
  params : Params
  accepted : (validateCandidate runtime known (.register .empty (toolOf tool))
    {toolName := (toolOf tool).name,parameters := params}).passed = true

def Known (store : MockDataStore) (customerId : Json) : Prop :=
  ∃ customer, customerId = .str customer ∧ (store.customers.get customer).isSome = true

-- The ids in the store name what is in the store.
structure Integrity (store : MockDataStore) : Prop where
  orders : ∀ key order, store.orders.get key = some order → Known store order.customerId
  returns : ∀ key ret, store.returns.get key = some ret →
    ∃ orderId, ret.orderId = .str orderId ∧ (store.orders.get orderId).isSome = true
  shipments : ∀ key shipment, store.shipments.get key = some shipment → (store.orders.get shipment.orderId).isSome = true

section
variable (texts : Texts) (errorText : PyError → String) (outside : Outside)

abbrev mock : ServiceCall → MockRun Empty ServiceValue := perform outside

def runTool (w : World) (tool : HatTool) (params : Params) : World :=
  (execute texts errorText (mock outside) tool params w).state

-- place_new_order gets as far as place_order: each of the items has a product of the store and a quantity to multiply.
def Orderable (w : World) (params : Params) : Prop := ∃ rawItems items,
  (param params "items" (.arr [])).iterate = .ok rawItems ∧ (newItems (mock outside) rawItems w).value = .ok (.inr items)

-- An order for a customer that is not in the store
def Dangles (w : World) : HatTool → Params → Prop
  | .placeNewOrder,params => Orderable outside w params ∧ ¬ Known w.store (param params "customer_id" (.str ""))
  | .sendReplacementProduct,params => (∃ productId, params.lookup "product_id" = some (.str productId) ∧
      (w.store.products.get productId).isSome = true) ∧ ¬ Known w.store (param params "customer_id" (.str "REPLACEMENT"))
  | _,_ => False

end

-- The calls that place no order
def PlacesNothing (call : ServiceCall) : Prop := ∀ customerId items, call ≠ .placeOrder customerId items

-- What holds of the store between the tools
def Sound (outside : Outside) (w : World) : Prop := StoreInvariant outside w.store ∧ Integrity w.store

section
variable {texts : Texts} {errorText : PyError → String} {outside : Outside} {w : World} {call : ServiceCall}

-- Only orders and returns are written.
theorem tables_same (writes : Writes outside w call write) : (write.apply w.store).customers = w.store.customers ∧
    (write.apply w.store).shipments = w.store.shipments ∧ (write.apply w.store).products = w.store.products ∧
    (write.apply w.store).inventory = w.store.inventory := by
  cases writes <;> exact ⟨rfl,rfl,rfl,rfl⟩

theorem orders_stay (kept : OrdersKept one later) (known : (one.get key).isSome = true) :
    (later.get key).isSome = true := by
  obtain ⟨order,present⟩ := Option.isSome_iff_exists.mp known
  obtain ⟨last,there,_⟩ := kept key order present
  simp [there]

theorem integrity_kept (inv : StoreInvariant outside w.store) (integrity : Integrity w.store) (writes : Writes outside w call write)
    (named : ∀ customerId items, call = .placeOrder customerId items → Known w.store customerId) :
    Integrity (write.apply w.store) := by
  obtain ⟨customers,shipments,_⟩ := tables_same writes
  have kept := writes_orders inv writes
  refine ⟨?_,?_,?_⟩
  · intro key order present
    rw [Known,customers]
    rcases writes_order_cases inv writes present with ⟨one,before,same⟩ | ⟨customerId,items,rfl,_,_,rfl⟩
    · rw [same.customerId]
      exact integrity.orders key one before
    · exact named customerId items rfl
  · intro key ret present
    cases writes with
    | returned there delivered since within free =>
      rcases PyDict.get_set_cases present with ⟨_,rfl⟩ | before
      · exact ⟨_,rfl,by simp [Write.apply,there]⟩
      · exact integrity.returns key ret before
    | _ =>
      obtain ⟨orderId,same,known⟩ := integrity.returns key ret present
      exact ⟨orderId,same,orders_stay kept known⟩
  · intro key shipment present
    rw [shipments] at present
    exact orders_stay kept (integrity.shipments key shipment present)

theorem mock_invariant : Preserves (fun w => StoreInvariant outside w.store) (mock outside call) :=
  fun w inv => step_invariant w call inv

theorem mock_sound (other : PlacesNothing call) : Preserves (Sound outside) (mock outside call) := by
  intro w sound
  refine ⟨mock_invariant w sound.1,?_⟩
  obtain ⟨write,writes,ends⟩ := step_writes outside call w
  change Integrity (step outside w call).store
  rw [ends]
  exact integrity_kept sound.1 sound.2 writes fun _ _ same => absurd same (other _ _)

theorem reported_keeps {I : World → Prop} (kept : ∀ call, PlacesNothing call → Preserves I (mock outside call))
    (report : ServiceValue → Except PyError HatResult) (other : PlacesNothing call) :
    Preserves I (reported errorText (mock outside) report call) := by
  refine .bind (.rescue (.bind (kept _ other) fun _ => .pure _)) fun outcome => ?_
  cases outcome with
  | inl message => exact .pure _
  | inr value => exact .lift _

-- A tool that places no order keeps what the other operations keep.
theorem tool_keeps {I : World → Prop} (kept : ∀ call, PlacesNothing call → Preserves I (mock outside call))
    (tool : HatTool) (params : Params) (first : tool ≠ .placeNewOrder) (second : tool ≠ .sendReplacementProduct) :
    Preserves I (execute texts errorText (mock outside) tool params) := by
  cases tool with
  | lookUpOrder =>
    refine .bind (.lift _) fun _ => .bind (kept _ nofun) fun _ => .ite ?_ (.pure _)
    exact .bind (.lift _) fun _ => .pure _
  | checkOrderStatus =>
    refine .bind (.lift _) fun _ => .bind (kept _ nofun) fun _ => .ite ?_ (.pure _)
    exact .bind (.lift _) fun _ => .bind (.lift _) fun _ => .pure _
  | placeNewOrder => exact absurd rfl first
  | cancelOrder =>
    refine .bind (.lift _) fun _ => .bind (.lift _) fun _ => .bind (kept _ nofun) fun _ => .bind (.lift _) fun _ => ?_
    exact .ite (.bind (.lift _) fun _ => .bind (.lift _) fun _ => .pure _) (.pure _)
  | lookUpCustomer =>
    refine .ite (.bind (kept _ nofun) fun _ => .ite ?_ (.pure _)) (.pure _)
    exact .bind (.lift _) fun _ => .pure _
  | getCustomerOrderHistory => exact .bind (.lift _) fun _ => reported_keeps kept _ nofun
  | checkCurrentInventory =>
    refine .bind (kept _ nofun) fun _ => .ite (.pure _) ?_
    exact .bind (.lift _) fun _ => .pure _
  | lookUpProduct =>
    refine .bind (.lift _) fun _ => .bind (kept _ nofun) fun _ => .ite ?_ (.pure _)
    exact .bind (.lift _) fun _ => .bind (.lift _) fun _ => .pure _
  | checkWarrantyStatus => exact .bind (.lift _) fun _ => .bind (.lift _) fun _ => reported_keeps kept _ nofun
  | trackShipment =>
    refine .bind (.lift _) fun _ => .bind (kept _ nofun) fun _ => .ite ?_ (.pure _)
    exact .bind (.lift _) fun _ => .bind (.lift _) fun _ => .pure _
  | updateShippingAddress =>
    refine .bind (.lift _) fun _ => .bind (.lift _) fun _ => .bind (kept _ nofun) fun _ => .bind (.lift _) fun _ => ?_
    exact .ite (.pure _) (.pure _)
  | offerDiscount =>
    refine .bind (.lift _) fun _ => .bind (.lift _) fun _ => .bind (.lift _) fun _ => .bind (kept _ nofun) fun _ => ?_
    exact .bind (.lift _) fun _ => .bind (.lift _) fun _ => .pure _
  | offerFreeShipping =>
    refine .bind (.lift _) fun _ => .bind (.lift _) fun _ => .bind (kept _ nofun) fun _ => ?_
    exact .bind (.lift _) fun _ => .pure _
  | offerPartialRefund =>
    refine .bind (.lift _) fun _ => .bind (.lift _) fun _ => .bind (.lift _) fun _ => .bind (kept _ nofun) fun _ => ?_
    exact .bind (.lift _) fun _ => .bind (.lift _) fun _ => .bind (.lift _) fun _ => .pure _
  | offerFullRefund =>
    refine .bind (.lift _) fun _ => .bind (.lift _) fun _ => .bind (kept _ nofun) fun _ => ?_
    exact .bind (.lift _) fun _ => .pure _
  | sendReplacementProduct => exact absurd rfl second
  | offerFreeItem => exact .pure _
  | initiateReturn =>
    exact .bind (.lift _) fun _ => .bind (.lift _) fun _ => .bind (.lift _) fun _ => .bind (.lift _) fun _ =>
      reported_keeps kept _ nofun
  | checkReturnStatus =>
    refine .bind (.lift _) fun _ => .bind (kept _ nofun) fun _ => .ite ?_ (.pure _)
    exact .bind (.lift _) fun _ => .bind (.lift _) fun _ => .pure _

theorem details_keeps (productId : Json) : Keeps (mock outside (.getProductDetails productId)) :=
  .bind (fun _ => rfl) fun _ => .bind (.lift _) fun _ => .pure _

theorem newItems_keeps (outside : Outside) (rawItems : List Json) : Keeps (newItems (mock outside) rawItems) := by
  induction rawItems with
  | nil => exact .pure _
  | cons item rest ih =>
    refine .bind (.lift _) fun _ => .bind (.lift _) fun _ => .bind (details_keeps _) fun _ => .ite ?_ (.pure _)
    exact .bind (.lift _) fun _ => .bind ih fun _ => .pure _

theorem placeNewOrder_state (texts : Texts) (errorText : PyError → String) (outside : Outside) (params : Params) :
    (∃ items, Orderable outside w params ∧ runTool texts errorText outside w .placeNewOrder params =
      step outside w (.placeOrder (param params "customer_id" (.str "")) items)) ∨
    (¬ Orderable outside w params ∧ runTool texts errorText outside w .placeNewOrder params = w) := by
  unfold runTool
  rw [execute,placeNewOrder]
  cases listed : (param params "items" (.arr [])).iterate with
  | error e =>
    refine .inr ⟨?_,by rw [lift_bind_error]⟩
    rintro ⟨rawItems,items,found,_⟩
    rw [listed] at found
    cases found
  | ok rawItems =>
    rw [lift_bind_ok]
    have kept := newItems_keeps outside rawItems w
    have given (missing : ∀ items, (newItems (mock outside) rawItems w).value ≠ .ok (.inr items)) :
        ¬ Orderable outside w params := by
      rintro ⟨others,items,found,made⟩
      rw [listed] at found
      cases found
      exact missing items made
    cases made : (newItems (mock outside) rawItems w).value with
    | error e =>
      refine .inr ⟨given fun items => by simp [made],?_⟩
      rw [bind_error made]
      exact kept
    | ok outcome =>
      rw [bind_ok made]
      dsimp only
      rw [kept]
      cases outcome with
      | inl productId => exact .inr ⟨given fun items => by simp [made],rfl⟩
      | inr items =>
        refine .inl ⟨items,⟨rawItems,items,listed,made⟩,?_⟩
        exact Keeps.after fun _ => .bind (.lift _) fun _ => .pure _

def replacementItems (details : ProductDetails) : List OrderItem :=
  [⟨.str details.productId,details.name,.int 1,.finite 0,.finite 0⟩]

theorem sendReplacement_state (texts : Texts) (errorText : PyError → String) (outside : Outside) (params : Params) :
    (∃ productId details, params.lookup "product_id" = some (.str productId) ∧ (w.store.products.get productId).isSome = true ∧
      runTool texts errorText outside w .sendReplacementProduct params =
        step outside w (.placeOrder (param params "customer_id" (.str "REPLACEMENT")) (replacementItems details))) ∨
    ((∀ productId, params.lookup "product_id" = some (.str productId) → (w.store.products.get productId).isSome = false) ∧
      runTool texts errorText outside w .sendReplacementProduct params = w) := by
  unfold runTool
  rw [execute,sendReplacementProduct]
  cases given : params.lookup "product_id" with
  | none =>
    refine .inr ⟨nofun,?_⟩
    simp [required,given]
  | some id =>
    have present : required params "product_id" = .ok id := by simp [required,given]
    rw [present,lift_bind_ok]
    rcases find_cases w.store.products id with ⟨productId,details,rfl,known,found_⟩ | absent | ⟨e,raised⟩
    · have asked : (mock outside (.getProductDetails (.str productId))) w = ⟨.ok (.productDetails details),w,[]⟩ := by
        rw [mock,perform,getProductDetails,read_bind,found_,lift_bind_ok]
        rfl
      refine .inl ⟨productId,details,rfl,by simp [known],?_⟩
      rw [bind_ok (by rw [asked]),asked]
      dsimp only
      have yes : found (.productDetails details) = true := rfl
      rw [if_pos yes,asDetails,lift_bind_ok]
      exact Keeps.after fun _ => .bind (.lift _) fun _ => .bind (.lift _) fun _ => .pure _
    · have asked : (mock outside (.getProductDetails id)) w = ⟨.ok .none,w,[]⟩ := by
        rw [mock,perform,getProductDetails,read_bind,absent,lift_bind_ok]
        rfl
      refine .inr ⟨?_,by rw [bind_ok (by rw [asked]),asked]; rfl⟩
      rintro productId ⟨⟩
      cases known : w.store.products.get productId with
      | none => rfl
      | some details => simp [find,known] at absent
    · have asked : (mock outside (.getProductDetails id)) w = ⟨.error e,w,[]⟩ := by
        rw [mock,perform,getProductDetails,read_bind,raised,lift_bind_error]
      refine .inr ⟨?_,by rw [bind_error (by rw [asked]),asked]⟩
      rintro productId ⟨⟩
      cases raised

-- Placing an order for a customer keeps the store sound when the customer is known, and only then.
theorem placed_sound (sound : Sound outside w) (customerId : Json) (items : List OrderItem) :
    Integrity (step outside w (.placeOrder customerId items)).store ↔ Known w.store customerId := by
  constructor
  · intro integrity
    have named := integrity.orders _ _ (step_placed outside w customerId items)
    rw [step,perform,placeOrder_run] at named
    exact named
  · intro known
    obtain ⟨write,writes,ends⟩ := step_writes outside (.placeOrder customerId items) w
    rw [ends]
    refine integrity_kept sound.1 sound.2 writes fun _ _ same => ?_
    cases same
    exact known

-- A tool places one order, or keeps what the operations that place none keep.
theorem runTool_cases (texts : Texts) (errorText : PyError → String) (outside : Outside) (w : World) (tool : HatTool)
    (params : Params) :
    (∃ customerId items, runTool texts errorText outside w tool params = step outside w (.placeOrder customerId items) ∧
      (Dangles outside w tool params ↔ ¬ Known w.store customerId)) ∨
    (¬ Dangles outside w tool params ∧ ∀ I : World → Prop, (∀ call, PlacesNothing call → Preserves I (mock outside call)) →
      I w → I (runTool texts errorText outside w tool params)) := by
  by_cases first : tool = .placeNewOrder
  · subst first
    rcases placeNewOrder_state texts errorText outside params with ⟨items,orderable,ends⟩ | ⟨unorderable,ends⟩
    · exact .inl ⟨_,items,ends,by simp [Dangles,orderable]⟩
    · exact .inr ⟨by simp [Dangles,unorderable],fun I kept here => by rwa [ends]⟩
  · by_cases second : tool = .sendReplacementProduct
    · subst second
      rcases sendReplacement_state texts errorText outside params with ⟨productId,details,given,known,ends⟩ | ⟨unknown,ends⟩
      · exact .inl ⟨_,_,ends,by simp [Dangles,given,known]⟩
      · refine .inr ⟨?_,fun I kept here => by rwa [ends]⟩
        rintro ⟨⟨productId,given,known⟩,_⟩
        rw [unknown productId given] at known
        cases known
    · refine .inr ⟨?_,fun I kept here => tool_keeps kept tool params first second w here⟩
      cases tool <;> first | exact id | exact absurd rfl first | exact absurd rfl second

theorem runTool_invariant (inv : StoreInvariant outside w.store) (tool : HatTool) (params : Params) :
    StoreInvariant outside (runTool texts errorText outside w tool params).store := by
  rcases runTool_cases texts errorText outside w tool params with ⟨customerId,items,ends,_⟩ | ⟨_,kept⟩
  · rw [ends]
    exact step_invariant w _ inv
  · exact kept (fun w => StoreInvariant outside w.store) (fun _ _ => mock_invariant) inv

theorem runTool_integrity (sound : Sound outside w) (tool : HatTool) (params : Params) :
    Integrity (runTool texts errorText outside w tool params).store ↔ ¬ Dangles outside w tool params := by
  rcases runTool_cases texts errorText outside w tool params with ⟨customerId,items,ends,dangles⟩ | ⟨fine,kept⟩
  · rw [ends,dangles,not_not]
    exact placed_sound sound customerId items
  · have stays : Sound outside (runTool texts errorText outside w tool params) := kept (Sound outside) (fun _ other => mock_sound other) sound
    exact iff_of_true stays.2 fine

end

section
variable (texts : Texts) (errorText : PyError → String) (outside : Outside) {runtime : Runtime} {known : List String}

-- Without an execution of the others it is one of escalate_to_human, which has no service.
def execution (w : World) : Option (Execution runtime known) → World
  | some run => runTool texts errorText outside w run.tool run.params
  | none => w

def Dangling (w : World) : Option (Execution runtime known) → Prop
  | some run => Dangles outside w run.tool run.params
  | none => False

theorem initial_integrity : Integrity initialStore := by
  refine ⟨?_,?_,?_⟩
  · intro key order present
    have customers : ∀ order ∈ initialOrders, ∃ customer ∈ initialCustomers.map (·.customerId),
        order.customerId = .str customer := by
      simp [initialOrders,initialCustomers]
    obtain ⟨customer,listed,same⟩ := customers order (keyed_get present).1
    refine ⟨customer,same,?_⟩
    have stored : ∀ customer ∈ initialCustomers.map (·.customerId), (initialStore.customers.get customer).isSome = true := by
      decide +kernel
    exact stored customer listed
  · intro key ret present
    obtain ⟨listed,_⟩ := keyed_get present
    simp only [initialReturns,List.mem_cons,List.not_mem_nil,or_false] at listed
    rcases listed with rfl | rfl
    · exact ⟨_,rfl,by decide +kernel⟩
    · exact ⟨_,rfl,by decide +kernel⟩
  · intro key shipment present
    have stored : ∀ shipment ∈ initialShipments, (initialStore.orders.get shipment.orderId).isSome = true := by decide +kernel
    exact stored shipment (keyed_get present).1

theorem store_integrity (runs : List (Option (Execution runtime known))) :
    Always (execution texts errorText outside) (fun w => Integrity w.store) initialWorld runs ↔
      Along (execution texts errorText outside) (fun w run => ¬ Dangling outside w run) initialWorld runs := by
  refine exact (I := fun w : World => StoreInvariant outside w.store) (fun w run inv => ?_) (fun w run inv integrity => ?_)
    initial_invariant initial_integrity
  · cases run with
    | none => exact inv
    | some run => exact runTool_invariant inv run.tool run.params
  · cases run with
    | none => exact iff_of_true integrity id
    | some run => exact runTool_integrity ⟨inv,integrity⟩ run.tool run.params

end

-- The gate asks for a customer_id, not for a customer.
def strangersOrder : Execution .ascii corePlaceholders where
  tool := .placeNewOrder
  params := (AList.singleton "customer_id" (.str "CUST-999")).insert "items"
    (.arr [.obj [("product_id",.str "PROD-001"),("quantity",.int 1)]])
  accepted := by decide +kernel

-- The items of the order, once newItems has returned
def madeItems (made : Except PyError (Json ⊕ List OrderItem)) : Option (List OrderItem) :=
  match made with
  | .ok (.inr items) => some items
  | _ => none

theorem madeItems_some (made : Except PyError (Json ⊕ List OrderItem)) (some_ : (madeItems made).isSome = true) :
    ∃ items, made = .ok (.inr items) := by
  unfold madeItems at some_
  split at some_
  · exact ⟨_,rfl⟩
  · cases some_

theorem strangers_order : ¬ Always (execution plainTexts (fun _ => "") shopClock) (fun w => Integrity w.store) initialWorld
    [some strangersOrder] := by
  intro always
  have integrity : Integrity (runTool plainTexts (fun _ => "") shopClock initialWorld strangersOrder.tool
      strangersOrder.params).store := always [some strangersOrder] [] rfl
  have ordered : Orderable shopClock initialWorld strangersOrder.params := by
    obtain ⟨items,made⟩ := madeItems_some (newItems (mock shopClock)
      [.obj [("product_id",.str "PROD-001"),("quantity",.int 1)]] initialWorld).value (by decide +kernel)
    exact ⟨_,items,rfl,made⟩
  refine (runTool_integrity ⟨initial_invariant,initial_integrity⟩ _ _).mp integrity ⟨ordered,?_⟩
  rintro ⟨customer,same,stored⟩
  cases same
  revert stored
  decide +kernel

end Sophia.CustomerService
