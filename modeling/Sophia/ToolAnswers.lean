import Sophia.ToolSchemas

namespace Sophia.CustomerService
open TracedRun Json ServiceModels Mcp MockServices ParameterGate StepRun

section
variable (texts : Texts) (errorText : PyError → String) (outside : Outside)

-- The call returns a result, and a failure where something it names is missing.
def Answers (w : World) (tool : RegisteredTool) (params : Params) : Prop :=
  ∃ result, (registryExecute texts errorText outside tool.spec.name params w).value = .ok result ∧
    (Missing texts w tool params → result.success = false)

end

-- The parameter names an entry of the table.
def Stocked {α : Type} (table : PyDict String α) (params : Params) (field : String) : Prop :=
  ∃ key, params.lookup field = some (.str key) ∧ (table.get key).isSome = true

-- An item of a new order has a product of the store, and a quantity that float holds.
def StockedItem (w : World) (item : Json) : Prop :=
  ∃ key, item.get "product_id" (.str "") = .ok (.str key) ∧ (w.store.products.get key).isSome = true

def Countable (item : Json) : Prop := ∀ n, item.get "quantity" (.int 1) = .ok (.int n) → PyFloat.tooLarge n = false

def Orderly (w : World) (items : List Json) : Prop := ∀ item ∈ items, StockedItem w item ∧ Countable item

-- The items end at a product that is not there, before any quantity that float does not hold.
def Halts (w : World) : List Json → Prop
  | [] => False
  | item :: rest => ¬ StockedItem w item ∨ (Countable item ∧ Halts w rest)

def Placeable (w : World) (params : Params) (items : List Json) : Prop :=
  Halts w items ∨ (Orderly w items ∧ Stocked w.store.customers params "customer_id")

-- The refund is one that the order covers and that float holds.
def Coverable (w : World) (params : Params) : Prop := ∃ key order amount x, params.lookup "order_id" = some (.str key) ∧
  w.store.orders.get key = some order ∧ params.lookup "amount" = some amount ∧ amount.number? = some x ∧
  order.total.less (.finite x) = false ∧ PyFloat.tooLarge x = false

-- The end of the warranty of a product of an order is a date.
def Datable (w : World) (params : Params) : Prop := ∀ key order id product, params.lookup "order_id" = some (.str key) →
  w.store.orders.get key = some order → params.lookup "product_id" = some (.str id) →
  w.store.products.get id = some product → (order.items.any fun item => item.productId.equals (.str id)) = true →
  ∃ expiry, laterBy (product.warrantyMonths * 30) order.createdAt = .ok expiry

def Served (outside : Outside) (w : World) : RegisteredTool → Params → Prop
  | .hat .placeNewOrder,params => ∀ items, params.lookup "items" = some (.arr items) → Placeable w params items
  | .hat .checkWarrantyStatus,params => Datable w params
  | .hat .offerDiscount,params => Stocked w.store.customers params "customer_id" ∧
      ∃ expiry, laterBy 30 (moment outside w) = .ok expiry
  | .hat .offerFreeShipping,params => Stocked w.store.customers params "customer_id" ∧
      ∀ id ∈ declaredId (.hat .offerFreeShipping) params "order_id", (w.store.orders.get id).isSome = true
  | .hat .offerPartialRefund,params => Coverable w params
  | .hat .offerFullRefund,params => Stocked w.store.orders params "order_id"
  | .hat .sendReplacementProduct,params => Stocked w.store.products params "product_id" →
      Stocked w.store.orders params "order_id"
  | .hat .initiateReturn,params => (∃ key, params.lookup "order_id" = some (.str key) ∧ Returnable w.store key) →
      ∀ id ∈ itemProducts (.hat .initiateReturn) params, (w.store.products.get id).isSome = true
  | _,_ => True

-- What the gate and the schema say of the parameters
structure Fit (tool : RegisteredTool) (params : Params) : Prop where
  filled : ∀ field ∈ tool.spec.required, ∃ value, params.lookup field = some value ∧ value ≠ .str ""
  typed : Typed tool params

-- What holds of the stores that the services reach
structure Tidy (outside : Outside) (w : World) : Prop where
  store : StoreInvariant outside w.store
  customers : w.store.customers = initialStore.customers
  products : w.store.products = initialStore.products
  inventory : w.store.inventory = initialStore.inventory
  shipments : ∀ key, (w.store.shipments.get key).isSome = true → (w.store.orders.get key).isSome = true
  dates : ∀ key order, w.store.orders.get key = some order → (∃ wall, order.createdAt = .naive wall) ∧
    ∃ wall, order.updatedAt = .naive wall

section
variable {texts : Texts} {errorText : PyError → String} {outside : Outside} {w : World} {params : Params}
  {tool : RegisteredTool} {runtime : Runtime} {known : List String} {field : String}

theorem TypedCall.fit (call : TypedCall runtime known) : Fit call.tool call.params := by
  refine ⟨fun field needed => ?_,call.typed⟩
  obtain ⟨value,given,_,filled⟩ := passed_iff.mp call.accepted _ (ToolRegistry.get_register _ _) field needed
  refine ⟨value,given,?_⟩
  rintro rfl
  exact (filled "" rfl).1 rfl

theorem Fit.admitted (fit : Fit tool params) (declared : (field,type) ∈ tool.properties)
    (given : params.lookup field = some value) : type.admits value = true := fit.typed _ declared value given

theorem textual_admits {value : Json} (admitted : textual.admits value = true) : ∃ key, value = .str key := by
  cases value with
  | str key => exact ⟨key,rfl⟩
  | _ => cases admitted

-- A required text is there, and it is not empty.
theorem Fit.textual (fit : Fit tool params) (needed : field ∈ tool.spec.required)
    (declared : (field,CustomerService.textual) ∈ tool.properties) : ∃ key, params.lookup field = some (.str key) ∧ key ≠ "" := by
  obtain ⟨value,given,filled⟩ := fit.filled field needed
  obtain ⟨key,rfl⟩ := textual_admits (fit.admitted declared given)
  exact ⟨key,given,fun empty => filled (by rw [empty])⟩

theorem answers_ok {tool : HatTool} (ran : (execute texts errorText (mock outside) tool params w).value = .ok result)
    (fails : Missing texts w (.hat tool) params → result.success = false) :
    Answers texts errorText outside w (.hat tool) params := by
  refine ⟨result,?_,fails⟩
  rw [registryExecute_known]
  exact ran

theorem answers_raised {tool : HatTool} (ran : (execute texts errorText (mock outside) tool params w).value = .error e) :
    ¬ Answers texts errorText outside w (.hat tool) params := by
  rintro ⟨result,returned,_⟩
  rw [registryExecute_known,RegisteredTool.execute,ran] at returned
  cases returned

theorem answers_done {tool : HatTool}
    (ran : (execute texts errorText (mock outside) tool params w).value = .ok ⟨true,data,message⟩) :
    Answers texts errorText outside w (.hat tool) params ↔ ¬ Missing texts w (.hat tool) params := by
  constructor
  · rintro ⟨result,returned,fails⟩ missing
    rw [registryExecute_known,RegisteredTool.execute,ran] at returned
    cases returned
    cases fails missing
  · exact fun fine => answers_ok ran fun missing => absurd missing fine

theorem unstocked {α : Type} {table : PyDict String α} (given : params.lookup field = some (.str key))
    (absent : table.get key = none) : ¬ Stocked table params field := by
  rintro ⟨other,same,known⟩
  rw [given] at same
  cases same
  simp [absent] at known

theorem stocked {α : Type} {table : PyDict String α} {entry : α} (given : params.lookup field = some (.str key))
    (present : table.get key = some entry) : Stocked table params field := ⟨key,given,by simp [present]⟩

theorem offerFullRefund_answers (fit : Fit (.hat .offerFullRefund) params) :
    Answers texts errorText outside w (.hat .offerFullRefund) params ↔ Stocked w.store.orders params "order_id" := by
  obtain ⟨key,ordered,_⟩ := fit.textual (by decide : "order_id" ∈ _) (by decide)
  obtain ⟨reason,because,_⟩ := fit.textual (by decide : "reason" ∈ _) (by decide)
  cases present : w.store.orders.get key with
  | none =>
    have ran := offerFullRefund_unknown texts errorText outside ordered because (demand_unknown present outside "Order")
    exact iff_of_false (answers_raised (by rw [ran])) (unstocked ordered present)
  | some order =>
    obtain ⟨message,ran⟩ := offerFullRefund_known texts errorText outside ordered because present
    have fine : ¬ Missing texts w (.hat .offerFullRefund) params := by simp [Missing,normalizes,ordered,present]
    exact iff_of_true ((answers_done ran).mpr fine) (stocked ordered present)

theorem numeric_amount {amount : Json} (admitted : (FieldType.scalar .number).admits amount = true) :
    ∃ x, amount.number? = some x := by
  cases amount with
  | int n => exact ⟨_,rfl⟩
  | float x => exact ⟨_,rfl⟩
  | _ => cases admitted

theorem offerPartialRefund_answers (fit : Fit (.hat .offerPartialRefund) params) :
    Answers texts errorText outside w (.hat .offerPartialRefund) params ↔ Coverable w params := by
  obtain ⟨key,ordered,_⟩ := fit.textual (by decide : "order_id" ∈ _) (by decide)
  obtain ⟨amount,offered,_⟩ := fit.filled "amount" (by decide)
  obtain ⟨reason,because,_⟩ := fit.textual (by decide : "reason" ∈ _) (by decide)
  obtain ⟨x,counted⟩ := numeric_amount (fit.admitted (by decide : ("amount",FieldType.scalar .number) ∈ _) offered)
  have only (order : Order) (known : w.store.orders.get key = some order) : Coverable w params ↔
      order.total.less (.finite x) = false ∧ PyFloat.tooLarge x = false := by
    constructor
    · rintro ⟨other,entry,given,y,named,there,same,number,covered⟩
      rw [ordered] at named
      cases named
      rw [known] at there
      cases there
      rw [offered] at same
      cases same
      rw [counted] at number
      cases number
      exact covered
    · exact fun covered => ⟨key,order,amount,x,ordered,known,offered,counted,covered⟩
  cases present : w.store.orders.get key with
  | none =>
    have asked := processPartialRefund_unknown outside (demand_unknown present outside "Order") (.json amount) (.str reason)
    have ran := offerPartialRefund_raised texts errorText outside ordered offered because asked
    refine iff_of_false (answers_raised (by rw [ran])) ?_
    rintro ⟨other,order,_,_,named,there,_⟩
    rw [ordered] at named
    cases named
    rw [present] at there
    cases there
  | some order =>
    rw [only order present]
    cases covered : order.total.less (.finite x) with
    | true =>
      have refused : ∀ value, numeric (.json amount) = some value → order.total.less value = true := by
        simp [numeric,counted,covered]
      obtain ⟨e,asked,_⟩ := processPartialRefund_refused outside present refused (.str reason)
      have ran := offerPartialRefund_raised texts errorText outside ordered offered because asked
      exact iff_of_false (answers_raised (by rw [ran])) (by simp)
    | false =>
      have ran := offerPartialRefund_covered texts errorText outside ordered offered because present counted covered
      cases large : PyFloat.tooLarge x with
      | true =>
        have raised : (execute texts errorText (mock outside) .offerPartialRefund params w).value = .error overflowError := by
          rw [ran,PyFloat.money_large large]
          rfl
        exact iff_of_false (answers_raised raised) (by simp)
      | false =>
        have done : ∃ data message,
            (execute texts errorText (mock outside) .offerPartialRefund params w).value = .ok ⟨true,data,message⟩ := by
          rw [ran,PyFloat.money_small large]
          exact ⟨_,_,rfl⟩
        obtain ⟨data,message,done⟩ := done
        have fine : ¬ Missing texts w (.hat .offerPartialRefund) params := by simp [Missing,normalizes,ordered,present]
        exact iff_of_true ((answers_done done).mpr fine) ⟨rfl,rfl⟩

theorem applyDiscount_known (outside : Outside) (present : w.store.customers.get key = some entry) (percent reason : Json) :
    mock outside (.applyDiscount (.str key) percent reason) w = (lift (laterBy 30 (moment outside w)) >>= fun expiry => pure
      (.discount ⟨"DISC-" ++ outside.upper (String.ofList ((outside.hex w.drawn).toList.take 8)),percent,expiry,key⟩))
        {drawOne w with readings := w.readings + 1} := by
  rw [mock,perform,applyDiscount,read_bind,demand_found present,lift_bind_ok]
  dsimp only
  rw [uuid_bind,clock_bind]
  rfl

theorem offerDiscount_answers (fit : Fit (.hat .offerDiscount) params) :
    Answers texts errorText outside w (.hat .offerDiscount) params ↔
      Stocked w.store.customers params "customer_id" ∧ ∃ expiry, laterBy 30 (moment outside w) = .ok expiry := by
  obtain ⟨key,customer,_⟩ := fit.textual (by decide : "customer_id" ∈ _) (by decide)
  obtain ⟨percent,offered,_⟩ := fit.filled "discount_percent" (by decide)
  obtain ⟨reason,because,_⟩ := fit.textual (by decide : "reason" ∈ _) (by decide)
  cases present : w.store.customers.get key with
  | none =>
    have asked : mock outside (.applyDiscount (.str key) percent (.str reason)) w = ⟨.error (notFound "Customer" key),w,[]⟩ := by
      rw [mock,perform,applyDiscount,read_bind,demand_unknown present,lift_bind_error]
    have raised : (execute texts errorText (mock outside) .offerDiscount params w).value = .error (notFound "Customer" key) := by
      rw [execute,offerDiscount,required_given customer,lift_bind_ok,required_given offered,lift_bind_ok,
        required_given because,lift_bind_ok,bind_raised asked]
    exact iff_of_false (answers_raised raised) fun both => unstocked customer present both.1
  | some entry =>
    have asked := applyDiscount_known outside present percent (.str reason)
    cases dated : laterBy 30 (moment outside w) with
    | error e =>
      rw [dated,lift_bind_error] at asked
      have raised : (execute texts errorText (mock outside) .offerDiscount params w).value = .error e := by
        rw [execute,offerDiscount,required_given customer,lift_bind_ok,required_given offered,lift_bind_ok,
          required_given because,lift_bind_ok,bind_raised asked]
      exact iff_of_false (answers_raised raised) (by simp)
    | ok expiry =>
      rw [dated,lift_bind_ok] at asked
      have done : ∃ data message,
          (execute texts errorText (mock outside) .offerDiscount params w).value = .ok ⟨true,data,message⟩ := by
        rw [execute,offerDiscount,required_given customer,lift_bind_ok,required_given offered,lift_bind_ok,
          required_given because,lift_bind_ok,bind_ran asked]
        exact ⟨_,_,rfl⟩
      obtain ⟨data,message,done⟩ := done
      have fine : ¬ Missing texts w (.hat .offerDiscount) params := by simp [Missing,customer,present]
      exact iff_of_true ((answers_done done).mpr fine) ⟨stocked customer present,expiry,rfl⟩

theorem offerFreeShipping_answers (fit : Fit (.hat .offerFreeShipping) params) :
    Answers texts errorText outside w (.hat .offerFreeShipping) params ↔ Stocked w.store.customers params "customer_id" ∧
      ∀ id ∈ declaredId (.hat .offerFreeShipping) params "order_id", (w.store.orders.get id).isSome = true := by
  obtain ⟨key,customer,_⟩ := fit.textual (by decide : "customer_id" ∈ _) (by decide)
  obtain ⟨reason,because,_⟩ := fit.textual (by decide : "reason" ∈ _) (by decide)
  cases present : w.store.customers.get key with
  | none =>
    have asked : mock outside (.applyFreeShipping (.str key) (param params "order_id") (.str reason)) w =
        ⟨.error (notFound "Customer" key),w,[]⟩ := by
      rw [mock,perform,applyFreeShipping,read_bind,demand_unknown present,lift_bind_error]
    have raised : (execute texts errorText (mock outside) .offerFreeShipping params w).value =
        .error (notFound "Customer" key) := by
      rw [execute,offerFreeShipping,required_given customer,lift_bind_ok,required_given because,lift_bind_ok,bind_raised asked]
    exact iff_of_false (answers_raised raised) fun both => unstocked customer present both.1
  | some entry =>
    have asked : mock outside (.applyFreeShipping (.str key) (param params "order_id") (.str reason)) w =
        ⟨.ok (.freeShipping ⟨true,.str key,.ofRat (999/100)⟩),w,[]⟩ := by
      rw [mock,perform,applyFreeShipping,read_bind,demand_found present,lift_bind_ok]
      rfl
    have done : ∃ data message,
        (execute texts errorText (mock outside) .offerFreeShipping params w).value = .ok ⟨true,data,message⟩ := by
      rw [execute,offerFreeShipping,required_given customer,lift_bind_ok,required_given because,lift_bind_ok,bind_ran asked]
      exact ⟨_,_,rfl⟩
    obtain ⟨data,message,done⟩ := done
    rw [answers_done done]
    simp [Missing,normalizes,customer,present,stocked customer present,Option.isSome_iff_ne_none]

theorem sendReplacementProduct_answers (fit : Fit (.hat .sendReplacementProduct) params) :
    Answers texts errorText outside w (.hat .sendReplacementProduct) params ↔
      (Stocked w.store.products params "product_id" → Stocked w.store.orders params "order_id") := by
  obtain ⟨key,ordered,filled⟩ := fit.textual (by decide : "order_id" ∈ _) (by decide)
  obtain ⟨id,product,_⟩ := fit.textual (by decide : "product_id" ∈ _) (by decide)
  have asked := getProductDetails_run outside w id
  cases present : w.store.products.get id with
  | none =>
    rw [present] at asked
    have refused : (execute texts errorText (mock outside) .sendReplacementProduct params w).value =
        .ok (failure ("Product " ++ shown texts (.str id) ++ " not found")) := by
      rw [execute,sendReplacementProduct,required_given product,lift_bind_ok,bind_ran asked]
      rfl
    exact iff_of_true (answers_ok refused fun _ => rfl) fun known => absurd known (unstocked product present)
  | some details =>
    rw [present] at asked
    have placed : ∀ customerId items, mock outside (.placeOrder customerId items) w = _ :=
      fun customerId items => placeOrder_run customerId items
    have done : ∃ data message,
        (execute texts errorText (mock outside) .sendReplacementProduct params w).value = .ok ⟨true,data,message⟩ := by
      rw [execute,sendReplacementProduct,required_given product,lift_bind_ok,bind_ran asked]
      change ∃ data message, ((lift (asDetails (.productDetails details)) >>= _) w).value = _
      rw [asDetails,lift_bind_ok,bind_ran (placed _ _),asOrder,lift_bind_ok,required_given ordered,lift_bind_ok]
      exact ⟨_,_,rfl⟩
    obtain ⟨data,message,done⟩ := done
    rw [answers_done done]
    cases known : w.store.orders.get key with
    | none =>
      refine iff_of_false (fun fine => fine ?_) fun both => unstocked ordered known (both (stocked product present))
      simp [Missing,normalizes,ordered,filled,known]
    | some order =>
      refine iff_of_true ?_ fun _ => stocked ordered known
      simp [Missing,normalizes,ordered,known,product,present]

theorem objects_admits {value : Json} (admitted : (FieldType.objects properties needed).admits value = true) :
    ∃ items, value = .arr items ∧ ∀ item ∈ items, admitsObject properties needed item = true := by
  cases value with
  | arr items => exact ⟨items,rfl,List.all_eq_true.mp admitted⟩
  | _ => cases admitted

theorem admitsObject_obj {item : Json} (admitted : admitsObject properties needed item = true) : ∃ fields, item = .obj fields ∧
    (∀ property ∈ properties, ∀ value ∈ fields.lookup property.1, property.2.admits value = true) ∧
    ∀ name ∈ needed, (fields.lookup name).isSome = true := by
  cases item with
  | obj fields =>
    obtain ⟨typed,present⟩ := Bool.and_eq_true_iff.mp admitted
    refine ⟨fields,rfl,fun property listed value given => ?_,fun name listed => List.all_eq_true.mp present name listed⟩
    have admits := List.all_eq_true.mp typed property listed
    rw [Option.mem_def.mp given] at admits
    exact admits
  | _ => cases admitted

theorem returnItems_read {items : List Json} (admitted : ∀ item ∈ items, admitsObject properties
      ["product_id","quantity","reason"] item = true) : ∃ read, returnItems (.arr items) = .ok read := by
  refine mapM_returns.mpr fun item listed => ?_
  obtain ⟨fields,rfl,_,present⟩ := admitsObject_obj (admitted item listed)
  obtain ⟨product,one⟩ := Option.isSome_iff_exists.mp (present "product_id" (by decide))
  obtain ⟨quantity,two⟩ := Option.isSome_iff_exists.mp (present "quantity" (by decide))
  obtain ⟨reason,three⟩ := Option.isSome_iff_exists.mp (present "reason" (by decide))
  refine ⟨{productId := product,quantity,reason},?_⟩
  simp [returnItem,Json.item,one,two,three,bind,Except.bind,pure,Except.pure]

theorem initiateReturn_answers (tidy : Tidy outside w) (fit : Fit (.hat .initiateReturn) params) :
    Answers texts errorText outside w (.hat .initiateReturn) params ↔
      ((∃ key, params.lookup "order_id" = some (.str key) ∧ Returnable w.store key) →
        ∀ id ∈ itemProducts (.hat .initiateReturn) params, (w.store.products.get id).isSome = true) := by
  obtain ⟨key,ordered,_⟩ := fit.textual (by decide : "order_id" ∈ _) (by decide)
  obtain ⟨reason,because,_⟩ := fit.textual (by decide : "reason" ∈ _) (by decide)
  obtain ⟨listing,listed,_⟩ := fit.filled "items" (by decide)
  obtain ⟨entries,rfl,admitted⟩ := objects_admits (fit.admitted (by decide : ("items",FieldType.objects
    [("product_id",.string),("quantity",.integer),("reason",.string)] ["product_id","quantity","reason"]) ∈ _) listed)
  obtain ⟨items,itemized⟩ := returnItems_read admitted
  have only (returnable : ∃ other, params.lookup "order_id" = some (.str other) ∧ Returnable w.store other) :
      Returnable w.store key := by
    obtain ⟨other,given,returnable⟩ := returnable
    rw [ordered] at given
    cases given
    exact returnable
  by_cases returnable : Returnable w.store key
  · obtain ⟨order,_,known,_⟩ := id returnable
    obtain ⟨result,createdAt,readings,drawn,ran,_⟩ := initiateReturn_open (ω := Empty) outside returnable items (.str reason)
    have asked : mock outside (.initiateReturn (.str key) items (.str reason)) w = _ := ran
    have done : ∃ data message,
        (execute texts errorText (mock outside) .initiateReturn params w).value = .ok ⟨true,data,message⟩ := by
      rw [initiateReturn_asks texts errorText outside listed itemized ordered because,
        reported_answered errorText outside _ asked]
      exact ⟨_,_,rfl⟩
    obtain ⟨data,message,done⟩ := done
    rw [answers_done done]
    simp [Missing,normalizes,ordered,known,listed,returnable,Option.isSome_iff_ne_none]
  · refine iff_of_true ?_ fun there => absurd (only there) returnable
    cases present : w.store.orders.get key with
    | none =>
      have ran := initiateReturn_unknown texts errorText outside listed itemized ordered because present
      exact answers_ok (by rw [ran]) fun _ => rfl
    | some order =>
      obtain ⟨_,wall,updated⟩ := tidy.dates key order present
      rcases processReturn_refused outside present returnable items (.str reason) with ⟨text,asked,_⟩ | ⟨⟨instant,zoned⟩,_⟩
      · have ran : (execute texts errorText (mock outside) .initiateReturn params w).value = .ok (failure text) := by
          rw [initiateReturn_asks texts errorText outside listed itemized ordered because,
            reported_caught errorText outside _ asked]
        exact answers_ok ran fun _ => rfl
      · rw [updated] at zoned
        cases zoned

theorem laterBy_naive (n wall : Int) : laterBy n (.naive wall) = .error overflowError ∨
    laterBy n (.naive wall) = .ok (.naive (wall + days n)) := by
  unfold laterBy
  by_cases fits : -62135596800000000 ≤ wall + days n ∧ wall + days n < 253402300800000000
  · exact .inr (if_pos fits)
  · exact .inl (if_neg fits)

theorem checkWarrantyStatus_asks (ordered : params.lookup "order_id" = some orderId)
    (product : params.lookup "product_id" = some productId) :
    execute texts errorText (mock outside) .checkWarrantyStatus params w =
      reported errorText (mock outside) (warrantyReport texts productId) (.checkWarrantyStatus orderId productId) w := by
  rw [execute,checkWarrantyStatus,required_given ordered,lift_bind_ok,required_given product,lift_bind_ok]

-- A warranty that the service refuses with a text
theorem warranty_refused {text : String} (ordered : params.lookup "order_id" = some orderId)
    (product : params.lookup "product_id" = some productId)
    (asked : mock outside (.checkWarrantyStatus orderId productId) w = ⟨.error (.valueErrorOf text),w,[]⟩) :
    Answers texts errorText outside w (.hat .checkWarrantyStatus) params := by
  have ran : (execute texts errorText (mock outside) .checkWarrantyStatus params w).value = .ok (failure text) := by
    rw [checkWarrantyStatus_asks ordered product,reported_caught errorText outside _ asked]
  exact answers_ok ran fun _ => rfl

theorem checkWarrantyStatus_answers (tidy : Tidy outside w) (fit : Fit (.hat .checkWarrantyStatus) params) :
    Answers texts errorText outside w (.hat .checkWarrantyStatus) params ↔ Datable w params := by
  obtain ⟨key,ordered,_⟩ := fit.textual (by decide : "order_id" ∈ _) (by decide)
  obtain ⟨id,product,_⟩ := fit.textual (by decide : "product_id" ∈ _) (by decide)
  have only (dated : ∀ order details, w.store.orders.get key = some order → w.store.products.get id = some details →
      (order.items.any fun item => item.productId.equals (.str id)) = true →
      ∃ expiry, laterBy (details.warrantyMonths * 30) order.createdAt = .ok expiry) : Datable w params := by
    intro other order another details given known named present covered
    rw [ordered] at given
    cases given
    rw [product] at named
    cases named
    exact dated order details known present covered
  have unfolded : mock outside (.checkWarrantyStatus (.str key) (.str id)) w =
      MockServices.checkWarrantyStatus outside (.str key) (.str id) w := rfl
  rw [MockServices.checkWarrantyStatus,read_bind] at unfolded
  cases known : w.store.orders.get key with
  | none =>
    rw [demand_unknown known,lift_bind_error] at unfolded
    exact iff_of_true (warranty_refused ordered product unfolded) (only fun _ _ there => by simp [known] at there)
  | some order =>
    rw [demand_found known,lift_bind_ok] at unfolded
    dsimp only at unfolded
    cases present : w.store.products.get id with
    | none =>
      rw [demand_unknown present,lift_bind_error] at unfolded
      exact iff_of_true (warranty_refused ordered product unfolded) (only fun _ _ _ there => by simp [present] at there)
    | some details =>
      rw [demand_found present,lift_bind_ok] at unfolded
      dsimp only at unfolded
      by_cases covered : (order.items.any fun item => item.productId.equals (.str id)) = true
      · rw [if_pos covered] at unfolded
        obtain ⟨⟨wall,created⟩,_⟩ := tidy.dates key order known
        rcases laterBy_naive (details.warrantyMonths * 30) wall with overflows | dated
        · rw [created,overflows,lift_bind_error] at unfolded
          have raised : (execute texts errorText (mock outside) .checkWarrantyStatus params w).value = .error overflowError := by
            rw [checkWarrantyStatus_asks ordered product,reported_raised errorText outside _ unfolded rfl]
          refine iff_of_false (answers_raised raised) fun datable => ?_
          obtain ⟨expiry,dated⟩ := datable key order id details ordered known product present covered
          rw [created,overflows] at dated
          cases dated
        · rw [created,dated,lift_bind_ok,isAhead,lift_bind_ok] at unfolded
          have done : ∃ data message,
              (execute texts errorText (mock outside) .checkWarrantyStatus params w).value = .ok ⟨true,data,message⟩ := by
            rw [checkWarrantyStatus_asks ordered product,reported_answered errorText outside _ unfolded]
            exact ⟨_,_,rfl⟩
          obtain ⟨data,message,done⟩ := done
          refine iff_of_true ((answers_done done).mpr (by simp [Missing,normalizes,ordered,known,product,present])) ?_
          refine only fun one another there here _ => ?_
          rw [known] at there
          rw [present] at here
          cases there
          cases here
          exact ⟨_,created ▸ dated⟩
      · rw [if_neg covered] at unfolded
        refine iff_of_true (warranty_refused ordered product unfolded) (only fun one another there here items => ?_)
        rw [known] at there
        cases there
        exact absurd items covered

theorem halts_disorderly {items : List Json} (halts : Halts w items) : ¬ Orderly w items := by
  induction items with
  | nil => exact halts.elim
  | cons item rest ih =>
    intro orderly
    rcases halts with unstocked_ | ⟨_,later⟩
    · exact unstocked_ (orderly item List.mem_cons_self).1
    · exact ih later fun other listed => orderly other (List.mem_cons_of_mem item listed)

-- The entries of an item of a new order
theorem newItem_fields {item : Json} (admitted : admitsObject [("product_id",.string),("quantity",.integer)] [] item = true) :
    ∃ key quantity, item.get "product_id" (.str "") = .ok (.str key) ∧ item.get "quantity" (.int 1) = .ok quantity ∧
      Scalar.integer.admits quantity = true := by
  obtain ⟨fields,rfl,typed,_⟩ := admitsObject_obj admitted
  have product : ∃ key, (fields.lookup "product_id").getD (.str "") = .str key := by
    cases given : fields.lookup "product_id" with
    | none => exact ⟨"",rfl⟩
    | some value => exact textual_admits (typed ("product_id",.string) (by simp) value given)
  have counted : Scalar.integer.admits ((fields.lookup "quantity").getD (.int 1)) = true := by
    cases given : fields.lookup "quantity" with
    | none => rfl
    | some value => exact typed ("quantity",.integer) (by simp) value given
  obtain ⟨key,product⟩ := product
  exact ⟨key,_,by rw [Json.get,product],rfl,counted⟩

-- A quantity that float holds multiplies, another integer overflows.
theorem newItem_cases {item quantity : Json} (counted : item.get "quantity" (.int 1) = .ok quantity)
    (typed : Scalar.integer.admits quantity = true) (productId : Json) (details : ProductDetails) :
    (Countable item ∧ ∃ made, newItem productId quantity (.productDetails details) = .ok made) ∨
    (¬ Countable item ∧ newItem productId quantity (.productDetails details) = .error overflowError) := by
  cases quantity with
  | int n =>
    cases large : PyFloat.tooLarge n with
    | true =>
      refine .inr ⟨fun countable => ?_,?_⟩
      · rw [countable n counted] at large
        cases large
      · simp [newItem,asDetails,scale,PyFloat.ofInt,large,bind,Except.bind]
    | false =>
      refine .inl ⟨fun m same => ?_,?_⟩
      · rw [counted] at same
        cases same
        exact large
      · simp [newItem,asDetails,scale,PyFloat.ofInt,large,bind,Except.bind,pure,Except.pure]
  | float x =>
    refine .inl ⟨fun m same => ?_,?_⟩
    · rw [counted] at same
      cases same
    · simp [newItem,asDetails,scale,bind,Except.bind,pure,Except.pure]
  | _ => cases typed

theorem newItems_run (outside : Outside) {items : List Json}
    (admitted : ∀ item ∈ items, admitsObject [("product_id",.string),("quantity",.integer)] [] item = true) :
    (Orderly w items ∧ ∃ made, newItems (mock outside) items w = ⟨.ok (.inr made),w,[]⟩) ∨
    (Halts w items ∧ ∃ productId, newItems (mock outside) items w = ⟨.ok (.inl productId),w,[]⟩) ∨
    (¬ Orderly w items ∧ ¬ Halts w items ∧ newItems (mock outside) items w = ⟨.error overflowError,w,[]⟩) := by
  induction items with
  | nil => exact .inl ⟨nofun,[],rfl⟩
  | cons item rest ih =>
    obtain ⟨first,later⟩ := List.forall_mem_cons.mp admitted
    obtain ⟨key,quantity,named,counted,typed⟩ := newItem_fields first
    have asked := getProductDetails_run outside w key
    cases present : w.store.products.get key with
    | none =>
      rw [present] at asked
      have ran : newItems (mock outside) (item :: rest) w = ⟨.ok (.inl (.str key)),w,[]⟩ := by
        rw [newItems,named,lift_bind_ok,counted,lift_bind_ok,bind_ran asked]
        rfl
      refine .inr (.inl ⟨.inl ?_,.str key,ran⟩)
      rintro ⟨other,same,known⟩
      rw [named] at same
      cases same
      simp [present] at known
    | some details =>
      rw [present] at asked
      have there : StockedItem w item := ⟨key,named,by simp [present]⟩
      have ran : newItems (mock outside) (item :: rest) w =
          (lift (newItem (.str key) quantity (.productDetails details)) >>= fun ordered =>
            newItems (mock outside) rest >>= fun others => pure (others.map id (ordered :: ·))) w := by
        rw [newItems,named,lift_bind_ok,counted,lift_bind_ok,bind_ran asked]
        rfl
      rcases newItem_cases counted typed (.str key) details with ⟨countable,made,fits⟩ | ⟨uncountable,overflows⟩
      · have orderly : Orderly w (item :: rest) ↔ Orderly w rest := by
          simp [Orderly,there,countable]
        have halts : Halts w (item :: rest) ↔ Halts w rest := by simp [Halts,there,countable]
        rw [orderly,halts,ran,fits,lift_bind_ok]
        rcases ih later with ⟨fine,others,rested⟩ | ⟨ends,productId,rested⟩ | ⟨disorderly,open_,rested⟩
        · exact .inl ⟨fine,made :: others,by rw [bind_ran rested]; rfl⟩
        · exact .inr (.inl ⟨ends,productId,by rw [bind_ran rested]; rfl⟩)
        · exact .inr (.inr ⟨disorderly,open_,bind_raised rested⟩)
      · refine .inr (.inr ⟨fun orderly => uncountable (orderly item List.mem_cons_self).2,?_,?_⟩)
        · simp [Halts,there,uncountable]
        · rw [ran,overflows,lift_bind_error]

theorem itemIds_stocked {item : Json} {id : String} (there : StockedItem w item) (named : id ∈ itemIds item) :
    w.store.products.get id ≠ none := by
  obtain ⟨key,product,known⟩ := there
  cases item with
  | obj fields =>
    simp only [Json.get,Except.ok.injEq] at product
    cases given : fields.lookup "product_id" with
    | none => simp [itemIds,given] at named
    | some value =>
      rw [given,Option.getD_some] at product
      subst product
      by_cases empty : key = ""
      · simp [itemIds,given,empty] at named
      · simp [itemIds,given,empty] at named
        subst named
        exact Option.isSome_iff_ne_none.mp known
  | _ => cases named

theorem placeNewOrder_answers (fit : Fit (.hat .placeNewOrder) params) :
    Answers texts errorText outside w (.hat .placeNewOrder) params ↔
      ∀ items, params.lookup "items" = some (.arr items) → Placeable w params items := by
  obtain ⟨customerId,customer,filled⟩ := fit.textual (by decide : "customer_id" ∈ _) (by decide)
  obtain ⟨listing,listed,_⟩ := fit.filled "items" (by decide)
  obtain ⟨items,rfl,admitted⟩ := objects_admits (fit.admitted (by decide : ("items",FieldType.objects
    [("product_id",.string),("quantity",.integer)]) ∈ _) listed)
  have only : (∀ others, params.lookup "items" = some (.arr others) → Placeable w params others) ↔ Placeable w params items := by
    constructor
    · exact fun placeable => placeable items listed
    · intro placeable others same
      rw [listed] at same
      cases same
      exact placeable
  rw [only]
  have read : (param params "items" (.arr [])).iterate = .ok items := by rw [param_given listed]; rfl
  have named : param params "customer_id" (.str "") = .str customerId := param_given customer _
  rcases newItems_run outside admitted with ⟨orderly,made,ran⟩ | ⟨halts,productId,ran⟩ | ⟨disorderly,open_,ran⟩
  · have asked : mock outside (.placeOrder (.str customerId) made) w = _ := placeOrder_run _ _
    have done : ∃ data message,
        (execute texts errorText (mock outside) .placeNewOrder params w).value = .ok ⟨true,data,message⟩ := by
      rw [execute,placeNewOrder,read,lift_bind_ok,bind_ran ran,named,submitOrder,bind_ran asked]
      exact ⟨_,_,rfl⟩
    obtain ⟨data,message,done⟩ := done
    rw [answers_done done]
    have open_ : ¬ Halts w items := fun halts => halts_disorderly halts orderly
    cases present : w.store.customers.get customerId with
    | none =>
      refine iff_of_false (fun fine => fine ?_) ?_
      · simp [Missing,customer,filled,present]
      · rintro (halts | ⟨_,known⟩)
        · exact open_ halts
        · exact unstocked customer present known
    | some entry =>
      have products : ∀ id ∈ items.flatMap itemIds, w.store.products.get id ≠ none := by
        intro id member
        obtain ⟨item,there,within⟩ := List.mem_flatMap.mp member
        exact itemIds_stocked (orderly item there).1 within
      refine iff_of_true (fun missing => ?_) (.inr ⟨orderly,stocked customer present⟩)
      simp [Missing,customer,present,listed] at missing
      obtain ⟨id,⟨item,there,within⟩,absent⟩ := missing
      exact products id (List.mem_flatMap.mpr ⟨item,there,within⟩) absent
  · have refused : (execute texts errorText (mock outside) .placeNewOrder params w).value =
        .ok (failure ("Product " ++ shown texts productId ++ " not found")) := by
      rw [execute,placeNewOrder,read,lift_bind_ok,bind_ran ran]
      rfl
    exact iff_of_true (answers_ok refused fun _ => rfl) (.inl halts)
  · have raised : (execute texts errorText (mock outside) .placeNewOrder params w).value = .error overflowError := by
      rw [execute,placeNewOrder,read,lift_bind_ok,bind_raised ran]
    refine iff_of_false (answers_raised raised) ?_
    rintro (halts | ⟨orderly,_⟩)
    · exact open_ halts
    · exact disorderly orderly

end
end Sophia.CustomerService
