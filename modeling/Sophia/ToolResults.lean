import Sophia.ToolAnswers

namespace Sophia.CustomerService
open TracedRun Json ServiceModels Mcp MockServices ParameterGate StepRun

section
variable {texts : Texts} {errorText : PyError → String} {outside : Outside} {w : World} {params : Params}
  {tool : RegisteredTool} {runtime : Runtime} {known : List String} {field : String} {call : ServiceCall} {write : Write}

-- A float that was rounded is no integer beyond the range of float.
theorem rounded_money (x : PyFloat) : ∃ text, x.rounded.money = .ok text := by
  cases x with
  | finite x =>
    cases large : PyFloat.tooLarge x with
    | true => exact ⟨_,by rw [PyFloat.rounded,PyFloat.ofRat,if_pos large]; rfl⟩
    | false => exact ⟨_,by rw [PyFloat.rounded,PyFloat.ofRat_fits large,PyFloat.money_small (PyFloat.nearest_fits large)]⟩
  | infinite negative => exact ⟨_,rfl⟩
  | nan => exact ⟨_,rfl⟩

theorem foldl_money (values : List PyFloat) : ∃ text, (values.foldl PyFloat.add (.finite 0)).money = .ok text := by
  rcases List.eq_nil_or_concat values with rfl | ⟨earlier,last,rfl⟩
  · exact ⟨_,PyFloat.money_small (by decide +kernel)⟩
  · rw [List.concat_eq_append,List.foldl_append]
    exact rounded_money _

theorem compensated_money (first : PyFloat) (rest : List PyFloat) :
    ∃ text, (rest.foldl PyFloat.Compensated.add ⟨(PyFloat.finite 0).add first,.finite 0⟩).result.money = .ok text := by
  unfold PyFloat.Compensated.result
  split
  · exact rounded_money _
  · rcases List.eq_nil_or_concat rest with rfl | ⟨earlier,last,rfl⟩
    · exact rounded_money _
    · rw [List.concat_eq_append,List.foldl_append]
      exact rounded_money _

theorem sum_money (summation : PyFloat.Summation) (values : List PyFloat) :
    ∃ text, (PyFloat.sum summation values).money = .ok text := by
  cases summation with
  | plain => exact foldl_money values
  | compensated =>
    cases values with
    | nil => exact foldl_money []
    | cons first rest => exact compensated_money first rest

theorem total_money (inv : StoreInvariant outside w.store) (known : w.store.orders.get key = some order) :
    ∃ text, order.total.money = .ok text := by
  rw [inv.totals key order known]
  exact sum_money _ _

-- The tools that answer every call
theorem order_answers (tidy : Tidy outside w) {tool : HatTool} (listed : tool ∈ [HatTool.lookUpOrder,.checkOrderStatus,.cancelOrder])
    (fit : Fit (.hat tool) params) : Answers texts errorText outside w (.hat tool) params := by
  have ordered : ∃ raw, params.lookup "order_id" = some (.str raw) ∧ raw ≠ "" := by
    simp only [List.mem_cons,List.not_mem_nil,or_false] at listed
    rcases listed with rfl | rfl | rfl <;> exact fit.textual (by decide) (by decide)
  obtain ⟨raw,ordered,filled⟩ := ordered
  obtain ⟨key,normal⟩ : ∃ key, normalizeOrderId texts (.str raw) = .ok key := ⟨_,rfl⟩
  have named : normalizeOrderId texts (param params "order_id" (.str "")) = .ok key := by rw [param_given ordered,normal]
  have fine (order : Order) (known : w.store.orders.get key = some order) : ¬ Missing texts w (.hat tool) params := by
    simp only [List.mem_cons,List.not_mem_nil,or_false] at listed
    rcases listed with rfl | rfl | rfl <;> simp [Missing,normalizes,ordered,filled,normal,Except.toOption,known]
  simp only [List.mem_cons,List.not_mem_nil,or_false] at listed
  rcases listed with rfl | rfl | rfl
  · cases present : w.store.orders.get key with
    | none => exact answers_ok (by rw [lookUpOrder_unknown texts errorText outside named present]) fun _ => rfl
    | some order =>
      have ran := lookUpOrder_known texts errorText outside named present
      exact (answers_done (by rw [ran])).mpr (fine order present)
  · cases present : w.store.orders.get key with
    | none => exact answers_ok (by rw [checkOrderStatus_unknown texts errorText outside named present]) fun _ => rfl
    | some order =>
      have ran := checkOrderStatus_known texts errorText outside named present
      exact (answers_done (by rw [ran])).mpr (fine order present)
  · obtain ⟨reason,because,_⟩ := fit.textual (by decide : "reason" ∈ _) (by decide)
    cases present : w.store.orders.get key with
    | none => exact answers_ok (by rw [cancelOrder_unknown texts errorText outside named because present]) fun _ => rfl
    | some order =>
      by_cases closed : order.status ∈ settled
      · exact answers_ok (by rw [cancelOrder_refused texts errorText outside named because present closed]) fun _ => rfl
      · have ran := cancelOrder_done texts errorText outside named because present closed
        obtain ⟨amount,written⟩ := total_money tidy.store present
        rw [written] at ran
        exact (answers_done ran).mpr (fine order present)

theorem trackShipment_answers (tidy : Tidy outside w) (fit : Fit (.hat .trackShipment) params) :
    Answers texts errorText outside w (.hat .trackShipment) params := by
  obtain ⟨key,ordered,_⟩ := fit.textual (by decide : "order_id" ∈ _) (by decide)
  cases tracked : w.store.shipments.get key with
  | none => exact answers_ok (by rw [trackShipment_unknown texts errorText outside ordered tracked]) fun _ => rfl
  | some tracking =>
    obtain ⟨message,ran⟩ := trackShipment_known texts errorText outside ordered tracked
    obtain ⟨order,known⟩ := Option.isSome_iff_exists.mp (tidy.shipments key (by rw [tracked]; rfl))
    exact (answers_done (by rw [ran])).mpr (by simp [Missing,normalizes,ordered,known])

theorem newAddress_read (fit : Fit (.hat .updateShippingAddress) params) : ∃ address, newAddress params = .ok address := by
  have needed : ∀ field ∈ ["line1","city","state","postal_code"],
      field ∈ (RegisteredTool.hat .updateShippingAddress).spec.required := by decide
  refine newAddress_filled fun field listed => ?_
  obtain ⟨value,given,_⟩ := fit.filled field (needed field listed)
  exact ⟨value,given⟩

theorem updateShippingAddress_answers (fit : Fit (.hat .updateShippingAddress) params) :
    Answers texts errorText outside w (.hat .updateShippingAddress) params := by
  obtain ⟨key,ordered,_⟩ := fit.textual (by decide : "order_id" ∈ _) (by decide)
  obtain ⟨address,addressed⟩ := newAddress_read fit
  cases present : w.store.orders.get key with
  | none =>
    exact answers_ok (by rw [updateShippingAddress_unknown texts errorText outside addressed ordered present]) fun _ => rfl
  | some order =>
    by_cases open_ : order.status ∈ unshipped
    · obtain ⟨data,message,done⟩ := updateShippingAddress_done texts errorText outside addressed ordered present open_
      exact (answers_done done).mpr (by simp [Missing,normalizes,ordered,present])
    · have ran := updateShippingAddress_refused texts errorText outside addressed ordered present open_
      exact answers_ok (by rw [ran]) fun _ => rfl

theorem lookUpProduct_answers (fit : Fit (.hat .lookUpProduct) params) :
    Answers texts errorText outside w (.hat .lookUpProduct) params := by
  obtain ⟨id,product,_⟩ := fit.textual (by decide : "product_id" ∈ _) (by decide)
  have asked := getProductDetails_run outside w id
  cases present : w.store.products.get id with
  | none =>
    rw [present] at asked
    have refused : (execute texts errorText (mock outside) .lookUpProduct params w).value =
        .ok (failure ("Product " ++ shown texts (.str id) ++ " not found")) := by
      rw [execute,lookUpProduct,required_given product,lift_bind_ok,bind_ran asked]
      rfl
    exact answers_ok refused fun _ => rfl
  | some details =>
    rw [present] at asked
    have done : ∃ data message,
        (execute texts errorText (mock outside) .lookUpProduct params w).value = .ok ⟨true,data,message⟩ := by
      rw [execute,lookUpProduct,required_given product,lift_bind_ok,bind_ran asked]
      exact ⟨_,_,rfl⟩
    obtain ⟨data,message,done⟩ := done
    exact (answers_done done).mpr (by simp [Missing,product,present])

theorem getCustomerOrderHistory_answers (fit : Fit (.hat .getCustomerOrderHistory) params) :
    Answers texts errorText outside w (.hat .getCustomerOrderHistory) params := by
  obtain ⟨key,customer,_⟩ := fit.textual (by decide : "customer_id" ∈ _) (by decide)
  cases present : w.store.customers.get key with
  | none =>
    have asked : mock outside (.getCustomerHistory (.str key)) w = ⟨.error (notFound "Customer" key),w,[]⟩ := by
      rw [mock,perform,getCustomerHistory,read_bind,demand_unknown present,lift_bind_error]
    have refused : ∃ message, (execute texts errorText (mock outside) .getCustomerOrderHistory params w).value =
        .ok (failure message) := by
      rw [execute,getCustomerOrderHistory,required_given customer,lift_bind_ok,reported_caught errorText outside _ asked]
      exact ⟨_,rfl⟩
    obtain ⟨message,refused⟩ := refused
    exact answers_ok refused fun _ => rfl
  | some entry =>
    have asked : ∃ history, mock outside (.getCustomerHistory (.str key)) w = ⟨.ok (.customerHistory history),w,[]⟩ := by
      rw [mock,perform,getCustomerHistory,read_bind,demand_found present,lift_bind_ok]
      exact ⟨_,rfl⟩
    obtain ⟨history,asked⟩ := asked
    have done : ∃ data message,
        (execute texts errorText (mock outside) .getCustomerOrderHistory params w).value = .ok ⟨true,data,message⟩ := by
      rw [execute,getCustomerOrderHistory,required_given customer,lift_bind_ok,reported_answered errorText outside _ asked]
      exact ⟨_,_,rfl⟩
    obtain ⟨data,message,done⟩ := done
    exact (answers_done done).mpr (by simp [Missing,customer,present])

theorem checkReturnStatus_answers (fit : Fit (.hat .checkReturnStatus) params) :
    Answers texts errorText outside w (.hat .checkReturnStatus) params := by
  obtain ⟨id,returned,_⟩ := fit.textual (by decide : "return_id" ∈ _) (by decide)
  have asked : mock outside (.checkReturnStatus (.str id)) w =
      ⟨.ok ((w.store.returns.get id).elim .none .returnStatus),w,[]⟩ := by
    rw [mock,perform,MockServices.checkReturnStatus,read_bind,find,lift_bind_ok]
    cases w.store.returns.get id <;> rfl
  have ran : ∃ result, (execute texts errorText (mock outside) .checkReturnStatus params w).value = .ok result := by
    rw [execute,checkReturnStatus,required_given returned,lift_bind_ok,bind_ran asked]
    cases w.store.returns.get id <;> exact ⟨_,rfl⟩
  obtain ⟨result,ran⟩ := ran
  exact answers_ok ran fun missing => by simp [Missing] at missing

theorem inventory_products {id : String} (stocked_ : initialStore.inventory.get id = some stock) :
    (initialStore.products.get id).isSome = true := by
  obtain ⟨listed,same⟩ := keyed_get stocked_
  have sold : ∀ stock ∈ initialInventory, (initialStore.products.get stock.productId).isSome = true := by decide +kernel
  exact same ▸ sold stock listed

-- A parameter of the schema that need not be there
theorem Fit.optional (fit : Fit tool params) (declared : (field,CustomerService.textual) ∈ tool.properties) :
    (params.lookup field = none ∧ param params field = .null) ∨
      ∃ id, params.lookup field = some (.str id) ∧ param params field = .str id := by
  cases given : params.lookup field with
  | none => exact .inl ⟨rfl,by simp [param,given]⟩
  | some value =>
    obtain ⟨id,rfl⟩ := textual_admits (fit.admitted declared given)
    exact .inr ⟨id,rfl,param_given given _⟩

-- Without an id the whole inventory is listed.
theorem checkCurrentInventory_all (falsy : (param params "product_id").truthy = false) : ∃ data message,
    (execute texts errorText (mock outside) .checkCurrentInventory params w).value = .ok ⟨true,data,message⟩ := by
  have asked : mock outside (.checkStock (param params "product_id")) w =
      ⟨.ok (.productStocks w.store.inventory.values),w,[]⟩ := by
    rw [mock,perform,checkStock,read_bind,if_neg (by simp [falsy])]
    rfl
  rw [execute,checkCurrentInventory,bind_ran asked,falsy,Bool.false_and,if_neg (by decide)]
  exact ⟨_,_,rfl⟩

theorem checkCurrentInventory_answers (tidy : Tidy outside w) (fit : Fit (.hat .checkCurrentInventory) params) :
    Answers texts errorText outside w (.hat .checkCurrentInventory) params := by
  rcases fit.optional (by decide : ("product_id",CustomerService.textual) ∈ _) with ⟨absent,null⟩ | ⟨id,given,named⟩
  · obtain ⟨data,message,done⟩ := checkCurrentInventory_all (by rw [null]; rfl)
    exact (answers_done done).mpr (by simp [Missing,absent])
  · by_cases empty : id = ""
    · obtain ⟨data,message,done⟩ := checkCurrentInventory_all (by rw [named,empty]; rfl)
      exact (answers_done done).mpr (by simp [Missing,given,empty])
    · have truthy : (Json.str id).truthy = true := by simpa [truthy] using empty
      have asked : mock outside (.checkStock (.str id)) w =
          ⟨.ok (.productStocks ((w.store.inventory.get id).elim [] ([·]))),w,[]⟩ := by
        rw [mock,perform,checkStock,read_bind,if_pos truthy,find,lift_bind_ok]
        cases w.store.inventory.get id <;> rfl
      cases present : w.store.inventory.get id with
      | none =>
        rw [present] at asked
        have refused : (execute texts errorText (mock outside) .checkCurrentInventory params w).value =
            .ok (failure ("Product " ++ shown texts (.str id) ++ " not found")) := by
          rw [execute,checkCurrentInventory,named,bind_ran asked,truthy]
          rfl
        exact answers_ok refused fun _ => rfl
      | some stock =>
        rw [present] at asked
        have done : ∃ data message,
            (execute texts errorText (mock outside) .checkCurrentInventory params w).value = .ok ⟨true,data,message⟩ := by
          rw [execute,checkCurrentInventory,named,bind_ran asked,truthy]
          exact ⟨_,_,rfl⟩
        obtain ⟨data,message,done⟩ := done
        have sold : (w.store.products.get id).isSome = true := by
          rw [tidy.products]
          exact inventory_products (tidy.inventory ▸ present)
        exact (answers_done done).mpr (by simp [Missing,given,empty,Option.isSome_iff_ne_none.mp sold])

-- The customers of the store have texts to search.
theorem matchesQuery_answers (tidy : Tidy outside w) (q : String) : ∀ c ∈ w.store.customers.values,
    matchesQuery outside q c = .ok ((matchesQuery outside q c).toOption.getD false) := by
  intro c listed
  rw [tidy.customers] at listed
  obtain ⟨key,known⟩ := PyDict.mem_values.mp listed
  have searchable : ∀ c ∈ initialCustomers, (∃ email, c.email = .str email) ∧
      (c.phone = .null ∨ ∃ phone, c.phone = .str phone) := by
    simp [initialCustomers]
  obtain ⟨⟨email,mail⟩,phones⟩ := searchable c (keyed_get known).1
  have answers : ∃ b, matchesQuery outside q c = .ok b := by
    unfold matchesQuery
    rw [mail,lowered]
    by_cases name : PyText.hasSubstring q (outside.lower c.name) = true
    · exact ⟨true,by rw [if_pos name]; rfl⟩
    · rw [if_neg name]
      by_cases address : PyText.hasSubstring q (outside.lower email) = true
      · exact ⟨true,by simp [address,bind,Except.bind,pure,Except.pure]⟩
      · rcases phones with none_ | ⟨phone,given⟩
        · exact ⟨false,by simp [address,none_,truthy,bind,Except.bind,pure,Except.pure]⟩
        · by_cases empty : phone = ""
          · exact ⟨false,by simp [address,given,truthy,empty,bind,Except.bind,pure,Except.pure]⟩
          · exact ⟨_,by simp [address,given,truthy,empty,contains,bind,Except.bind]; rfl⟩
  obtain ⟨b,answers⟩ := answers
  rw [answers]
  rfl

theorem searchCustomers_answers (tidy : Tidy outside w) (query : String) : ∃ matching,
    mock outside (.searchCustomers (.str query)) w = ⟨.ok (.customers matching),w,[]⟩ := by
  rw [mock,perform,searchCustomers,lowered,lift_bind_ok,read_bind,
    filterM_answers (matchesQuery_answers tidy (outside.lower query)),lift_bind_ok]
  exact ⟨_,rfl⟩

theorem lookUpCustomer_answers (tidy : Tidy outside w) (fit : Fit (.hat .lookUpCustomer) params) :
    Answers texts errorText outside w (.hat .lookUpCustomer) params := by
  have textual_ {field : String} (declared : (field,CustomerService.textual) ∈ RegisteredTool.properties (.hat .lookUpCustomer)) :
      param params field = .null ∨ ∃ id, param params field = .str id := by
    rcases fit.optional declared with ⟨_,absent⟩ | ⟨id,_,given⟩
    · exact .inl absent
    · exact .inr ⟨id,given⟩
  have query : ∀ a b : Json, (a = .null ∨ ∃ id, a = .str id) → (b = .null ∨ ∃ id, b = .str id) →
      (a.orElse b = .null ∨ ∃ id, a.orElse b = .str id) := by
    intro a b first second
    unfold orElse
    by_cases truthy : a.truthy = true
    · rwa [if_pos truthy]
    · rwa [if_neg truthy]
  have asked := query _ _ (textual_ (by decide : ("email",_) ∈ _)) (query _ _ (textual_ (by decide : ("phone",_) ∈ _))
    (textual_ (by decide : ("name",_) ∈ _)))
  have ran : ∃ result, (execute texts errorText (mock outside) .lookUpCustomer params w).value = .ok result := by
    rw [execute,lookUpCustomer]
    rcases asked with none_ | ⟨id,given⟩
    · rw [none_]
      exact ⟨_,rfl⟩
    · rw [given]
      by_cases empty : id = ""
      · rw [empty]
        exact ⟨_,rfl⟩
      · obtain ⟨matching,searched⟩ := searchCustomers_answers tidy id
        have truthy : (Json.str id).truthy = true := by simpa [truthy] using empty
        rw [if_pos truthy,bind_ran searched]
        cases matching <;> exact ⟨_,rfl⟩
  obtain ⟨result,ran⟩ := ran
  exact answers_ok ran fun missing => by simp [Missing] at missing

theorem offerFreeItem_answers : Answers texts errorText outside w (.hat .offerFreeItem) params :=
  answers_ok rfl fun _ => rfl

theorem escalateToHuman_answers (fit : Fit .escalateToHuman params) :
    Answers texts errorText outside w .escalateToHuman params := by
  obtain ⟨priority,given,_⟩ := fit.textual (by decide : "priority" ∈ _) (by decide)
  have named : param params "priority" (.str "medium") = .str priority := param_given given _
  have ran : ∃ result, (registryExecute texts errorText outside RegisteredTool.escalateToHuman.spec.name params w).value =
      .ok result := by
    rw [registryExecute_known,RegisteredTool.execute,CustomerService.escalateToHuman,named,uuid_bind,lookupOr,lift_bind_ok,
      lookupOr,lift_bind_ok]
    exact ⟨_,rfl⟩
  obtain ⟨result,ran⟩ := ran
  exact ⟨result,ran,fun missing => by simp [Missing] at missing⟩

-- A call that the gate and the schema let pass is answered exactly where it is served.
theorem fit_answers (tidy : Tidy outside w) (fit : Fit tool params) :
    Answers texts errorText outside w tool params ↔ Served outside w tool params := by
  cases tool with
  | escalateToHuman => exact iff_of_true (escalateToHuman_answers fit) trivial
  | hat tool =>
    cases tool with
    | lookUpOrder => exact iff_of_true (order_answers tidy (by decide) fit) trivial
    | checkOrderStatus => exact iff_of_true (order_answers tidy (by decide) fit) trivial
    | placeNewOrder => exact placeNewOrder_answers fit
    | cancelOrder => exact iff_of_true (order_answers tidy (by decide) fit) trivial
    | lookUpCustomer => exact iff_of_true (lookUpCustomer_answers tidy fit) trivial
    | getCustomerOrderHistory => exact iff_of_true (getCustomerOrderHistory_answers fit) trivial
    | checkCurrentInventory => exact iff_of_true (checkCurrentInventory_answers tidy fit) trivial
    | lookUpProduct => exact iff_of_true (lookUpProduct_answers fit) trivial
    | checkWarrantyStatus => exact checkWarrantyStatus_answers tidy fit
    | trackShipment => exact iff_of_true (trackShipment_answers tidy fit) trivial
    | updateShippingAddress => exact iff_of_true (updateShippingAddress_answers fit) trivial
    | offerDiscount => exact offerDiscount_answers fit
    | offerFreeShipping => exact offerFreeShipping_answers fit
    | offerPartialRefund => exact offerPartialRefund_answers fit
    | offerFullRefund => exact offerFullRefund_answers fit
    | sendReplacementProduct => exact sendReplacementProduct_answers fit
    | offerFreeItem => exact iff_of_true offerFreeItem_answers trivial
    | initiateReturn => exact initiateReturn_answers tidy fit
    | checkReturnStatus => exact iff_of_true (checkReturnStatus_answers fit) trivial

theorem dates_kept (writes : Writes outside w call write) (tidy : Tidy outside w)
    (present : (write.apply w.store).orders.get key = some order) :
    (∃ wall, order.createdAt = .naive wall) ∧ ∃ wall, order.updatedAt = .naive wall := by
  have replaced {other : String} {changed : Order} (present : (w.store.orders.set other changed).get key = some order)
      (dated : (∃ wall, changed.createdAt = .naive wall) ∧ ∃ wall, changed.updatedAt = .naive wall) :
      (∃ wall, order.createdAt = .naive wall) ∧ ∃ wall, order.updatedAt = .naive wall := by
    rcases PyDict.get_set_cases present with ⟨_,rfl⟩ | before
    · exact dated
    · exact tidy.dates key order before
  cases writes with
  | nothing => exact tidy.dates key order present
  | returned there delivered since within free => exact tidy.dates key order present
  | cancelled there open_ => exact replaced present ⟨(tidy.dates _ _ there).1,_,rfl⟩
  | updated there => exact replaced present ⟨(tidy.dates _ _ there).1,_,rfl⟩
  | readdressed there open_ => exact replaced present ⟨(tidy.dates _ _ there).1,_,rfl⟩
  | placed => exact replaced present ⟨⟨_,rfl⟩,_,rfl⟩

theorem step_tidy (w : World) (call : ServiceCall) (tidy : Tidy outside w) : Tidy outside (step outside w call) := by
  obtain ⟨write,writes,ends⟩ := step_writes outside call w
  obtain ⟨customers,shipments,products,inventory⟩ := tables_same writes
  refine ⟨step_invariant w call tidy.store,?_,?_,?_,?_,?_⟩
  · rw [ends,customers,tidy.customers]
  · rw [ends,products,tidy.products]
  · rw [ends,inventory,tidy.inventory]
  · intro key sent
    rw [ends] at sent ⊢
    rw [shipments] at sent
    exact orders_stay (writes_orders tidy.store writes) (tidy.shipments key sent)
  · intro key order present
    rw [ends] at present
    exact dates_kept writes tidy present

theorem initial_tidy : Tidy outside initialWorld := by
  refine ⟨initial_invariant,rfl,rfl,rfl,?_,?_⟩
  · intro key sent
    obtain ⟨shipment,known⟩ := Option.isSome_iff_exists.mp sent
    obtain ⟨listed,same⟩ := keyed_get known
    have stored : ∀ shipment ∈ initialShipments, (initialStore.orders.get shipment.orderId).isSome = true := by decide +kernel
    exact same ▸ stored shipment listed
  · intro key order known
    have dated : ∀ order ∈ initialOrders, (∃ wall, order.createdAt = .naive wall) ∧ ∃ wall, order.updatedAt = .naive wall := by
      simp [initialOrders,ago]
    exact dated order (keyed_get known).1

theorem reached_tidy (outside : Outside) (calls : List ServiceCall) (readings drawn : Nat) :
    Tidy outside (stateAfter outside calls readings drawn) := by
  have tidy : Tidy outside (worldAfter outside calls) := invariant (I := Tidy outside) step_tidy initial_tidy
  exact ⟨tidy.store,tidy.customers,tidy.products,tidy.inventory,tidy.shipments,tidy.dates⟩

theorem tool_results (texts : Texts) (errorText : PyError → String) (outside : Outside) (calls : List ServiceCall)
    (readings drawn : Nat) (call : TypedCall runtime known) :
    Answers texts errorText outside (stateAfter outside calls readings drawn) call.tool call.params ↔
      Served outside (stateAfter outside calls readings drawn) call.tool call.params :=
  fit_answers (reached_tidy outside calls readings drawn) call.fit

end

-- A discount for a customer that is not in the store
def strangersDiscount : TypedCall .ascii corePlaceholders where
  tool := .hat .offerDiscount
  params := ((AList.singleton "customer_id" (.str "CUST-999")).insert "discount_percent" (.int 10)).insert
    "reason" (.str "late")
  accepted := by decide +kernel
  typed := by decide +kernel

theorem discount_raises : (registryExecute plainTexts (fun _ => "") shopClock "offer_discount" strangersDiscount.params
      initialWorld).value = .error (notFound "Customer" "CUST-999") ∧
    ¬ Answers plainTexts (fun _ => "") shopClock initialWorld strangersDiscount.tool strangersDiscount.params := by
  have raised : (registryExecute plainTexts (fun _ => "") shopClock "offer_discount" strangersDiscount.params
      initialWorld).value = .error (notFound "Customer" "CUST-999") := rfl
  refine ⟨raised,?_⟩
  rintro ⟨result,returned,_⟩
  have same := raised.symm.trans returned
  cases same

end Sophia.CustomerService
