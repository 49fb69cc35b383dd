import Sophia.StoreIntegrity
import Sophia.GateSurvivors

namespace Sophia.CustomerService
open TracedRun Json ServiceModels Mcp MockServices StepRun ParameterGate

-- A state with a store that operations lead to, wherever the clock and the UUIDs stand
def stateAfter (outside : Outside) (calls : List ServiceCall) (readings drawn : Nat) : World :=
  ⟨storeAfter outside calls,readings,drawn⟩

-- Only these bring the id into the form of the store.
def normalizes : HatTool → Bool
  | .lookUpOrder => true
  | .checkOrderStatus => true
  | .cancelOrder => true
  | _ => false

section
variable {texts : Texts} {errorText : PyError → String} {outside : Outside} {w : World} {params : Params}
  {runtime : Runtime} {known : List String} {key field text : String} {order : Order} {reason : Json} {call : ServiceCall}

-- What the gate lets pass has every required parameter.
theorem Execution.filled (run : Execution runtime known) (needed : field ∈ (toolOf run.tool).required) :
    ∃ value, run.params.lookup field = some value ∧ value ≠ .null := by
  obtain ⟨value,given,there,_⟩ := passed_iff.mp run.accepted _ (ToolRegistry.get_register _ _) field needed
  exact ⟨value,given,there⟩

-- Tools lead to no other stores than the operations of the services.
theorem runTool_reached (texts : Texts) (errorText : PyError → String) (outside : Outside) (calls : List ServiceCall)
    (tool : HatTool) (params : Params) :
    ∃ more, runTool texts errorText outside (worldAfter outside calls) tool params = worldAfter outside more := by
  have steps (w : World) (reached : ∃ more, w = worldAfter outside more) (call : ServiceCall) :
      ∃ more, step outside w call = worldAfter outside more := by
    obtain ⟨more,rfl⟩ := reached
    exact ⟨more ++ [call],after_last.symm⟩
  rcases runTool_cases texts errorText outside (worldAfter outside calls) tool params with ⟨customerId,items,ends,_⟩ | ⟨_,kept⟩
  · rw [ends]
    exact steps _ ⟨calls,rfl⟩ _
  · exact kept (fun w => ∃ more, w = worldAfter outside more) (fun call _ w reached => steps w reached call) ⟨calls,rfl⟩

theorem required_given (given : params.lookup field = some value) : required params field = .ok value := by
  simp [required,given]

theorem param_given (given : params.lookup field = some value) (default : Json) : param params field default = value := by
  simp [param,given]

def notFound (kind key : String) : PyError := .valueErrorOf (kind ++ " " ++ key ++ " not found")

theorem demand_unknown {α : Type} {d : PyDict String α} (unknown : d.get key = none) (outside : Outside) (kind : String) :
    demand outside kind d (.str key) = .error (notFound kind key) := by
  simp [demand,find,unknown,bind,Except.bind,throw,throwThe,MonadExceptOf.throw,Outside.text,notFound]

-- The refund that the mock service makes up next
def nextRefund (outside : Outside) (w : World) (key : String) (amount : PyFloat) : RefundResult :=
  ⟨"REF-" ++ outside.upper (String.ofList ((outside.hex w.drawn).toList.take 8)),key,amount,"processed","original_payment"⟩

def drawOne (w : World) : World := {w with drawn := w.drawn + 1}

def statusOf (store : MockDataStore) (key : String) (order : Order) : OrderStatus where
  orderId := order.orderId
  status := order.status
  lastUpdated := order.updatedAt
  estimatedDelivery := (store.shipments.get key).bind (·.estimatedDelivery)
  trackingNumber := order.trackingNumber

theorem uuid_bind {α : Type} (outside : Outside) (digits : Nat) (f : String → MockRun Empty α) :
    (uuid outside digits >>= f) w = f (String.ofList ((outside.hex w.drawn).toList.take digits)) (drawOne w) := by
  rw [bind_ok rfl]
  rfl

-- What the services answer under an id
theorem processFullRefund_known (outside : Outside) (known : w.store.orders.get key = some order) (reason : Json) :
    mock outside (.processFullRefund (.str key) reason) w =
      ⟨.ok (.refund (nextRefund outside w key order.total)),drawOne w,[]⟩ := by
  rw [mock,perform,processFullRefund,read_bind,demand_found known,lift_bind_ok]
  rfl

theorem processPartialRefund_known (outside : Outside) (known : w.store.orders.get key = some order)
    (counted : numeric amount = some value) (covered : order.total.less value = false) (reason : Json) :
    mock outside (.processPartialRefund (.str key) amount reason) w =
      ⟨.ok (.refund (nextRefund outside w key value)),drawOne w,[]⟩ := by
  rw [mock,perform,processPartialRefund,read_bind,demand_found known,lift_bind_ok]
  simp only [counted,covered]
  rfl

theorem money_raises {x : PyFloat} (raised : x.money = .error e) : e = overflowError := by
  cases x with
  | finite x =>
    by_cases large : PyFloat.tooLarge x = true
    · rw [PyFloat.money_large large] at raised
      exact (Except.error.inj raised).symm
    · rw [PyFloat.money_small (by simpa using large)] at raised
      cases raised
  | _ => cases raised

-- A refund that is refused raises, and with a text of its own.
theorem refuseAbove_text (total amount : PyFloat) :
    ∃ e, refuseAbove total amount = .error e ∧ ∀ id, e ≠ notFound "Order" id := by
  unfold refuseAbove
  cases first : amount.money with
  | error e =>
    rw [money_raises first]
    exact ⟨overflowError,rfl,nofun⟩
  | ok offered =>
    cases second : total.money with
    | error e =>
      rw [money_raises second]
      exact ⟨overflowError,rfl,nofun⟩
    | ok covered =>
      refine ⟨_,rfl,fun id same => ?_⟩
      have heads := congrArg (·.toList.head?) (PyError.valueErrorOf.inj same)
      simp [String.toList_append] at heads

theorem numeric_uncovered {amount : Json}
    (covered : ¬ ∃ x, amount.number? = some x ∧ order.total.less (.finite x) = false) :
    ∀ value, numeric (.json amount) = some value → order.total.less value = true := by
  intro value counted
  obtain ⟨x,number,rfl⟩ := Option.map_eq_some_iff.mp counted
  by_contra fits
  exact covered ⟨x,number,by simpa using fits⟩

theorem processPartialRefund_refused (outside : Outside) (known : w.store.orders.get key = some order)
    (refused : ∀ value, numeric amount = some value → order.total.less value = true) (reason : Json) :
    ∃ e, mock outside (.processPartialRefund (.str key) amount reason) w = ⟨.error e,w,[]⟩ ∧
      ∀ id, e ≠ notFound "Order" id := by
  rw [mock,perform,processPartialRefund,read_bind,demand_found known,lift_bind_ok]
  cases counted : numeric amount with
  | none =>
    refine ⟨.typeError,rfl,?_⟩
    intro id same
    cases same
  | some value =>
    obtain ⟨e,raised,other⟩ := refuseAbove_text order.total value
    refine ⟨e,?_,other⟩
    change (if order.total.less value = true then lift (refuseAbove order.total value) else _) w = _
    rw [if_pos (refused value counted),raised]
    rfl

theorem getOrder_run (outside : Outside) (w : World) (key : String) : mock outside (.getOrder (.str key)) w =
    ⟨.ok ((w.store.orders.get key).elim .none .order),w,[]⟩ := by
  rw [mock,perform,getOrder,read_bind,find,lift_bind_ok]
  cases w.store.orders.get key <;> rfl

theorem getOrderStatus_run (outside : Outside) (w : World) (key : String) : mock outside (.getOrderStatus (.str key)) w =
    ⟨.ok ((w.store.orders.get key).elim .none fun order => .orderStatus (statusOf w.store key order)),w,[]⟩ := by
  rw [mock,perform,getOrderStatus,read_bind,find,lift_bind_ok]
  cases w.store.orders.get key <;> rfl

theorem trackShipment_run (outside : Outside) (w : World) (key : String) : mock outside (.trackShipment (.str key)) w =
    ⟨.ok ((w.store.shipments.get key).elim .none .shipmentTracking),w,[]⟩ := by
  rw [mock,perform,MockServices.trackShipment,read_bind,find,lift_bind_ok]
  cases w.store.shipments.get key <;> rfl

theorem getProductDetails_run (outside : Outside) (w : World) (key : String) :
    mock outside (.getProductDetails (.str key)) w =
      ⟨.ok ((w.store.products.get key).elim .none .productDetails),w,[]⟩ := by
  rw [mock,perform,getProductDetails,read_bind,find,lift_bind_ok]
  cases w.store.products.get key <;> rfl

-- What the order tools answer under an id
variable (texts errorText outside)

theorem lookUpOrder_unknown (named : normalizeOrderId texts (param params "order_id" (.str "")) = .ok key)
    (unknown : w.store.orders.get key = none) : execute texts errorText (mock outside) .lookUpOrder params w =
      ⟨.ok (failure ("Order " ++ key ++ " not found")),w,[]⟩ := by
  rw [execute,lookUpOrder,named,lift_bind_ok,bind_ran (getOrder_run outside w key),unknown]
  rfl

theorem lookUpOrder_known (named : normalizeOrderId texts (param params "order_id" (.str "")) = .ok key)
    (known : w.store.orders.get key = some order) : execute texts errorText (mock outside) .lookUpOrder params w =
      ⟨.ok ⟨true,.record (.order order),"Found order " ++ key⟩,w,[]⟩ := by
  rw [execute,lookUpOrder,named,lift_bind_ok,bind_ran (getOrder_run outside w key),known]
  rfl

theorem checkOrderStatus_unknown (named : normalizeOrderId texts (param params "order_id" (.str "")) = .ok key)
    (unknown : w.store.orders.get key = none) : execute texts errorText (mock outside) .checkOrderStatus params w =
      ⟨.ok (failure ("Order " ++ key ++ " not found")),w,[]⟩ := by
  rw [execute,checkOrderStatus,named,lift_bind_ok,bind_ran (getOrderStatus_run outside w key),unknown]
  rfl

theorem checkOrderStatus_known (named : normalizeOrderId texts (param params "order_id" (.str "")) = .ok key)
    (known : w.store.orders.get key = some order) : execute texts errorText (mock outside) .checkOrderStatus params w =
      ⟨.ok ⟨true,.record (.orderStatus (statusOf w.store key order)),"Status for " ++ key ++ ": " ++ order.status⟩,w,[]⟩ := by
  rw [execute,checkOrderStatus,named,lift_bind_ok,bind_ran (getOrderStatus_run outside w key),known]
  rfl

theorem trackShipment_unknown (ordered : params.lookup "order_id" = some (.str key))
    (unknown : w.store.shipments.get key = none) : execute texts errorText (mock outside) .trackShipment params w =
      ⟨.ok (failure ("No shipment tracking found for order " ++ shown texts (.str key))),w,[]⟩ := by
  rw [execute,trackShipment,required_given ordered,lift_bind_ok,bind_ran (trackShipment_run outside w key),unknown]
  rfl

theorem trackShipment_known (ordered : params.lookup "order_id" = some (.str key))
    (known : w.store.shipments.get key = some tracking) : ∃ message,
      execute texts errorText (mock outside) .trackShipment params w =
        ⟨.ok ⟨true,.record (.shipmentTracking tracking),message⟩,w,[]⟩ := by
  rw [execute,trackShipment,required_given ordered,lift_bind_ok,bind_ran (trackShipment_run outside w key),known]
  exact ⟨_,rfl⟩

theorem cancelOrder_unknown (named : normalizeOrderId texts (param params "order_id" (.str "")) = .ok key)
    (because : params.lookup "reason" = some reason) (unknown : w.store.orders.get key = none) :
    execute texts errorText (mock outside) .cancelOrder params w = ⟨.ok (failure "Order not found"),w,[]⟩ := by
  have asked : mock outside (.cancelOrder (.str key) reason) w =
      ⟨.ok (.cancellation {orderId := .str key,success := false,reason := some "Order not found"}),w,[]⟩ := by
    rw [mock,perform,MockServices.cancelOrder,read_bind,find,lift_bind_ok,unknown]
    rfl
  rw [execute,cancelOrder,named,lift_bind_ok,required_given because,lift_bind_ok,bind_ran asked]
  rfl

-- A settled order keeps its status, and the message says which one it is.
theorem cancelOrder_refused (named : normalizeOrderId texts (param params "order_id" (.str "")) = .ok key)
    (because : params.lookup "reason" = some reason) (known : w.store.orders.get key = some order)
    (closed : order.status ∈ settled) : execute texts errorText (mock outside) .cancelOrder params w =
      ⟨.ok (failure ("Cannot cancel order in '" ++ order.status ++ "' status")),w,[]⟩ := by
  have stays : settled.contains order.status = true := by simpa using closed
  have asked : mock outside (.cancelOrder (.str key) reason) w = ⟨.ok (.cancellation {
      orderId := .str key,success := false
      reason := some ("Cannot cancel order in '" ++ order.status ++ "' status")}),w,[]⟩ := by
    rw [mock,perform,MockServices.cancelOrder,read_bind,find,lift_bind_ok,known]
    simp only [Option.map_some,stays,if_true]
    rfl
  rw [execute,cancelOrder,named,lift_bind_ok,required_given because,lift_bind_ok,bind_ran asked,asCancellation,lift_bind_ok]
  simp [truthyText]
  rfl

theorem cancelOrder_done (named : normalizeOrderId texts (param params "order_id" (.str "")) = .ok key)
    (because : params.lookup "reason" = some reason) (known : w.store.orders.get key = some order)
    (open_ : order.status ∉ settled) : (execute texts errorText (mock outside) .cancelOrder params w).value = do
      let amount ← order.total.money
      return ⟨true,.record (.cancellation {orderId := .str key,success := true,refundAmount := some order.total}),
        "Order " ++ key ++ " cancelled. Refund: $" ++ amount⟩ := by
  rw [execute,cancelOrder,named,lift_bind_ok,required_given because,lift_bind_ok,
    bind_ran (by rw [mock,perform,cancelOrder_open known open_]),asCancellation,lift_bind_ok]
  simp only [if_true,refunded,lift_bind_ok,bind_value,lift_value,pure_value]
  rfl

theorem newAddress_filled (filled : ∀ field ∈ ["line1","city","state","postal_code"],
    ∃ value, params.lookup field = some value) : ∃ address, newAddress params = .ok address := by
  obtain ⟨line1,one⟩ := filled "line1" (by simp)
  obtain ⟨city,two⟩ := filled "city" (by simp)
  obtain ⟨state,three⟩ := filled "state" (by simp)
  obtain ⟨code,four⟩ := filled "postal_code" (by simp)
  unfold newAddress
  rw [required_given one,required_given two,required_given three,required_given four]
  exact ⟨_,rfl⟩

theorem updateShippingAddress_unknown (addressed : newAddress params = .ok address)
    (ordered : params.lookup "order_id" = some (.str key)) (unknown : w.store.orders.get key = none) :
    execute texts errorText (mock outside) .updateShippingAddress params w = ⟨.ok (failure "Order not found"),w,[]⟩ := by
  have asked : mock outside (.updateShippingAddress (.str key) address) w =
      ⟨.ok (.addressUpdate {orderId := .str key,success := false,failureReason := some "Order not found"}),w,[]⟩ := by
    rw [mock,perform,MockServices.updateShippingAddress,read_bind,find,lift_bind_ok,unknown]
    rfl
  rw [execute,updateShippingAddress,addressed,lift_bind_ok,required_given ordered,lift_bind_ok,bind_ran asked]
  rfl

theorem updateShippingAddress_refused (addressed : newAddress params = .ok address)
    (ordered : params.lookup "order_id" = some (.str key)) (known : w.store.orders.get key = some order)
    (closed : order.status ∉ unshipped) : execute texts errorText (mock outside) .updateShippingAddress params w =
      ⟨.ok (failure ("Cannot update address for order in '" ++ order.status ++ "' status")),w,[]⟩ := by
  have stays : unshipped.contains order.status = false := by simpa using closed
  have asked : mock outside (.updateShippingAddress (.str key) address) w = ⟨.ok (.addressUpdate {
      orderId := .str key,success := false
      failureReason := some ("Cannot update address for order in '" ++ order.status ++ "' status")}),w,[]⟩ := by
    rw [mock,perform,MockServices.updateShippingAddress,read_bind,find,lift_bind_ok,known]
    simp only [Option.map_some,stays,Bool.false_eq_true,if_false]
    rfl
  rw [execute,updateShippingAddress,addressed,lift_bind_ok,required_given ordered,lift_bind_ok,bind_ran asked,
    asAddressUpdate,lift_bind_ok]
  simp [truthyText]
  rfl

theorem updateShippingAddress_done (addressed : newAddress params = .ok address)
    (ordered : params.lookup "order_id" = some (.str key)) (known : w.store.orders.get key = some order)
    (open_ : order.status ∈ unshipped) : ∃ data message,
      (execute texts errorText (mock outside) .updateShippingAddress params w).value = .ok ⟨true,data,message⟩ := by
  rw [execute,updateShippingAddress,addressed,lift_bind_ok,required_given ordered,lift_bind_ok,
    bind_ran (by rw [mock,perform,updateShippingAddress_open known open_]),asAddressUpdate,lift_bind_ok]
  exact ⟨_,_,rfl⟩

theorem offerFullRefund_unknown (ordered : params.lookup "order_id" = some orderId)
    (because : params.lookup "reason" = some reason) (raised : demand outside "Order" w.store.orders orderId = .error e) :
    execute texts errorText (mock outside) .offerFullRefund params w = ⟨.error e,w,[]⟩ := by
  have asked : mock outside (.processFullRefund orderId reason) w = ⟨.error e,w,[]⟩ := by
    rw [mock,perform,processFullRefund,read_bind,raised,lift_bind_error]
  rw [execute,offerFullRefund,required_given ordered,lift_bind_ok,required_given because,lift_bind_ok,bind_raised asked]

theorem offerFullRefund_known (ordered : params.lookup "order_id" = some (.str key))
    (because : params.lookup "reason" = some reason) (known : w.store.orders.get key = some order) : ∃ message,
      (execute texts errorText (mock outside) .offerFullRefund params w).value =
        .ok ⟨true,.record (.refund (nextRefund outside w key order.total)),message⟩ := by
  rw [execute,offerFullRefund,required_given ordered,lift_bind_ok,required_given because,lift_bind_ok,
    bind_ran (processFullRefund_known outside known reason)]
  exact ⟨_,rfl⟩

theorem offerPartialRefund_raised (ordered : params.lookup "order_id" = some orderId)
    (offered : params.lookup "amount" = some amount) (because : params.lookup "reason" = some reason)
    (asked : mock outside (.processPartialRefund orderId (.json amount) reason) w = ⟨.error e,w,[]⟩) :
    execute texts errorText (mock outside) .offerPartialRefund params w = ⟨.error e,w,[]⟩ := by
  rw [execute,offerPartialRefund,required_given ordered,lift_bind_ok,required_given offered,lift_bind_ok,
    required_given because,lift_bind_ok,bind_raised asked]

theorem processPartialRefund_unknown (raised : demand outside "Order" w.store.orders orderId = .error e) (amount : Argument)
    (reason : Json) : mock outside (.processPartialRefund orderId amount reason) w = ⟨.error e,w,[]⟩ := by
  rw [mock,perform,processPartialRefund,read_bind,raised,lift_bind_error]

-- The message of the result has the amount in it.
theorem offerPartialRefund_covered (ordered : params.lookup "order_id" = some (.str key))
    (offered : params.lookup "amount" = some amount) (because : params.lookup "reason" = some reason)
    (known : w.store.orders.get key = some order) (counted : amount.number? = some x)
    (covered : order.total.less (.finite x) = false) :
    (execute texts errorText (mock outside) .offerPartialRefund params w).value = do
      let issued ← (PyFloat.finite x).money
      return ⟨true,.record (.refund (nextRefund outside w key (.finite x))),
        "Partial refund of $" ++ issued ++ " issued for order " ++ shown texts (.str key)⟩ := by
  have value : numeric (.json amount) = some (.finite x) := by simp [numeric,counted]
  have record : asdict (.refund (nextRefund outside w key (.finite x))) =
      .ok (.record (.refund (nextRefund outside w key (.finite x)))) := rfl
  rw [execute,offerPartialRefund,required_given ordered,lift_bind_ok,required_given offered,lift_bind_ok,
    required_given because,lift_bind_ok,bind_ran (processPartialRefund_known outside known value covered reason),
    record,lift_bind_ok,asRefund,lift_bind_ok,bind_value,lift_value]
  rfl

-- A ValueError with a text becomes a failure with that text.
theorem reported_caught (report : ServiceValue → Except PyError HatResult)
    (asked : mock outside call w = ⟨.error (.valueErrorOf text),t,[]⟩) :
    reported errorText (mock outside) report call w = ⟨.ok (failure text),t,[]⟩ := by
  have caught : rescue (caughtValueError errorText) (Sum.inr <$> mock outside call) w = ⟨.ok (.inl text),t,[]⟩ := by
    rw [rescue,← bind_pure_comp,bind_raised asked]
    rfl
  rw [reported,bind_ran caught]
  rfl

theorem reported_raised (report : ServiceValue → Except PyError HatResult) (asked : mock outside call w = ⟨.error e,t,[]⟩)
    (uncaught : caughtValueError errorText e = .error e) :
    reported errorText (mock outside) report call w = ⟨.error e,t,[]⟩ := by
  have passed : rescue (caughtValueError errorText) (Sum.inr <$> mock outside call) w = ⟨.error e,t,[]⟩ := by
    rw [rescue,← bind_pure_comp,bind_raised asked]
    simp only [uncaught]
  rw [reported,bind_raised passed]

theorem reported_answered (report : ServiceValue → Except PyError HatResult)
    (asked : mock outside call w = ⟨.ok value,t,[]⟩) :
    reported errorText (mock outside) report call w = ⟨report value,t,[]⟩ := by
  have answered : rescue (caughtValueError errorText) (Sum.inr <$> mock outside call) w = ⟨.ok (.inr value),t,[]⟩ := by
    rw [rescue,← bind_pure_comp,bind_ran asked]
    rfl
  rw [reported,bind_ran answered]
  rfl

-- The items of a return, read from the parameter
def returnItems (entries : Json) : Except PyError (List ReturnItem) := do (← entries.iterate).mapM returnItem

theorem initiateReturn_asks (listed : params.lookup "items" = some listing) (itemized : returnItems listing = .ok items)
    (ordered : params.lookup "order_id" = some orderId) (because : params.lookup "reason" = some reason) :
    execute texts errorText (mock outside) .initiateReturn params w =
      reported errorText (mock outside) (returnReport texts orderId) (.initiateReturn orderId items reason) w := by
  rw [execute,initiateReturn,required_given listed,lift_bind_ok]
  change (lift (returnItems listing) >>= _) w = _
  rw [itemized,lift_bind_ok,required_given ordered,lift_bind_ok,required_given because,lift_bind_ok]

theorem initiateReturn_unknown (listed : params.lookup "items" = some listing) (itemized : returnItems listing = .ok items)
    (ordered : params.lookup "order_id" = some (.str key)) (because : params.lookup "reason" = some reason)
    (unknown : w.store.orders.get key = none) : execute texts errorText (mock outside) .initiateReturn params w =
      ⟨.ok (failure ("Order " ++ key ++ " not found")),w,[]⟩ := by
  rw [initiateReturn_asks texts errorText outside listed itemized ordered because]
  refine reported_caught errorText outside _ ?_
  rw [mock,perform,MockServices.initiateReturn,read_bind,demand_unknown unknown,lift_bind_error]
  rfl

-- Every other refusal has a text of its own; only a date with a time zone makes the tool raise.
theorem processReturn_refused (known : w.store.orders.get key = some order) (closed : ¬ Returnable w.store key)
    (items : List ReturnItem) (reason : Json) :
    (∃ text, mock outside (.initiateReturn (.str key) items reason) w = ⟨.error (.valueErrorOf text),w,[]⟩ ∧
      ∀ id, text ≠ "Order " ++ id ++ " not found") ∨
    ((∃ instant, order.updatedAt = .aware instant) ∧
      mock outside (.initiateReturn (.str key) items reason) w = ⟨.error .typeError,w,[]⟩) := by
  rw [mock,perform,MockServices.initiateReturn,read_bind,demand_found known,lift_bind_ok]
  dsimp only
  by_cases delivered : order.status = "delivered"
  · rw [if_neg (by simpa using delivered)]
    cases updated : order.updatedAt with
    | aware instant => exact .inr ⟨⟨instant,rfl⟩,rfl⟩
    | naive wall =>
      rw [daysSince,lift_bind_ok]
      by_cases late : 30 < (noon - wall) / days 1
      · rw [if_pos late]
        refine .inl ⟨_,rfl,fun id same => ?_⟩
        have heads := congrArg (·.toList.head?) same
        simp [String.toList_append] at heads
      · rw [if_neg late]
        have active : activeReturns w.store key ≠ [] :=
          fun free => closed ⟨order,_,known,delivered,by rw [updated,daysSince],by omega,free⟩
        rw [if_pos (by simpa using active)]
        refine .inl ⟨_,rfl,fun id same => ?_⟩
        have ends := congrArg (·.toList.reverse.head?) same
        simp [String.toList_append,Outside.text] at ends
  · rw [if_pos delivered]
    refine .inl ⟨_,rfl,fun id same => ?_⟩
    have heads := congrArg (·.toList.head?) same
    simp [String.toList_append] at heads

end
end Sophia.CustomerService
