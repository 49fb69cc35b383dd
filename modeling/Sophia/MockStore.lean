import Sophia.MockServices
import Sophia.Library.StepRun

namespace Sophia.MockServices
open TracedRun Json PyText ServiceModels StepRun

-- What an operation writes
inductive Write where
  | nothing
  | cancelled (key : String) (order : Order) (updatedAt : Moment)
  | readdressed (key : String) (order : Order) (address : Option Address) (updatedAt : Moment)
  | placed (key : String) (order : Order)
  | returned (key : String) (ret : ReturnStatus)

def Write.apply (store : MockDataStore) : Write → MockDataStore
  | .nothing => store
  | .cancelled key order updatedAt => {store with orders := store.orders.set key {order with status := "cancelled",updatedAt}}
  | .readdressed key order address updatedAt =>
    {store with orders := store.orders.set key {order with shippingAddress := address,updatedAt}}
  | .placed key order => {store with orders := store.orders.set key order,nextOrderId := store.nextOrderId + 1}
  | .returned key ret => {store with returns := store.returns.set key ret,nextReturnId := store.nextReturnId + 1}

-- What raises, or returns a record with success = False
def Failed : Except PyError ServiceValue → Prop
  | .error _ => True
  | .ok (.cancellation result) => result.success = false
  | .ok (.addressUpdate result) => result.success = false
  | .ok _ => False

def newOrder (outside : Outside) (orderId : String) (customerId : Json) (items : List OrderItem) (createdAt updatedAt : Moment) : Order where
  orderId := orderId
  customerId := customerId
  status := "pending"
  items := items
  total := outside.sum (items.map (·.totalPrice))
  currency := .str "USD"
  createdAt := createdAt
  updatedAt := updatedAt

def newReturn (returnId orderId : String) (items : List ReturnItem) (createdAt : Moment) : ReturnStatus where
  returnId := returnId
  orderId := .str orderId
  status := "initiated"
  items := items
  createdAt := createdAt

section
variable (outside : Outside)

def moment (w : World) : Moment := .naive (outside.now w.readings)
def nextMoment (w : World) : Moment := .naive (outside.now (w.readings + 1))

-- The write of a call, and what the operation checks before it
inductive Writes (w : World) : ServiceCall → Write → Prop where
  | nothing : Writes w call .nothing
  | cancelled : w.store.orders.get key = some order → order.status ∉ settled →
      Writes w (.cancelOrder (.str key) reason) (.cancelled key order (moment outside w))
  | updated : w.store.orders.get key = some order →
      Writes w (.updateOrder (.str key) changes)
        (.readdressed key order (changes.shippingAddress.or order.shippingAddress) (moment outside w))
  | readdressed : w.store.orders.get key = some order → order.status ∈ unshipped →
      Writes w (.updateShippingAddress (.str key) address) (.readdressed key order (some address) (moment outside w))
  | placed : Writes w (.placeOrder customerId items) (.placed (orderKey (w.store.nextOrderId + 1))
      (newOrder outside (orderKey (w.store.nextOrderId + 1)) customerId items (moment outside w) (nextMoment outside w)))
  | returned : w.store.orders.get key = some order → order.status = "delivered" → daysSince order.updatedAt = .ok elapsed →
      elapsed ≤ 30 → activeReturns w.store key = [] → Writes w (.initiateReturn (.str key) items reason)
        (.returned (returnKey (w.store.nextReturnId + 1)) (newReturn (returnKey (w.store.nextReturnId + 1)) key items createdAt))

end

section
variable {ω : Type} {outside : Outside} {w : World} {store : MockDataStore} {call : ServiceCall} {write : Write}

theorem find_cases {α : Type} (d : PyDict String α) (id : Json) :
    (∃ key value, id = .str key ∧ d.get key = some value ∧ find d id = .ok (some (key,value))) ∨
    find d id = .ok none ∨ ∃ e, find d id = .error e := by
  cases id with
  | str key =>
    cases found : d.get key with
    | none => exact .inr (.inl (by simp [find,found]))
    | some value => exact .inl ⟨key,value,rfl,found,by simp [find,found]⟩
  | arr items => exact .inr (.inr ⟨_,rfl⟩)
  | obj fields => exact .inr (.inr ⟨_,rfl⟩)
  | _ => exact .inr (.inl rfl)

theorem demand_found {α : Type} {d : PyDict String α} {key kind : String} {value : α} (found : d.get key = some value) :
    demand outside kind d (.str key) = .ok (key,value) := by
  simp [demand,find,found,bind,Except.bind,pure,Except.pure]

theorem demand_cases {α : Type} (outside : Outside) (kind : String) (d : PyDict String α) (id : Json) :
    (∃ key value, id = .str key ∧ d.get key = some value) ∨ ∃ e, demand outside kind d id = .error e := by
  rcases find_cases d id with ⟨key,value,same,known,found⟩ | absent | ⟨e,raised⟩
  · exact .inl ⟨key,value,same,known⟩
  · refine .inr ⟨.valueErrorOf (kind ++ " " ++ outside.text id ++ " not found"),?_⟩
    simp [demand,absent,bind,Except.bind,throw,throwThe,MonadExceptOf.throw]
  · exact .inr ⟨e,by simp [demand,raised,bind,Except.bind]⟩

theorem refuseAbove_raises (total amount : PyFloat) : ∃ e, refuseAbove total amount = .error e := by
  unfold refuseAbove
  cases amount.money with
  | error e => exact ⟨e,rfl⟩
  | ok first => cases total.money with
    | error e => exact ⟨e,rfl⟩
    | ok second => exact ⟨_,rfl⟩

theorem clock_bind {α : Type} (f : Moment → MockRun ω α) :
    (clock outside >>= f) w = f (moment outside w) {w with readings := w.readings + 1} := by
  rw [bind_ok rfl]
  rfl

theorem clock_keeps : Preserves (fun w => w.store = store) (clock outside : MockRun ω Moment) :=
  .overState fun _ same => same

theorem uuid_keeps : Preserves (fun w => w.store = store) (uuid outside n : MockRun ω String) :=
  .overState fun _ same => same

-- The operations that write
def mutates : ServiceCall → Bool
  | .cancelOrder _ _ => true
  | .updateOrder _ _ => true
  | .placeOrder _ _ => true
  | .updateShippingAddress _ _ => true
  | .initiateReturn _ _ _ => true
  | _ => false

theorem perform_reads (reading : mutates call = false) :
    Preserves (fun w => w.store = store) (perform outside call : MockRun ω ServiceValue) := by
  cases call with
  | getOrder orderId => exact .bind (.read _) fun _ => .bind (.lift _) fun _ => .pure _
  | getOrderStatus orderId =>
    refine .bind (.read _) fun _ => .bind (.lift _) fun found => ?_
    cases found <;> exact .pure _
  | searchOrdersByCustomer customerId limit => exact .bind (.read _) fun _ => .bind (.lift _) fun _ => .pure _
  | getCustomer customerId => exact .bind (.read _) fun _ => .bind (.lift _) fun _ => .pure _
  | searchCustomers query => exact .bind (.lift _) fun _ => .bind (.read _) fun _ => .bind (.lift _) fun _ => .pure _
  | getCustomerHistory customerId => exact .bind (.read _) fun _ => .bind (.lift _) fun _ => .pure _
  | checkStock productId =>
    refine .bind (.read _) fun _ => .ite ?_ (.pure _)
    exact .bind (.lift _) fun _ => .pure _
  | getProductDetails productId => exact .bind (.read _) fun _ => .bind (.lift _) fun _ => .pure _
  | checkWarrantyStatus orderId productId =>
    refine .bind (.read _) fun _ => .bind (.lift _) fun _ => .bind (.lift _) fun _ => .ite ?_ (.lift _)
    exact .bind (.lift _) fun _ => .bind (.lift _) fun _ => .pure _
  | trackShipment orderId => exact .bind (.read _) fun _ => .bind (.lift _) fun _ => .pure _
  | getShippingOptions orderId => exact .pure _
  | generateReturnLabel orderId reason =>
    refine .bind (.read _) fun _ => .bind (.lift _) fun _ => .bind uuid_keeps fun _ => .bind uuid_keeps fun _ => ?_
    exact .bind clock_keeps fun _ => .bind (.lift _) fun _ => .pure _
  | applyDiscount customerId percent reason =>
    refine .bind (.read _) fun _ => .bind (.lift _) fun _ => .bind uuid_keeps fun _ => ?_
    exact .bind clock_keeps fun _ => .bind (.lift _) fun _ => .pure _
  | processPartialRefund orderId amount reason =>
    refine .bind (.read _) fun _ => .bind (.lift _) fun _ => ?_
    dsimp only
    cases numeric amount with
    | none => exact .lift _
    | some value => exact .ite (.lift _) (.bind uuid_keeps fun _ => .pure _)
  | processFullRefund orderId reason =>
    exact .bind (.read _) fun _ => .bind (.lift _) fun _ => .bind uuid_keeps fun _ => .pure _
  | applyFreeShipping customerId orderId reason => exact .bind (.read _) fun _ => .bind (.lift _) fun _ => .pure _
  | generateCoupon customerId params =>
    refine .bind (.read _) fun _ => .bind (.lift _) fun _ => .bind uuid_keeps fun _ => ?_
    exact .bind clock_keeps fun _ => .bind (.lift _) fun _ => .pure _
  | checkReturnStatus returnId => exact .bind (.read _) fun _ => .bind (.lift _) fun _ => .pure _
  | cancelOrder orderId reason => cases reading
  | updateOrder orderId changes => cases reading
  | placeOrder customerId items => cases reading
  | updateShippingAddress orderId newAddress => cases reading
  | initiateReturn orderId items reason => cases reading

theorem cancelOrder_open (known : w.store.orders.get key = some order) (open_ : order.status ∉ settled) (reason : Json) :
    (cancelOrder outside (.str key) reason : MockRun ω ServiceValue) w =
      ⟨.ok (.cancellation {orderId := .str key,success := true,refundAmount := some order.total}),
        putOrder key {order with status := "cancelled",updatedAt := moment outside w} {w with readings := w.readings + 1},[]⟩ := by
  have found : find w.store.orders (.str key) = .ok (some (key,order)) := by simp [find,known]
  have unsettled : settled.contains order.status = false := by simpa using open_
  simp only [cancelOrder,read_bind,found,lift_bind_ok,unsettled,Bool.false_eq_true,if_false,clock_bind,change_bind]
  rfl

theorem cancelOrder_closed (orderId reason : Json)
    (closed : ∀ key order, orderId = .str key → w.store.orders.get key = some order → order.status ∈ settled) :
    ((cancelOrder outside orderId reason : MockRun ω ServiceValue) w).state = w ∧
      Failed ((cancelOrder outside orderId reason : MockRun ω ServiceValue) w).value := by
  unfold cancelOrder
  rw [read_bind]
  rcases find_cases w.store.orders orderId with ⟨key,order,same,known,found⟩ | absent | ⟨e,raised⟩
  · have stays : settled.contains order.status = true := by simpa using closed key order same known
    rw [found,lift_bind_ok]
    dsimp only
    rw [if_pos stays]
    exact ⟨rfl,rfl⟩
  · simp [absent,Failed]
  · simp [raised,Failed]

theorem updateOrder_known (known : w.store.orders.get key = some order) (changes : OrderChanges) :
    ((updateOrder outside (.str key) changes : MockRun ω ServiceValue) w) =
      ⟨.ok (.order {order with
          shippingAddress := changes.shippingAddress.or order.shippingAddress,updatedAt := moment outside w}),
        putOrder key {order with
          shippingAddress := changes.shippingAddress.or order.shippingAddress,updatedAt := moment outside w}
          {w with readings := w.readings + 1},[]⟩ := by
  simp only [updateOrder,read_bind,demand_found known,lift_bind_ok,clock_bind,change_bind]
  rfl

theorem updateShippingAddress_open (known : w.store.orders.get key = some order) (open_ : order.status ∈ unshipped)
    (newAddress : Address) : ((updateShippingAddress outside (.str key) newAddress : MockRun ω ServiceValue) w) =
      ⟨.ok (.addressUpdate {orderId := .str key,success := true,newAddress := some newAddress}),
        putOrder key {order with shippingAddress := some newAddress,updatedAt := moment outside w}
          {w with readings := w.readings + 1},[]⟩ := by
  have found : find w.store.orders (.str key) = .ok (some (key,order)) := by simp [find,known]
  have fits : unshipped.contains order.status = true := by simpa using open_
  simp only [updateShippingAddress,read_bind,found,lift_bind_ok,fits,if_true,clock_bind,change_bind]
  rfl

theorem updateShippingAddress_closed (orderId : Json) (newAddress : Address)
    (closed : ∀ key order, orderId = .str key → w.store.orders.get key = some order → order.status ∉ unshipped) :
    ((updateShippingAddress outside orderId newAddress : MockRun ω ServiceValue) w).state = w := by
  unfold updateShippingAddress
  rw [read_bind]
  rcases find_cases w.store.orders orderId with ⟨key,order,same,known,found⟩ | absent | ⟨e,raised⟩
  · have stays : unshipped.contains order.status = false := by simpa using closed key order same known
    simp only [found,lift_bind_ok,stays,Bool.false_eq_true,if_false,pure_state]
  · simp [absent]
  · simp [raised]

theorem placeOrder_run (customerId : Json) (items : List OrderItem) :
    (placeOrder outside customerId items : MockRun ω ServiceValue) w =
      ⟨.ok (.order (newOrder outside (orderKey (w.store.nextOrderId + 1)) customerId items (moment outside w) (nextMoment outside w))),
        {w with
          store := (Write.placed (orderKey (w.store.nextOrderId + 1)) (newOrder outside (orderKey (w.store.nextOrderId + 1))
            customerId items (moment outside w) (nextMoment outside w))).apply w.store
          readings := w.readings + 2},[]⟩ := by
  simp only [placeOrder,change_bind,read_bind,clock_bind]
  rfl

-- What the checks of initiate_return come to
def Returnable (store : MockDataStore) (key : String) : Prop :=
  ∃ order elapsed, store.orders.get key = some order ∧ order.status = "delivered" ∧ daysSince order.updatedAt = .ok elapsed ∧
    elapsed ≤ 30 ∧ activeReturns store key = []

theorem initiateReturn_open (outside : Outside) (returnable : Returnable w.store key) (items : List ReturnItem)
    (reason : Json) :
    ∃ result createdAt readings drawn, (initiateReturn outside (.str key) items reason : MockRun ω ServiceValue) w =
      ⟨.ok (.returnInitiation result),
        ⟨(Write.returned (returnKey (w.store.nextReturnId + 1))
          (newReturn (returnKey (w.store.nextReturnId + 1)) key items createdAt)).apply w.store,readings,drawn⟩,[]⟩ ∧
      result.returnId = returnKey (w.store.nextReturnId + 1) := by
  obtain ⟨order,elapsed,known,delivered,since,within,free⟩ := returnable
  unfold initiateReturn
  rw [read_bind,demand_found known,lift_bind_ok]
  dsimp only
  rw [if_neg (by simpa using delivered),since,lift_bind_ok,if_neg (by omega),free]
  simp only [List.isEmpty_nil,Bool.not_true,Bool.false_eq_true,if_false,change_bind,read_bind]
  unfold returnLabel
  by_cases defective : hasDefective items = true
  · simp only [defective,if_true]
    exact ⟨_,_,_,_,rfl,rfl⟩
  · simp only [defective]
    exact ⟨_,_,_,_,rfl,rfl⟩

theorem initiateReturn_closed (outside : Outside) (orderId : Json) (items : List ReturnItem) (reason : Json)
    (closed : ∀ key, orderId = .str key → ¬ Returnable w.store key) :
    ∃ e, (initiateReturn outside orderId items reason : MockRun ω ServiceValue) w = ⟨.error e,w,[]⟩ := by
  unfold initiateReturn
  rw [read_bind]
  rcases demand_cases outside "Order" w.store.orders orderId with ⟨key,order,rfl,known⟩ | ⟨e,raised⟩
  · rw [demand_found known,lift_bind_ok]
    dsimp only
    by_cases delivered : order.status = "delivered"
    · rw [if_neg (by simpa using delivered)]
      cases since : daysSince order.updatedAt with
      | error e => exact ⟨e,lift_bind_error e⟩
      | ok elapsed =>
        rw [lift_bind_ok]
        by_cases late : 30 < elapsed
        · exact ⟨_,by rw [if_pos late]; rfl⟩
        · rw [if_neg late]
          by_cases free : activeReturns w.store key = []
          · exact absurd ⟨order,elapsed,known,delivered,since,by omega,free⟩ (closed key rfl)
          · exact ⟨_,by rw [if_pos (by simpa using free)]; rfl⟩
    · exact ⟨_,by rw [if_pos delivered]; rfl⟩
  · exact ⟨e,by rw [raised,lift_bind_error]⟩

-- The one account of what an operation does to the store
theorem perform_writes (outside : Outside) (call : ServiceCall) (w : World) : ∃ write, Writes outside w call write ∧
    ((perform outside call : MockRun ω ServiceValue) w).state.store = write.apply w.store ∧
    (write = .nothing ∨ ¬ Failed ((perform outside call : MockRun ω ServiceValue) w).value) := by
  by_cases reading : mutates call = false
  · exact ⟨.nothing,.nothing,perform_reads reading w rfl,.inl rfl⟩
  · cases call with
    | cancelOrder orderId reason =>
      by_cases closed : ∀ key order, orderId = .str key → w.store.orders.get key = some order → order.status ∈ settled
      · refine ⟨.nothing,.nothing,?_,.inl rfl⟩
        simp [perform,cancelOrder_closed orderId reason closed,Write.apply]
      · push Not at closed
        obtain ⟨key,order,rfl,known,open_⟩ := closed
        refine ⟨_,.cancelled known open_,?_,.inr ?_⟩
        · rw [perform,cancelOrder_open known open_]
          rfl
        · simp [perform,cancelOrder_open known open_,Failed]
    | updateOrder orderId changes =>
      rcases demand_cases outside "Order" w.store.orders orderId with ⟨key,order,rfl,known⟩ | ⟨e,raised⟩
      · refine ⟨_,.updated known,?_,.inr ?_⟩
        · rw [perform,updateOrder_known known]
          rfl
        · simp [perform,updateOrder_known known,Failed]
      · refine ⟨.nothing,.nothing,?_,.inl rfl⟩
        simp [perform,updateOrder,raised,Write.apply]
    | placeOrder customerId items =>
      refine ⟨_,.placed,?_,.inr ?_⟩
      · rw [perform,placeOrder_run]
      · simp [perform,placeOrder_run,Failed]
    | updateShippingAddress orderId newAddress =>
      by_cases closed : ∀ key order, orderId = .str key → w.store.orders.get key = some order → order.status ∉ unshipped
      · refine ⟨.nothing,.nothing,?_,.inl rfl⟩
        simp [perform,updateShippingAddress_closed orderId newAddress closed,Write.apply]
      · push Not at closed
        obtain ⟨key,order,rfl,known,open_⟩ := closed
        refine ⟨_,.readdressed known open_,?_,.inr ?_⟩
        · rw [perform,updateShippingAddress_open known open_]
          rfl
        · simp [perform,updateShippingAddress_open known open_,Failed]
    | initiateReturn orderId items reason =>
      by_cases closed : ∀ key, orderId = .str key → ¬ Returnable w.store key
      · obtain ⟨e,refused⟩ := initiateReturn_closed (ω := ω) outside orderId items reason closed
        exact ⟨.nothing,.nothing,by rw [perform,refused]; rfl,.inl rfl⟩
      · push Not at closed
        obtain ⟨key,rfl,returnable⟩ := closed
        obtain ⟨result,createdAt,readings,drawn,run,_⟩ := initiateReturn_open (ω := ω) outside returnable items reason
        obtain ⟨order,elapsed,known,delivered,since,within,free⟩ := returnable
        have admitted : Writes outside w (.initiateReturn (.str key) items reason)
            (.returned (returnKey (w.store.nextReturnId + 1))
              (newReturn (returnKey (w.store.nextReturnId + 1)) key items createdAt)) :=
          .returned known delivered since within free
        refine ⟨_,admitted,?_,.inr ?_⟩
        · rw [perform,run]
        · simp [perform,run,Failed]
    | _ => exact absurd rfl reading

end

end Sophia.MockServices
