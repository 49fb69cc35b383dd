import Sophia.MockStore

namespace Sophia.MockServices
open TracedRun Json PyText ServiceModels StepRun

def step (outside : Outside) (w : World) (call : ServiceCall) : World :=
  ((perform outside call : MockRun Empty ServiceValue) w).state

def worldAfter (outside : Outside) (calls : List ServiceCall) : World := after (step outside) initialWorld calls

def storeAfter (outside : Outside) (calls : List ServiceCall) : MockDataStore := (worldAfter outside calls).store

-- A return of the order that is still open
def Active (orderId : String) (ret : ReturnStatus) : Prop := ret.orderId = .str orderId ∧ ret.status ∉ closedReturns

structure StoreInvariant (outside : Outside) (store : MockDataStore) : Prop where
  orderKeys : ∀ key order, store.orders.get key = some order →
    order.orderId = key ∧ ∃ n ≤ store.nextOrderId, key = orderKey n
  returnKeys : ∀ key ret, store.returns.get key = some ret → ret.returnId = key ∧ ∃ n ≤ store.nextReturnId, key = returnKey n
  statuses : ∀ key order, store.orders.get key = some order → order.status ∈ settled ∨ order.status ∈ unshipped
  totals : ∀ key order, store.orders.get key = some order → order.total = outside.sum (order.items.map (·.totalPrice))
  oneActive : ∀ key other ret second orderId, store.returns.get key = some ret → store.returns.get other = some second →
    Active orderId ret → Active orderId second → key = other

-- What becomes of an order
structure OrderKept (one later : Order) : Prop where
  orderId : later.orderId = one.orderId
  customerId : later.customerId = one.customerId
  items : later.items = one.items
  total : later.total = one.total
  status : later.status = one.status ∨ (one.status ∈ unshipped ∧ later.status = "cancelled")

def OrdersKept (one later : PyDict String Order) : Prop :=
  ∀ key order, one.get key = some order → ∃ kept, later.get key = some kept ∧ OrderKept order kept

def ReturnsKept (one later : PyDict String ReturnStatus) : Prop :=
  ∀ key ret, one.get key = some ret → later.get key = some ret

-- What a call can make of an order that is there
inductive Rewrites (outside : Outside) (w : World) (key : String) (order : Order) : ServiceCall → Order → Prop where
  | same : Rewrites outside w key order call order
  | cancelled : order.status ∉ settled → Rewrites outside w key order (.cancelOrder (.str key) reason)
      {order with status := "cancelled",updatedAt := moment outside w}
  | updated : Rewrites outside w key order (.updateOrder (.str key) changes)
      {order with shippingAddress := changes.shippingAddress.or order.shippingAddress,updatedAt := moment outside w}
  | readdressed : order.status ∈ unshipped → Rewrites outside w key order (.updateShippingAddress (.str key) address)
      {order with shippingAddress := some address,updatedAt := moment outside w}

section
variable {outside : Outside} {w : World} {store : MockDataStore} {call : ServiceCall} {write : Write} {key : String}

theorem digits_value (k n : Nat) : Nat.ofDigitChars 10 (List.replicate k '0' ++ (toString n).toList) 0 = n := by
  rw [Nat.ofDigitChars_append,Nat.ofDigitChars_replicate_zero]
  simp

theorem orderKey_injective : Function.Injective orderKey := by
  intro n m same
  have digits : (toString n).toList = (toString m).toList := by
    simpa [orderKey,String.toList_append] using congrArg String.toList same
  rw [← digits_value 0 n,← digits_value 0 m,digits]

theorem returnKey_injective : Function.Injective returnKey := by
  intro n m same
  have digits := congrArg String.toList same
  simp only [returnKey,padded,String.toList_append,String.toList_ofList] at digits
  rw [← digits_value (3 - (toString n).length) n,← digits_value (3 - (toString m).length) m]
  rw [List.append_cancel_left digits]

theorem order_unused (inv : StoreInvariant outside store) : store.orders.get (orderKey (store.nextOrderId + 1)) = none := by
  by_contra used
  obtain ⟨order,known⟩ := Option.ne_none_iff_exists'.mp used
  obtain ⟨_,n,below,same⟩ := inv.orderKeys _ _ known
  have equal := orderKey_injective same
  omega

theorem order_apart (inv : StoreInvariant outside store) (known : store.orders.get key = some order) :
    key ≠ orderKey (store.nextOrderId + 1) := PyDict.get_apart known (order_unused inv)

theorem return_unused (inv : StoreInvariant outside store) : store.returns.get (returnKey (store.nextReturnId + 1)) = none := by
  by_contra used
  obtain ⟨ret,known⟩ := Option.ne_none_iff_exists'.mp used
  obtain ⟨_,n,below,same⟩ := inv.returnKeys _ _ known
  have equal := returnKey_injective same
  omega

theorem mem_activeReturns {ret : ReturnStatus} : ret ∈ activeReturns store key ↔
    (∃ id, store.returns.get id = some ret) ∧ Active key ret := by
  simp [activeReturns,PyDict.mem_values,Active,isStr_iff]

theorem none_active (free : activeReturns store key = []) {other : String} (known : store.returns.get other = some ret) :
    ¬ Active key ret := by
  intro active
  have listed : ret ∈ activeReturns store key := mem_activeReturns.mpr ⟨⟨other,known⟩,active⟩
  rw [free] at listed
  cases listed

theorem orderKept_refl (order : Order) : OrderKept order order := ⟨rfl,rfl,rfl,rfl,.inl rfl⟩

theorem OrderKept.trans {a b c : Order} (first : OrderKept a b) (second : OrderKept b c) : OrderKept a c := by
  refine ⟨second.orderId.trans first.orderId,second.customerId.trans first.customerId,second.items.trans first.items,
    second.total.trans first.total,?_⟩
  rcases second.status with same | ⟨open_,cancelled⟩
  · rcases first.status with before | ⟨open_,cancelled⟩
    · exact .inl (same.trans before)
    · exact .inr ⟨open_,same.trans cancelled⟩
  · rcases first.status with before | ⟨_,already⟩
    · exact .inr ⟨before ▸ open_,cancelled⟩
    · rw [already] at open_
      exact absurd open_ (by decide)

theorem ordersKept_refl (orders : PyDict String Order) : OrdersKept orders orders :=
  fun _ order known => ⟨order,known,orderKept_refl order⟩

theorem OrdersKept.trans {a b c : PyDict String Order} (first : OrdersKept a b) (second : OrdersKept b c) : OrdersKept a c := by
  intro key order known
  obtain ⟨middle,there,one⟩ := first key order known
  obtain ⟨last,here,two⟩ := second key middle there
  exact ⟨last,here,one.trans two⟩

theorem absent_set {orders : PyDict String Order} {other : String} (there : orders.get other = some one)
    (absent : orders.get key = none) : (orders.set other next).get key = none := by
  rw [PyDict.get_set_other (PyDict.get_apart there absent).symm,absent]

-- The write of an order in place of one, seen at any order: there it is this write, and elsewhere nothing.
theorem rewrites_set {orders : PyDict String Order} {other : String} {entry next : Order}
    (there : orders.get other = some entry) (rewrites : Rewrites outside w other entry call next)
    (known : orders.get key = some order) : ∃ kept, (orders.set other next).get key = some kept ∧
      Rewrites outside w key order call kept ∧
      (kept ≠ order → ∀ place, place ≠ key → (orders.set other next).get place = orders.get place) := by
  by_cases own : key = other
  · subst own
    rw [known] at there
    cases there
    exact ⟨next,PyDict.get_set_same,rewrites,fun _ place apart => PyDict.get_set_other apart⟩
  · exact ⟨order,(PyDict.get_set_other own).trans known,.same,fun changed => absurd rfl changed⟩

-- The one account of what a write makes of an order
theorem writes_known (inv : StoreInvariant outside w.store) (writes : Writes outside w call write)
    (known : w.store.orders.get key = some order) : ∃ kept, (write.apply w.store).orders.get key = some kept ∧
      Rewrites outside w key order call kept ∧
      (kept ≠ order → ∀ place, place ≠ key → (write.apply w.store).orders.get place = w.store.orders.get place) := by
  cases writes with
  | nothing => exact ⟨order,known,.same,fun changed => absurd rfl changed⟩
  | cancelled there open_ => exact rewrites_set there (.cancelled open_) known
  | updated there => exact rewrites_set there .updated known
  | readdressed there pending => exact rewrites_set there (.readdressed pending) known
  | placed =>
    refine ⟨order,?_,.same,fun changed => absurd rfl changed⟩
    exact (PyDict.get_set_other (order_apart inv known)).trans known
  | returned there delivered since within free => exact ⟨order,known,.same,fun changed => absurd rfl changed⟩

theorem Rewrites.kept (inv : StoreInvariant outside w.store) (known : w.store.orders.get key = some order)
    (rewrites : Rewrites outside w key order call later) : OrderKept order later := by
  cases rewrites with
  | same => exact orderKept_refl order
  | cancelled open_ => exact ⟨rfl,rfl,rfl,rfl,.inr ⟨(inv.statuses _ _ known).resolve_left open_,rfl⟩⟩
  | updated => exact ⟨rfl,rfl,rfl,rfl,.inl rfl⟩
  | readdressed pending => exact ⟨rfl,rfl,rfl,rfl,.inl rfl⟩

theorem writes_orders (inv : StoreInvariant outside w.store) (writes : Writes outside w call write) :
    OrdersKept w.store.orders (write.apply w.store).orders := by
  intro key order known
  obtain ⟨kept,present,rewrites,_⟩ := writes_known inv writes known
  exact ⟨kept,present,rewrites.kept inv known⟩

theorem writes_returns (inv : StoreInvariant outside w.store) (writes : Writes outside w call write) :
    ReturnsKept w.store.returns (write.apply w.store).returns := by
  cases writes with
  | returned known delivered since within free =>
    intro other ret found
    exact (PyDict.get_set_other (PyDict.get_apart found (return_unused inv))).trans found
  | _ => exact fun _ _ known => known

-- The new order, or the order that took the place of one
theorem writes_order_cases (inv : StoreInvariant outside w.store) (writes : Writes outside w call write)
    (known : (write.apply w.store).orders.get key = some order) :
    (∃ one, w.store.orders.get key = some one ∧ OrderKept one order) ∨
    ∃ customerId items, call = .placeOrder customerId items ∧ key = orderKey (w.store.nextOrderId + 1) ∧
      (write.apply w.store).nextOrderId = w.store.nextOrderId + 1 ∧
      order = newOrder outside key customerId items (moment outside w) (nextMoment outside w) := by
  by_cases old : ∃ one, w.store.orders.get key = some one
  · obtain ⟨one,before⟩ := old
    obtain ⟨kept,there,same⟩ := writes_orders inv writes key one before
    rw [known] at there
    cases there
    exact .inl ⟨one,before,same⟩
  · have absent : w.store.orders.get key = none := by simpa [Option.eq_none_iff_forall_ne_some] using old
    cases writes with
    | nothing => exact absurd known (by simp [Write.apply,absent])
    | cancelled there open_ => exact absurd known (by simp [Write.apply,absent_set there absent])
    | updated there => exact absurd known (by simp [Write.apply,absent_set there absent])
    | readdressed there open_ => exact absurd known (by simp [Write.apply,absent_set there absent])
    | placed =>
      rcases PyDict.get_set_cases known with ⟨same,rfl⟩ | before
      · exact .inr ⟨_,_,rfl,same,rfl,by rw [same]⟩
      · exact absurd before (by simp [absent])
    | returned there delivered since within free => exact absurd known (by simp [Write.apply,absent])

theorem writes_return_cases (writes : Writes outside w call write) (known : (write.apply w.store).returns.get key = some ret) :
    w.store.returns.get key = some ret ∨ ∃ orderId items createdAt, key = returnKey (w.store.nextReturnId + 1) ∧
      (write.apply w.store).nextReturnId = w.store.nextReturnId + 1 ∧ ret = newReturn key orderId items createdAt ∧
      activeReturns w.store orderId = [] := by
  cases writes with
  | returned there delivered since within free =>
    rcases PyDict.get_set_cases known with ⟨same,rfl⟩ | before
    · exact .inr ⟨_,_,_,same,rfl,by rw [same],free⟩
    · exact .inl before
  | _ => exact .inl known

theorem counters_grow (writes : Writes outside w call write) : w.store.nextOrderId ≤ (write.apply w.store).nextOrderId ∧
    w.store.nextReturnId ≤ (write.apply w.store).nextReturnId := by
  cases writes <;> simp [Write.apply]

theorem invariant_writes (inv : StoreInvariant outside w.store) (writes : Writes outside w call write) :
    StoreInvariant outside (write.apply w.store) := by
  obtain ⟨ordersGrow,returnsGrow⟩ := counters_grow writes
  refine ⟨?_,?_,?_,?_,?_⟩
  · intro key order known
    rcases writes_order_cases inv writes known with ⟨one,before,kept⟩ | ⟨customerId,items,_,rfl,counted,rfl⟩
    · obtain ⟨same,n,below,named⟩ := inv.orderKeys key one before
      exact ⟨kept.orderId.trans same,n,Nat.le_trans below ordersGrow,named⟩
    · exact ⟨rfl,_,Nat.le_of_eq counted.symm,rfl⟩
  · intro key ret known
    rcases writes_return_cases writes known with before | ⟨orderId,items,createdAt,rfl,counted,rfl,free⟩
    · obtain ⟨same,n,below,named⟩ := inv.returnKeys key ret before
      exact ⟨same,n,Nat.le_trans below returnsGrow,named⟩
    · exact ⟨rfl,_,Nat.le_of_eq counted.symm,rfl⟩
  · intro key order known
    rcases writes_order_cases inv writes known with ⟨one,before,kept⟩ | ⟨customerId,items,_,rfl,counted,rfl⟩
    · rcases kept.status with same | ⟨open_,cancelled⟩
      · rw [same]
        exact inv.statuses key one before
      · rw [cancelled]
        exact .inl (by decide)
    · exact .inr (by simp [newOrder,unshipped])
  · intro key order known
    rcases writes_order_cases inv writes known with ⟨one,before,kept⟩ | ⟨customerId,items,_,rfl,counted,rfl⟩
    · rw [kept.total,kept.items]
      exact inv.totals key one before
    · rfl
  · intro key other ret second orderId known found active also
    rcases writes_return_cases writes known with before | ⟨_,items,createdAt,rfl,counted,rfl,free⟩ <;>
      rcases writes_return_cases writes found with earlier | ⟨_,entries,madeAt,rfl,tallied,rfl,open_⟩
    · exact inv.oneActive key other ret second orderId before earlier active also
    · obtain rfl : _ = orderId := by simpa [newReturn] using also.1
      exact absurd active (none_active open_ before)
    · obtain rfl : _ = orderId := by simpa [newReturn] using active.1
      exact absurd also (none_active free earlier)
    · rfl

theorem keyed_get {α : Type} {name : α → String} {values : List α} {value : α}
    (known : (keyed name values).get key = some value) : value ∈ values ∧ name value = key := by
  obtain ⟨one,member,same⟩ := List.mem_map.mp (PyDict.mem_ofList known)
  cases same
  exact ⟨member,rfl⟩

def initialNumbers : List Nat := [12345,67890,11111,22222,33333,44444,55555,66666,77777,88888]

theorem initial_numbers : initialOrders.map (·.orderId) = initialNumbers.map orderKey := rfl

theorem initial_invariant : StoreInvariant outside initialStore := by
  refine ⟨?_,?_,?_,?_,?_⟩
  · intro key order known
    obtain ⟨listed,rfl⟩ := keyed_get known
    have named : order.orderId ∈ initialNumbers.map orderKey := initial_numbers ▸ List.mem_map_of_mem listed
    obtain ⟨n,member,same⟩ := List.mem_map.mp named
    have below : ∀ n ∈ initialNumbers, n ≤ 99000 := by decide
    exact ⟨rfl,n,below n member,same.symm⟩
  · intro key ret known
    obtain ⟨listed,rfl⟩ := keyed_get known
    simp only [initialReturns,List.mem_cons,List.not_mem_nil,or_false] at listed
    rcases listed with rfl | rfl
    · exact ⟨rfl,1,by decide,rfl⟩
    · exact ⟨rfl,2,by decide,rfl⟩
  · intro key order known
    have valid : ∀ order ∈ initialOrders, order.status ∈ settled ∨ order.status ∈ unshipped := by decide +kernel
    exact valid order (keyed_get known).1
  · intro key order known
    have summed (summation : PyFloat.Summation) : ∀ order ∈ initialOrders,
        order.total = PyFloat.sum summation (order.items.map (·.totalPrice)) := by
      cases summation <;> decide +kernel
    exact summed outside.summation order (keyed_get known).1
  · intro key other ret second orderId known found active also
    obtain ⟨listed,rfl⟩ := keyed_get known
    obtain ⟨among,rfl⟩ := keyed_get found
    simp only [initialReturns,List.mem_cons,List.not_mem_nil,or_false] at listed among
    rcases listed with rfl | rfl
    · exact absurd (by decide) active.2
    · rcases among with rfl | rfl
      · exact absurd (by decide) also.2
      · rfl

theorem step_writes (outside : Outside) (call : ServiceCall) (w : World) : ∃ write, Writes outside w call write ∧
    (step outside w call).store = write.apply w.store := by
  obtain ⟨write,writes,ends,_⟩ := perform_writes (ω := Empty) outside call w
  exact ⟨write,writes,ends⟩

theorem step_known (outside : Outside) (inv : StoreInvariant outside w.store) (known : w.store.orders.get key = some order)
    (call : ServiceCall) :
    ∃ kept, (step outside w call).store.orders.get key = some kept ∧ Rewrites outside w key order call kept ∧
      (kept ≠ order → ∀ place, place ≠ key → (step outside w call).store.orders.get place = w.store.orders.get place) := by
  obtain ⟨write,writes,ends⟩ := step_writes outside call w
  rw [ends]
  exact writes_known inv writes known

theorem step_placed (outside : Outside) (w : World) (customerId : Json) (items : List OrderItem) :
    (step outside w (.placeOrder customerId items)).store.orders.get (orderKey (w.store.nextOrderId + 1)) =
      some (newOrder outside (orderKey (w.store.nextOrderId + 1)) customerId items (moment outside w) (nextMoment outside w)) := by
  rw [step,perform,placeOrder_run]
  exact PyDict.get_set_same

theorem step_invariant (w : World) (call : ServiceCall) (inv : StoreInvariant outside w.store) :
    StoreInvariant outside (step outside w call).store := by
  obtain ⟨write,writes,ends⟩ := step_writes outside call w
  rw [ends]
  exact invariant_writes inv writes

theorem reached_invariant (outside : Outside) (calls : List ServiceCall) : StoreInvariant outside (storeAfter outside calls) :=
  invariant (I := fun w : World => StoreInvariant outside w.store) step_invariant initial_invariant

-- What a run keeps of the orders and returns that it started with
def Kept (one later : World) : Prop :=
  OrdersKept one.store.orders later.store.orders ∧ ReturnsKept one.store.returns later.store.returns

theorem run_kept (inv : StoreInvariant outside w.store) (calls : List ServiceCall) : Kept w (after (step outside) w calls) := by
  refine related (I := fun w : World => StoreInvariant outside w.store) (fun w => ⟨ordersKept_refl _,fun _ _ known => known⟩) ?_
    step_invariant ?_ inv
  · exact fun a b c first second => ⟨first.1.trans second.1,fun key ret known => second.2 key ret (first.2 key ret known)⟩
  · intro w call inv
    obtain ⟨write,writes,ends⟩ := step_writes outside call w
    rw [Kept,ends]
    exact ⟨writes_orders inv writes,writes_returns inv writes⟩

end

def answer (outside : Outside) (w : World) (call : ServiceCall) : Except PyError ServiceValue :=
  ((perform outside call : MockRun Empty ServiceValue) w).value

-- A call in a state that operations lead to, and what follows it
structure MockStoreSound (outside : Outside) (calls : List ServiceCall) (call : ServiceCall) (later : List ServiceCall) : Prop where
  placed : ∀ customerId items, call = .placeOrder customerId items → ∃ order,
    answer outside (worldAfter outside calls) call = .ok (.order order) ∧
    (storeAfter outside calls).orders.get order.orderId = none ∧
    (storeAfter outside (calls ++ [call])).orders.get order.orderId = some order ∧
    order.customerId = customerId ∧ order.items = items
  returned : ∀ orderId items reason result, call = .initiateReturn orderId items reason →
    answer outside (worldAfter outside calls) call = .ok (.returnInitiation result) →
    (storeAfter outside calls).returns.get result.returnId = none ∧
    ∃ ret, (storeAfter outside (calls ++ [call])).returns.get result.returnId = some ret ∧
      ret.orderId = orderId ∧ ret.items = items
  orders : OrdersKept (storeAfter outside calls).orders (storeAfter outside (calls ++ later)).orders
  returns : ReturnsKept (storeAfter outside calls).returns (storeAfter outside (calls ++ later)).returns
  oneActive : ∀ key other ret second orderId, (storeAfter outside calls).returns.get key = some ret →
    (storeAfter outside calls).returns.get other = some second → Active orderId ret → Active orderId second → key = other
  totals : ∀ key order, (storeAfter outside calls).orders.get key = some order →
    order.total = outside.sum (order.items.map (·.totalPrice))
  failures : Failed (answer outside (worldAfter outside calls) call) →
    storeAfter outside (calls ++ [call]) = storeAfter outside calls

theorem storeAfter_last (outside : Outside) (calls : List ServiceCall) (call : ServiceCall) :
    storeAfter outside (calls ++ [call]) = (step outside (worldAfter outside calls) call).store := by
  rw [storeAfter,worldAfter,after_last]
  rfl

theorem mock_store_state_machine (outside : Outside) (calls : List ServiceCall) (call : ServiceCall) (later : List ServiceCall) :
    MockStoreSound outside calls call later := by
  have inv := reached_invariant outside calls
  refine ⟨?_,?_,?_,?_,inv.oneActive,inv.totals,?_⟩
  · rintro customerId items rfl
    rw [storeAfter_last]
    unfold answer step
    rw [perform,placeOrder_run]
    exact ⟨_,rfl,order_unused inv,PyDict.get_set_same,rfl,rfl⟩
  · rintro orderId items reason result rfl made
    rw [storeAfter_last]
    unfold answer at made
    unfold step
    rw [perform] at made ⊢
    by_cases closed : ∀ key, orderId = .str key → ¬ Returnable (worldAfter outside calls).store key
    · obtain ⟨e,refused⟩ := initiateReturn_closed (ω := Empty) outside orderId items reason closed
      rw [refused] at made
      cases made
    · push Not at closed
      obtain ⟨key,rfl,returnable⟩ := closed
      obtain ⟨given,createdAt,readings,drawn,run,numbered⟩ := initiateReturn_open (ω := Empty) outside returnable items reason
      rw [run] at made ⊢
      cases made
      rw [numbered]
      exact ⟨return_unused inv,_,PyDict.get_set_same,rfl,rfl⟩
  · rw [storeAfter,storeAfter,worldAfter,worldAfter,after_append]
    exact (run_kept inv later).1
  · rw [storeAfter,storeAfter,worldAfter,worldAfter,after_append]
    exact (run_kept inv later).2
  · intro failed
    rw [storeAfter_last]
    obtain ⟨write,writes,ends,same | succeeded⟩ := perform_writes (ω := Empty) outside call (worldAfter outside calls)
    · rw [step,ends,same]
      rfl
    · exact absurd failed succeeded

end Sophia.MockServices
