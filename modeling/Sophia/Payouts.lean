import Sophia.ShippingAddress

namespace Sophia.MockServices
open TracedRun Json PyText ServiceModels StepRun

-- Money that an answer reports as paid back
structure Payout where
  orderId : Json
  amount : PyFloat
  refund : Bool

def payoutOf : Except PyError ServiceValue → Option Payout
  | .ok (.refund result) => if result.status = "processed" then some ⟨.str result.orderId,result.amount,true⟩ else none
  | .ok (.cancellation result) => if result.success then result.refundAmount.map (⟨result.orderId,·,false⟩) else none
  | _ => none

-- The services with what they have paid back so far
structure Till where
  world : World
  payouts : List Payout := []

def Till.amounts (till : Till) (key : String) : List PyFloat :=
  (till.payouts.filter fun payout => payout.orderId.isStr key).map (·.amount)

-- What the order has got back, as a number
def Till.paid (till : Till) (key : String) : PyFloat := PyFloat.total (till.amounts key)

def pay (outside : Outside) (till : Till) (call : ServiceCall) : Till where
  world := step outside till.world call
  payouts := till.payouts ++ (payoutOf (answer outside till.world call)).toList

-- Refunds are of something, and no order has got back more than its total.
structure MoneyBack (till : Till) : Prop where
  positive : ∀ payout ∈ till.payouts, payout.refund = true → PyFloat.less (.finite 0) payout.amount = true
  covered : ∀ key order, till.world.store.orders.get key = some order → (till.paid key).atMost order.total = true

-- The order has got nothing back, or there is no end to its total.
def Untouched (till : Till) (key : String) (total : PyFloat) : Prop :=
  total = .infinite false ∨ ∀ payout ∈ till.payouts, payout.orderId.isStr key = false

-- What the money back needs of a call
def Affordable (outside : Outside) (till : Till) : ServiceCall → Prop
  | .processPartialRefund (.str key) amount _ => ∀ order value, till.world.store.orders.get key = some order →
      numeric amount = some value → order.total.less value = false →
      PyFloat.less (.finite 0) value = true ∧ ((till.paid key).plus value).atMost order.total = true
  | .processFullRefund (.str key) _ => ∀ order, till.world.store.orders.get key = some order →
      PyFloat.less (.finite 0) order.total = true ∧ Untouched till key order.total
  | .cancelOrder (.str key) _ => ∀ order, till.world.store.orders.get key = some order → order.status ∉ settled →
      Untouched till key order.total
  | .placeOrder _ items => PyFloat.atMost (.finite 0) (outside.sum (items.map (·.totalPrice))) = true
  | _ => True

-- The payouts that a call can make
inductive Pays (w : World) : ServiceCall → Payout → Prop where
  | part : w.store.orders.get key = some order → numeric amount = some value → order.total.less value = false →
      Pays w (.processPartialRefund (.str key) amount reason) ⟨.str key,value,true⟩
  | whole : w.store.orders.get key = some order → Pays w (.processFullRefund (.str key) reason) ⟨.str key,order.total,true⟩
  | cancelled : w.store.orders.get key = some order → order.status ∉ settled →
      Pays w (.cancelOrder (.str key) reason) ⟨.str key,order.total,false⟩

-- Every payout is of an order of the store, which a cancellation has settled for its total.
structure TillInvariant (outside : Outside) (till : Till) : Prop where
  store : StoreInvariant outside till.world.store
  named : ∀ payout ∈ till.payouts, ∃ key order, payout.orderId = .str key ∧ till.world.store.orders.get key = some order ∧
    (payout.refund = false → payout.amount = order.total ∧ order.status ∈ settled)

section
variable {outside : Outside} {till : Till} {w : World} {call : ServiceCall} {key : String}

theorem total_snoc (values : List PyFloat) (value : PyFloat) :
    PyFloat.total (values ++ [value]) = (PyFloat.total values).plus value := by
  simp [PyFloat.total]

theorem pay_paid (till : Till) (call : ServiceCall) (key : String) : (pay outside till call).paid key =
    match payoutOf (answer outside till.world call) with
    | some payout => if payout.orderId.isStr key then (till.paid key).plus payout.amount else till.paid key
    | none => till.paid key := by
  unfold Till.paid Till.amounts pay
  cases payoutOf (answer outside till.world call) with
  | none => simp
  | some payout => by_cases own : payout.orderId.isStr key = true <;> simp [own,total_snoc,List.filter_append]

theorem less_zero {x : PyFloat} : PyFloat.less (.finite 0) x = true ↔ x = .infinite false ∨ ∃ value, 0 < value ∧ x = .finite value := by
  cases x with
  | finite value => simp [PyFloat.less]
  | infinite negative => cases negative <;> simp [PyFloat.less]
  | nan => simp [PyFloat.less]

theorem plus_positive {x y : PyFloat} (first : PyFloat.less (.finite 0) x = true) (second : PyFloat.less (.finite 0) y = true) :
    PyFloat.less (.finite 0) (x.plus y) = true := by
  rw [less_zero] at *
  rcases first with rfl | ⟨p,above,rfl⟩ <;> rcases second with rfl | ⟨q,beyond,rfl⟩
  · exact .inl rfl
  · exact .inl rfl
  · exact .inl rfl
  · exact .inr ⟨p + q,by linarith,rfl⟩

theorem total_positive {values : List PyFloat} (some_ : values ≠ [])
    (positive : ∀ value ∈ values, PyFloat.less (.finite 0) value = true) :
    PyFloat.less (.finite 0) (PyFloat.total values) = true := by
  induction values using List.reverseRecOn with
  | nil => exact absurd rfl some_
  | append_singleton values value ih =>
    have last := positive value (by simp)
    rw [total_snoc]
    by_cases first : values = []
    · subst first
      obtain rfl | ⟨x,above,rfl⟩ := less_zero.mp last
      · rfl
      · exact less_zero.mpr (.inr ⟨0 + x,by linarith,rfl⟩)
    · exact plus_positive (ih first fun other among => positive other (List.mem_append_left _ among)) last

theorem amounts_untouched : till.amounts key = [] ↔ ∀ payout ∈ till.payouts, payout.orderId.isStr key = false := by
  simp [Till.amounts]

-- On top of what is above zero the whole total is too much, unless it has no end.
theorem paid_whole {total : PyFloat} (positive : ∀ amount ∈ till.amounts key, PyFloat.less (.finite 0) amount = true)
    (least : PyFloat.atMost (.finite 0) total = true) :
    ((till.paid key).plus total).atMost total = true ↔ Untouched till key total := by
  unfold Untouched Till.paid
  rw [← amounts_untouched]
  have real : total ≠ .nan := by
    rintro rfl
    cases least
  by_cases free : till.amounts key = []
  · rw [free]
    refine iff_of_true ?_ (.inr rfl)
    cases total with
    | finite value => simp [PyFloat.total,PyFloat.plus,PyFloat.atMost,PyFloat.less]
    | infinite negative => cases negative <;> rfl
    | nan => exact absurd rfl real
  · rw [or_iff_left free]
    rcases less_zero.mp (total_positive free positive) with endless | ⟨value,above,paid⟩
    · rw [endless]
      cases total with
      | finite value => simp [PyFloat.plus,PyFloat.atMost,PyFloat.less]
      | infinite negative => cases negative <;> first | rfl | simp [PyFloat.plus,PyFloat.atMost,PyFloat.less]
      | nan => exact absurd rfl real
    · rw [paid]
      cases total with
      | finite whole => simp [PyFloat.plus,PyFloat.atMost,PyFloat.less,above]
      | infinite negative =>
        cases negative with
        | false => exact iff_of_true rfl rfl
        | true => cases least
      | nan => exact absurd rfl real

-- The operations that pay nothing back
def pays : ServiceCall → Bool
  | .cancelOrder _ _ => true
  | .processPartialRefund _ _ _ => true
  | .processFullRefund _ _ => true
  | _ => false

theorem perform_pays_nothing {ω : Type} (free : pays call = false) :
    Yields (fun value => payoutOf (.ok value) = none) (perform outside call : MockRun ω ServiceValue) := by
  cases call with
  | getOrder orderId =>
    refine .bind fun _ => .bind fun order => .pure ?_
    cases order <;> rfl
  | getOrderStatus orderId =>
    refine .bind fun _ => .bind fun order => ?_
    cases order <;> exact .pure rfl
  | searchOrdersByCustomer customerId limit => exact .bind fun _ => .bind fun _ => .pure rfl
  | updateOrder orderId changes => exact .bind fun _ => .bind fun _ => .bind fun _ => .bind fun _ => .pure rfl
  | placeOrder customerId items =>
    exact .bind fun _ => .bind fun _ => .bind fun _ => .bind fun _ => .bind fun _ => .pure rfl
  | getCustomer customerId =>
    refine .bind fun _ => .bind fun customer => .pure ?_
    cases customer <;> rfl
  | searchCustomers query => exact .bind fun _ => .bind fun _ => .bind fun _ => .pure rfl
  | getCustomerHistory customerId => exact .bind fun _ => .bind fun _ => .pure rfl
  | checkStock productId => exact .bind fun _ => .ite (.bind fun _ => .pure rfl) (.pure rfl)
  | getProductDetails productId =>
    refine .bind fun _ => .bind fun product => .pure ?_
    cases product <;> rfl
  | checkWarrantyStatus orderId productId =>
    refine .bind fun _ => .bind fun _ => .bind fun _ => .ite ?_ (.raise _)
    exact .bind fun _ => .bind fun _ => .pure rfl
  | trackShipment orderId =>
    refine .bind fun _ => .bind fun shipment => .pure ?_
    cases shipment <;> rfl
  | getShippingOptions orderId => exact .pure rfl
  | updateShippingAddress orderId newAddress =>
    refine .bind fun _ => .bind fun found => ?_
    cases found with
    | none => exact .pure rfl
    | some entry => exact .ite (.bind fun _ => .bind fun _ => .pure rfl) (.pure rfl)
  | generateReturnLabel orderId reason =>
    exact .bind fun _ => .bind fun _ => .bind fun _ => .bind fun _ => .bind fun _ => .bind fun _ => .pure rfl
  | applyDiscount customerId percent reason =>
    exact .bind fun _ => .bind fun _ => .bind fun _ => .bind fun _ => .bind fun _ => .pure rfl
  | applyFreeShipping customerId orderId reason => exact .bind fun _ => .bind fun _ => .pure rfl
  | generateCoupon customerId params =>
    exact .bind fun _ => .bind fun _ => .bind fun _ => .bind fun _ => .bind fun _ => .pure rfl
  | initiateReturn orderId items reason =>
    refine .bind fun _ => .bind fun _ => .ite (.raise _) (.bind fun _ => .ite (.raise _) (.ite (.raise _) ?_))
    exact .bind fun _ => .bind fun _ => .bind fun _ => .bind fun _ => .bind fun _ => .pure rfl
  | checkReturnStatus returnId =>
    refine .bind fun _ => .bind fun ret => .pure ?_
    cases ret <;> rfl
  | cancelOrder orderId reason => cases free
  | processPartialRefund orderId amount reason => cases free
  | processFullRefund orderId reason => cases free

theorem answer_pays_nothing (free : pays call = false) : payoutOf (answer outside w call) = none := by
  cases returned : answer outside w call with
  | error e => rfl
  | ok value => exact perform_pays_nothing (ω := Empty) free w value returned

theorem partial_known (known : w.store.orders.get key = some order) (amount : Argument) (reason : Json) :
    payoutOf (answer outside w (.processPartialRefund (.str key) amount reason)) = match numeric amount with
      | none => none
      | some value => if order.total.less value then none else some ⟨.str key,value,true⟩ := by
  unfold answer
  rw [perform,processPartialRefund,read_bind,demand_found known,lift_bind_ok]
  dsimp only
  cases numeric amount with
  | none => rfl
  | some value =>
    by_cases exceeds : order.total.less value = true
    · obtain ⟨e,raised⟩ := refuseAbove_raises order.total value
      simp [exceeds,raised,payoutOf]
    · simp only [if_neg exceeds]
      rfl

theorem full_known (outside : Outside) (known : w.store.orders.get key = some order) (reason : Json) :
    payoutOf (answer outside w (.processFullRefund (.str key) reason)) = some ⟨.str key,order.total,true⟩ := by
  unfold answer
  rw [perform,processFullRefund,read_bind,demand_found known,lift_bind_ok]
  rfl

theorem failed_pays_nothing (failed : Failed value) : payoutOf value = none := by
  rcases value with e | value
  · rfl
  · cases value with
    | cancellation result =>
      have unsuccessful : result.success = false := failed
      simp [payoutOf,unsuccessful]
    | refund result => exact failed.elim
    | _ => rfl

theorem cancel_open (outside : Outside) (known : w.store.orders.get key = some order) (open_ : order.status ∉ settled)
    (reason : Json) :
    payoutOf (answer outside w (.cancelOrder (.str key) reason)) = some ⟨.str key,order.total,false⟩ := by
  rw [answer,perform,cancelOrder_open known open_]
  rfl

theorem cancel_closed
    (closed : ∀ key order, orderId = .str key → w.store.orders.get key = some order → order.status ∈ settled)
    (reason : Json) : payoutOf (answer outside w (.cancelOrder orderId reason)) = none :=
  failed_pays_nothing (cancelOrder_closed orderId reason closed).2

-- Where a payout comes from
theorem payout_pays (paid : payoutOf (answer outside w call) = some payout) : Pays w call payout := by
  by_cases free : pays call = false
  · rw [answer_pays_nothing free] at paid
    cases paid
  · cases call with
    | processPartialRefund orderId amount reason =>
      rcases demand_cases outside "Order" w.store.orders orderId with ⟨key,order,rfl,known⟩ | ⟨e,raised⟩
      · rw [partial_known known] at paid
        cases counted : numeric amount with
        | none => simp [counted] at paid
        | some value =>
          by_cases exceeds : order.total.less value = true
          · simp [counted,exceeds] at paid
          · simp only [counted,if_neg exceeds,Option.some.injEq] at paid
            subst paid
            exact .part known counted (by simpa using exceeds)
      · simp [answer,perform,processPartialRefund,raised,payoutOf] at paid
    | processFullRefund orderId reason =>
      rcases demand_cases outside "Order" w.store.orders orderId with ⟨key,order,rfl,known⟩ | ⟨e,raised⟩
      · rw [full_known outside known] at paid
        cases paid
        exact .whole known
      · simp [answer,perform,processFullRefund,raised,payoutOf] at paid
    | cancelOrder orderId reason =>
      by_cases closed : ∀ key order, orderId = .str key → w.store.orders.get key = some order → order.status ∈ settled
      · rw [cancel_closed closed] at paid
        cases paid
      · push Not at closed
        obtain ⟨key,order,rfl,known,open_⟩ := closed
        rw [cancel_open outside known open_] at paid
        cases paid
        exact .cancelled known open_
    | _ => exact absurd rfl free

theorem Pays.named (paid : Pays w call payout) :
    ∃ key order, payout.orderId = .str key ∧ w.store.orders.get key = some order := by
  cases paid with
  | part known counted within => exact ⟨_,_,rfl,known⟩
  | whole known => exact ⟨_,_,rfl,known⟩
  | cancelled known open_ => exact ⟨_,_,rfl,known⟩

-- A key that was not in use is that of a placed order.
theorem placed_only (inv : StoreInvariant outside w.store) (absent : w.store.orders.get key = none)
    (present : (step outside w call).store.orders.get key = some order) : ∃ customerId items,
    call = .placeOrder customerId items ∧ order.total = outside.sum (items.map (·.totalPrice)) := by
  obtain ⟨write,writes,ends⟩ := step_writes outside call w
  rw [ends] at present
  rcases writes_order_cases inv writes present with ⟨one,known,_⟩ | ⟨customerId,items,called,_,_,rfl⟩
  · rw [absent] at known
    cases known
  · exact ⟨customerId,items,called,rfl⟩

-- A cancellation pays the total and settles the order.
theorem paid_settled (paid : payoutOf (answer outside w call) = some payout) (cancellation : payout.refund = false) :
    ∃ key order, payout.orderId = .str key ∧ payout.amount = order.total ∧
      w.store.orders.get key = some order ∧ ∃ kept, (step outside w call).store.orders.get key = some kept ∧
        kept.total = order.total ∧ kept.status ∈ settled := by
  cases payout_pays paid with
  | part known counted within => cases cancellation
  | whole known => cases cancellation
  | @cancelled key order _ known open_ =>
    refine ⟨key,order,rfl,rfl,known,{order with status := "cancelled",updatedAt := moment outside w},?_,rfl,by simp [settled]⟩
    rw [step,perform,cancelOrder_open known open_]
    exact PyDict.get_set_same

theorem till_kept (till : Till) (call : ServiceCall) (inv : TillInvariant outside till) :
    TillInvariant outside (pay outside till call) := by
  refine ⟨step_invariant _ _ inv.store,fun payout listed => ?_⟩
  rcases List.mem_append.mp listed with before | now
  · obtain ⟨key,order,named,known,whole⟩ := inv.named payout before
    obtain ⟨kept,there,rewrites,_⟩ := step_known outside inv.store known call
    have same := rewrites.kept inv.store known
    refine ⟨key,kept,named,there,fun cancellation => ?_⟩
    obtain ⟨amount,closed⟩ := whole cancellation
    refine ⟨amount.trans same.total.symm,?_⟩
    rcases same.status with status | ⟨_,cancelled⟩
    · rw [status]
      exact closed
    · rw [cancelled]
      decide
  · have paid := Option.mem_toList.mp now
    cases refund : payout.refund with
    | true =>
      obtain ⟨key,order,named,known⟩ := (payout_pays paid).named
      obtain ⟨kept,there,_⟩ := step_known outside inv.store known call
      exact ⟨key,kept,named,there,nofun⟩
    | false =>
      obtain ⟨key,order,named,amount,_,kept,there,total,closed⟩ := paid_settled paid refund
      exact ⟨key,kept,named,there,fun _ => ⟨amount.trans total.symm,closed⟩⟩

theorem unpaid (inv : TillInvariant outside till) (absent : till.world.store.orders.get key = none) :
    till.paid key = .finite 0 := by
  have untouched : till.amounts key = [] := by
    refine amounts_untouched.mpr fun payout listed => Bool.eq_false_iff.mpr fun own => ?_
    obtain ⟨other,order,named,known,_⟩ := inv.named payout listed
    rw [named,isStr_iff] at own
    cases own
    rw [absent] at known
    cases known
  rw [Till.paid,untouched]
  rfl

-- One step keeps the money back in order when its payout does, and the order it places.
structure Fits (outside : Outside) (till : Till) (call : ServiceCall) (payout : Option Payout) : Prop where
  positive : ∀ paid, payout = some paid → paid.refund = true → PyFloat.less (.finite 0) paid.amount = true
  covered : ∀ paid key order, payout = some paid → paid.orderId = .str key → till.world.store.orders.get key = some order →
    ((till.paid key).plus paid.amount).atMost order.total = true
  placed : ∀ customerId items, call = .placeOrder customerId items →
    PyFloat.atMost (.finite 0) (outside.sum (items.map (·.totalPrice))) = true

theorem fits_kept (inv : TillInvariant outside till) (back : MoneyBack till)
    (fits : Fits outside till call (payoutOf (answer outside till.world call))) : MoneyBack (pay outside till call) := by
  constructor
  · intro payout listed refund
    rcases List.mem_append.mp listed with before | now
    · exact back.positive payout before refund
    · exact fits.positive payout (Option.mem_toList.mp now) refund
  · intro key order present
    rw [pay_paid]
    cases known : till.world.store.orders.get key with
    | none =>
      obtain ⟨customerId,items,rfl,total⟩ := placed_only inv.store known present
      rw [answer_pays_nothing rfl,unpaid inv known,total]
      exact fits.placed customerId items rfl
    | some one =>
      obtain ⟨kept,there,rewrites,_⟩ := step_known outside inv.store known call
      cases there.symm.trans present
      rw [(rewrites.kept inv.store known).total]
      cases paid : payoutOf (answer outside till.world call) with
      | none => exact back.covered key one known
      | some payout =>
        by_cases own : payout.orderId.isStr key = true
        · simp only [own,if_true]
          exact fits.covered payout key one paid (isStr_iff.mp own) known
        · simp only [own]
          exact back.covered key one known

theorem kept_fits (inv : TillInvariant outside till) (back : MoneyBack (pay outside till call)) :
    Fits outside till call (payoutOf (answer outside till.world call)) := by
  refine ⟨fun payout paid refund => ?_,fun payout key order paid named known => ?_,?_⟩
  · exact back.positive payout (List.mem_append_right _ (Option.mem_toList.mpr paid)) refund
  · obtain ⟨kept,there,rewrites,_⟩ := step_known outside inv.store known call
    have same := rewrites.kept inv.store known
    have covered := back.covered key kept there
    have own : payout.orderId.isStr key = true := isStr_iff.mpr named
    rw [pay_paid,paid] at covered
    simpa [own,same.total] using covered
  · rintro customerId items rfl
    have covered := back.covered _ _ (step_placed outside till.world customerId items)
    rw [pay_paid,answer_pays_nothing rfl,unpaid inv (order_unused inv.store)] at covered
    exact covered

theorem least_of_less {total : PyFloat} (above : PyFloat.less (.finite 0) total = true) :
    PyFloat.atMost (.finite 0) total = true := by
  rcases less_zero.mp above with rfl | ⟨value,positive,rfl⟩
  · rfl
  · simp [PyFloat.atMost,PyFloat.less,positive.le]

theorem least_of_paid {paid total : PyFloat} (above : PyFloat.less (.finite 0) paid = true)
    (covered : paid.atMost total = true) : PyFloat.atMost (.finite 0) total = true := by
  rcases less_zero.mp above with rfl | ⟨value,positive,rfl⟩
  · cases total with
    | finite x => cases covered
    | infinite negative => cases negative <;> first | rfl | cases covered
    | nan => cases covered
  · cases total with
    | finite x =>
      simp only [PyFloat.atMost,PyFloat.less,Bool.not_eq_true',decide_eq_false_iff_not,not_lt] at covered ⊢
      linarith
    | infinite negative => cases negative <;> first | rfl | cases covered
    | nan => cases covered

-- What an order has got back, as long as it can still be cancelled or its total is worth something
theorem amounts_positive (inv : TillInvariant outside till) (back : MoneyBack till)
    (known : till.world.store.orders.get key = some order)
    (whole : PyFloat.less (.finite 0) order.total = true ∨ order.status ∉ settled) :
    ∀ amount ∈ till.amounts key, PyFloat.less (.finite 0) amount = true := by
  intro amount among
  obtain ⟨payout,listed,rfl⟩ := List.mem_map.mp among
  obtain ⟨listed,own⟩ := List.mem_filter.mp listed
  cases refund : payout.refund with
  | true => exact back.positive payout listed refund
  | false =>
    obtain ⟨other,one,named,there,settles⟩ := inv.named payout listed
    rw [named,isStr_iff] at own
    cases own
    cases known.symm.trans there
    obtain ⟨amount,closed⟩ := settles refund
    rw [amount]
    exact whole.resolve_right fun open_ => open_ closed

theorem open_least (inv : TillInvariant outside till) (back : MoneyBack till)
    (known : till.world.store.orders.get key = some order) (open_ : order.status ∉ settled) :
    PyFloat.atMost (.finite 0) order.total = true := by
  have covered := back.covered key order known
  by_cases free : till.amounts key = []
  · rw [Till.paid,free] at covered
    exact covered
  · exact least_of_paid (total_positive free (amounts_positive inv back known (.inr open_))) covered

theorem full_iff (inv : TillInvariant outside till) (back : MoneyBack till)
    (known : till.world.store.orders.get key = some order) (worth : PyFloat.less (.finite 0) order.total = true) :
    ((till.paid key).plus order.total).atMost order.total = true ↔ Untouched till key order.total :=
  paid_whole (amounts_positive inv back known (.inl worth)) (least_of_less worth)

theorem cancel_iff (inv : TillInvariant outside till) (back : MoneyBack till)
    (known : till.world.store.orders.get key = some order) (open_ : order.status ∉ settled) :
    ((till.paid key).plus order.total).atMost order.total = true ↔ Untouched till key order.total :=
  paid_whole (amounts_positive inv back known (.inr open_)) (open_least inv back known open_)

theorem affordable_fits (inv : TillInvariant outside till) (back : MoneyBack till)
    (affordable : Affordable outside till call) : Fits outside till call (payoutOf (answer outside till.world call)) := by
  refine ⟨fun payout paid refund => ?_,fun payout key order paid named there => ?_,?_⟩
  · cases payout_pays paid with
    | part known counted within => exact (affordable _ _ known counted within).1
    | whole known => exact (affordable _ known).1
    | cancelled known open_ => cases refund
  · cases payout_pays paid with
    | part known counted within =>
      cases named
      cases known.symm.trans there
      exact (affordable _ _ known counted within).2
    | whole known =>
      cases named
      cases known.symm.trans there
      obtain ⟨worth,untouched⟩ := affordable _ known
      exact (full_iff inv back known worth).mpr untouched
    | cancelled known open_ =>
      cases named
      cases known.symm.trans there
      exact (cancel_iff inv back known open_).mpr (affordable _ known open_)
  · rintro customerId items rfl
    exact affordable

theorem fits_affordable (inv : TillInvariant outside till) (back : MoneyBack till)
    (fits : Fits outside till call (payoutOf (answer outside till.world call))) : Affordable outside till call := by
  unfold Affordable
  split
  · next key amount reason =>
    intro order value known counted within
    have paid : payoutOf (answer outside till.world (.processPartialRefund (.str key) amount reason)) =
        some ⟨.str key,value,true⟩ := by
      rw [partial_known known,counted]
      simp [within]
    exact ⟨fits.positive _ paid rfl,fits.covered _ key order paid rfl known⟩
  · next key reason =>
    intro order known
    have paid := full_known outside known reason
    have worth := fits.positive _ paid rfl
    exact ⟨worth,(full_iff inv back known worth).mp (fits.covered _ key order paid rfl known)⟩
  · next key reason =>
    intro order known open_
    have paid := cancel_open outside known open_ reason
    exact (cancel_iff inv back known open_).mp (fits.covered _ key order paid rfl known)
  · next customerId items => exact fits.placed customerId items rfl
  · trivial

end

def opened : Till := {world := initialWorld}

theorem opened_invariant : TillInvariant outside opened := ⟨initial_invariant,fun _ => nofun⟩

theorem opened_back : MoneyBack opened := by
  refine ⟨fun _ => nofun,fun key order known => ?_⟩
  have worth : ∀ order ∈ initialOrders, PyFloat.atMost (.finite 0) order.total = true := by decide +kernel
  exact worth order (keyed_get known).1

theorem money_back_within_paid (outside : Outside) (calls : List ServiceCall) :
    Always (pay outside) MoneyBack opened calls ↔ Along (pay outside) (Affordable outside) opened calls := by
  refine exact till_kept (fun till call inv back => ?_) opened_invariant opened_back
  constructor
  · exact fun later => fits_affordable inv back (kept_fits inv later)
  · exact fun affordable => fits_kept inv back (affordable_fits inv back affordable)

-- The whole total twice, each within the order's total
def refundTwice : List ServiceCall :=
  [.processFullRefund (.str (orderKey 12345)) .null,.processPartialRefund (.str (orderKey 12345)) (.float (.finite 100)) .null]

theorem paid_back_twice : ¬ Always (pay shopClock) MoneyBack opened refundTwice := by
  intro always
  have covered := (always refundTwice [] rfl).covered (orderKey 12345)
  revert covered
  decide +kernel

end Sophia.MockServices
