import Sophia.ShippingAddress

namespace Sophia.MockServices
open TracedRun Json PyText ServiceModels StepRun

-- initiate_return raises for the order, whatever the items and the reason.
def Refuses (outside : Outside) (key : String) (w : World) : Prop :=
  ∀ items reason, ∃ e, answer outside w (.initiateReturn (.str key) items reason) = .error e

-- A delivered order that is refused for the 30 days
def Expired (store : MockDataStore) (key : String) : Prop := ∃ order elapsed, store.orders.get key = some order ∧
  order.status = "delivered" ∧ daysSince order.updatedAt = .ok elapsed ∧ 30 < elapsed

-- An update_order of the order, read at most 30 days before NOW or later, while none of its returns is open
def Reopens (outside : Outside) (key : String) (w : World) (call : ServiceCall) : Prop :=
  (∃ changes, call = .updateOrder (.str key) changes) ∧ noon - days 31 < outside.now w.readings ∧
  activeReturns w.store key = []

-- The store's order of the key is a delivered one.
def Delivered (outside : Outside) (key : String) (w : World) : Prop :=
  StoreInvariant outside w.store ∧ ∃ order, w.store.orders.get key = some order ∧ order.status = "delivered"

section
variable {outside : Outside} {w : World} {call : ServiceCall} {key : String}

theorem refuses_iff : Refuses outside key w ↔ ¬ Returnable w.store key := by
  constructor
  · intro refuses returnable
    obtain ⟨e,raised⟩ := refuses [] .null
    obtain ⟨result,createdAt,readings,drawn,run,_⟩ := initiateReturn_open (ω := Empty) outside returnable [] .null
    rw [answer,perform,run] at raised
    cases raised
  · intro closed items reason
    obtain ⟨e,refused⟩ := initiateReturn_closed (ω := Empty) outside (w := w) (.str key) items reason fun other same => by
      cases same
      exact closed
    exact ⟨e,by rw [answer,perform,refused]⟩

theorem expired_refuses (expired : Expired w.store key) : Refuses outside key w := by
  obtain ⟨order,elapsed,known,delivered,since,late⟩ := expired
  rw [refuses_iff]
  rintro ⟨other,within,found,_,counted,early,_⟩
  rw [known] at found
  cases found
  rw [since] at counted
  cases counted
  omega

theorem daysSince_moment (outside : Outside) (w : World) : ∃ elapsed, daysSince (moment outside w) = .ok elapsed ∧
    (elapsed ≤ 30 ↔ noon - days 31 < outside.now w.readings) := by
  refine ⟨_,rfl,?_⟩
  unfold noon days
  omega

theorem delivered_settled {order : Order} (delivered : order.status = "delivered") : order.status ∈ settled := by
  rw [delivered]
  decide

theorem delivered_kept (w : World) (call : ServiceCall) (here : Delivered outside key w) :
    Delivered outside key (step outside w call) := by
  obtain ⟨inv,order,known,delivered⟩ := here
  obtain ⟨kept,present,rewrites,_⟩ := step_known outside inv known call
  refine ⟨step_invariant w call inv,kept,present,?_⟩
  rcases (rewrites.kept inv known).status with status | ⟨open_,_⟩
  · exact status.trans delivered
  · exact absurd (delivered_settled delivered) (unshipped_open open_)

-- A return that is open stays open.
theorem active_stays (inv : StoreInvariant outside w.store) (free : activeReturns (step outside w call).store key = []) :
    activeReturns w.store key = [] := by
  obtain ⟨write,writes,ends⟩ := step_writes outside call w
  rw [ends] at free
  refine List.eq_nil_iff_forall_not_mem.mpr fun ret listed => ?_
  obtain ⟨⟨other,known⟩,active⟩ := mem_activeReturns.mp listed
  exact none_active free (writes_returns inv writes other ret known) active

-- What a call leaves of an order that stays refused, unless it is such an update
theorem refuses_kept (inv : StoreInvariant outside w.store) (known : w.store.orders.get key = some order)
    (delivered : order.status = "delivered") (refused : ¬ Returnable w.store key) (closed : ¬ Reopens outside key w call) :
    ¬ Returnable (step outside w call).store key := by
  rintro ⟨later,elapsed,present,_,since,within,free⟩
  have before := active_stays inv free
  obtain ⟨kept,there,rewrites,_⟩ := step_known outside inv known call
  cases there.symm.trans present
  cases rewrites with
  | same => exact refused ⟨order,elapsed,known,delivered,since,within,before⟩
  | cancelled open_ => exact open_ (delivered_settled delivered)
  | @updated changes =>
    obtain ⟨counted,read,recent⟩ := daysSince_moment outside w
    rw [read] at since
    cases since
    exact closed ⟨⟨changes,rfl⟩,recent.mp within,before⟩
  | readdressed pending => exact unshipped_open pending (delivered_settled delivered)

theorem reopens_returnable (known : w.store.orders.get key = some order) (delivered : order.status = "delivered")
    (reopens : Reopens outside key w call) : Returnable (step outside w call).store key := by
  obtain ⟨⟨changes,rfl⟩,recent,free⟩ := reopens
  obtain ⟨elapsed,since,within⟩ := daysSince_moment outside w
  have present : (step outside w (.updateOrder (.str key) changes)).store.orders.get key = some {order with
      shippingAddress := changes.shippingAddress.or order.shippingAddress,updatedAt := moment outside w} := by
    unfold step
    rw [perform,updateOrder_known known]
    exact PyDict.get_set_same
  refine ⟨_,elapsed,present,delivered,since,within.mpr recent,?_⟩
  unfold step
  rw [perform,updateOrder_known known]
  exact free

-- While a return of the order is on its way no update reopens the order.
theorem busy_closed (inv : StoreInvariant outside w.store) (busy : activeReturns w.store key ≠ []) (calls : List ServiceCall) :
    Along (step outside) (fun w call => ¬ Reopens outside key w call) w calls := by
  intro earlier call later _ reopens
  have kept : StoreInvariant outside (after (step outside) w earlier).store ∧
      activeReturns (after (step outside) w earlier).store key ≠ [] :=
    invariant (I := fun w => StoreInvariant outside w.store ∧ activeReturns w.store key ≠ [])
      (fun w call here => ⟨step_invariant w call here.1,mt (active_stays here.1) here.2⟩) ⟨inv,busy⟩
  exact kept.2 reopens.2.2

end

theorem return_window_stays_expired (outside : Outside) (earlier : List ServiceCall) (key : String)
    (expired : Expired (storeAfter outside earlier) key) (later : List ServiceCall) :
    Always (step outside) (Refuses outside key) (worldAfter outside earlier) later ↔
      Along (step outside) (fun w call => ¬ Reopens outside key w call) (worldAfter outside earlier) later := by
  have start : Delivered outside key (worldAfter outside earlier) := by
    obtain ⟨order,elapsed,known,delivered,_⟩ := expired
    exact ⟨reached_invariant outside earlier,order,known,delivered⟩
  refine exact (fun w call => delivered_kept w call) (fun w call here refuses => ?_) start (expired_refuses expired)
  obtain ⟨inv,order,known,delivered⟩ := here
  rw [refuses_iff] at refuses ⊢
  constructor
  · exact fun refused reopens => refused (reopens_returnable known delivered reopens)
  · exact refuses_kept inv known delivered refuses

theorem order_expired : Expired initialStore (orderKey 22222) := ⟨_,40,rfl,rfl,rfl,by decide⟩

-- An update without any change, and the order can be returned again.
theorem window_reopened : Expired initialStore (orderKey 22222) ∧ (∀ n, shopClock.now n ≤ shopClock.now (n + 1)) ∧
    ¬ Always (step shopClock) (Refuses shopClock (orderKey 22222)) initialWorld
      [.updateOrder (.str (orderKey 22222)) {}] := by
  refine ⟨order_expired,fun n => ?_,fun always => ?_⟩
  · simp [shopClock]
  · have refused := refuses_iff.mp (always [.updateOrder (.str (orderKey 22222)) {}] [] rfl)
    have reopens : Reopens shopClock (orderKey 22222) initialWorld (.updateOrder (.str (orderKey 22222)) {}) :=
      ⟨⟨_,rfl⟩,by decide,by decide +kernel⟩
    exact refused (reopens_returnable rfl rfl reopens)

-- An order delivered long ago, whose one return is still on its way
def firstTries : List ServiceCall :=
  [.initiateReturn (.str (orderKey 66666)) [] .null,.cancelOrder (.str (orderKey 33333)) (.str "changed my mind")]

def furtherTries : List ServiceCall :=
  [.updateOrder (.str (orderKey 44444)) {shippingAddress := some depot},.cancelOrder (.str (orderKey 66666)) (.str "too late"),
    .updateOrder (.str (orderKey 66666)) {shippingAddress := some depot},
    .processFullRefund (.str (orderKey 66666)) (.str "goodwill"),.initiateReturn (.str (orderKey 66666)) [] .null]

-- The update writes the order's date anew, and the open return keeps it refused.
theorem window_stays_expired_tries :
    Always (step shopClock) (Refuses shopClock (orderKey 66666)) (worldAfter shopClock firstTries) furtherTries := by
  have expired : Expired (storeAfter shopClock firstTries) (orderKey 66666) := ⟨_,55,rfl,rfl,rfl,by decide⟩
  refine (return_window_stays_expired shopClock firstTries (orderKey 66666) expired furtherTries).mpr ?_
  exact busy_closed (reached_invariant shopClock firstTries) (by decide +kernel) furtherTries

end Sophia.MockServices
