import Sophia.OrderLifecycle

namespace Sophia.MockServices
open TracedRun Json PyText ServiceModels StepRun

section
variable (outside : Outside) (w : World) (call : ServiceCall)

-- The call leaves the address of every order that is shipped, delivered or cancelled.
def AddressFixed : Prop := ∀ key order, w.store.orders.get key = some order → order.status ∈ settled →
  ∃ kept, (step outside w call).store.orders.get key = some kept ∧ kept.shippingAddress = order.shippingAddress

-- Where the call changes the address of another order, that is all it does to the orders and their statuses.
def ChangesAlone : Prop := ∀ key order kept, w.store.orders.get key = some order → order.status ∉ settled →
  (step outside w call).store.orders.get key = some kept → kept.shippingAddress ≠ order.shippingAddress →
  kept.status = order.status ∧ ∀ other, other ≠ key → (step outside w call).store.orders.get other = w.store.orders.get other

-- An update_order of an order that has left the warehouse carries no address, or the one that the order has.
def Redirects : Prop := ∃ key changes order address, call = .updateOrder (.str key) changes ∧
  w.store.orders.get key = some order ∧ order.status ∈ settled ∧ changes.shippingAddress = some address ∧
  order.shippingAddress ≠ some address

end

section
variable {outside : Outside} {w : World} {call : ServiceCall} {order : Order}

theorem unshipped_open (open_ : order.status ∈ unshipped) : order.status ∉ settled := by
  intro left
  simp only [unshipped,settled,List.mem_cons,List.not_mem_nil,or_false] at open_ left
  rcases open_ with same | same | same <;> simp [same] at left

theorem fixed_of_unredirected (inv : StoreInvariant outside w.store) (direct : ¬ Redirects w call) :
    AddressFixed outside w call := by
  intro key order known left
  obtain ⟨kept,present,rewrites,_⟩ := step_known outside inv known call
  refine ⟨kept,present,?_⟩
  cases rewrites with
  | same => rfl
  | cancelled open_ => exact absurd left open_
  | @updated changes =>
    cases given : changes.shippingAddress with
    | none => simp
    | some address =>
      by_contra moved
      refine direct ⟨key,changes,order,address,rfl,known,left,given,fun same => moved ?_⟩
      simp [same]
  | readdressed pending => exact absurd left (unshipped_open pending)

theorem redirects_unfixed (redirects : Redirects w call) : ¬ AddressFixed outside w call := by
  obtain ⟨key,changes,order,address,rfl,known,left,given,moved⟩ := redirects
  intro fixed
  obtain ⟨kept,present,same⟩ := fixed key order known left
  unfold step at present
  rw [perform,updateOrder_known known] at present
  have written : _ = some kept := PyDict.get_set_same.symm.trans present
  cases written
  simp [given] at same
  exact moved same.symm

theorem changes_alone (inv : StoreInvariant outside w.store) : ChangesAlone outside w call := by
  intro key order kept known open_ present changed
  obtain ⟨found,there,rewrites,alone⟩ := step_known outside inv known call
  cases there.symm.trans present
  refine ⟨?_,alone fun same => changed (congrArg Order.shippingAddress same)⟩
  cases rewrites with
  | same => rfl
  | cancelled unsettled => exact absurd rfl changed
  | updated => rfl
  | readdressed pending => rfl

end

theorem shipping_address_fixed (outside : Outside) (calls : List ServiceCall) :
    (Along (step outside) (AddressFixed outside) initialWorld calls ↔
      Along (step outside) (fun w call => ¬ Redirects w call) initialWorld calls) ∧
    Along (step outside) (ChangesAlone outside) initialWorld calls := by
  refine ⟨⟨fun fixed earlier call later split_ redirects => ?_,fun direct earlier call later split_ => ?_⟩,
    fun earlier call later split_ => ?_⟩
  · exact redirects_unfixed redirects (fixed earlier call later split_)
  · exact fixed_of_unredirected (reached_invariant outside earlier) (direct earlier call later split_)
  · exact changes_alone (reached_invariant outside earlier)

def shopClock : Outside where
  now reading := noon + reading
  hex _ := "0123456789abcdef0123456789abcdef"
  lower := id
  upper := id
  str value := value.typeName
  summation := .compensated

def depot : Address := {line1 := .str "1 Depot Rd",city := .str "Reno",state := .str "NV",postalCode := .str "89501"}

-- update_order sends a parcel in transit elsewhere.
theorem parcel_redirected : ¬ Along (step shopClock) (AddressFixed shopClock) initialWorld
    [.updateOrder (.str (orderKey 11111)) {shippingAddress := some depot}] := by
  intro fixed
  refine redirects_unfixed ?_ (fixed [] _ [] rfl)
  exact ⟨orderKey 11111,_,_,depot,rfl,rfl,by decide +kernel,rfl,by simp [depot,homeOf]⟩

end Sophia.MockServices
