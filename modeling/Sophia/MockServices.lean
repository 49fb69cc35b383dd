import Sophia.ServiceModels
import Sophia.Library.PyDict
import Sophia.Library.TracedRun

namespace Sophia.MockServices
open TracedRun Json PyText ServiceModels

-- The microseconds of NOW, 2025-03-01 12:00 without a time zone
def noon : Int := 1740830400000000
def hours (n : Int) : Int := n * 3600000000
def days (n : Int) : Int := n * 86400000000

def ago (span : Int) : Moment := .naive (noon - span)

structure MockDataStore where
  customers : PyDict String Customer
  orders : PyDict String Order
  products : PyDict String ProductDetails
  inventory : PyDict String ProductStock
  shipments : PyDict String ShipmentTracking
  returns : PyDict String ReturnStatus
  nextOrderId : Nat := 99000
  nextReturnId : Nat := 100

-- The store, and how many times the clock was read and a UUID was drawn
structure World where
  store : MockDataStore
  readings : Nat := 0
  drawn : Nat := 0

-- The readings of datetime.now(), the hex digits of the UUIDs, the cases of texts and str() of a value
structure Outside where
  now : Nat → Int
  hex : Nat → String
  lower : String → String
  upper : String → String
  str : Json → String
  summation : PyFloat.Summation

def Outside.sum (outside : Outside) (values : List PyFloat) : PyFloat := PyFloat.sum outside.summation values

-- A value within an f-string
def Outside.text (outside : Outside) : Json → String
  | .str text => text
  | value => outside.str value

-- datetime + timedelta(days=n), within the years 1 to 9999
def laterBy (n : Int) : Moment → Except PyError Moment
  | .naive wall =>
    if -62135596800000000 ≤ wall + days n ∧ wall + days n < 253402300800000000 then .ok (.naive (wall + days n))
    else .error overflowError
  | .aware instant =>
    if -62135596800000000 ≤ instant + days n ∧ instant + days n < 253402300800000000 then .ok (.aware (instant + days n))
    else .error overflowError

-- (NOW - moment).days; a moment with a time zone has no difference with NOW.
def daysSince : Moment → Except PyError Int
  | .naive wall => .ok ((noon - wall) / days 1)
  | .aware _ => .error .typeError

-- NOW < moment
def isAhead : Moment → Except PyError Bool
  | .naive wall => .ok (noon < wall)
  | .aware _ => .error .typeError

-- dict.get(key), with the key that was found
def find {α : Type} (d : PyDict String α) : Json → Except PyError (Option (String × α))
  | .str key => .ok ((d.get key).map (key,·))
  | key => do
    hashable key
    return none

-- dict.get(key), or ValueError
def demand {α : Type} (outside : Outside) (kind : String) (d : PyDict String α) (key : Json) : Except PyError (String × α) := do
  match ← find d key with
  | some entry => return entry
  | none => throw (.valueErrorOf (kind ++ " " ++ outside.text key ++ " not found"))

-- values[:limit]
def sliceTo {α : Type} (values : List α) : Json → Except PyError (List α)
  | .null => .ok values
  | .bool limit => .ok (values.take (ofBool limit).toNat)
  | .int limit => .ok (if 0 ≤ limit then values.take limit.toNat else values.take (values.length - limit.natAbs))
  | _ => .error .typeError

-- A number that amount > order.total compares
def numeric : Argument → Option PyFloat
  | .float x => some x
  | .json value => value.number?.map .finite
  | _ => none

-- ValueError for a refund above the total, unless an amount has no format '.2f'
def refuseAbove (total amount : PyFloat) : Except PyError ServiceValue := do
  throw (.valueErrorOf ("Refund amount $" ++ (← amount.money) ++ " exceeds order total $" ++ (← total.money)))

-- key=lambda o: o.created_at, reverse=True; equal keys keep their order.
def newestFirst (orders : List Order) : List Order := orders.mergeSort fun a b => b.createdAt.micros ≤ a.createdAt.micros

def settled : List String := ["shipped","delivered","cancelled"]
def unshipped : List String := ["pending","confirmed","processing"]
def closedReturns : List String := ["processed","cancelled"]
def defects : List String := ["defective","wrong_item","not_as_described"]

-- The returns of an order that are neither processed nor cancelled
def activeReturns (store : MockDataStore) (orderId : String) : List ReturnStatus :=
  store.returns.values.filter fun ret => ret.orderId.isStr orderId && !closedReturns.contains ret.status

def ordersOf (store : MockDataStore) (customerId : Json) : List Order :=
  store.orders.values.filter fun order => order.customerId.equals customerId

def hasDefective (items : List ReturnItem) : Bool := items.any fun item => defects.any (isStr · item.reason)

-- f"{n:03d}"
def padded (n : Nat) : String := String.ofList (List.replicate (3 - (toString n).length) '0') ++ toString n

def orderKey (n : Nat) : String := "ORD-" ++ toString n
def returnKey (n : Nat) : String := "RET-" ++ padded n

-- The class attributes of MockDataStore
def headphones (quantity : Int) (total : ℚ) : OrderItem :=
  ⟨.str "PROD-001",.str "Wireless Headphones",.int quantity,.ofRat (7999/100),.ofRat total⟩

def cable (quantity : Int) (total : ℚ) : OrderItem :=
  ⟨.str "PROD-002",.str "USB-C Cable",.int quantity,.ofRat (1299/100),.ofRat total⟩

def playStation : OrderItem := ⟨.str "PROD-003",.str "PlayStation 5",.int 1,.ofRat (49999/100),.ofRat (49999/100)⟩
def laptopStand : OrderItem := ⟨.str "PROD-004",.str "Laptop Stand",.int 1,.finite 45,.finite 45⟩
def keyboard : OrderItem := ⟨.str "PROD-005",.str "Mechanical Keyboard",.int 1,.ofRat (12999/100),.ofRat (12999/100)⟩

def homeOf (line1 city state postalCode : String) : Option Address :=
  some {line1 := .str line1,city := .str city,state := .str state,postalCode := .str postalCode}

def initialCustomers : List Customer := [
  {customerId := "CUST-001",email := .str "jane.smith@example.com",name := "Jane Smith",phone := .str "555-0101"
   createdAt := some (ago (days 365)),totalOrders := .int 3,totalSpent := .ofRat (25096/100),tags := .arr [.str "loyal"]},
  {customerId := "CUST-002",email := .str "john.doe@example.com",name := "John Doe",phone := .str "555-0102"
   createdAt := some (ago (days 180)),totalOrders := .int 1,totalSpent := .ofRat (49999/100)},
  {customerId := "CUST-003",email := .str "alice.johnson@example.com",name := "Alice Johnson",phone := .str "555-0103"
   createdAt := some (ago (days 90)),totalOrders := .int 2,totalSpent := .finite 90},
  {customerId := "CUST-004",email := .str "bob.williams@example.com",name := "Bob Williams"
   createdAt := some (ago (days 30)),totalOrders := .int 1,totalSpent := .ofRat (12999/100)},
  {customerId := "CUST-005",email := .str "carol.davis@example.com",name := "Carol Davis",phone := .str "555-0105"
   createdAt := some (ago (days 14)),totalOrders := .int 1,totalSpent := .ofRat (7999/100)}]

def initialOrders : List Order := [
  {orderId := orderKey 12345,customerId := .str "CUST-001",status := "delivered"
   items := [headphones 1 (7999/100),cable 2 (2598/100)],total := .ofRat (10597/100),currency := .str "USD"
   createdAt := ago (days 14),updatedAt := ago (days 7),shippingAddress := homeOf "123 Main St" "Springfield" "IL" "62701"
   trackingNumber := .str "1Z999AA10123456784"},
  {orderId := orderKey 67890,customerId := .str "CUST-002",status := "processing",items := [playStation]
   total := .ofRat (49999/100),currency := .str "USD",createdAt := ago (days 1),updatedAt := ago (hours 6)},
  {orderId := orderKey 11111,customerId := .str "CUST-003",status := "shipped",items := [laptopStand]
   total := .finite 45,currency := .str "USD",createdAt := ago (days 3),updatedAt := ago (days 1)
   shippingAddress := homeOf "456 Oak Ave" "Chicago" "IL" "60601",trackingNumber := .str "1Z999AA10123456785"},
  {orderId := orderKey 22222,customerId := .str "CUST-003",status := "delivered",items := [laptopStand]
   total := .finite 45,currency := .str "USD",createdAt := ago (days 45),updatedAt := ago (days 40)
   shippingAddress := homeOf "456 Oak Ave" "Chicago" "IL" "60601",trackingNumber := .str "1Z999AA10123456786"},
  {orderId := orderKey 33333,customerId := .str "CUST-001",status := "pending",items := [keyboard]
   total := .ofRat (12999/100),currency := .str "USD",createdAt := ago (hours 2),updatedAt := ago (hours 2)},
  {orderId := orderKey 44444,customerId := .str "CUST-004",status := "confirmed",items := [keyboard]
   total := .ofRat (12999/100),currency := .str "USD",createdAt := ago (hours 12),updatedAt := ago (hours 10)
   shippingAddress := homeOf "789 Pine Rd" "Austin" "TX" "73301"},
  {orderId := orderKey 55555,customerId := .str "CUST-005",status := "cancelled",items := [headphones 1 (7999/100)]
   total := .ofRat (7999/100),currency := .str "USD",createdAt := ago (days 10),updatedAt := ago (days 9)},
  {orderId := orderKey 66666,customerId := .str "CUST-001",status := "delivered",items := [cable 1 (1299/100)]
   total := .ofRat (1299/100),currency := .str "USD",createdAt := ago (days 60),updatedAt := ago (days 55)},
  {orderId := orderKey 77777,customerId := .str "CUST-005",status := "shipped",items := [headphones 1 (7999/100)]
   total := .ofRat (7999/100),currency := .str "USD",createdAt := ago (days 5),updatedAt := ago (days 3)
   shippingAddress := homeOf "321 Elm St" "Denver" "CO" "80201",trackingNumber := .str "1Z999AA10123456787"},
  {orderId := orderKey 88888,customerId := .str "CUST-002",status := "delivered",items := [cable 3 (3897/100)]
   total := .ofRat (3897/100),currency := .str "USD",createdAt := ago (days 20),updatedAt := ago (days 15)}]

def initialProducts : List ProductDetails := [
  ⟨"PROD-001",.str "Wireless Headphones",.str "Premium noise-cancelling wireless headphones with 30-hour battery",
    .ofRat (7999/100),.str "Audio",12⟩,
  ⟨"PROD-002",.str "USB-C Cable",.str "Braided USB-C to USB-C cable, 6ft, 100W PD",.ofRat (1299/100),
    .str "Accessories",6⟩,
  ⟨"PROD-003",.str "PlayStation 5",.str "Sony PlayStation 5 console, disc edition",.ofRat (49999/100),.str "Gaming",12⟩,
  ⟨"PROD-004",.str "Laptop Stand",.str "Adjustable aluminum laptop stand, fits 10-17 inch laptops",.finite 45,
    .str "Accessories",24⟩,
  ⟨"PROD-005",.str "Mechanical Keyboard",.str "RGB mechanical keyboard with Cherry MX Blue switches",
    .ofRat (12999/100),.str "Peripherals",24⟩]

def initialInventory : List ProductStock := [
  ⟨"PROD-001",.str "Wireless Headphones",.int 150,.ofRat (7999/100),true⟩,
  ⟨"PROD-002",.str "USB-C Cable",.int 500,.ofRat (1299/100),true⟩,
  ⟨"PROD-003",.str "PlayStation 5",.int 5,.ofRat (49999/100),true⟩,
  ⟨"PROD-004",.str "Laptop Stand",.int 75,.finite 45,true⟩,
  ⟨"PROD-005",.str "Mechanical Keyboard",.int 200,.ofRat (12999/100),true⟩]

def initialShipments : List ShipmentTracking := [
  ⟨orderKey 12345,.str "UPS",.str "1Z999AA10123456784",.str "delivered",some (ago (days 7))⟩,
  ⟨orderKey 11111,.str "FedEx",.str "1Z999AA10123456785",.str "in_transit",some (ago (days (-2)))⟩,
  ⟨orderKey 77777,.str "USPS",.str "1Z999AA10123456787",.str "in_transit",some (ago (days (-1)))⟩]

def initialReturns : List ReturnStatus := [
  {returnId := returnKey 1,orderId := .str (orderKey 22222),status := "processed"
   items := [⟨.str "PROD-004",.int 1,.str "changed_mind"⟩],createdAt := ago (days 30),refundAmount := some (.finite 45)},
  {returnId := returnKey 2,orderId := .str (orderKey 66666),status := "in_transit"
   items := [⟨.str "PROD-002",.int 1,.str "defective"⟩],createdAt := ago (days 2)}]

-- Each dict is keyed by the id of its values.
def keyed {α : Type} (key : α → String) (values : List α) : PyDict String α := .ofList (values.map fun value => (key value,value))

def initialStore : MockDataStore where
  customers := keyed (·.customerId) initialCustomers
  orders := keyed (·.orderId) initialOrders
  products := keyed (·.productId) initialProducts
  inventory := keyed (·.productId) initialInventory
  shipments := keyed (·.orderId) initialShipments
  returns := keyed (·.returnId) initialReturns

def initialWorld : World := {store := initialStore}

section
variable {ω : Type} (outside : Outside)

abbrev MockRun (ω α : Type) := Run PyError World ω α

def clock : MockRun ω Moment := overState fun w => ({w with readings := w.readings + 1},.ok (.naive (outside.now w.readings)))

-- uuid.uuid4().hex[:digits]
def uuid (digits : Nat) : MockRun ω String := overState fun w =>
  ({w with drawn := w.drawn + 1},.ok (String.ofList ((outside.hex w.drawn).toList.take digits)))

def putOrder (key : String) (order : Order) (w : World) : World :=
  {w with store := {w.store with orders := w.store.orders.set key order}}

def putReturn (key : String) (ret : ReturnStatus) (w : World) : World :=
  {w with store := {w.store with returns := w.store.returns.set key ret}}

-- MockOrderService
def getOrder (orderId : Json) : MockRun ω ServiceValue := do
  let orders ← read (·.store.orders)
  let order ← lift (find orders orderId)
  pure (order.elim .none (.order ·.2))

def getOrderStatus (orderId : Json) : MockRun ω ServiceValue := do
  let store ← read (·.store)
  let order ← lift (find store.orders orderId)
  match order with
  | none => pure .none
  | some (key,order) => pure (.orderStatus {
      orderId := order.orderId,status := order.status,lastUpdated := order.updatedAt
      estimatedDelivery := (store.shipments.get key).bind (·.estimatedDelivery)
      trackingNumber := order.trackingNumber})

def searchOrdersByCustomer (customerId limit : Json) : MockRun ω ServiceValue := do
  let store ← read (·.store)
  let orders ← lift (sliceTo (newestFirst (ordersOf store customerId)) limit)
  pure (.orders orders)

def cancelOrder (orderId : Json) (_reason : Json) : MockRun ω ServiceValue := do
  let orders ← read (·.store.orders)
  let found ← lift (find orders orderId)
  match found with
  | none => pure (.cancellation {orderId,success := false,reason := some "Order not found"})
  | some (key,order) =>
    if settled.contains order.status then
      pure (.cancellation {orderId,success := false,
                           reason := some ("Cannot cancel order in '" ++ order.status ++ "' status")})
    else do
      let updatedAt ← clock outside
      change (putOrder key {order with status := "cancelled",updatedAt})
      pure (.cancellation {orderId,success := true,refundAmount := some order.total})

def updateOrder (orderId : Json) (changes : OrderChanges) : MockRun ω ServiceValue := do
  let orders ← read (·.store.orders)
  let (key,order) ← lift (demand outside "Order" orders orderId)
  let updatedAt ← clock outside
  let order := {order with shippingAddress := changes.shippingAddress.or order.shippingAddress,updatedAt}
  change (putOrder key order)
  pure (.order order)

def placeOrder (customerId : Json) (items : List OrderItem) : MockRun ω ServiceValue := do
  change fun w => {w with store := {w.store with nextOrderId := w.store.nextOrderId + 1}}
  let orderId ← read fun w => orderKey w.store.nextOrderId
  let total := outside.sum (items.map (·.totalPrice))
  let createdAt ← clock outside
  let updatedAt ← clock outside
  let order := {orderId,customerId,status := "pending",items,total,currency := .str "USD",createdAt,updatedAt}
  change (putOrder orderId order)
  pure (.order order)

-- MockCustomerService
def getCustomer (customerId : Json) : MockRun ω ServiceValue := do
  let customers ← read (·.store.customers)
  let customer ← lift (find customers customerId)
  pure (customer.elim .none (.customer ·.2))

-- Only str has lower.
def lowered : Json → Except PyError String
  | .str text => .ok (outside.lower text)
  | _ => .error .attributeError

def matchesQuery (q : String) (c : Customer) : Except PyError Bool := do
  if hasSubstring q (outside.lower c.name) then return true
  if hasSubstring q (← lowered outside c.email) then return true
  if c.phone.truthy then contains q c.phone else return false

def searchCustomers (query : Json) : MockRun ω ServiceValue := do
  let q ← lift (lowered outside query)
  let customers ← read (·.store.customers)
  let matching ← lift (customers.values.filterM (matchesQuery outside q))
  pure (.customers matching)

def getCustomerHistory (customerId : Json) : MockRun ω ServiceValue := do
  let store ← read (·.store)
  let (_,customer) ← lift (demand outside "Customer" store.customers customerId)
  let returns := store.returns.values.filter fun ret =>
    (ordersOf store customerId).any fun order => ret.orderId.isStr order.orderId
  pure (.customerHistory {
    customer,orders := newestFirst (ordersOf store customerId),returns
    totalRefunded := outside.sum (returns.map (PyFloat.orZero ·.refundAmount))})

-- MockShippingService
def trackShipment (orderId : Json) : MockRun ω ServiceValue := do
  let shipments ← read (·.store.shipments)
  let shipment ← lift (find shipments orderId)
  pure (shipment.elim .none (.shipmentTracking ·.2))

def getShippingOptions (_orderId : Json) : MockRun ω ServiceValue :=
  pure (.shippingOptions [⟨.str "UPS",.str "Ground",5,.ofRat (999/100)⟩,⟨.str "UPS",.str "2-Day",2,.ofRat (1999/100)⟩,
    ⟨.str "FedEx",.str "Overnight",1,.ofRat (2999/100)⟩])

def updateShippingAddress (orderId : Json) (newAddress : Address) : MockRun ω ServiceValue := do
  let orders ← read (·.store.orders)
  let found ← lift (find orders orderId)
  match found with
  | none => pure (.addressUpdate {orderId,success := false,failureReason := some "Order not found"})
  | some (key,order) =>
    if unshipped.contains order.status then do
      let updatedAt ← clock outside
      change (putOrder key {order with shippingAddress := some newAddress,updatedAt})
      pure (.addressUpdate {orderId,success := true,newAddress := some newAddress})
    else
      pure (.addressUpdate {orderId,success := false,
                            failureReason := some ("Cannot update address for order in '" ++ order.status ++ "' status")})

def generateReturnLabel (orderId : Json) (_reason : Json) : MockRun ω ServiceValue := do
  let orders ← read (·.store.orders)
  let _ ← lift (demand outside "Order" orders orderId)
  let label ← uuid outside 8
  let tracking ← uuid outside 12
  let today ← clock outside
  let expiry ← lift (laterBy 14 today)
  pure (.returnLabel {labelUrl := .str ("https://labels.example.com/" ++ label),carrier := .str "UPS",
                      trackingNumber := .str ("1Z" ++ outside.upper tracking),expiry})

-- MockInventoryService
def checkStock (productId : Json) : MockRun ω ServiceValue := do
  let inventory ← read (·.store.inventory)
  if productId.truthy then do
    let stock ← lift (find inventory productId)
    pure (.productStocks (stock.elim [] ([·.2])))
  else pure (.productStocks inventory.values)

def getProductDetails (productId : Json) : MockRun ω ServiceValue := do
  let products ← read (·.store.products)
  let product ← lift (find products productId)
  pure (product.elim .none (.productDetails ·.2))

def checkWarrantyStatus (orderId productId : Json) : MockRun ω ServiceValue := do
  let store ← read (·.store)
  let (_,order) ← lift (demand outside "Order" store.orders orderId)
  let (_,product) ← lift (demand outside "Product" store.products productId)
  if order.items.any fun item => item.productId.equals productId then do
    let warrantyExpiry ← lift (laterBy (product.warrantyMonths * 30) order.createdAt)
    let isActive ← lift (isAhead warrantyExpiry)
    pure (.warrantyStatus {orderId,productId,purchaseDate := order.createdAt,warrantyExpiry,isActive,
                           coverageType := "standard"})
  else lift (.error (.valueErrorOf
    ("Product " ++ outside.text productId ++ " not found in order " ++ outside.text orderId)))

-- MockCompensationService
def applyDiscount (customerId percent : Json) (_reason : Json) : MockRun ω ServiceValue := do
  let customers ← read (·.store.customers)
  let (known,_) ← lift (demand outside "Customer" customers customerId)
  let code ← uuid outside 8
  let today ← clock outside
  let expiry ← lift (laterBy 30 today)
  pure (.discount ⟨"DISC-" ++ outside.upper code,percent,expiry,known⟩)

def processPartialRefund (orderId : Json) (amount : Argument) (_reason : Json) : MockRun ω ServiceValue := do
  let orders ← read (·.store.orders)
  let (known,order) ← lift (demand outside "Order" orders orderId)
  match numeric amount with
  | none => lift (.error .typeError)
  | some value =>
    if order.total.less value then lift (refuseAbove order.total value)
    else do
      let code ← uuid outside 8
      pure (.refund ⟨"REF-" ++ outside.upper code,known,value,"processed","original_payment"⟩)

def processFullRefund (orderId : Json) (_reason : Json) : MockRun ω ServiceValue := do
  let orders ← read (·.store.orders)
  let (known,order) ← lift (demand outside "Order" orders orderId)
  let code ← uuid outside 8
  pure (.refund ⟨"REF-" ++ outside.upper code,known,order.total,"processed","original_payment"⟩)

def applyFreeShipping (customerId _orderId _reason : Json) : MockRun ω ServiceValue := do
  let customers ← read (·.store.customers)
  let _ ← lift (demand outside "Customer" customers customerId)
  pure (.freeShipping ⟨true,customerId,.ofRat (999/100)⟩)

def generateCoupon (customerId : Json) (params : CouponParams) : MockRun ω ServiceValue := do
  let customers ← read (·.store.customers)
  let (known,_) ← lift (demand outside "Customer" customers customerId)
  let code ← uuid outside 8
  let today ← clock outside
  let expiry ← lift (laterBy params.expiryDays today)
  pure (.coupon ⟨"COUP-" ++ outside.upper code,params.type,params.value,expiry,known⟩)

def returnLabel (items : List ReturnItem) : MockRun ω (Option String) :=
  if hasDefective items then do
    let label ← uuid outside 8
    pure (some ("https://labels.example.com/" ++ label))
  else pure none

-- The window is counted from the last update of the order.
def initiateReturn (orderId : Json) (items : List ReturnItem) (_reason : Json) : MockRun ω ServiceValue := do
  let store ← read (·.store)
  let (known,order) ← lift (demand outside "Order" store.orders orderId)
  if order.status ≠ "delivered" then
    lift (.error (.valueErrorOf ("Cannot initiate return for order in '" ++ order.status ++ "' status")))
  else do
    let daysSinceDelivery ← lift (daysSince order.updatedAt)
    if 30 < daysSinceDelivery then lift (.error (.valueErrorOf "Return window (30 days from delivery) has expired"))
    else if !(activeReturns store known).isEmpty then
      lift (.error (.valueErrorOf ("Order " ++ outside.text orderId ++ " already has an active return")))
    else do
      change fun w => {w with store := {w.store with nextReturnId := w.store.nextReturnId + 1}}
      let returnId ← read fun w => returnKey w.store.nextReturnId
      let returnLabelUrl ← returnLabel outside items
      let createdAt ← clock outside
      change (putReturn returnId {returnId,orderId,status := "initiated",items,createdAt})
      pure (.returnInitiation {
        returnId,orderId,returnLabelUrl,status := "initiated"
        instructions := if hasDefective items then "Ship items back using the provided label."
          else "Ship items back at your expense. Include the return ID on the package."})

def checkReturnStatus (returnId : Json) : MockRun ω ServiceValue := do
  let returns ← read (·.store.returns)
  let ret ← lift (find returns returnId)
  pure (ret.elim .none (.returnStatus ·.2))

def perform : ServiceCall → MockRun ω ServiceValue
  | .getOrder orderId => getOrder orderId
  | .getOrderStatus orderId => getOrderStatus orderId
  | .searchOrdersByCustomer customerId limit => searchOrdersByCustomer customerId limit
  | .cancelOrder orderId reason => cancelOrder outside orderId reason
  | .updateOrder orderId changes => updateOrder outside orderId changes
  | .placeOrder customerId items => placeOrder outside customerId items
  | .getCustomer customerId => getCustomer customerId
  | .searchCustomers query => searchCustomers outside query
  | .getCustomerHistory customerId => getCustomerHistory outside customerId
  | .checkStock productId => checkStock productId
  | .getProductDetails productId => getProductDetails productId
  | .checkWarrantyStatus orderId productId => checkWarrantyStatus outside orderId productId
  | .trackShipment orderId => trackShipment orderId
  | .getShippingOptions orderId => getShippingOptions orderId
  | .updateShippingAddress orderId newAddress => updateShippingAddress outside orderId newAddress
  | .generateReturnLabel orderId reason => generateReturnLabel outside orderId reason
  | .applyDiscount customerId percent reason => applyDiscount outside customerId percent reason
  | .processPartialRefund orderId amount reason => processPartialRefund outside orderId amount reason
  | .processFullRefund orderId reason => processFullRefund outside orderId reason
  | .applyFreeShipping customerId orderId reason => applyFreeShipping outside customerId orderId reason
  | .generateCoupon customerId params => generateCoupon outside customerId params
  | .initiateReturn orderId items reason => initiateReturn outside orderId items reason
  | .checkReturnStatus returnId => checkReturnStatus returnId

end

end Sophia.MockServices
