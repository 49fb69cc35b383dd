import Sophia.McpServices
import Sophia.Domain

namespace Sophia.CustomerService
open TracedRun Json ServiceModels Mcp

-- data of a ToolResult: asdict of what a service returned, a list of it, the id of a replacement order or a ticket
inductive ToolData where
  | none
  | record (value : ServiceValue)
  | customers (values : List Customer)
  | products (values : List ProductStock)
  | replacementOrder (orderId : String)
  | ticket (ticketId : String) (queuePosition : Nat) (estimatedWait : String)

structure HatResult where
  success : Bool
  data : ToolData
  message : String

def failure (message : String) : HatResult := ⟨false,.none,message⟩

-- None and an empty list are falsy, a dataclass is not.
def found : ServiceValue → Bool
  | .none => false
  | .orders values => !values.isEmpty
  | .customers values => !values.isEmpty
  | .shippingOptions values => !values.isEmpty
  | .productStocks values => !values.isEmpty
  | _ => true

-- asdict(value)
def asdict : ServiceValue → Except PyError ToolData
  | .none => .error .typeError
  | .orders _ => .error .typeError
  | .customers _ => .error .typeError
  | .shippingOptions _ => .error .typeError
  | .productStocks _ => .error .typeError
  | value => .ok (.record value)

-- The attributes that the tools read
def asOrder : ServiceValue → Except PyError Order
  | .order value => .ok value
  | _ => .error .attributeError

def asOrderStatus : ServiceValue → Except PyError OrderStatus
  | .orderStatus value => .ok value
  | _ => .error .attributeError

def asCancellation : ServiceValue → Except PyError CancellationResult
  | .cancellation value => .ok value
  | _ => .error .attributeError

def asHistory : ServiceValue → Except PyError CustomerHistory
  | .customerHistory value => .ok value
  | _ => .error .attributeError

def asDetails : ServiceValue → Except PyError ProductDetails
  | .productDetails value => .ok value
  | _ => .error .attributeError

def asWarranty : ServiceValue → Except PyError WarrantyStatus
  | .warrantyStatus value => .ok value
  | _ => .error .attributeError

def asTracking : ServiceValue → Except PyError ShipmentTracking
  | .shipmentTracking value => .ok value
  | _ => .error .attributeError

def asAddressUpdate : ServiceValue → Except PyError AddressUpdateResult
  | .addressUpdate value => .ok value
  | _ => .error .attributeError

def asDiscount : ServiceValue → Except PyError DiscountResult
  | .discount value => .ok value
  | _ => .error .attributeError

def asRefund : ServiceValue → Except PyError RefundResult
  | .refund value => .ok value
  | _ => .error .attributeError

def asReturnInitiation : ServiceValue → Except PyError ReturnInitiationResult
  | .returnInitiation value => .ok value
  | _ => .error .attributeError

def asReturnStatus : ServiceValue → Except PyError ReturnStatus
  | .returnStatus value => .ok value
  | _ => .error .attributeError

-- for value in values
def eachCustomer : ServiceValue → Except PyError (List Customer)
  | .customers values => .ok values
  | _ => .error .typeError

def eachStock : ServiceValue → Except PyError (List ProductStock)
  | .productStocks values => .ok values
  | _ => .error .typeError

-- params[key]
def required (params : Params) (key : String) : Except PyError Json :=
  match params.lookup key with
  | some value => .ok value
  | none => .error .keyError

def param (params : Params) (key : String) (default : Json := .null) : Json := (params.lookup key).getD default

-- None has no format '.2f'.
def refunded : Option PyFloat → Except PyError PyFloat
  | some amount => .ok amount
  | none => .error .typeError

-- except ValueError, with the text of the exception
def caughtValueError (errorText : PyError → String) : PyError → Except PyError (String ⊕ ServiceValue)
  | .valueErrorOf text => .ok (.inl text)
  | e => if e = .valueError ∨ e = decodeError then .ok (.inl (errorText e)) else .error e

section
variable {σ ω : Type} (texts : Texts) (errorText : PyError → String) (service : ServiceCall → Run PyError σ ω ServiceValue)

-- str() of a parameter in a message
def shown (value : Json) : String := texts.str (.json value)

def normalizeOrderId : Json → Except PyError String
  | .str raw => .ok (if "ORD-".toList.isPrefixOf (texts.upper raw).toList then texts.upper raw
      else "ORD-" ++ String.ofList ((texts.upper raw).toList.dropWhile (· == '#')))
  | _ => .error .attributeError

def lookUpOrder (params : Params) : Run PyError σ ω HatResult := do
  let orderId ← lift (normalizeOrderId texts (param params "order_id" (.str "")))
  let order ← service (.getOrder (.str orderId))
  if found order then do
    let data ← lift (asdict order)
    pure ⟨true,data,"Found order " ++ orderId⟩
  else pure (failure ("Order " ++ orderId ++ " not found"))

def checkOrderStatus (params : Params) : Run PyError σ ω HatResult := do
  let orderId ← lift (normalizeOrderId texts (param params "order_id" (.str "")))
  let status ← service (.getOrderStatus (.str orderId))
  if found status then do
    let data ← lift (asdict status)
    let value ← lift (asOrderStatus status)
    pure ⟨true,data,"Status for " ++ orderId ++ ": " ++ value.status⟩
  else pure (failure ("Order " ++ orderId ++ " not found"))

def newItem (productId quantity : Json) (details : ServiceValue) : Except PyError OrderItem := do
  let value ← asDetails details
  let totalPrice ← scale value.price quantity
  return {productId,name := value.name,quantity,unitPrice := value.price,totalPrice}

-- The items of a new order, or the product that there is none of
def newItems : List Json → Run PyError σ ω (Json ⊕ List OrderItem)
  | [] => pure (.inr [])
  | item :: rest => do
    let productId ← lift (item.get "product_id" (.str ""))
    let quantity ← lift (item.get "quantity" (.int 1))
    let details ← service (.getProductDetails productId)
    if found details then do
      let ordered ← lift (newItem productId quantity details)
      let others ← newItems rest
      pure (others.map id (ordered :: ·))
    else pure (.inl productId)

def submitOrder (customerId : Json) : Json ⊕ List OrderItem → Run PyError σ ω HatResult
  | .inl productId => pure (failure ("Product " ++ shown texts productId ++ " not found"))
  | .inr items => do
    let order ← service (.placeOrder customerId items)
    let data ← lift (asdict order)
    pure ⟨true,data,"New order placed successfully"⟩

def placeNewOrder (params : Params) : Run PyError σ ω HatResult := do
  let rawItems ← lift (param params "items" (.arr [])).iterate
  let items ← newItems service rawItems
  submitOrder texts service (param params "customer_id" (.str "")) items

def cancelOrder (params : Params) : Run PyError σ ω HatResult := do
  let orderId ← lift (normalizeOrderId texts (param params "order_id" (.str "")))
  let reason ← lift (required params "reason")
  let result ← service (.cancelOrder (.str orderId) reason)
  let value ← lift (asCancellation result)
  if value.success then do
    let refund ← lift (refunded value.refundAmount)
    let amount ← lift refund.money
    pure ⟨true,.record result,"Order " ++ orderId ++ " cancelled. Refund: $" ++ amount⟩
  else pure (failure ((truthyText value.reason).getD ("Cannot cancel order " ++ orderId)))

def lookUpCustomer (params : Params) : Run PyError σ ω HatResult := do
  let query := (param params "email").orElse ((param params "phone").orElse (param params "name"))
  if query.truthy then do
    let customers ← service (.searchCustomers query)
    if found customers then do
      let values ← lift (eachCustomer customers)
      pure ⟨true,.customers values,"Found " ++ toString values.length ++ " customer(s)"⟩
    else pure (failure ("No customers found matching '" ++ shown texts query ++ "'"))
  else pure (failure "At least one search parameter (email, phone, or name) is required")

-- The result of a call whose ValueError the tool answers with
def reported (report : ServiceValue → Except PyError HatResult) (asked : ServiceCall) : Run PyError σ ω HatResult := do
  let outcome ← rescue (caughtValueError errorText) (Sum.inr <$> service asked)
  match outcome with
  | .inl message => pure (failure message)
  | .inr value => lift (report value)

def historyReport (history : ServiceValue) : Except PyError HatResult := do
  let data ← asdict history
  let value ← asHistory history
  return ⟨true,data,"History for " ++ value.customer.name ++ ": " ++ toString value.orders.length ++ " orders, " ++
    toString value.returns.length ++ " returns"⟩

def getCustomerOrderHistory (params : Params) : Run PyError σ ω HatResult := do
  let customerId ← lift (required params "customer_id")
  reported errorText service historyReport (.getCustomerHistory customerId)

def inventoryMessage (productId : Json) (stocks : List ProductStock) : String :=
  match stocks with
  | stock :: _ => if productId.truthy then
      "Inventory for " ++ shown texts stock.name ++ ": " ++ shown texts stock.quantityAvailable ++ " available"
    else "Full inventory: " ++ toString stocks.length ++ " products"
  | [] => "Full inventory: 0 products"

def checkCurrentInventory (params : Params) : Run PyError σ ω HatResult := do
  let productId := param params "product_id"
  let stocks ← service (.checkStock productId)
  if productId.truthy && !found stocks then pure (failure ("Product " ++ shown texts productId ++ " not found"))
  else do
    let values ← lift (eachStock stocks)
    pure ⟨true,.products values,inventoryMessage texts productId values⟩

def lookUpProduct (params : Params) : Run PyError σ ω HatResult := do
  let productId ← lift (required params "product_id")
  let details ← service (.getProductDetails productId)
  if found details then do
    let data ← lift (asdict details)
    let value ← lift (asDetails details)
    pure ⟨true,data,"Found product: " ++ shown texts value.name⟩
  else pure (failure ("Product " ++ shown texts productId ++ " not found"))

def warrantyReport (productId : Json) (ws : ServiceValue) : Except PyError HatResult := do
  let value ← asWarranty ws
  let data ← asdict ws
  return ⟨true,data,"Warranty for " ++ shown texts productId ++ ": " ++ (if value.isActive then "active" else "expired") ++
    " (" ++ value.coverageType ++ ")"⟩

def checkWarrantyStatus (params : Params) : Run PyError σ ω HatResult := do
  let orderId ← lift (required params "order_id")
  let productId ← lift (required params "product_id")
  reported errorText service (warrantyReport texts productId) (.checkWarrantyStatus orderId productId)

def trackShipment (params : Params) : Run PyError σ ω HatResult := do
  let orderId ← lift (required params "order_id")
  let tracking ← service (.trackShipment orderId)
  if found tracking then do
    let data ← lift (asdict tracking)
    let value ← lift (asTracking tracking)
    pure ⟨true,data,"Shipment " ++ shown texts value.trackingNumber ++ ": " ++ shown texts value.status⟩
  else pure (failure ("No shipment tracking found for order " ++ shown texts orderId))

def newAddress (params : Params) : Except PyError Address := do
  let line1 ← required params "line1"
  let city ← required params "city"
  let state ← required params "state"
  let postalCode ← required params "postal_code"
  return ⟨line1,city,state,postalCode,param params "line2",param params "country" (.str "US")⟩

def updateShippingAddress (params : Params) : Run PyError σ ω HatResult := do
  let address ← lift (newAddress params)
  let orderId ← lift (required params "order_id")
  let result ← service (.updateShippingAddress orderId address)
  let value ← lift (asAddressUpdate result)
  if value.success then pure ⟨true,.record result,"Shipping address updated for order " ++ shown texts orderId⟩
  else pure (failure ((truthyText value.failureReason).getD "Address update failed"))

def offerDiscount (params : Params) : Run PyError σ ω HatResult := do
  let customerId ← lift (required params "customer_id")
  let percent ← lift (required params "discount_percent")
  let reason ← lift (required params "reason")
  let result ← service (.applyDiscount customerId percent reason)
  let data ← lift (asdict result)
  let value ← lift (asDiscount result)
  pure ⟨true,data,"Generated " ++ shown texts value.percent ++ "% discount code for customer " ++ shown texts customerId⟩

def offerFreeShipping (params : Params) : Run PyError σ ω HatResult := do
  let customerId ← lift (required params "customer_id")
  let reason ← lift (required params "reason")
  let result ← service (.applyFreeShipping customerId (param params "order_id") reason)
  let data ← lift (asdict result)
  pure ⟨true,data,"Free shipping applied for customer " ++ shown texts customerId⟩

def offerPartialRefund (params : Params) : Run PyError σ ω HatResult := do
  let orderId ← lift (required params "order_id")
  let amount ← lift (required params "amount")
  let reason ← lift (required params "reason")
  let result ← service (.processPartialRefund orderId (.json amount) reason)
  let data ← lift (asdict result)
  let value ← lift (asRefund result)
  let issued ← lift value.amount.money
  pure ⟨true,data,"Partial refund of $" ++ issued ++ " issued for order " ++ shown texts orderId⟩

def offerFullRefund (params : Params) : Run PyError σ ω HatResult := do
  let orderId ← lift (required params "order_id")
  let reason ← lift (required params "reason")
  let result ← service (.processFullRefund orderId reason)
  let data ← lift (asdict result)
  pure ⟨true,data,"Full refund issued for order " ++ shown texts orderId⟩

def sendReplacementProduct (params : Params) : Run PyError σ ω HatResult := do
  let productId ← lift (required params "product_id")
  let product ← service (.getProductDetails productId)
  if found product then do
    let value ← lift (asDetails product)
    let items := [⟨.str value.productId,value.name,.int 1,.finite 0,.finite 0⟩]
    let order ← service (.placeOrder (param params "customer_id" (.str "REPLACEMENT")) items)
    let placed ← lift (asOrder order)
    let orderId ← lift (required params "order_id")
    pure ⟨true,.replacementOrder placed.orderId,"Replacement product shipped for order " ++ shown texts orderId⟩
  else pure (failure ("Product " ++ shown texts productId ++ " not found"))

def offerFreeItem (_ : Params) : Run PyError σ ω HatResult := pure (failure "Free items are never permitted by policy.")

def returnItem (entry : Json) : Except PyError ReturnItem := do
  let productId ← item entry "product_id"
  let quantity ← item entry "quantity"
  let reason ← item entry "reason"
  return {productId,quantity,reason}

def returnReport (orderId : Json) (result : ServiceValue) : Except PyError HatResult := do
  let data ← asdict result
  let value ← asReturnInitiation result
  return ⟨true,data,"Return " ++ value.returnId ++ " initiated for order " ++ shown texts orderId⟩

def initiateReturn (params : Params) : Run PyError σ ω HatResult := do
  let entries ← lift (required params "items")
  let items ← lift (do (← entries.iterate).mapM returnItem)
  let orderId ← lift (required params "order_id")
  let reason ← lift (required params "reason")
  reported errorText service (returnReport texts orderId) (.initiateReturn orderId items reason)

def checkReturnStatus (params : Params) : Run PyError σ ω HatResult := do
  let returnId ← lift (required params "return_id")
  let status ← service (.checkReturnStatus returnId)
  if found status then do
    let data ← lift (asdict status)
    let value ← lift (asReturnStatus status)
    pure ⟨true,data,"Return " ++ value.returnId ++ ": " ++ value.status⟩
  else pure (failure ("Return " ++ shown texts returnId ++ " not found"))

end

-- The tools of the hat that work on the services
inductive HatTool where
  | lookUpOrder
  | checkOrderStatus
  | placeNewOrder
  | cancelOrder
  | lookUpCustomer
  | getCustomerOrderHistory
  | checkCurrentInventory
  | lookUpProduct
  | checkWarrantyStatus
  | trackShipment
  | updateShippingAddress
  | offerDiscount
  | offerFreeShipping
  | offerPartialRefund
  | offerFullRefund
  | sendReplacementProduct
  | offerFreeItem
  | initiateReturn
  | checkReturnStatus
  deriving DecidableEq, Repr

def execute {σ ω : Type} (texts : Texts) (errorText : PyError → String)
    (service : ServiceCall → Run PyError σ ω ServiceValue) : HatTool → Params → Run PyError σ ω HatResult
  | .lookUpOrder => lookUpOrder texts service
  | .checkOrderStatus => checkOrderStatus texts service
  | .placeNewOrder => placeNewOrder texts service
  | .cancelOrder => cancelOrder texts service
  | .lookUpCustomer => lookUpCustomer texts service
  | .getCustomerOrderHistory => getCustomerOrderHistory errorText service
  | .checkCurrentInventory => checkCurrentInventory texts service
  | .lookUpProduct => lookUpProduct texts service
  | .checkWarrantyStatus => checkWarrantyStatus texts errorText service
  | .trackShipment => trackShipment texts service
  | .updateShippingAddress => updateShippingAddress texts service
  | .offerDiscount => offerDiscount texts service
  | .offerFreeShipping => offerFreeShipping texts service
  | .offerPartialRefund => offerPartialRefund texts service
  | .offerFullRefund => offerFullRefund texts service
  | .sendReplacementProduct => sendReplacementProduct texts service
  | .offerFreeItem => offerFreeItem
  | .initiateReturn => initiateReturn texts errorText service
  | .checkReturnStatus => checkReturnStatus texts service

end Sophia.CustomerService
