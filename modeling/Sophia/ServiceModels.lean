import Sophia.Library.PyFloat
import Sophia.Library.PyTime

namespace Sophia.ServiceModels

-- The dataclasses of the services. A field that the mappings fill with whatever the server sent is a JSON value.
structure Address where
  line1 : Json
  city : Json
  state : Json
  postalCode : Json
  line2 : Json := .null
  country : Json := .str "US"

structure OrderItem where
  productId : Json
  name : Json
  quantity : Json
  unitPrice : PyFloat
  totalPrice : PyFloat

structure OrderChanges where
  shippingAddress : Option Address := none
  itemsToAdd : Option (List OrderItem) := none
  itemsToRemove : Option (List Json) := none

structure Order where
  orderId : String
  customerId : Json
  status : String
  items : List OrderItem
  total : PyFloat
  currency : Json
  createdAt : Moment
  updatedAt : Moment
  shippingAddress : Option Address := none
  trackingNumber : Json := .null

structure OrderStatus where
  orderId : String
  status : String
  lastUpdated : Moment
  estimatedDelivery : Option Moment := none
  trackingNumber : Json := .null

structure Customer where
  customerId : String
  email : Json
  name : String
  phone : Json := .null
  createdAt : Option Moment := none
  totalOrders : Json := .int 0
  totalSpent : PyFloat := .finite 0
  tags : Json := .arr []

structure ShipmentTracking where
  orderId : String
  carrier : Json
  trackingNumber : Json
  status : Json
  estimatedDelivery : Option Moment

structure ProductStock where
  productId : String
  name : Json
  quantityAvailable : Json
  price : PyFloat
  inStock : Bool

structure ProductDetails where
  productId : String
  name : Json
  description : Json
  price : PyFloat
  category : Json
  warrantyMonths : Int := 12

structure WarrantyStatus where
  orderId : Json
  productId : Json
  purchaseDate : Moment
  warrantyExpiry : Moment
  isActive : Bool
  coverageType : String

structure RefundResult where
  refundId : String
  orderId : String
  amount : PyFloat
  status : String
  method : String

structure DiscountResult where
  discountCode : String
  percent : Json
  expiry : Moment
  customerId : String

structure CouponParams where
  type : String
  value : PyFloat
  minOrderAmount : Option PyFloat := none
  expiryDays : Int := 30
  singleUse : Bool := true

structure CouponResult where
  couponCode : String
  type : String
  value : PyFloat
  expiry : Moment
  customerId : String

structure ReturnItem where
  productId : Json
  quantity : Json
  reason : Json

structure ReturnInitiationResult where
  returnId : String
  orderId : Json
  returnLabelUrl : Option String
  status : String
  instructions : String

structure ReturnStatus where
  returnId : String
  orderId : Json
  status : String
  items : List ReturnItem
  createdAt : Moment
  refundAmount : Option PyFloat := none

structure CustomerHistory where
  customer : Customer
  orders : List Order
  returns : List ReturnStatus
  totalRefunded : PyFloat := .finite 0

structure ReturnLabel where
  labelUrl : Json
  carrier : Json
  trackingNumber : Json
  expiry : Moment

structure CancellationResult where
  orderId : Json
  success : Bool
  reason : Option String := none
  refundAmount : Option PyFloat := none

structure AddressUpdateResult where
  orderId : Json
  success : Bool
  newAddress : Option Address := none
  failureReason : Option String := none

structure ShippingOption where
  carrier : Json
  service : Json
  estimatedDays : Int
  cost : PyFloat

structure FreeShippingResult where
  applied : Bool
  customerId : Json
  estimatedSavings : PyFloat

-- What a service method returns
inductive ServiceValue where
  | none
  | order (value : Order)
  | orders (values : List Order)
  | orderStatus (value : OrderStatus)
  | cancellation (value : CancellationResult)
  | customer (value : Customer)
  | customers (values : List Customer)
  | customerHistory (value : CustomerHistory)
  | shipmentTracking (value : ShipmentTracking)
  | shippingOptions (values : List ShippingOption)
  | addressUpdate (value : AddressUpdateResult)
  | returnLabel (value : ReturnLabel)
  | productStocks (values : List ProductStock)
  | productDetails (value : ProductDetails)
  | refund (value : RefundResult)
  | discount (value : DiscountResult)
  | coupon (value : CouponResult)
  | warrantyStatus (value : WarrantyStatus)
  | freeShipping (value : FreeShippingResult)
  | returnInitiation (value : ReturnInitiationResult)
  | returnStatus (value : ReturnStatus)

-- An argument of a service method, or of a tool of a server
inductive Argument where
  | json (value : Json)
  | float (value : PyFloat)
  | coupon (params : CouponParams)
  | address (value : Address)
  | orderChanges (changes : OrderChanges)
  | orderItems (items : List OrderItem)
  | returnItems (items : List ReturnItem)

abbrev Kwargs := List (String × Argument)

inductive ServiceKind where
  | order
  | customer
  | inventory
  | shipping
  | compensation
  deriving DecidableEq, Repr

-- A call of a service method. The hat's tools pass on what their parameters hold.
inductive ServiceCall where
  | getOrder (orderId : Json)
  | getOrderStatus (orderId : Json)
  | searchOrdersByCustomer (customerId : Json) (limit : Json := .int 20)
  | cancelOrder (orderId reason : Json)
  | updateOrder (orderId : Json) (changes : OrderChanges)
  | placeOrder (customerId : Json) (items : List OrderItem)
  | getCustomer (customerId : Json)
  | searchCustomers (query : Json)
  | getCustomerHistory (customerId : Json)
  | checkStock (productId : Json := .null)
  | getProductDetails (productId : Json)
  | checkWarrantyStatus (orderId productId : Json)
  | trackShipment (orderId : Json)
  | getShippingOptions (orderId : Json)
  | updateShippingAddress (orderId : Json) (newAddress : Address)
  | generateReturnLabel (orderId reason : Json)
  | applyDiscount (customerId percent reason : Json)
  | processPartialRefund (orderId : Json) (amount : Argument) (reason : Json)
  | processFullRefund (orderId reason : Json)
  | applyFreeShipping (customerId orderId reason : Json)
  | generateCoupon (customerId : Json) (params : CouponParams)
  | initiateReturn (orderId : Json) (items : List ReturnItem) (reason : Json)
  | checkReturnStatus (returnId : Json)

def ServiceCall.service : ServiceCall → ServiceKind
  | .getOrder _ => .order
  | .getOrderStatus _ => .order
  | .searchOrdersByCustomer _ _ => .order
  | .cancelOrder _ _ => .order
  | .updateOrder _ _ => .order
  | .placeOrder _ _ => .order
  | .getCustomer _ => .customer
  | .searchCustomers _ => .customer
  | .getCustomerHistory _ => .customer
  | .checkStock _ => .inventory
  | .getProductDetails _ => .inventory
  | .checkWarrantyStatus _ _ => .inventory
  | .trackShipment _ => .shipping
  | .getShippingOptions _ => .shipping
  | .updateShippingAddress _ _ => .shipping
  | .generateReturnLabel _ _ => .shipping
  | .applyDiscount _ _ _ => .compensation
  | .processPartialRefund _ _ _ => .compensation
  | .processFullRefund _ _ => .compensation
  | .applyFreeShipping _ _ _ => .compensation
  | .generateCoupon _ _ => .compensation
  | .initiateReturn _ _ _ => .compensation
  | .checkReturnStatus _ => .compensation

end Sophia.ServiceModels
