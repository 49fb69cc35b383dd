import Sophia.ShopifyMapping
import Sophia.WooCommerceMapping
import Sophia.StripeMapping
import Sophia.ShipStationMapping

namespace Sophia.Mcp
open TracedRun Json ServiceModels

inductive Platform where
  | shopify
  | woocommerce
  | stripe
  | shipstation
  deriving DecidableEq, Repr

-- The dictionaries of the mapping modules. Shopify has none for shipping, so no such service is built.
def mappingOf (texts : Texts) : Platform → ServiceKind → List (String × ToolConfig)
  | .shopify,.order => Shopify.orderMapping texts
  | .shopify,.customer => Shopify.customerMapping texts
  | .shopify,.inventory => Shopify.inventoryMapping texts
  | .shopify,.shipping => []
  | .shopify,.compensation => Shopify.compensationMapping texts
  | .woocommerce,.order => WooCommerce.orderMapping texts
  | .woocommerce,.customer => WooCommerce.customerMapping texts
  | .woocommerce,.inventory => WooCommerce.inventoryMapping texts
  | .woocommerce,.shipping => WooCommerce.shippingMapping
  | .woocommerce,.compensation => WooCommerce.compensationMapping texts
  | .stripe,.order => Stripe.orderMapping
  | .stripe,.customer => Stripe.customerMapping texts
  | .stripe,.inventory => Stripe.inventoryMapping
  | .stripe,.shipping => Stripe.shippingMapping
  | .stripe,.compensation => Stripe.compensationMapping texts
  | .shipstation,.order => ShipStation.orderMapping
  | .shipstation,.customer => ShipStation.customerMapping
  | .shipstation,.inventory => ShipStation.inventoryMapping
  | .shipstation,.shipping => ShipStation.shippingMapping texts
  | .shipstation,.compensation => ShipStation.compensationMapping

-- What the methods of the five services pass to _call
def methodName : ServiceCall → String
  | .getOrder _ => "get_order"
  | .getOrderStatus _ => "get_order_status"
  | .searchOrdersByCustomer _ _ => "search_orders_by_customer"
  | .cancelOrder _ _ => "cancel_order"
  | .updateOrder _ _ => "update_order"
  | .placeOrder _ _ => "place_order"
  | .getCustomer _ => "get_customer"
  | .searchCustomers _ => "search_customers"
  | .getCustomerHistory _ => "get_customer_history"
  | .checkStock _ => "check_stock"
  | .getProductDetails _ => "get_product_details"
  | .checkWarrantyStatus _ _ => "check_warranty_status"
  | .trackShipment _ => "track_shipment"
  | .getShippingOptions _ => "get_shipping_options"
  | .updateShippingAddress _ _ => "update_shipping_address"
  | .generateReturnLabel _ _ => "generate_return_label"
  | .applyDiscount _ _ _ => "apply_discount"
  | .processPartialRefund _ _ _ => "process_partial_refund"
  | .processFullRefund _ _ => "process_full_refund"
  | .applyFreeShipping _ _ _ => "apply_free_shipping"
  | .generateCoupon _ _ => "generate_coupon"
  | .initiateReturn _ _ _ => "initiate_return"
  | .checkReturnStatus _ => "check_return_status"

def kwargsOf : ServiceCall → Kwargs
  | .getOrder orderId => [("order_id",.json orderId)]
  | .getOrderStatus orderId => [("order_id",.json orderId)]
  | .searchOrdersByCustomer customerId limit => [("customer_id",.json customerId),("limit",.json limit)]
  | .cancelOrder orderId reason => [("order_id",.json orderId),("reason",.json reason)]
  | .updateOrder orderId changes => [("order_id",.json orderId),("changes",.orderChanges changes)]
  | .placeOrder customerId items => [("customer_id",.json customerId),("items",.orderItems items)]
  | .getCustomer customerId => [("customer_id",.json customerId)]
  | .searchCustomers query => [("query",.json query)]
  | .getCustomerHistory customerId => [("customer_id",.json customerId)]
  | .checkStock productId => [("product_id",.json productId)]
  | .getProductDetails productId => [("product_id",.json productId)]
  | .checkWarrantyStatus orderId productId => [("order_id",.json orderId),("product_id",.json productId)]
  | .trackShipment orderId => [("order_id",.json orderId)]
  | .getShippingOptions orderId => [("order_id",.json orderId)]
  | .updateShippingAddress orderId newAddress => [("order_id",.json orderId),("new_address",.address newAddress)]
  | .generateReturnLabel orderId reason => [("order_id",.json orderId),("reason",.json reason)]
  | .applyDiscount customerId percent reason =>
    [("customer_id",.json customerId),("percent",.json percent),("reason",.json reason)]
  | .processPartialRefund orderId amount reason =>
    [("order_id",.json orderId),("amount",amount),("reason",.json reason)]
  | .processFullRefund orderId reason => [("order_id",.json orderId),("reason",.json reason)]
  | .applyFreeShipping customerId orderId reason =>
    [("customer_id",.json customerId),("order_id",.json orderId),("reason",.json reason)]
  | .generateCoupon customerId params => [("customer_id",.json customerId),("params",.coupon params)]
  | .initiateReturn orderId items reason => [("order_id",.json orderId),("items",.returnItems items),("reason",.json reason)]
  | .checkReturnStatus returnId => [("return_id",.json returnId)]

def configOf (texts : Texts) (platform : Platform) (asked : ServiceCall) : Option ToolConfig :=
  (mappingOf texts platform asked.service).lookup (methodName asked)

-- Mapped to a tool of the server, not through _not_supported
def supported (texts : Texts) (platform : Platform) (asked : ServiceCall) : Bool :=
  ((configOf texts platform asked).map (·.buildArgs.isSupported)).getD false

-- What a server answers to a tool call in a state of the world, and what implements one of the five services
abbrev Server (σ : Type) := String → Kwargs → σ → σ × Except PyError McpToolResult

inductive Backend (σ : Type) where
  | mcp (platform : Platform)
  | mock (answer : ServiceCall → σ → σ × Except PyError ServiceValue)

-- An answered tool call leaves its service call and its result.
abbrev ServerRun (σ : Type) := Run PyError σ (ServiceCall × McpToolResult)

section
variable {σ : Type} (texts : Texts) (server : Server σ)

def callServer (asked : ServiceCall) (toolName : String) (args : Kwargs) : ServerRun σ McpToolResult := do
  let result ← overState (server toolName args)
  emit (asked,result)
  pure result

def serve (wiring : ServiceKind → Backend σ) (asked : ServiceCall) : ServerRun σ ServiceValue :=
  match wiring asked.service with
  | .mcp platform =>
    call (callServer server asked) (mappingOf texts platform asked.service) (methodName asked) (kwargsOf asked)
  | .mock answer => overState (answer asked)

end

end Sophia.Mcp
