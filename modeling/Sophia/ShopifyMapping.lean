import Sophia.McpAdapter

namespace Sophia.Mcp.Shopify
open Json ServiceModels

def statuses : List (Json × String) := [(.null,"pending"),(.str "","pending"),(.str "unfulfilled","pending"),
  (.str "partial","confirmed"),(.str "fulfilled","shipped"),(.str "restocked","cancelled")]

def mapShopifyStatus : Json → Except PyError String := mapStatus statuses

section
variable (texts : Texts)

def orderItem (li : Json) : Except PyError OrderItem := do
  let productId ← text texts li "product_id"
  let name ← li.get "title" (← li.get "name" (.str ""))
  let quantity ← li.get "quantity" (.int 1)
  let unitPrice ← number texts li "price"
  let totalPrice ← scale unitPrice quantity
  return {productId := .str productId,name,quantity,unitPrice,totalPrice}

def addressOf (addr : Json) : Except PyError Address := do
  let line1 ← addr.get "address1" (.str "")
  let line2 ← addr.get "address2" .null
  let city ← addr.get "city" (.str "")
  let state ← addr.get "province" (.str "")
  let postalCode ← addr.get "zip" (.str "")
  let country ← addr.get "country_code" (.str "US")
  return {line1,line2,city,state,postalCode,country}

def orderAddress (addr : Json) : Except PyError (Option Address) :=
  if addr.truthy then do return some (← addressOf addr) else .ok none

def orderState (data : Json) : Except PyError String := do
  let status ← mapShopifyStatus (← data.get "fulfillment_status" .null)
  let cancelledAt ← data.get "cancelled_at" .null
  return if cancelledAt.truthy then "cancelled" else status

def trackingNumber (fulfillments : Json) : Except PyError Json :=
  if fulfillments.truthy then do
    let fulfillment ← fulfillments.first
    fulfillment.get "tracking_number" .null
  else .ok .null

def parseShopifyOrder (data : Json) : Except PyError Order := do
  let items ← collect (orderItem texts) (← data.get "line_items" (.arr []))
  let shippingAddress ← orderAddress (← data.get "shipping_address" .null)
  let status ← orderState data
  let orderId ← text texts data "id"
  let customer ← data.get "customer" (.obj [])
  let customerId ← text texts customer "id"
  let total ← number texts data "total_price"
  let currency ← data.get "currency" (.str "USD")
  let createdAt ← date texts data "created_at"
  let updatedAt ← date texts data "updated_at"
  let tracking ← trackingNumber (← data.get "fulfillments" .null)
  return ⟨orderId,.str customerId,status,items,total,currency,createdAt,updatedAt,shippingAddress,tracking⟩

-- The source wraps every order of a list as a result of its own, and takes it out again, before it parses it.
def parseShopifyOrders (data : Json) : Except PyError (List Order) :=
  collect (parseShopifyOrder texts) (listed "orders" data)

def parseShopifyOrderStatus (data : Json) : Except PyError OrderStatus := do
  let status ← orderState data
  let tracking ← trackingNumber (← data.get "fulfillments" .null)
  let orderId ← text texts data "id"
  let lastUpdated ← date texts data "updated_at"
  return {orderId,status,lastUpdated,trackingNumber := tracking}

def parseShopifyCancellation (data : Json) : Except PyError CancellationResult := do
  let orderId ← text texts data "id"
  let cancelledAt ← data.get "cancelled_at" .null
  let refundAmount ← number texts data "total_price"
  return {orderId := .str orderId,success := !cancelledAt.isNull,refundAmount := some refundAmount}

def customerTags : Json → Json
  | .str tags => .arr (((tags.splitOn ",").map PyText.strip).filter (· ≠ "") |>.map .str)
  | tags => tags

def parseShopifyCustomer (data : Json) : Except PyError Customer := do
  let customerId ← text texts data "id"
  let email ← data.get "email" (.str "")
  let firstName ← text texts data "first_name"
  let lastName ← text texts data "last_name"
  let phone ← data.get "phone" .null
  let createdAt ← date texts data "created_at"
  let totalOrders ← data.get "orders_count" (.int 0)
  let totalSpent ← number texts data "total_spent"
  let tags ← data.get "tags" (.arr [])
  let name := PyText.strip (firstName ++ " " ++ lastName)
  return ⟨customerId,email,name,phone,some createdAt,totalOrders,totalSpent,customerTags tags⟩

def parseShopifyCustomers (data : Json) : Except PyError (List Customer) :=
  collect (parseShopifyCustomer texts) (listed "customers" data)

def productPrice (variants : Json) : Except PyError PyFloat :=
  if variants.truthy then do number texts (← variants.first) "price" else .ok (.finite 0)

def parseShopifyProduct (data : Json) : Except PyError ProductDetails := do
  let price ← productPrice texts (← data.get "variants" (.arr [.obj []]))
  let productId ← text texts data "id"
  let name ← data.get "title" (.str "")
  let description ← data.get "body_html" (.str "")
  let category ← data.get "product_type" (.str "")
  return {productId,name,description,price,category}

def productStock (level : Json) : Except PyError ProductStock := do
  let quantityAvailable ← level.get "available" (.int 0)
  let productId ← text texts level "inventory_item_id"
  let inStock ← positive quantityAvailable
  return {productId,name := .str "",quantityAvailable,price := .finite 0,inStock}

def parseShopifyInventory (data : Json) : Except PyError (List ProductStock) :=
  collect (productStock texts) (listed "inventory_levels" data)

def refundAmount (transactions : Json) : Except PyError PyFloat :=
  if transactions.truthy then do number texts (← transactions.first) "amount" else .ok (.finite 0)

def parseShopifyRefund (data : Json) : Except PyError RefundResult := do
  let amount ← refundAmount texts (← data.get "transactions" (.arr []))
  let refundId ← text texts data "id"
  let orderId ← text texts data "order_id"
  let id ← data.get "id" .null
  return {refundId,orderId,amount,status := if id.truthy then "processed" else "failed",
          method := "original_payment"}

def orderMapping : List (String × ToolConfig) := [
  ("get_order",⟨"get_order",sends ["order_id"] [("order_id","order_id")],parsed texts (parseShopifyOrder texts) .order⟩),
  ("get_order_status",⟨"get_order",sends ["order_id"] [("order_id","order_id")],
    parsed texts (parseShopifyOrderStatus texts) .orderStatus⟩),
  ("search_orders_by_customer",⟨"list_orders",.takes ["customer_id"] ["limit"] (fun kwargs => .ok
      [("customer_id",argument kwargs "customer_id"),("limit",(kwargs.lookup "limit").getD (.json (.int 20)))]),
    parsed texts (parseShopifyOrders texts) .orders⟩),
  ("cancel_order",⟨"cancel_order",sends ["order_id","reason"] [("order_id","order_id"),("reason","reason")],
    parsed texts (parseShopifyCancellation texts) .cancellation⟩),
  unsupported "update_order",
  unsupported "place_order"]

def customerMapping : List (String × ToolConfig) := [
  ("get_customer",⟨"get_customer",sends ["customer_id"] [("customer_id","customer_id")],
    parsed texts (parseShopifyCustomer texts) .customer⟩),
  ("search_customers",⟨"search_customers",sends ["query"] [("query","query")],
    parsed texts (parseShopifyCustomers texts) .customers⟩),
  unsupported "get_customer_history"]

def inventoryMapping : List (String × ToolConfig) := [
  ("get_product_details",⟨"get_product",sends ["product_id"] [("product_id","product_id")],
    parsed texts (parseShopifyProduct texts) .productDetails⟩),
  ("check_stock",⟨"get_inventory_level",stockArgs,parsed texts (parseShopifyInventory texts) .productStocks⟩),
  ("check_warranty_status",⟨"check_warranty_status",.notSupported "warranty checks",fun _ => .ok .none⟩)]

def compensationMapping : List (String × ToolConfig) := [
  ("process_full_refund",⟨"create_refund",sends ["order_id","reason"] [("order_id","order_id"),("reason","reason")],
    parsed texts (parseShopifyRefund texts) .refund⟩),
  ("process_partial_refund",⟨"create_refund",sends ["order_id","amount","reason"]
      [("order_id","order_id"),("amount","amount"),("reason","reason")],parsed texts (parseShopifyRefund texts) .refund⟩),
  unsupported "apply_discount",
  unsupported "apply_free_shipping",
  unsupported "generate_coupon",
  unsupported "initiate_return",
  unsupported "check_return_status"]

end

end Sophia.Mcp.Shopify
