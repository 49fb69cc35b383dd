import Sophia.McpAdapter

namespace Sophia.Mcp.WooCommerce
open Json ServiceModels

def statusMap : List (Json × String) := [(.str "pending","pending"),(.str "processing","processing"),
  (.str "on-hold","pending"),(.str "completed","delivered"),(.str "cancelled","cancelled"),(.str "refunded","cancelled"),
  (.str "failed","cancelled"),(.str "checkout-draft","pending")]

def mapWcStatus (status : Json) : Except PyError String := mapStatus statusMap (status.orElse (.str ""))

def findTracking : List Json → Except PyError Json
  | [] => .ok .null
  | item :: rest => do
    let key ← item.get "key" .null
    if key.isStr "_tracking_number" then item.get "value" .null else findTracking rest

def extractWcTracking (metaData : Json) : Except PyError Json := do
  findTracking (← (metaData.orElse (.arr [])).iterate)

section
variable (texts : Texts)

def orderItem (li : Json) : Except PyError OrderItem := do
  let productId ← text texts li "product_id"
  let name ← li.get "name" (.str "")
  let quantity ← li.get "quantity" (.int 1)
  let unitPrice ← number texts li "price"
  let totalPrice ← number texts li "total"
  return {productId := .str productId,name,quantity,unitPrice,totalPrice}

def addressOf (addr : Json) : Except PyError Address := do
  let line1 ← addr.get "address_1" (.str "")
  let line2 ← addr.get "address_2" .null
  let city ← addr.get "city" (.str "")
  let state ← addr.get "state" (.str "")
  let postalCode ← addr.get "postcode" (.str "")
  let country ← addr.get "country" (.str "US")
  return {line1,line2 := line2.orElse .null,city,state,postalCode,country}

def orderAddress (addr : Json) : Except PyError (Option Address) :=
  if addr.truthy then do return some (← addressOf addr) else .ok none

def parseWcOrder (data : Json) : Except PyError Order := do
  let items ← collect (orderItem texts) (← data.get "line_items" (.arr []))
  let shippingAddress ← orderAddress (← data.get "shipping" .null)
  let orderId ← text texts data "id"
  let customerId ← text texts data "customer_id"
  let status ← mapWcStatus (← data.get "status" .null)
  let total ← number texts data "total"
  let currency ← data.get "currency" (.str "USD")
  let createdAt ← date texts data "date_created"
  let updatedAt ← date texts data "date_modified"
  let tracking ← extractWcTracking (← data.get "meta_data" (.arr []))
  return ⟨orderId,.str customerId,status,items,total,currency,createdAt,updatedAt,shippingAddress,tracking⟩

def parseWcOrders (data : Json) : Except PyError (List Order) := collect (parseWcOrder texts) (listed "orders" data)

def parseWcOrderStatus (data : Json) : Except PyError OrderStatus := do
  let orderId ← text texts data "id"
  let status ← mapWcStatus (← data.get "status" .null)
  let lastUpdated ← date texts data "date_modified"
  let tracking ← extractWcTracking (← data.get "meta_data" (.arr []))
  return {orderId,status,lastUpdated,trackingNumber := tracking}

def parseWcCancellation (data : Json) : Except PyError CancellationResult := do
  let orderId ← text texts data "id"
  let status ← data.get "status" .null
  let refundAmount ← number texts data "total"
  return {orderId := .str orderId,success := status.isStr "cancelled",refundAmount := some refundAmount}

def parseWcCustomer (data : Json) : Except PyError Customer := do
  let firstName ← text texts data "first_name"
  let lastName ← text texts data "last_name"
  let customerId ← text texts data "id"
  let email ← data.get "email" (.str "")
  let createdAt ← date texts data "date_created"
  let totalOrders ← data.get "orders_count" (.int 0)
  let totalSpent ← number texts data "total_spent"
  let name := PyText.strip (firstName ++ " " ++ lastName)
  return {customerId,email,name,createdAt := some createdAt,totalOrders,totalSpent}

def parseWcCustomers (data : Json) : Except PyError (List Customer) :=
  collect (parseWcCustomer texts) (listed "customers" data)

def firstCustomer (ordersData : Json) : Except PyError String :=
  if ordersData.truthy then do text texts (← ordersData.first) "customer_id" else .ok ""

def parseWcCustomerHistory (data : Json) : Except PyError CustomerHistory := do
  let orders ← parseWcOrders texts data
  let customerId ← firstCustomer texts (listed "orders" data)
  return {customer := {customerId,email := .str "",name := ""},orders,returns := []}

def productCategory (categories : Json) : Except PyError Json :=
  if categories.truthy then do (← categories.first).get "name" (.str "") else .ok (.str "")

def parseWcProduct (data : Json) : Except PyError ProductDetails := do
  let category ← productCategory (← data.get "categories" (.arr []))
  let productId ← text texts data "id"
  let name ← data.get "name" (.str "")
  let description ← data.get "description" (.str "")
  let price ← number texts data "price"
  return {productId,name,description,price,category}

def productStock (prod : Json) : Except PyError ProductStock := do
  let quantity ← prod.get "stock_quantity" .null
  let stockStatus ← prod.get "stock_status" (.str "")
  let productId ← text texts prod "id"
  let name ← prod.get "name" (.str "")
  let price ← number texts prod "price"
  return ⟨productId,name,quantity.orElse (.int 0),price,stockStatus.isStr "instock"⟩

def parseWcStock (data : Json) : Except PyError (List ProductStock) :=
  collect (productStock texts) (listed "products" data)

def parseWcRefund (data : Json) : Except PyError RefundResult := do
  let refundId ← text texts data "id"
  let orderId ← text texts data "order_id"
  let amount ← number texts data "amount"
  let id ← data.get "id" .null
  return {refundId,orderId,amount := amount.abs,status := if id.truthy then "processed" else "failed",
          method := "original_payment"}

def orderMapping : List (String × ToolConfig) := [
  ("get_order",⟨"wc_orders_get",sends ["order_id"] [("order_id","order_id")],parsed texts (parseWcOrder texts) .order⟩),
  ("get_order_status",⟨"wc_orders_get",sends ["order_id"] [("order_id","order_id")],
    parsed texts (parseWcOrderStatus texts) .orderStatus⟩),
  ("search_orders_by_customer",⟨"wc_orders_list",.takes ["customer_id"] ["limit"] (fun kwargs => .ok
      [("customer",argument kwargs "customer_id"),("per_page",(kwargs.lookup "limit").getD (.json (.int 20)))]),
    parsed texts (parseWcOrders texts) .orders⟩),
  ("cancel_order",⟨"wc_orders_update",.takes ["order_id","reason"] [] (fun kwargs => .ok
      [("order_id",argument kwargs "order_id"),("status",.json (.str "cancelled"))]),
    parsed texts (parseWcCancellation texts) .cancellation⟩),
  unsupportedBy "wc_orders_update" "update_order",
  unsupported "place_order"]

def customerMapping : List (String × ToolConfig) := [
  ("get_customer",⟨"wc_customers_get",sends ["customer_id"] [("customer_id","customer_id")],
    parsed texts (parseWcCustomer texts) .customer⟩),
  ("search_customers",⟨"wc_customers_list",sends ["query"] [("search","query")],
    parsed texts (parseWcCustomers texts) .customers⟩),
  ("get_customer_history",⟨"wc_orders_list",sends ["customer_id"] [("customer","customer_id")],
    parsed texts (parseWcCustomerHistory texts) .customerHistory⟩)]

def inventoryMapping : List (String × ToolConfig) := [
  ("get_product_details",⟨"wc_products_get",sends ["product_id"] [("product_id","product_id")],
    parsed texts (parseWcProduct texts) .productDetails⟩),
  ("check_stock",⟨"wc_products_list",stockArgs,parsed texts (parseWcStock texts) .productStocks⟩),
  unsupported "check_warranty_status"]

def compensationMapping : List (String × ToolConfig) := [
  ("process_full_refund",⟨"wc_refunds_create",sends ["order_id","reason"] [("order_id","order_id"),("reason","reason")],
    parsed texts (parseWcRefund texts) .refund⟩),
  ("process_partial_refund",⟨"wc_refunds_create",.takes ["order_id","amount","reason"] [] (fun kwargs => .ok
      [("order_id",argument kwargs "order_id"),("amount",.json (.str (texts.str (argument kwargs "amount")))),
        ("reason",argument kwargs "reason")]),
    parsed texts (parseWcRefund texts) .refund⟩),
  unsupported "apply_discount",
  unsupported "apply_free_shipping",
  unsupported "generate_coupon",
  unsupported "initiate_return",
  unsupported "check_return_status"]

end

def shippingMapping : List (String × ToolConfig) := [
  unsupported "track_shipment",
  unsupported "get_shipping_options",
  unsupported "update_shipping_address",
  unsupported "generate_return_label"]

end Sophia.Mcp.WooCommerce
