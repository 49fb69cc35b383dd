import Sophia.McpAdapter

namespace Sophia.Mcp.ShipStation
open Json ServiceModels

section
variable (texts : Texts)

def parseShipstationTracking (data : Json) : Except PyError ShipmentTracking := do
  let orderId ← text texts data "order_id"
  let carrier ← data.get "carrier_code" (.str "")
  let trackingNumber ← data.get "tracking_number" (.str "")
  let status ← data.get "status" (.str "pending")
  let shipDate ← data.get "ship_date" .null
  return ⟨orderId,carrier,trackingNumber,status,parseDatetime texts shipDate⟩

def shippingOption (svc : Json) : Except PyError ShippingOption := do
  let carrier ← svc.get "carrier_code" (.str "")
  let service ← svc.get "name" (.str "")
  return {carrier,service,estimatedDays := 0,cost := .finite 0}

def parseShipstationCarrierServices (data : Json) : Except PyError (List ShippingOption) := do
  collect shippingOption (← data.get "services" (.arr []))

def parseShipstationAddressUpdate (data : Json) : Except PyError AddressUpdateResult := do
  let id ← data.get "id" (.str "")
  let orderId ← data.get "order_id" id
  return {orderId := .str (texts.str (.json orderId)),success := true}

def parseShipstationReturnLabel (data : Json) : Except PyError ReturnLabel := do
  let labelDownload ← data.get "label_download" (.obj [])
  let labelUrl ← labelDownload.get "pdf" (.str "")
  let trackingNumber ← data.get "tracking_number" (.str "")
  let carrier ← data.get "carrier_code" (.str "")
  return {labelUrl,carrier,trackingNumber,expiry := texts.inThirtyDays}

def shippingMapping : List (String × ToolConfig) := [
  ("track_shipment",⟨"get_shipment",sends ["order_id"] [("order_id","order_id")],
    parsed texts (parseShipstationTracking texts) .shipmentTracking⟩),
  ("get_shipping_options",⟨"list_carrier_services",.takesAny (fun _ => .ok []),
    parsed texts parseShipstationCarrierServices .shippingOptions⟩),
  ("update_shipping_address",⟨"update_order",sends ["order_id","address"] [("order_id","order_id"),("ship_to","address")],
    parsed texts (parseShipstationAddressUpdate texts) .addressUpdate⟩),
  ("generate_return_label",⟨"create_label",.takes ["order_id","reason"] [] (fun kwargs => .ok
      [("order_id",argument kwargs "order_id"),("is_return_label",.json (.bool true)),("label_layout",.json (.str "4x6"))]),
    parsed texts (parseShipstationReturnLabel texts) .returnLabel⟩)]

end

def orderMapping : List (String × ToolConfig) := [
  unsupported "get_order",
  unsupported "get_order_status",
  unsupported "search_orders_by_customer",
  unsupported "cancel_order",
  unsupported "update_order",
  unsupported "place_order"]

def customerMapping : List (String × ToolConfig) := [
  unsupported "get_customer",
  unsupported "search_customers",
  unsupported "get_customer_history"]

def inventoryMapping : List (String × ToolConfig) := [
  unsupported "get_product_details",
  unsupported "check_stock",
  unsupported "check_warranty_status"]

def compensationMapping : List (String × ToolConfig) := [
  unsupported "process_full_refund",
  unsupported "process_partial_refund",
  unsupported "apply_discount",
  unsupported "apply_free_shipping",
  unsupported "generate_coupon",
  unsupported "initiate_return",
  unsupported "check_return_status"]

end Sophia.Mcp.ShipStation
