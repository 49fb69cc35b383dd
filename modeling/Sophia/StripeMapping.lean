import Sophia.McpAdapter

namespace Sophia.Mcp.Stripe
open Json ServiceModels

-- datetime(2099, 12, 31)
def farExpiry : Moment := .naive 4102358400000000

section
variable (texts : Texts)

def parseStripeRefund (data : Json) : Except PyError RefundResult := do
  let rawStatus ← data.get "status" (.str "")
  let refundId ← text texts data "id"
  let orderId ← text texts data "payment_intent"
  let amount ← (← data.get "amount" (.int 0)).hundredth
  return {refundId,orderId,amount,status := if rawStatus.isStr "succeeded" then "processed" else "failed",
          method := "original_payment"}

def parseStripeDiscount (data : Json) : Except PyError DiscountResult := do
  let percentOff ← data.get "percent_off" .null
  let percent ← (percentOff.orElse (.int 0)).toInt texts.intText
  let discountCode ← text texts data "id"
  return ⟨discountCode,.int percent,farExpiry,""⟩

def couponValue (percentOff amountOff : Json) : Except PyError (String × PyFloat) :=
  if percentOff.truthy then do return ("percent",← percentOff.toFloat texts.floatText)
  else if amountOff.truthy then do return ("fixed_amount",← amountOff.hundredth)
  else .ok ("percent",.finite 0)

def parseStripeCoupon (data : Json) : Except PyError CouponResult := do
  let percentOff ← data.get "percent_off" .null
  let amountOff ← data.get "amount_off" .null
  let value ← couponValue texts percentOff amountOff
  let couponCode ← text texts data "id"
  return ⟨couponCode,value.1,value.2,farExpiry,""⟩

-- The parts of name.split(" ", 1) joined again; only str has the method.
def fullName (name : Json) : Except PyError String :=
  match name.orElse (.str "") with
  | .str name => .ok (PyText.strip (PyText.before ' ' name ++ " " ++
      String.ofList ((name.toList.dropWhile (· != ' ')).drop 1)))
  | _ => .error .attributeError

def createdAt (ts : Json) : Except PyError (Option Moment) :=
  if ts.truthy then do return some (← texts.fromtimestamp ts) else .ok none

def parseStripeCustomer (data : Json) : Except PyError Customer := do
  let name ← fullName (← data.get "name" .null)
  let createdAt ← createdAt texts (← data.get "created" .null)
  let customerId ← text texts data "id"
  let email ← data.get "email" (.str "")
  let phone ← data.get "phone" .null
  return {customerId,email,name,phone,createdAt}

def parseStripeCustomers (data : Json) : Except PyError (List Customer) :=
  collect (parseStripeCustomer texts) (listed "data" data)

-- int(amount * 100). A text is repeated and a list too, but only the text can be read as a number.
def cents : Argument → Except PyError Int
  | .json (.bool value) => .ok (ofBool value * 100)
  | .json (.int value) => .ok (value * 100)
  | .json (.float value) => (PyFloat.ofRat (value * 100)).toInt
  | .json (.str text) => match texts.intText (String.join (List.replicate 100 text)) with
    | some n => .ok n
    | none => .error .valueError
  | .float value => (value.mul (.finite 100)).toInt
  | _ => .error .typeError

def refundArgs (kwargs : Kwargs) : Except PyError Kwargs := do
  let amount ← cents texts (argument kwargs "amount")
  return [("payment_intent",argument kwargs "order_id"),("amount",.json (.int amount)),("reason",argument kwargs "reason")]

def couponArgs (kwargs : Kwargs) : Except PyError Kwargs :=
  match argument kwargs "params" with
  | .coupon params => do
    let amountOff ← if params.type = "fixed_amount" then
        (Json.int ·) <$> (params.value.mul (.finite 100)).toInt
      else .ok .null
    return [("percent_off",if params.type = "percent" then .float params.value else .json .null),
      ("amount_off",.json amountOff),("currency",.json (if params.type = "fixed_amount" then .str "usd" else .null)),
      ("duration",.json (.str "once"))]
  | _ => .error .attributeError

def customerMapping : List (String × ToolConfig) := [
  ("get_customer",⟨"retrieve_customer",sends ["customer_id"] [("customer_id","customer_id")],
    parsed texts (parseStripeCustomer texts) .customer⟩),
  ("search_customers",⟨"list_customers",sends ["query"] [("email","query")],
    parsed texts (parseStripeCustomers texts) .customers⟩),
  unsupported "get_customer_history"]

def compensationMapping : List (String × ToolConfig) := [
  ("process_full_refund",⟨"create_refund",sends ["order_id","reason"] [("payment_intent","order_id"),("reason","reason")],
    parsed texts (parseStripeRefund texts) .refund⟩),
  ("process_partial_refund",⟨"create_refund",.takes ["order_id","amount","reason"] [] (refundArgs texts),
    parsed texts (parseStripeRefund texts) .refund⟩),
  ("apply_discount",⟨"create_coupon",.takes ["customer_id","percent"] ["reason"] (fun kwargs => .ok
      [("percent_off",argument kwargs "percent"),("duration",.json (.str "once"))]),
    parsed texts (parseStripeDiscount texts) .discount⟩),
  unsupported "apply_free_shipping",
  ("generate_coupon",⟨"create_coupon",.takes ["params"] [] couponArgs,parsed texts (parseStripeCoupon texts) .coupon⟩),
  unsupported "initiate_return",
  unsupported "check_return_status"]

end

def orderMapping : List (String × ToolConfig) := [
  unsupported "get_order",
  unsupported "get_order_status",
  unsupported "search_orders_by_customer",
  unsupported "cancel_order",
  unsupported "update_order",
  unsupported "place_order"]

def shippingMapping : List (String × ToolConfig) := [
  unsupported "track_shipment",
  unsupported "get_shipping_options",
  unsupported "update_shipping_address",
  unsupported "generate_return_label"]

def inventoryMapping : List (String × ToolConfig) := [
  unsupported "get_product_details",
  unsupported "check_stock",
  unsupported "check_warranty_status"]

end Sophia.Mcp.Stripe
