import Sophia.ToolRuns

namespace Sophia.CustomerService
open TracedRun Json ServiceModels Mcp MockServices ParameterGate

-- The types that the parameter schemas declare
inductive Scalar where
  | string
  | integer
  | number
  deriving DecidableEq

inductive FieldType where
  | scalar (type : Scalar)
  | objects (properties : List (String × Scalar)) (required : List String := [])
  deriving DecidableEq

-- A number without a fraction is an integer too.
def Scalar.admits : Scalar → Json → Bool
  | .string,.str _ => true
  | .integer,.int _ => true
  | .integer,.float x => x.den == 1
  | .number,.int _ => true
  | .number,.float _ => true
  | _,_ => false

def admitsObject (properties : List (String × Scalar)) (required : List String) : Json → Bool
  | .obj fields => properties.all (fun property => (fields.lookup property.1).all property.2.admits) &&
      required.all fun name => (fields.lookup name).isSome
  | _ => false

def FieldType.admits : FieldType → Json → Bool
  | .scalar type,value => type.admits value
  | .objects properties required,.arr items => items.all (admitsObject properties required)
  | _,_ => false

def textual : FieldType := .scalar .string

-- The tools of the hat's modules, with the one that works on no service. Where HatRegistry.equip puts the hat on,
-- the framework's escalate_to_human stands in its place.
inductive RegisteredTool where
  | hat (tool : HatTool)
  | escalateToHuman
  deriving DecidableEq

def RegisteredTool.spec : RegisteredTool → Tool
  | .hat tool => toolOf tool
  | .escalateToHuman => {name := "escalate_to_human",required := ["reason","priority","context_summary"]}

-- The properties of each tool's schema
@[simp] def hatProperties : HatTool → List (String × FieldType)
  | .lookUpOrder => [("order_id",textual)]
  | .checkOrderStatus => [("order_id",textual)]
  | .placeNewOrder => [("customer_id",textual),("items",.objects [("product_id",.string),("quantity",.integer)])]
  | .cancelOrder => [("order_id",textual),("reason",textual)]
  | .lookUpCustomer => [("email",textual),("phone",textual),("name",textual)]
  | .getCustomerOrderHistory => [("customer_id",textual)]
  | .checkCurrentInventory => [("product_id",textual)]
  | .lookUpProduct => [("product_id",textual)]
  | .checkWarrantyStatus => [("order_id",textual),("product_id",textual)]
  | .trackShipment => [("order_id",textual)]
  | .updateShippingAddress => [("order_id",textual),("line1",textual),("line2",textual),("city",textual),("state",textual),
      ("postal_code",textual),("country",textual)]
  | .offerDiscount => [("customer_id",textual),("discount_percent",.scalar .integer),("reason",textual)]
  | .offerFreeShipping => [("customer_id",textual),("order_id",textual),("reason",textual)]
  | .offerPartialRefund => [("order_id",textual),("amount",.scalar .number),("reason",textual)]
  | .offerFullRefund => [("order_id",textual),("reason",textual)]
  | .sendReplacementProduct => [("order_id",textual),("product_id",textual),("reason",textual)]
  | .offerFreeItem => [("customer_id",textual),("product_id",textual),("reason",textual)]
  | .initiateReturn => [("order_id",textual),("items",.objects
      [("product_id",.string),("quantity",.integer),("reason",.string)] ["product_id","quantity","reason"]),("reason",textual)]
  | .checkReturnStatus => [("return_id",textual)]

@[simp] def RegisteredTool.properties : RegisteredTool → List (String × FieldType)
  | .hat tool => hatProperties tool
  | .escalateToHuman => [("reason",textual),("priority",textual),("context_summary",textual)]

-- The values of the parameters have the types that the schema declares.
def Typed (tool : RegisteredTool) (params : Params) : Prop :=
  ∀ property ∈ tool.properties, ∀ value ∈ params.lookup property.1, property.2.admits value = true

instance (tool : RegisteredTool) (params : Params) : Decidable (Typed tool params) :=
  inferInstanceAs (Decidable (∀ property ∈ tool.properties, ∀ value ∈ params.lookup property.1, _))

-- A call that the gate lets pass, with parameters of the declared types
structure TypedCall (runtime : Runtime) (known : List String) where
  tool : RegisteredTool
  params : Params
  accepted : (validateCandidate runtime known (.register .empty tool.spec)
    {toolName := tool.spec.name,parameters := params}).passed = true
  typed : Typed tool params

section
variable {ω : Type} (texts : Texts) (errorText : PyError → String) (outside : Outside)

def queuePositions : List (String × Nat) := [("low",8),("medium",4),("high",2),("urgent",1)]
def waitTimes : List (String × String) := [("low","~30 min"),("medium","~15 min"),("high","~5 min"),("urgent","~2 min")]

-- table.get(key, default)
def lookupOr {α : Type} (table : List (String × α)) (default : α) : Json → Except PyError α
  | .str key => .ok ((table.lookup key).getD default)
  | key => do
    hashable key
    return default

def escalateToHuman (params : Params) : MockRun ω HatResult := do
  let priority := param params "priority" (.str "medium")
  let ticket ← uuid outside 8
  let position ← lift (lookupOr queuePositions 4 priority)
  let wait ← lift (lookupOr waitTimes "~15 min" priority)
  pure ⟨true,.ticket ("TKT-" ++ outside.upper ticket) position wait,
    "Escalated to human agent (priority: " ++ shown texts priority ++ ")"⟩

def RegisteredTool.execute : RegisteredTool → Params → MockRun Empty HatResult
  | .hat tool => CustomerService.execute texts errorText (mock outside) tool
  | .escalateToHuman => CustomerService.escalateToHuman texts outside

def registered : List RegisteredTool := [.hat .lookUpOrder,.hat .checkOrderStatus,.hat .checkCurrentInventory,
  .hat .placeNewOrder,.hat .cancelOrder,.hat .lookUpCustomer,.hat .getCustomerOrderHistory,.hat .trackShipment,
  .hat .updateShippingAddress,.hat .lookUpProduct,.hat .checkWarrantyStatus,.hat .initiateReturn,
  .hat .checkReturnStatus,.hat .offerDiscount,.hat .offerFreeShipping,.hat .offerPartialRefund,.hat .offerFullRefund,
  .hat .sendReplacementProduct,.hat .offerFreeItem,.escalateToHuman]

-- ToolRegistry.execute with the tools of the hat
def registryExecute (toolName : String) (params : Params) : MockRun Empty HatResult :=
  match registered.find? (·.spec.name == toolName) with
  | some tool => tool.execute texts errorText outside params
  | none => pure (failure ("Unknown tool: " ++ toolName))

end

-- The id under a declared parameter; an empty text names nothing.
@[simp] def idText : Json → List String
  | .str id => if id = "" then [] else [id]
  | _ => []

@[simp] def declaredId (tool : RegisteredTool) (params : Params) (field : String) : List String :=
  if tool.properties.any (·.1 == field) then (params.lookup field).elim [] idText else []

-- The product of one item of an order or a return
def itemIds : Json → List String
  | .obj fields => (fields.lookup "product_id").elim [] idText
  | _ => []

@[simp] def itemProducts (tool : RegisteredTool) (params : Params) : List String :=
  if tool.properties.any (·.1 == "items") then match params.lookup "items" with
    | some (.arr items) => items.flatMap itemIds
    | _ => []
  else []

@[simp] def RegisteredTool.normalizes : RegisteredTool → Bool
  | .hat tool => CustomerService.normalizes tool
  | .escalateToHuman => false

@[simp] def orderIds (texts : Texts) (tool : RegisteredTool) (params : Params) : List String :=
  (declaredId tool params "order_id").filterMap fun id =>
    if tool.normalizes then (normalizeOrderId texts (.str id)).toOption else some id

-- The order, the customer or a product that the parameters name is not in the store.
def Missing (texts : Texts) (w : World) (tool : RegisteredTool) (params : Params) : Prop :=
  (∃ id ∈ orderIds texts tool params, w.store.orders.get id = none) ∨
  (∃ id ∈ declaredId tool params "customer_id", w.store.customers.get id = none) ∨
  ∃ id ∈ declaredId tool params "product_id" ++ itemProducts tool params, w.store.products.get id = none

section
variable {texts : Texts} {errorText : PyError → String} {outside : Outside} {params : Params}

theorem registryExecute_known (texts : Texts) (errorText : PyError → String) (outside : Outside) (tool : RegisteredTool) :
    registryExecute texts errorText outside tool.spec.name = tool.execute texts errorText outside := by
  have found : registered.find? (·.spec.name == tool.spec.name) = some tool := by
    rcases tool with tool | _
    · cases tool <;> decide +kernel
    · decide +kernel
  funext params
  rw [registryExecute,found]

end
end Sophia.CustomerService
