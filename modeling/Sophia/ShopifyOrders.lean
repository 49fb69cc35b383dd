import Sophia.ShopifyMapping
import Sophia.Library.JsonWriter

namespace Sophia.Mcp
open Json ServiceModels JsonWriter

-- json.loads as the reader computes it, with float and its repr. Which exception it raises is left open.
structure JsonTexts extends Texts where
  floats : Floats
  reads : ∀ text value, loads text = .ok value ↔ JsonReader.loads floats.hooks text = .ok value

-- Enough to read documents without fractions
def wholeNumbers : Floats := ⟨fun _ => .error .valueError,fun _ => "0.0",fun _ _ read => by cases read⟩

def readWhole (text : String) : Except PyError Json := (JsonReader.loads wholeNumbers.hooks text).mapError fun _ => decodeError

def documentTexts : JsonTexts where
  toTexts := {plainTexts with
    loads := readWhole
    str := fun argument => match argument with
      | .json (.str text) => text
      | .json (.int n) => toString n
      | _ => ""
    loads_raises := by
      intro text e raised
      unfold readWhole at raised
      cases read : JsonReader.loads wholeNumbers.hooks text with
      | error other => rw [read] at raised; cases raised; exact ⟨rfl,fun same => by cases same⟩
      | ok value => rw [read] at raised; cases raised}
  floats := wholeNumbers
  reads := by
    intro text value
    change readWhole text = _ ↔ _
    unfold readWhole
    cases JsonReader.loads wholeNumbers.hooks text <;> simp [Except.mapError]

section
variable {texts : JsonTexts} {result : McpToolResult} {data order value : Json}

theorem loadText_writable {block : Json} (loaded : loadText texts.toTexts block = .ok value) : Writable texts.floats value := by
  obtain ⟨found,_,loaded⟩ := except_bind.mp loaded
  cases found with
  | str text => exact loads_writable ((texts.reads _ _).mp loaded)
  | _ => cases loaded

theorem firstText_writable (blocks : List Json) (read : firstText texts.toTexts blocks = .ok value) :
    Writable texts.floats value := by
  induction blocks with
  | nil => cases read
  | cons block rest ih =>
    obtain ⟨type,_,read⟩ := except_bind.mp read
    split at read
    · cases loaded : loadText texts.toTexts block with
      | error e => rw [loaded] at read; cases read
      | ok found =>
        rw [loaded] at read
        cases read
        exact loadText_writable loaded
    · exact ih read

-- What is taken out of a result was read from a text, so it can be written.
theorem extractJson_writable (extracted : extractJson texts.toTexts result = .ok data) : Writable texts.floats data := by
  unfold extractJson at extracted
  split at extracted
  · obtain ⟨blocks,_,extracted⟩ := except_bind.mp extracted
    exact firstText_writable blocks extracted
  · cases extracted

-- MCPToolResult(content=[{"type": "text", "text": json.dumps(value)}])
def rewrap (texts : JsonTexts) (value : Json) : McpToolResult where
  content := .arr [.obj [("type",.str "text"),("text",.str (dumps texts.floats.repr value))]]

theorem extractJson_rewrap (writable : Writable texts.floats value) :
    extractJson texts.toTexts (rewrap texts value) = .ok value := by
  have loaded : texts.loads (dumps texts.floats.repr value) = .ok value := (texts.reads _ _).mpr (loads_dumps writable)
  have taken : loadText texts.toTexts (.obj [("type",.str "text"),("text",.str (dumps texts.floats.repr value))]) =
      .ok value := loaded
  change (loadText texts.toTexts _).mapError asParseError = .ok value
  rw [taken]
  rfl

end

namespace Shopify

section
variable (texts : JsonTexts)

def parseOrder (result : McpToolResult) : Except PyError Order := do
  parseShopifyOrder texts.toTexts (← extractJson texts.toTexts result)

def parseOrderStatus (result : McpToolResult) : Except PyError OrderStatus := do
  parseShopifyOrderStatus texts.toTexts (← extractJson texts.toTexts result)

-- Every order of the list is wrapped as a result of its own before it is parsed.
def parseOrders (result : McpToolResult) : Except PyError (List Order) := do
  let data ← extractJson texts.toTexts result
  let ordersData ← (listed "orders" data).iterate
  ordersData.mapM fun orderData => parseOrder texts (rewrap texts orderData)

end

section
variable {texts : JsonTexts} {result : McpToolResult} {data : Json}

theorem parseOrder_of (extracted : extractJson texts.toTexts result = .ok data) :
    parseOrder texts result = parseShopifyOrder texts.toTexts data := by
  rw [parseOrder,extracted]
  rfl

theorem parseOrderStatus_of (extracted : extractJson texts.toTexts result = .ok data) :
    parseOrderStatus texts result = parseShopifyOrderStatus texts.toTexts data := by
  rw [parseOrderStatus,extracted]
  rfl

theorem listed_writable (writable : Writable texts.floats data) (key : String) :
    Writable texts.floats (listed key data) := by
  cases data with
  | obj fields =>
    rw [listed]
    cases found : fields.lookup key with
    | some value => exact writable.lookup found
    | none => exact .arr (List.forall_mem_singleton.mpr writable)
  | _ => exact writable

-- Wrapping every order of the list and taking it out again changes nothing.
theorem parseOrders_of (extracted : extractJson texts.toTexts result = .ok data) :
    parseOrders texts result = parseShopifyOrders texts.toTexts data := by
  rw [parseOrders,extracted]
  change (do (← (listed "orders" data).iterate).mapM fun orderData => parseOrder texts (rewrap texts orderData)) =
    (do (← (listed "orders" data).iterate).mapM (parseShopifyOrder texts.toTexts))
  cases iterated : (listed "orders" data).iterate with
  | error e => rfl
  | ok orders =>
    have writable := (listed_writable (extractJson_writable extracted) "orders").iterate iterated
    exact mapM_agrees fun order present => parseOrder_of (extractJson_rewrap (writable order present))

-- What an order object says of itself, whatever the parser
structure OrderReading (texts : Texts) (data : Json) (orderId state : String) (updatedAt : Moment) (tracking : Json) :
    Prop where
  orderId : text texts data "id" = .ok orderId
  state : orderState data = .ok state
  updatedAt : date texts data "updated_at" = .ok updatedAt
  tracking : (data.get "fulfillments" .null >>= trackingNumber) = .ok tracking

theorem parseShopifyOrder_reading {texts : Texts} {order : Order} (parsed : parseShopifyOrder texts data = .ok order) :
    OrderReading texts data order.orderId order.status order.updatedAt order.trackingNumber := by
  obtain ⟨lineItems,_,parsed⟩ := except_bind.mp parsed
  obtain ⟨items,_,parsed⟩ := except_bind.mp parsed
  obtain ⟨shipping,_,parsed⟩ := except_bind.mp parsed
  obtain ⟨address,_,parsed⟩ := except_bind.mp parsed
  obtain ⟨state,stated,parsed⟩ := except_bind.mp parsed
  obtain ⟨orderId,identified,parsed⟩ := except_bind.mp parsed
  obtain ⟨customer,_,parsed⟩ := except_bind.mp parsed
  obtain ⟨customerId,_,parsed⟩ := except_bind.mp parsed
  obtain ⟨total,_,parsed⟩ := except_bind.mp parsed
  obtain ⟨currency,_,parsed⟩ := except_bind.mp parsed
  obtain ⟨createdAt,_,parsed⟩ := except_bind.mp parsed
  obtain ⟨updatedAt,updated,parsed⟩ := except_bind.mp parsed
  obtain ⟨fulfillments,listed,parsed⟩ := except_bind.mp parsed
  obtain ⟨tracking,tracked,parsed⟩ := except_bind.mp parsed
  cases parsed
  exact ⟨identified,stated,updated,except_bind.mpr ⟨fulfillments,listed,tracked⟩⟩

theorem parseShopifyOrderStatus_reading {texts : Texts} {status : OrderStatus}
    (parsed : parseShopifyOrderStatus texts data = .ok status) :
    OrderReading texts data status.orderId status.status status.lastUpdated status.trackingNumber := by
  obtain ⟨state,stated,parsed⟩ := except_bind.mp parsed
  obtain ⟨fulfillments,listed,parsed⟩ := except_bind.mp parsed
  obtain ⟨tracking,tracked,parsed⟩ := except_bind.mp parsed
  obtain ⟨orderId,identified,parsed⟩ := except_bind.mp parsed
  obtain ⟨lastUpdated,updated,parsed⟩ := except_bind.mp parsed
  cases parsed
  exact ⟨identified,stated,updated,except_bind.mpr ⟨fulfillments,listed,tracked⟩⟩

theorem orderState_cancelled (given : data.get "cancelled_at" .null = .ok cancelledAt) (some : cancelledAt.truthy = true)
    (stated : orderState data = .ok state) : state = "cancelled" := by
  obtain ⟨fulfillment,_,stated⟩ := except_bind.mp stated
  obtain ⟨status,_,stated⟩ := except_bind.mp stated
  rw [given] at stated
  cases stated
  exact if_pos some

-- What the two parsers of one order have in common
structure SameOrder (order : Order) (status : OrderStatus) : Prop where
  orderId : status.orderId = order.orderId
  state : status.status = order.status
  lastUpdated : status.lastUpdated = order.updatedAt
  trackingNumber : status.trackingNumber = order.trackingNumber

theorem OrderReading.same {texts : Texts} {order : Order} {status : OrderStatus}
    (one : OrderReading texts data order.orderId order.status order.updatedAt order.trackingNumber)
    (other : OrderReading texts data status.orderId status.status status.lastUpdated status.trackingNumber) :
    SameOrder order status :=
  ⟨Except.ok.inj (other.orderId.symm.trans one.orderId),Except.ok.inj (other.state.symm.trans one.state),
    Except.ok.inj (other.updatedAt.symm.trans one.updatedAt),Except.ok.inj (other.tracking.symm.trans one.tracking)⟩

-- The result holds a list of orders, bare or under the key.
def HoldsOrders (texts : JsonTexts) (result : McpToolResult) (orders : List Json) : Prop :=
  ∃ data, extractJson texts.toTexts result = .ok data ∧
    (data = .arr orders ∨ ∃ fields, data = .obj fields ∧ fields.lookup "orders" = some (.arr orders))

-- Results that carry the orders one by one
def CarryOrders (texts : JsonTexts) : List McpToolResult → List Json → Prop :=
  List.Forall₂ fun single order => extractJson texts.toTexts single = .ok order

theorem holdsOrders_listed (holds : HoldsOrders texts result orders) :
    parseOrders texts result = orders.mapM (parseShopifyOrder texts.toTexts) ∧
      ∀ order ∈ orders, Writable texts.floats order := by
  obtain ⟨data,extracted,shape⟩ := holds
  have listing : listed "orders" data = .arr orders := by
    rcases shape with rfl | ⟨fields,rfl,found⟩
    · rfl
    · rw [listed,found]
      rfl
  have writable := listed_writable (extractJson_writable extracted) "orders"
  rw [listing] at writable
  rw [parseOrders_of extracted,parseShopifyOrders,listing]
  exact ⟨rfl,writable.iterate rfl⟩

theorem rewraps_carry (holds : HoldsOrders texts result orders) : CarryOrders texts (orders.map (rewrap texts)) orders := by
  have writable := (holdsOrders_listed holds).2
  clear holds
  induction orders with
  | nil => exact .nil
  | cons order rest ih =>
    obtain ⟨first,later⟩ := List.forall_mem_cons.mp writable
    exact .cons (extractJson_rewrap first) (ih later)

theorem parseOrders_carried (holds : HoldsOrders texts result orders) (carried : CarryOrders texts singles orders) :
    parseOrders texts result = singles.mapM (parseOrder texts) := by
  rw [(holdsOrders_listed holds).1]
  clear holds
  induction carried with
  | nil => rfl
  | cons first _ ih => rw [List.mapM_cons,List.mapM_cons,ih,parseOrder_of first]

structure ParsersAgree (texts : JsonTexts) : Prop where
  single : ∀ result order status, parseOrder texts result = .ok order → parseOrderStatus texts result = .ok status →
    SameOrder order status
  cancelled : ∀ result data cancelledAt, extractJson texts.toTexts result = .ok data →
    data.get "cancelled_at" .null = .ok cancelledAt → cancelledAt.truthy = true →
    (∀ order, parseOrder texts result = .ok order → order.status = "cancelled") ∧
      ∀ status, parseOrderStatus texts result = .ok status → status.status = "cancelled"
  wrapped : ∀ result orders, HoldsOrders texts result orders → CarryOrders texts (orders.map (rewrap texts)) orders
  listed : ∀ result orders singles, HoldsOrders texts result orders → CarryOrders texts singles orders →
    parseOrders texts result = singles.mapM (parseOrder texts)
  fails : ∀ result orders singles, HoldsOrders texts result orders → CarryOrders texts singles orders →
    ((∃ e, parseOrders texts result = .error e) ↔ ∃ single ∈ singles, ∃ e, parseOrder texts single = .error e)

theorem shopify_parsers_agree (texts : JsonTexts) : ParsersAgree texts := by
  refine ⟨?_,?_,fun result orders holds => rewraps_carry holds,?_,?_⟩
  · intro result order status parsed read
    obtain ⟨data,extracted,parsed⟩ := except_bind.mp parsed
    rw [parseOrderStatus_of extracted] at read
    exact (parseShopifyOrder_reading parsed).same (parseShopifyOrderStatus_reading read)
  · intro result data cancelledAt extracted given some
    rw [parseOrder_of extracted,parseOrderStatus_of extracted]
    exact ⟨fun order parsed => orderState_cancelled given some (parseShopifyOrder_reading parsed).state,
      fun status parsed => orderState_cancelled given some (parseShopifyOrderStatus_reading parsed).state⟩
  · exact fun result orders singles holds carried => parseOrders_carried holds carried
  · intro result orders singles holds carried
    rw [parseOrders_carried holds carried]
    exact mapM_raises

end

-- A search that found a cancelled order and one without an id
def foundOrders : McpToolResult where
  content := .arr [.obj [("type",.str "text"),
    ("text",.str "[\x7b\"id\": 7, \"cancelled_at\": \"2024-05-01\"\x7d, \x7b\"fulfillment_status\": \"fulfilled\"\x7d]")]]

theorem shopify_parsers_agree_found : ParsersAgree documentTexts ∧
    ((parseOrders documentTexts foundOrders).map fun orders => orders.map fun order => (order.orderId,order.status)).toOption =
      some [("7","cancelled"),("","shipped")] :=
  ⟨shopify_parsers_agree documentTexts,by decide +kernel⟩

end Shopify
end Sophia.Mcp
