import Sophia.PlatformShapes
import Sophia.HatTools

namespace Sophia.Mcp
open TracedRun Json ServiceModels Guarded CustomerService

-- A value of the type that the method declares
def declared : ServiceCall → ServiceValue → Bool
  | .getOrder _,.order _ => true
  | .getOrderStatus _,.orderStatus _ => true
  | .searchOrdersByCustomer _ _,.orders _ => true
  | .cancelOrder _ _,.cancellation _ => true
  | .updateOrder _ _,.order _ => true
  | .placeOrder _ _,.order _ => true
  | .getCustomer _,.customer _ => true
  | .searchCustomers _,.customers _ => true
  | .getCustomerHistory _,.customerHistory _ => true
  | .checkStock _,.productStocks _ => true
  | .getProductDetails _,.productDetails _ => true
  | .checkWarrantyStatus _ _,.warrantyStatus _ => true
  | .trackShipment _,.shipmentTracking _ => true
  | .getShippingOptions _,.shippingOptions _ => true
  | .updateShippingAddress _ _,.addressUpdate _ => true
  | .generateReturnLabel _ _,.returnLabel _ => true
  | .applyDiscount _ _ _,.discount _ => true
  | .processPartialRefund _ _ _,.refund _ => true
  | .processFullRefund _ _,.refund _ => true
  | .applyFreeShipping _ _ _,.freeShipping _ => true
  | .generateCoupon _ _,.coupon _ => true
  | .initiateReturn _ _ _,.returnInitiation _ => true
  | .checkReturnStatus _,.returnStatus _ => true
  | _,_ => false

-- The methods that read only
def isLookup : ServiceCall → Bool
  | .getOrder _ => true
  | .getOrderStatus _ => true
  | .searchOrdersByCustomer _ _ => true
  | .getCustomer _ => true
  | .searchCustomers _ => true
  | .getCustomerHistory _ => true
  | .checkStock _ => true
  | .getProductDetails _ => true
  | .checkWarrantyStatus _ _ => true
  | .trackShipment _ => true
  | .getShippingOptions _ => true
  | .checkReturnStatus _ => true
  | _ => false

def Acceptable (asked : ServiceCall) : Except PyError ServiceValue → Prop
  | .ok value => declared asked value = true ∨ (isLookup asked = true ∧ value = .none)
  | .error e => isMcpError e = true

-- The platform's service method, on a server that answers with the result
def ServiceContained (texts : Texts) (platform : Platform) (asked : ServiceCall) (result : McpToolResult) : Prop :=
  ∀ (σ : Type) (server : Server σ) (wiring : ServiceKind → Backend σ) (s : σ), wiring asked.service = .mcp platform →
    (∀ toolName args, (server toolName args s).2 = .ok result) → Acceptable asked (serve texts server wiring asked s).value

-- Every tool in whose run the call was answered with an error, whatever else implements the services
def ToolsContained (texts : Texts) (platform : Platform) (asked : ServiceCall) (result : McpToolResult) : Prop :=
  ∀ (σ : Type) (server : Server σ) (wiring : ServiceKind → Backend σ) (errorText : PyError → String) (tool : HatTool)
    (params : Params) (s : σ), wiring asked.service = .mcp platform → result.isError.truthy = true →
    (asked,result) ∈ (execute texts errorText (serve texts server wiring) tool params s).trace →
    ∃ r, (execute texts errorText (serve texts server wiring) tool params s).value = .ok r ∧ r.success = false

def Contained (texts : Texts) (platform : Platform) (asked : ServiceCall) (result : McpToolResult) : Prop :=
  ServiceContained texts platform asked result ∧ ToolsContained texts platform asked result

-- int(amount * 100) is computed.
def Centable (texts : Texts) : Argument → Prop
  | .json (.bool _) => True
  | .json (.int _) => True
  | .json (.float amount) => PyFloat.tooLarge (amount * 100) = false
  | .json (.str text) => (texts.intText (String.join (List.replicate 100 text))).isSome = true
  | .float (.finite amount) => PyFloat.tooLarge (amount * 100) = false
  | _ => False

-- The lambda of the mapping takes the arguments: two do not have the parameters that the service passes.
def ArgsFit (texts : Texts) : Platform → ServiceCall → Prop
  | .shipstation,.updateShippingAddress _ _ => False
  | .stripe,.generateCoupon _ _ => False
  | .stripe,.processPartialRefund _ amount _ => Centable texts amount
  | _,_ => True

-- The lookups whose tools make a failure of None
def absorbs : ServiceCall → Bool
  | .getOrder _ => true
  | .getOrderStatus _ => true
  | .searchOrdersByCustomer _ _ => true
  | .getCustomer _ => true
  | .searchCustomers _ => true
  | .checkStock productId => productId.truthy
  | .getProductDetails _ => true
  | .trackShipment _ => true
  | .getShippingOptions _ => true
  | _ => false

def shapeOf (texts : Texts) : Platform → ServiceCall → Json → Prop
  | .shopify,.getOrder _ => ShopifyOrder texts
  | .shopify,.getOrderStatus _ => ShopifyOrderStatus
  | .shopify,.searchOrdersByCustomer _ _ => fun data => Each (ShopifyOrder texts) (listed "orders" data)
  | .shopify,.cancelOrder _ _ => ShopifyCancellation texts
  | .shopify,.getCustomer _ => ShopifyCustomer texts
  | .shopify,.searchCustomers _ => fun data => Each (ShopifyCustomer texts) (listed "customers" data)
  | .shopify,.getProductDetails _ => ShopifyProduct texts
  | .shopify,.checkStock _ => fun data => Each ShopifyLevel (listed "inventory_levels" data)
  | .shopify,.processFullRefund _ _ => ShopifyRefund texts
  | .shopify,.processPartialRefund _ _ _ => ShopifyRefund texts
  | .woocommerce,.getOrder _ => WcOrder texts
  | .woocommerce,.getOrderStatus _ => WcOrderStatus
  | .woocommerce,.searchOrdersByCustomer _ _ => fun data => Each (WcOrder texts) (listed "orders" data)
  | .woocommerce,.cancelOrder _ _ => WcCancellation texts
  | .woocommerce,.getCustomer _ => WcCustomer texts
  | .woocommerce,.searchCustomers _ => fun data => Each (WcCustomer texts) (listed "customers" data)
  | .woocommerce,.getCustomerHistory _ => WcHistory texts
  | .woocommerce,.getProductDetails _ => WcProduct texts
  | .woocommerce,.checkStock _ => fun data => Each (WcStock texts) (listed "products" data)
  | .woocommerce,.processFullRefund _ _ => WcRefund texts
  | .woocommerce,.processPartialRefund _ _ _ => WcRefund texts
  | .stripe,.getCustomer _ => StripeCustomer texts
  | .stripe,.searchCustomers _ => fun data => Each (StripeCustomer texts) (listed "data" data)
  | .stripe,.processFullRefund _ _ => StripeRefund
  | .stripe,.processPartialRefund _ _ _ => StripeRefund
  | .stripe,.applyDiscount _ _ _ => StripeDiscount texts
  | .stripe,.generateCoupon _ _ => StripeCoupon texts
  | .shipstation,.trackShipment _ => Object Anything
  | .shipstation,.getShippingOptions _ => ShipstationServices
  | .shipstation,.updateShippingAddress _ _ => Object Anything
  | .shipstation,.generateReturnLabel _ _ => ShipstationLabel
  | _,_ => fun _ => False

-- The text of the first text block is missing, no JSON or JSON of the shape.
def TextFits (texts : Texts) (shape : Json → Prop) (block : Fields) : Prop :=
  ∀ value, block.lookup "text" = some value → ∃ text, value = .str text ∧
    (texts.loads text = .error decodeError ∨ ∃ data, texts.loads text = .ok data ∧ shape data)

def BlocksFit (texts : Texts) (shape : Json → Prop) : List Json → Prop
  | [] => True
  | block :: rest => Object (fun fields => if isStr "text" (field fields "type") then TextFits texts shape fields
      else BlocksFit texts shape rest) block

def Readable (texts : Texts) (shape : Json → Prop) (result : McpToolResult) : Prop :=
  IfTruthy (fun content => ∃ blocks, content.iterate = .ok blocks ∧ BlocksFit texts shape blocks) result.content

def WellAnswered (texts : Texts) (platform : Platform) (asked : ServiceCall) (result : McpToolResult) : Prop :=
  ArgsFit texts platform asked ∧
    if result.isError.truthy then absorbs asked = true ∧ IfTruthy (First (Object Anything)) result.content
    else Readable texts (shapeOf texts platform asked) result

section
variable {texts : Texts} {platform : Platform} {asked : ServiceCall} {result : McpToolResult}

theorem not_acceptable_harmful (harmful : Harmful e) : ¬ Acceptable asked (.error e) := by
  change ¬ isMcpError e = true
  rw [harmful]
  simp

theorem acceptable_parses {x : Except PyError α} {value : α → ServiceValue} {shape : Prop} (parses : Parses x shape)
    (typed : ∀ a, declared asked (value a) = true) : Acceptable asked (x >>= fun a => pure (value a)) ↔ shape := by
  by_cases fits : shape
  · obtain ⟨a,returned⟩ := parses.returns fits
    rw [returned]
    exact iff_of_true (.inl (typed a)) fits
  · obtain ⟨e,raised,harmful⟩ := parses.raises fits
    rw [raised]
    exact iff_of_false (not_acceptable_harmful harmful) fits

theorem acceptable_text {parse : Json → Except PyError α} {value : α → ServiceValue} {shape : Json → Prop}
    (parses : ∀ data, Parses (parse data) (shape data)) (typed : ∀ a, declared asked (value a) = true) (fields : Fields) :
    Acceptable asked ((loadText texts (.obj fields)).mapError asParseError >>= fun data => parse data >>= fun a =>
      pure (value a)) ↔ TextFits texts shape fields := by
  unfold loadText TextFits
  cases present : fields.lookup "text" with
  | none =>
    rw [show item (.obj fields) "text" = .error .keyError by simp [item,present]]
    exact iff_of_true rfl (by simp)
  | some block =>
    rw [show item (.obj fields) "text" = .ok block by simp [item,present]]
    cases block with
    | str text =>
      change Acceptable asked ((texts.loads text).mapError asParseError >>= _) ↔ _
      cases read : texts.loads text with
      | error e =>
        by_cases undecodable : e = decodeError
        · subst undecodable
          exact iff_of_true rfl (by simp [read])
        · have kept : asParseError e = e := if_neg (by simp [undecodable,(texts.loads_raises text e read).2])
          change Acceptable asked (.error (asParseError e)) ↔ _
          rw [kept]
          exact iff_of_false (not_acceptable_harmful (texts.loads_raises text e read).1) (by simp [read,undecodable])
      | ok data => exact (acceptable_parses (parses data) typed).trans (by simp [read])
    | _ => exact iff_of_false (not_acceptable_harmful rfl) (by simp)

theorem acceptable_blocks {parse : Json → Except PyError α} {value : α → ServiceValue} {shape : Json → Prop}
    (parses : ∀ data, Parses (parse data) (shape data)) (typed : ∀ a, declared asked (value a) = true) (blocks : List Json) :
    Acceptable asked (firstText texts blocks >>= fun data => parse data >>= fun a => pure (value a)) ↔
      BlocksFit texts shape blocks := by
  induction blocks with
  | nil => exact iff_of_true rfl trivial
  | cons block rest ih =>
    cases block with
    | obj fields =>
      have same : BlocksFit texts shape (.obj fields :: rest) ↔ if isStr "text" (field fields "type") then
          TextFits texts shape fields else BlocksFit texts shape rest := by simp [BlocksFit,Object]
      rw [same]
      change Acceptable asked ((if isStr "text" (field fields "type") then
        (loadText texts (.obj fields)).mapError asParseError else firstText texts rest) >>= _) ↔ _
      by_cases named : isStr "text" (field fields "type") = true
      · rw [if_pos named,if_pos named]
        exact acceptable_text parses typed fields
      · rw [if_neg named,if_neg named]
        exact ih
    | _ => exact iff_of_false (not_acceptable_harmful rfl) (by simp [BlocksFit,Object])

theorem acceptable_parsed {parse : Json → Except PyError α} {value : α → ServiceValue} {shape : Json → Prop}
    (parses : ∀ data, Parses (parse data) (shape data)) (typed : ∀ a, declared asked (value a) = true)
    (result : McpToolResult) :
    Acceptable asked (parsed texts parse value result) ↔ Readable texts shape result := by
  unfold parsed extractJson Readable IfTruthy
  cases result.content.truthy with
  | false => exact iff_of_true rfl (by simp)
  | true =>
    cases taken : result.content.iterate with
    | error e =>
      obtain ⟨other,raised,harmful⟩ := (parses_iterate result.content).raises (by simp [taken])
      rw [taken] at raised
      cases raised
      exact iff_of_false (not_acceptable_harmful harmful) (by simp [taken])
    | ok blocks => exact (acceptable_blocks parses typed blocks).trans (by simp [taken])

theorem parses_defaultErrorHandler (result : McpToolResult) :
    Parses (defaultErrorHandler result) (IfTruthy (First (Object Anything)) result.content) :=
  parses_ifTruthy (parses_ofFirst (fun block => last (parses_get block _ _) fun _ => ok _) _) _

theorem defaultErrorHandler_none (returned : defaultErrorHandler result = .ok value) : value = .none := by
  unfold defaultErrorHandler at returned
  split at returned
  · obtain ⟨block,_,later⟩ := except_bind.mp returned
    obtain ⟨_,_,done⟩ := except_bind.mp later
    cases done
    rfl
  · cases returned
    rfl

theorem acceptable_none : Acceptable asked (.ok .none) ↔ isLookup asked = true := by
  cases asked <;> simp [Acceptable,declared]

theorem acceptable_defaultErrorHandler : Acceptable asked (defaultErrorHandler result) ↔
    isLookup asked = true ∧ IfTruthy (First (Object Anything)) result.content := by
  by_cases handled : IfTruthy (First (Object Anything)) result.content
  · obtain ⟨value,returned⟩ := (parses_defaultErrorHandler result).returns handled
    rw [returned,defaultErrorHandler_none returned,acceptable_none]
    exact (and_iff_left handled).symm
  · obtain ⟨e,raised,harmful⟩ := (parses_defaultErrorHandler result).raises handled
    rw [raised]
    exact iff_of_false (not_acceptable_harmful harmful) fun both => handled both.2

-- A service method that the mapping has a tool for
structure Mapped (texts : Texts) (platform : Platform) (asked : ServiceCall) (config : ToolConfig) : Prop where
  known : configOf texts platform asked = some config
  args : Parses (config.buildArgs.apply (kwargsOf asked)) (ArgsFit texts platform asked)
  answers : ∀ result, Acceptable asked (config.parseResponse result) ↔ Readable texts (shapeOf texts platform asked) result

theorem parses_whole (x : ℚ) : Parses (PyFloat.ofRat x).toInt (PyFloat.tooLarge x = false) := by
  unfold PyFloat.ofRat
  cases PyFloat.tooLarge x with
  | true => exact parses_raised rfl (by simp)
  | false => exact returned _ rfl

theorem parses_cents (amount : Argument) : Parses (Stripe.cents texts amount) (Centable texts amount) := by
  cases amount with
  | json value =>
    cases value with
    | bool value => exact ok _
    | int value => exact ok _
    | float value => exact parses_whole _
    | str text =>
      simp only [Stripe.cents,Centable]
      cases texts.intText (String.join (List.replicate 100 text)) with
      | none => exact parses_raised rfl (by simp)
      | some n => exact returned _ (by simp)
    | _ => exact parses_raised rfl not_false
  | float value =>
    cases value with
    | finite value => exact parses_whole _
    | _ => exact parses_raised rfl not_false
  | _ => exact parses_raised rfl not_false

theorem mapped (known : supported texts platform asked = true) : ∃ config, Mapped texts platform asked config := by
  cases platform with
  | shopify => cases asked with
    | getOrder orderId => exact ⟨_,rfl,ok _,acceptable_parsed (shopify_order texts) fun _ => rfl⟩
    | getOrderStatus orderId => exact ⟨_,rfl,ok _,acceptable_parsed (shopify_orderStatus texts) fun _ => rfl⟩
    | searchOrdersByCustomer customerId limit =>
      exact ⟨_,rfl,ok _,acceptable_parsed (fun data => parses_each (shopify_order texts) _) fun _ => rfl⟩
    | cancelOrder orderId reason => exact ⟨_,rfl,ok _,acceptable_parsed (shopify_cancellation texts) fun _ => rfl⟩
    | getCustomer customerId => exact ⟨_,rfl,ok _,acceptable_parsed (shopify_customer texts) fun _ => rfl⟩
    | searchCustomers query =>
      exact ⟨_,rfl,ok _,acceptable_parsed (fun data => parses_each (shopify_customer texts) _) fun _ => rfl⟩
    | getProductDetails productId => exact ⟨_,rfl,ok _,acceptable_parsed (shopify_product texts) fun _ => rfl⟩
    | checkStock productId => exact ⟨_,rfl,ok _,acceptable_parsed (fun data => parses_each (shopify_level texts) _) fun _ => rfl⟩
    | processFullRefund orderId reason => exact ⟨_,rfl,ok _,acceptable_parsed (shopify_refund texts) fun _ => rfl⟩
    | processPartialRefund orderId amount reason =>
      exact ⟨_,rfl,ok _,acceptable_parsed (shopify_refund texts) fun _ => rfl⟩
    | _ => cases known
  | woocommerce => cases asked with
    | getOrder orderId => exact ⟨_,rfl,ok _,acceptable_parsed (wc_order texts) fun _ => rfl⟩
    | getOrderStatus orderId => exact ⟨_,rfl,ok _,acceptable_parsed (wc_orderStatus texts) fun _ => rfl⟩
    | searchOrdersByCustomer customerId limit =>
      exact ⟨_,rfl,ok _,acceptable_parsed (fun data => parses_each (wc_order texts) _) fun _ => rfl⟩
    | cancelOrder orderId reason => exact ⟨_,rfl,ok _,acceptable_parsed (wc_cancellation texts) fun _ => rfl⟩
    | getCustomer customerId => exact ⟨_,rfl,ok _,acceptable_parsed (wc_customer texts) fun _ => rfl⟩
    | searchCustomers query =>
      exact ⟨_,rfl,ok _,acceptable_parsed (fun data => parses_each (wc_customer texts) _) fun _ => rfl⟩
    | getCustomerHistory customerId => exact ⟨_,rfl,ok _,acceptable_parsed (wc_history texts) fun _ => rfl⟩
    | getProductDetails productId => exact ⟨_,rfl,ok _,acceptable_parsed (wc_product texts) fun _ => rfl⟩
    | checkStock productId => exact ⟨_,rfl,ok _,acceptable_parsed (fun data => parses_each (wc_stock texts) _) fun _ => rfl⟩
    | processFullRefund orderId reason => exact ⟨_,rfl,ok _,acceptable_parsed (wc_refund texts) fun _ => rfl⟩
    | processPartialRefund orderId amount reason => exact ⟨_,rfl,ok _,acceptable_parsed (wc_refund texts) fun _ => rfl⟩
    | _ => cases known
  | stripe => cases asked with
    | getCustomer customerId => exact ⟨_,rfl,ok _,acceptable_parsed (stripe_customer texts) fun _ => rfl⟩
    | searchCustomers query =>
      exact ⟨_,rfl,ok _,acceptable_parsed (fun data => parses_each (stripe_customer texts) _) fun _ => rfl⟩
    | processFullRefund orderId reason => exact ⟨_,rfl,ok _,acceptable_parsed (stripe_refund texts) fun _ => rfl⟩
    | processPartialRefund orderId amount reason =>
      exact ⟨_,rfl,last (parses_cents amount) fun _ => ok _,acceptable_parsed (stripe_refund texts) fun _ => rfl⟩
    | applyDiscount customerId percent reason => exact ⟨_,rfl,ok _,acceptable_parsed (stripe_discount texts) fun _ => rfl⟩
    | generateCoupon customerId params =>
      exact ⟨_,rfl,parses_raised rfl not_false,acceptable_parsed (stripe_coupon texts) fun _ => rfl⟩
    | _ => cases known
  | shipstation => cases asked with
    | trackShipment orderId => exact ⟨_,rfl,ok _,acceptable_parsed (shipstation_tracking texts) fun _ => rfl⟩
    | getShippingOptions orderId => exact ⟨_,rfl,ok _,acceptable_parsed shipstation_services fun _ => rfl⟩
    | updateShippingAddress orderId newAddress =>
      exact ⟨_,rfl,parses_raised rfl not_false,acceptable_parsed (shipstation_address texts) fun _ => rfl⟩
    | generateReturnLabel orderId reason => exact ⟨_,rfl,ok _,acceptable_parsed (shipstation_label texts) fun _ => rfl⟩
    | _ => cases known

end

-- What the adapter makes of a result
def answerOf (config : ToolConfig) (result : McpToolResult) : Except PyError ServiceValue :=
  if result.isError.truthy then defaultErrorHandler result else config.parseResponse result

section
variable {texts : Texts} {platform : Platform} {asked : ServiceCall} {result : McpToolResult} {config : ToolConfig}
variable {σ : Type} {server : Server σ} {wiring : ServiceKind → Backend σ} {s : σ} {toolName : String} {args : Kwargs}

theorem serve_mcp (placed : wiring asked.service = .mcp platform) (known : configOf texts platform asked = some config) :
    serve texts server wiring asked = (do
      let args ← lift (config.buildArgs.apply (kwargsOf asked))
      let answer ← callServer server asked config.toolName args
      lift (answerOf config answer)) := by
  unfold configOf at known
  unfold serve call
  rw [placed]
  dsimp only
  rw [known]
  rfl

theorem callServer_answered (answered : (server toolName args s).2 = .ok result) :
    callServer server asked toolName args s = ⟨.ok result,(server toolName args s).1,[(asked,result)]⟩ := by
  unfold callServer
  rw [bind_ok answered]
  rfl

theorem callServer_raised (raised : (server toolName args s).2 = .error e) :
    callServer server asked toolName args s = ⟨.error e,(server toolName args s).1,[]⟩ := by
  unfold callServer
  rw [bind_error raised]
  rfl

-- One call of a service, on a server that answers
theorem serve_answered (placed : wiring asked.service = .mcp platform) (known : configOf texts platform asked = some config)
    (fits : config.buildArgs.apply (kwargsOf asked) = .ok args) (answered : (server config.toolName args s).2 = .ok result) :
    serve texts server wiring asked s = ⟨answerOf config result,(server config.toolName args s).1,[(asked,result)]⟩ := by
  rw [serve_mcp placed known,fits,lift_bind_ok,bind_ok (by rw [callServer_answered answered]),callServer_answered answered]
  rfl

theorem serve_misfit (placed : wiring asked.service = .mcp platform) (known : configOf texts platform asked = some config)
    (misfit : config.buildArgs.apply (kwargsOf asked) = .error e) : serve texts server wiring asked s = ⟨.error e,s,[]⟩ := by
  rw [serve_mcp placed known,misfit]
  rfl

theorem serve_events (texts : Texts) (server : Server σ) (wiring : ServiceKind → Backend σ) (asked : ServiceCall) :
    Emits (fun event => event.1 = asked) (serve texts server wiring asked) := by
  have called (toolName : String) (args : Kwargs) :
      Emits (fun event => event.1 = asked) (callServer server asked toolName args) :=
    Emits.bind (Emits.overState _) fun _ => Emits.bind (Emits.emit rfl) fun _ => Emits.pure _
  unfold serve call
  split
  · split
    · exact Emits.lift _
    · exact Emits.bind (Emits.lift _) fun _ => Emits.bind (called _ _) fun _ => Emits.lift _
  · exact Emits.overState _

-- A call that the server answered comes to what the adapter makes of the answer.
theorem serve_noted (placed : wiring asked.service = .mcp platform) (known : configOf texts platform asked = some config)
    (present : (asked,result) ∈ (serve texts server wiring asked s).trace) :
    (serve texts server wiring asked s).value = answerOf config result := by
  cases fits : config.buildArgs.apply (kwargsOf asked) with
  | error e =>
    rw [serve_misfit placed known fits] at present
    cases present
  | ok args =>
    cases answered : (server config.toolName args s).2 with
    | error e =>
      rw [serve_mcp placed known,fits,lift_bind_ok,bind_error (by rw [callServer_raised answered]),
        callServer_raised answered] at present
      cases present
    | ok answer =>
      rw [serve_answered placed known fits answered] at present ⊢
      cases List.mem_singleton.mp present
      rfl

end

end Sophia.Mcp
