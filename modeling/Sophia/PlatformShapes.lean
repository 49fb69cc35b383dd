import Sophia.AnswerShapes

namespace Sophia.Mcp
open Json ServiceModels Guarded

section
variable (texts : Texts)

-- What the parsers of Shopify's answers ask for
def ShopifyItem : Json → Prop := Object fun li =>
  Numeric texts (field li "price" (.int 0)) ∧ Scalable (field li "quantity" (.int 1))

def ShopifyTracked (fields : Fields) : Prop := IfTruthy (First (Object Anything)) (field fields "fulfillments")

def ShopifyOrder : Json → Prop := Object fun order =>
  Each (ShopifyItem texts) (field order "line_items" (.arr [])) ∧ IfTruthy (Object Anything) (field order "shipping_address") ∧
  Hashable (field order "fulfillment_status") ∧ Object Anything (field order "customer" (.obj [])) ∧
  Numeric texts (field order "total_price" (.int 0)) ∧ ShopifyTracked order

def ShopifyOrderStatus : Json → Prop := Object fun order =>
  Hashable (field order "fulfillment_status") ∧ ShopifyTracked order

def ShopifyCancellation : Json → Prop := Object fun order => Numeric texts (field order "total_price" (.int 0))

def ShopifyCustomer : Json → Prop := Object fun customer => Numeric texts (field customer "total_spent" (.int 0))

def ShopifyProduct : Json → Prop := Object fun product =>
  IfTruthy (First (Object fun variant => Numeric texts (field variant "price" (.int 0))))
    (field product "variants" (.arr [.obj []]))

def ShopifyLevel : Json → Prop := Object fun level => IsNumber (field level "available" (.int 0))

def ShopifyRefund : Json → Prop := Object fun refund =>
  IfTruthy (First (Object fun transaction => Numeric texts (field transaction "amount" (.int 0))))
    (field refund "transactions" (.arr []))

theorem shopify_item (li : Json) : Parses (Shopify.orderItem texts li) (ShopifyItem texts li) := by
  refine parses_read (Shopify.orderItem texts) (fun _ => rfl) (fun fields => ?_) li
  refine known rfl (known rfl (known rfl (known rfl ?_)))
  exact andThen (parses_number texts fields "price") fun price _ => last (parses_scale price _) fun _ => ok _

theorem shopify_address (addr : Json) : Parses (Shopify.orderAddress addr) (IfTruthy (Object Anything) addr) := by
  refine parses_ifTruthy (last ?_ fun _ => ok _) _
  refine parses_got Shopify.addressOf (fun _ => rfl) (fun fields => ?_) addr
  exact known rfl (known rfl (known rfl (known rfl (known rfl (known rfl (ok _))))))

theorem shopify_state (fields : Fields) :
    Parses (Shopify.orderState (.obj fields)) (Hashable (field fields "fulfillment_status")) :=
  known rfl (last (parses_mapStatus _ _) fun _ => known rfl (ok _))

theorem shopify_tracking (fulfillments : Json) : Parses (Shopify.trackingNumber fulfillments)
    (IfTruthy (First (Object Anything)) fulfillments) :=
  parses_ifTruthy (parses_ofFirst (fun item => parses_get item _ _) fulfillments) _

theorem shopify_order (data : Json) : Parses (Shopify.parseShopifyOrder texts data) (ShopifyOrder texts data) := by
  refine parses_got (Shopify.parseShopifyOrder texts) (fun _ => rfl) (fun fields => ?_) data
  refine known rfl (andThen (parses_each (shopify_item texts) _) fun _ _ => ?_)
  refine known rfl (andThen (shopify_address _) fun _ _ => ?_)
  refine andThen (shopify_state fields) fun _ _ => known rfl (known rfl ?_)
  refine andThen (parses_text texts _ _) fun _ _ => andThen (parses_number texts fields _) fun _ _ => ?_
  exact known rfl (known rfl (known rfl (known rfl (last (shopify_tracking _) fun _ => ok _))))

theorem shopify_orderStatus (data : Json) :
    Parses (Shopify.parseShopifyOrderStatus texts data) (ShopifyOrderStatus data) := by
  refine parses_record (Shopify.parseShopifyOrderStatus texts)
    (fun _ other => except_raises (except_raises (get_other other _ _))) (fun fields => ?_) data
  refine andThen (shopify_state fields) fun _ _ => known rfl (last (shopify_tracking _) fun _ => ?_)
  exact known rfl (known rfl (ok _))

theorem shopify_cancellation (data : Json) :
    Parses (Shopify.parseShopifyCancellation texts data) (ShopifyCancellation texts data) := by
  refine parses_read (Shopify.parseShopifyCancellation texts) (fun _ => rfl) (fun fields => ?_) data
  exact known rfl (known rfl (last (parses_number texts fields _) fun _ => ok _))

theorem shopify_customer (data : Json) :
    Parses (Shopify.parseShopifyCustomer texts data) (ShopifyCustomer texts data) := by
  refine parses_read (Shopify.parseShopifyCustomer texts) (fun _ => rfl) (fun fields => ?_) data
  refine known rfl (known rfl (known rfl (known rfl (known rfl (known rfl (known rfl ?_))))))
  exact last (parses_number texts fields _) fun _ => known rfl (ok _)

theorem shopify_product (data : Json) : Parses (Shopify.parseShopifyProduct texts data) (ShopifyProduct texts data) := by
  refine parses_got (Shopify.parseShopifyProduct texts) (fun _ => rfl) (fun fields => ?_) data
  refine known rfl (last (parses_ifTruthy (parses_ofFirst (parses_numberOf texts _) _) _) fun _ => ?_)
  exact known rfl (known rfl (known rfl (known rfl (ok _))))

theorem shopify_level (level : Json) : Parses (Shopify.productStock texts level) (ShopifyLevel level) := by
  refine parses_got (Shopify.productStock texts) (fun _ => rfl) (fun fields => ?_) level
  exact known rfl (known rfl (last (parses_positive _) fun _ => ok _))

theorem shopify_refund (data : Json) : Parses (Shopify.parseShopifyRefund texts data) (ShopifyRefund texts data) := by
  refine parses_got (Shopify.parseShopifyRefund texts) (fun _ => rfl) (fun fields => ?_) data
  refine known rfl (last (parses_ifTruthy (parses_ofFirst (parses_numberOf texts _) _) _) fun _ => ?_)
  exact known rfl (known rfl (known rfl (ok _)))

-- What those of WooCommerce's ask for
def WcItem : Json → Prop := Object fun li =>
  Numeric texts (field li "price" (.int 0)) ∧ Numeric texts (field li "total" (.int 0))

-- The items are objects up to the one with the tracking number.
def UntilTracked : List Json → Prop
  | [] => True
  | item :: rest => Object (fun fields => isStr "_tracking_number" (field fields "key") = true ∨ UntilTracked rest) item

def WcTracked (metaData : Json) : Prop := ∃ items, (metaData.orElse (.arr [])).iterate = .ok items ∧ UntilTracked items

def WcStatus (order : Fields) : Prop := Hashable ((field order "status").orElse (.str ""))

def WcOrder : Json → Prop := Object fun order =>
  Each (WcItem texts) (field order "line_items" (.arr [])) ∧ IfTruthy (Object Anything) (field order "shipping") ∧
  WcStatus order ∧ Numeric texts (field order "total" (.int 0)) ∧ WcTracked (field order "meta_data" (.arr []))

def WcOrderStatus : Json → Prop := Object fun order => WcStatus order ∧ WcTracked (field order "meta_data" (.arr []))

def WcCancellation : Json → Prop := Object fun order => Numeric texts (field order "total" (.int 0))

def WcCustomer : Json → Prop := Object fun customer => Numeric texts (field customer "total_spent" (.int 0))

def WcHistory (data : Json) : Prop :=
  Each (WcOrder texts) (listed "orders" data) ∧ IfTruthy (First (Object Anything)) (listed "orders" data)

def WcProduct : Json → Prop := Object fun product =>
  IfTruthy (First (Object Anything)) (field product "categories" (.arr [])) ∧ Numeric texts (field product "price" (.int 0))

def WcStock : Json → Prop := Object fun prod => Numeric texts (field prod "price" (.int 0))

def WcRefund : Json → Prop := Object fun refund => Numeric texts (field refund "amount" (.int 0))

theorem wc_item (li : Json) : Parses (WooCommerce.orderItem texts li) (WcItem texts li) := by
  refine parses_read (WooCommerce.orderItem texts) (fun _ => rfl) (fun fields => ?_) li
  refine known rfl (known rfl (known rfl ?_))
  exact andThen (parses_number texts fields _) fun _ _ => last (parses_number texts fields _) fun _ => ok _

theorem wc_address (addr : Json) : Parses (WooCommerce.orderAddress addr) (IfTruthy (Object Anything) addr) := by
  refine parses_ifTruthy (last ?_ fun _ => ok _) _
  refine parses_got WooCommerce.addressOf (fun _ => rfl) (fun fields => ?_) addr
  exact known rfl (known rfl (known rfl (known rfl (known rfl (known rfl (ok _))))))

theorem wc_findTracking (items : List Json) : Parses (WooCommerce.findTracking items) (UntilTracked items) := by
  induction items with
  | nil => exact ok _
  | cons item rest ih =>
    refine parses_record (fun item => WooCommerce.findTracking (item :: rest))
      (fun _ other => except_raises (get_other other _ _)) (fun fields => known rfl ?_) item
    refine (Guarded.ite (fun _ => ok _) fun _ => ih).congr ?_
    change (if isStr "_tracking_number" (field fields "key") = true then True else UntilTracked rest) ↔ _
    cases isStr "_tracking_number" (field fields "key") <;> simp

theorem wc_tracked (metaData : Json) : Parses (WooCommerce.extractWcTracking metaData) (WcTracked metaData) :=
  opened (parses_iterate _) wc_findTracking

theorem wc_order (data : Json) : Parses (WooCommerce.parseWcOrder texts data) (WcOrder texts data) := by
  refine parses_got (WooCommerce.parseWcOrder texts) (fun _ => rfl) (fun fields => ?_) data
  refine known rfl (andThen (parses_each (wc_item texts) _) fun _ _ => ?_)
  refine known rfl (andThen (wc_address _) fun _ _ => known rfl (known rfl (known rfl ?_)))
  refine andThen (parses_mapStatus _ _) fun _ _ => andThen (parses_number texts fields _) fun _ _ => ?_
  exact known rfl (known rfl (known rfl (known rfl (last (wc_tracked _) fun _ => ok _))))

theorem wc_orderStatus (data : Json) : Parses (WooCommerce.parseWcOrderStatus texts data) (WcOrderStatus data) := by
  refine parses_read (WooCommerce.parseWcOrderStatus texts) (fun _ => rfl) (fun fields => ?_) data
  refine known rfl (known rfl (andThen (parses_mapStatus _ _) fun _ _ => ?_))
  exact known rfl (known rfl (last (wc_tracked _) fun _ => ok _))

theorem wc_cancellation (data : Json) :
    Parses (WooCommerce.parseWcCancellation texts data) (WcCancellation texts data) := by
  refine parses_read (WooCommerce.parseWcCancellation texts) (fun _ => rfl) (fun fields => ?_) data
  exact known rfl (known rfl (last (parses_number texts fields _) fun _ => ok _))

theorem wc_customer (data : Json) : Parses (WooCommerce.parseWcCustomer texts data) (WcCustomer texts data) := by
  refine parses_read (WooCommerce.parseWcCustomer texts) (fun _ => rfl) (fun fields => ?_) data
  refine known rfl (known rfl (known rfl (known rfl (known rfl (known rfl ?_)))))
  exact last (parses_number texts fields _) fun _ => ok _

theorem wc_history (data : Json) : Parses (WooCommerce.parseWcCustomerHistory texts data) (WcHistory texts data) :=
  andThen (parses_each (wc_order texts) _) fun _ _ =>
    last (parses_ifTruthy (parses_ofFirst (fun item => parses_text texts item _) _) _) fun _ => ok _

theorem wc_product (data : Json) : Parses (WooCommerce.parseWcProduct texts data) (WcProduct texts data) := by
  refine parses_got (WooCommerce.parseWcProduct texts) (fun _ => rfl) (fun fields => ?_) data
  refine known rfl (andThen (parses_ifTruthy (parses_ofFirst (fun item => parses_get item _ _) _) _) fun _ _ => ?_)
  exact known rfl (known rfl (known rfl (last (parses_number texts fields _) fun _ => ok _)))

theorem wc_stock (prod : Json) : Parses (WooCommerce.productStock texts prod) (WcStock texts prod) := by
  refine parses_got (WooCommerce.productStock texts) (fun _ => rfl) (fun fields => ?_) prod
  exact known rfl (known rfl (known rfl (known rfl (last (parses_number texts fields _) fun _ => ok _))))

theorem wc_refund (data : Json) : Parses (WooCommerce.parseWcRefund texts data) (WcRefund texts data) := by
  refine parses_read (WooCommerce.parseWcRefund texts) (fun _ => rfl) (fun fields => ?_) data
  exact known rfl (known rfl (last (parses_number texts fields _) fun _ => known rfl (ok _)))

-- What those of Stripe's ask for
def StripeRefund : Json → Prop := Object fun refund => Divisible (field refund "amount" (.int 0))

def StripeDiscount : Json → Prop := Object fun coupon => Integral texts ((field coupon "percent_off").orElse (.int 0))

def StripeCoupon : Json → Prop := Object fun coupon =>
  if (field coupon "percent_off").truthy then Numeric texts (field coupon "percent_off")
  else IfTruthy Divisible (field coupon "amount_off")

def StripeNamed (name : Json) : Prop := ∃ text, name.orElse (.str "") = .str text

def StripeDated (ts : Json) : Prop := ∃ moment, texts.fromtimestamp ts = .ok moment

def StripeCustomer : Json → Prop := Object fun customer =>
  StripeNamed (field customer "name") ∧ IfTruthy (StripeDated texts) (field customer "created")

theorem stripe_refund (data : Json) : Parses (Stripe.parseStripeRefund texts data) (StripeRefund data) := by
  refine parses_got (Stripe.parseStripeRefund texts) (fun _ => rfl) (fun fields => ?_) data
  exact known rfl (known rfl (known rfl (known rfl (last (parses_hundredth _) fun _ => ok _))))

theorem stripe_discount (data : Json) : Parses (Stripe.parseStripeDiscount texts data) (StripeDiscount texts data) := by
  refine parses_got (Stripe.parseStripeDiscount texts) (fun _ => rfl) (fun fields => ?_) data
  exact known rfl (last (parses_toInt texts _) fun _ => known rfl (ok _))

theorem stripe_coupon (data : Json) : Parses (Stripe.parseStripeCoupon texts data) (StripeCoupon texts data) := by
  refine parses_got (Stripe.parseStripeCoupon texts) (fun _ => rfl) (fun fields => ?_) data
  refine known rfl (known rfl (last (Guarded.ite (fun _ => ?_) fun _ => ?_) fun _ => known rfl (ok _)))
  · exact last (parses_toFloat texts _) fun _ => ok _
  · exact parses_ifTruthy (last (parses_hundredth _) fun _ => ok _) _

theorem stripe_named (name : Json) : Parses (Stripe.fullName name) (StripeNamed name) := by
  unfold Stripe.fullName StripeNamed
  cases name.orElse (.str "") with
  | str text => exact returned _ ⟨text,rfl⟩
  | _ => exact parses_raised rfl (by simp)

theorem stripe_dated (ts : Json) : Parses (texts.fromtimestamp ts) (StripeDated texts ts) := by
  unfold StripeDated
  cases read : texts.fromtimestamp ts with
  | error e => exact parses_raised (texts.fromtimestamp_raises ts e read) (by simp)
  | ok moment => exact returned _ ⟨moment,rfl⟩

theorem stripe_customer (data : Json) : Parses (Stripe.parseStripeCustomer texts data) (StripeCustomer texts data) := by
  refine parses_got (Stripe.parseStripeCustomer texts) (fun _ => rfl) (fun fields => ?_) data
  refine known rfl (andThen (stripe_named _) fun _ _ => known rfl (last (parses_ifTruthy ?_ _) fun _ => ?_))
  · exact last (stripe_dated texts _) fun _ => ok _
  · exact known rfl (known rfl (known rfl (ok _)))

-- What those of ShipStation's ask for
def ShipstationServices : Json → Prop := Object fun answer => Each (Object Anything) (field answer "services" (.arr []))

def ShipstationLabel : Json → Prop := Object fun label => Object Anything (field label "label_download" (.obj []))

theorem shipstation_tracking (data : Json) :
    Parses (ShipStation.parseShipstationTracking texts data) (Object Anything data) := by
  refine parses_read (ShipStation.parseShipstationTracking texts) (fun _ => rfl) (fun fields => ?_) data
  exact known rfl (known rfl (known rfl (known rfl (known rfl (ok _)))))

theorem shipstation_option (svc : Json) : Parses (ShipStation.shippingOption svc) (Object Anything svc) :=
  parses_got ShipStation.shippingOption (fun _ => rfl) (fun _ => known rfl (known rfl (ok _))) svc

theorem shipstation_services (data : Json) :
    Parses (ShipStation.parseShipstationCarrierServices data) (ShipstationServices data) :=
  parses_got ShipStation.parseShipstationCarrierServices (fun _ => rfl) (fun _ => known rfl (parses_each shipstation_option _)) data

theorem shipstation_address (data : Json) :
    Parses (ShipStation.parseShipstationAddressUpdate texts data) (Object Anything data) :=
  parses_got (ShipStation.parseShipstationAddressUpdate texts) (fun _ => rfl) (fun _ => known rfl (known rfl (ok _))) data

theorem shipstation_label (data : Json) :
    Parses (ShipStation.parseShipstationReturnLabel texts data) (ShipstationLabel data) := by
  refine parses_got (ShipStation.parseShipstationReturnLabel texts) (fun _ => rfl) (fun fields => ?_) data
  exact known rfl (last (parses_get _ _ _) fun _ => known rfl (known rfl (ok _)))

end

end Sophia.Mcp
