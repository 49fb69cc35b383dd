import Sophia.ToolRuns

namespace Sophia.CustomerService
open TracedRun Json ServiceModels Mcp MockServices StepRun

def orderTools : List HatTool := [.lookUpOrder,.checkOrderStatus,.cancelOrder,.trackShipment,.updateShippingAddress,
  .initiateReturn,.offerPartialRefund,.offerFullRefund]

-- A text without its letter case
def letters (text : String) : List Char := text.toList.map Char.toUpper

def hashPrefixed (id : String) : List Char := "#ORD-".toList ++ letters id

-- X, #X, ORD-X and #ORD-X in any letter case
def Spells (id spelling : String) : Prop :=
  letters spelling ∈ [letters id,'#' :: letters id,"ORD-".toList ++ letters id,hashPrefixed id]

instance (id spelling : String) : Decidable (Spells id spelling) := inferInstanceAs (Decidable (letters spelling ∈ _))

-- str of a text is the text, and upper of ASCII text is ASCII upper case.
structure AsciiTexts (texts : Texts) : Prop where
  str : ∀ text, texts.str (.json (.str text)) = text
  upper : ∀ text, (∀ c ∈ text.toList, c.toNat < 128) → texts.upper text = String.ofList (letters text)

-- The parameters with the order under this name
def naming (params : Params) (spelling : String) : Params := params.insert "order_id" (.str spelling)

abbrev Given (params : Params) (fields : List String) : Prop := ∀ field ∈ fields, (params.lookup field).isSome = true

-- The other parameters let the tool get as far as its service.
def Asks : HatTool → Params → Prop
  | .cancelOrder,params => Given params ["reason"]
  | .updateShippingAddress,params => Given params ["line1","city","state","postal_code"]
  | .initiateReturn,params => Given params ["reason"] ∧
      ∃ listing items, params.lookup "items" = some listing ∧ returnItems listing = .ok items
  | .offerPartialRefund,params => Given params ["amount","reason"]
  | .offerFullRefund,params => Given params ["reason"]
  | _,_ => True

section
variable (texts : Texts) (errorText : PyError → String) (outside : Outside)

def named (w : World) (tool : HatTool) (params : Params) (spelling : String) : Outcome PyError World Empty HatResult :=
  execute texts errorText (mock outside) tool (naming params spelling) w

-- The same result or exception, and the same store
def Agrees (w : World) (tool : HatTool) (params : Params) (key spelling : String) : Prop :=
  (named texts errorText outside w tool params spelling).value = (named texts errorText outside w tool params key).value ∧
    (named texts errorText outside w tool params spelling).state.store =
      (named texts errorText outside w tool params key).state.store

end

section
variable {texts : Texts} {errorText : PyError → String} {outside : Outside} {w : World} {params : Params} {n : Nat}
  {field spelling : String}

theorem toUpper_digit {c : Char} (digit : c.isDigit = true) : c.toUpper = c := by
  have below : ¬ ('a'.val ≤ c.val ∧ c.val ≤ 'z'.val) := by
    simp only [Char.isDigit] at digit
    intro lower
    have least := lower.1
    simp [UInt32.le_iff_toNat_le] at *
    omega
  exact dif_neg below

theorem ascii_of_upper {c : Char} (upper : c.toUpper.toNat < 128) : c.toNat < 128 := by
  by_cases lower : 'a'.val ≤ c.val ∧ c.val ≤ 'z'.val
  · have greatest : c.val.toNat ≤ 122 := UInt32.le_iff_toNat_le.mp lower.2
    exact Nat.lt_of_le_of_lt greatest (by decide)
  · have kept : c.toUpper = c := dif_neg lower
    rwa [kept] at upper

theorem digit_of_mem {c : Char} (present : c ∈ (toString n).toList) : c.isDigit = true := by
  refine Nat.isDigit_of_mem_toDigits (b := 10) (n := n) (by decide) (by decide) ?_
  simpa [Nat.toString_eq_repr,Nat.repr] using present

theorem letters_digits (n : Nat) : letters (toString n) = (toString n).toList := by
  refine (List.map_congr_left fun c present => ?_).trans (List.map_id _)
  exact toUpper_digit (digit_of_mem present)

theorem letters_orderKey (n : Nat) : letters (orderKey n) = "ORD-".toList ++ (toString n).toList := by
  unfold orderKey letters
  rw [String.toList_append,List.map_append]
  exact congrArg _ (letters_digits n)

theorem letters_hashPrefixed (n : Nat) : hashPrefixed (toString n) = "#ORD-".toList ++ (toString n).toList :=
  congrArg ("#ORD-".toList ++ ·) (letters_digits n)

-- The four spellings of the number of an order
theorem spells_cases (spells : Spells (toString n) spelling) :
    letters spelling = (toString n).toList ∨ letters spelling = '#' :: (toString n).toList ∨
      letters spelling = "ORD-".toList ++ (toString n).toList ∨ letters spelling = "#ORD-".toList ++ (toString n).toList := by
  unfold Spells at spells
  rw [letters_hashPrefixed n,letters_digits n] at spells
  simpa only [List.mem_cons,List.not_mem_nil,or_false] using spells

theorem ascii_of_listed {cs : List Char} {d : Char} (ascii : cs.all fun c => c.toNat < 128) (member : d ∈ cs) :
    d.toNat < 128 := by
  have each := List.all_eq_true.mp ascii d member
  simpa using each

theorem spelling_ascii (spells : Spells (toString n) spelling) : ∀ c ∈ spelling.toList, c.toNat < 128 := by
  intro c present
  refine ascii_of_upper ?_
  have listed : c.toUpper ∈ letters spelling := List.mem_map_of_mem present
  have digit {d : Char} (member : d ∈ (toString n).toList) : d.toNat < 128 := by
    have bounds := digit_of_mem member
    simp [Char.isDigit,UInt32.le_iff_toNat_le] at bounds
    omega
  rcases spells_cases spells with same | same | same | same
  · rw [same] at listed
    exact digit listed
  · rw [same,List.mem_cons] at listed
    rcases listed with equal | member
    · rw [equal]
      decide
    · exact digit member
  · rw [same,List.mem_append] at listed
    rcases listed with member | member
    · exact ascii_of_listed (by simp) member
    · exact digit member
  · rw [same,List.mem_append] at listed
    rcases listed with member | member
    · exact ascii_of_listed (by simp) member
    · exact digit member

-- The number of an order begins with a digit.
theorem digits_cons (n : Nat) : ∃ d rest, (toString n).toList = d :: rest ∧ d ≠ 'O' ∧ d ≠ '#' := by
  cases digits : (toString n).toList with
  | nil => simp at digits
  | cons d rest =>
    have digit : d.isDigit = true := digit_of_mem (n := n) (by rw [digits]; exact List.mem_cons_self)
    refine ⟨d,rest,rfl,?_,?_⟩
    · rintro rfl
      cases digit
    · rintro rfl
      cases digit

theorem normalize_hashed (ascii : AsciiTexts texts) (spells : Spells (toString n) spelling)
    (hashed : letters spelling = hashPrefixed (toString n)) :
    normalizeOrderId texts (.str spelling) = .ok ("ORD-ORD-" ++ toString n) := by
  rw [normalizeOrderId,ascii.upper spelling (spelling_ascii spells),hashed,letters_hashPrefixed]
  simp [← String.toList_inj]

theorem normalize_plain (ascii : AsciiTexts texts) (spells : Spells (toString n) spelling)
    (plain : letters spelling ≠ hashPrefixed (toString n)) :
    normalizeOrderId texts (.str spelling) = .ok (orderKey n) := by
  obtain ⟨d,rest,digits,notO,notHash⟩ := digits_cons n
  have key : (orderKey n).toList = "ORD-".toList ++ d :: rest := by rw [orderKey,String.toList_append,digits]
  rw [normalizeOrderId,ascii.upper spelling (spelling_ascii spells)]
  rcases spells_cases spells with same | same | same | same
  · rw [same,digits]
    simp [← String.toList_inj,key,notO.symm,notHash]
  · rw [same,digits]
    simp [← String.toList_inj,key,notHash]
  · rw [same,digits]
    simp [← String.toList_inj,key]
  · exact absurd (same.trans (letters_hashPrefixed n).symm) plain

theorem orderKey_spells (n : Nat) : Spells (toString n) (orderKey n) := by
  unfold Spells
  rw [letters_orderKey,letters_digits n]
  simp

theorem orderKey_plain (n : Nat) : letters (orderKey n) ≠ hashPrefixed (toString n) := by
  rw [letters_orderKey,letters_hashPrefixed]
  simp

-- No other spelling is an id of the store.
theorem misspelled (spells : Spells (toString n) spelling) (other : spelling ≠ orderKey n) (m : Nat) :
    spelling ≠ orderKey m := by
  rintro rfl
  obtain ⟨d,rest,digits,notO,notHash⟩ := digits_cons n
  have spelt := spells_cases spells
  rw [letters_orderKey,digits] at spelt
  rcases spelt with same | same | same | same
  · simp at same
    exact notO same.1.symm
  · simp at same
  · refine other ?_
    rw [orderKey,orderKey,← String.toList_inj,String.toList_append,String.toList_append,same,digits]
  · simp at same

theorem doubled_foreign (n m : Nat) : "ORD-ORD-" ++ toString n ≠ orderKey m := by
  intro same
  obtain ⟨d,rest,digits,notO,_⟩ := digits_cons m
  have lists := congrArg String.toList same
  rw [orderKey,String.toList_append,String.toList_append,digits] at lists
  simp at lists
  exact notO lists.1.symm

theorem absent_order (inv : StoreInvariant outside w.store) (foreign : ∀ m, spelling ≠ orderKey m) :
    w.store.orders.get spelling = none := by
  by_contra there
  obtain ⟨order,known⟩ := Option.ne_none_iff_exists'.mp there
  obtain ⟨_,m,_,same⟩ := inv.orderKeys _ _ known
  exact foreign m same

theorem naming_id (params : Params) (spelling : String) :
    (naming params spelling).lookup "order_id" = some (.str spelling) := AList.lookup_insert _

theorem naming_other (apart : field ≠ "order_id") (params : Params) (spelling : String) :
    (naming params spelling).lookup field = params.lookup field := AList.lookup_insert_ne apart

theorem naming_given (apart : field ≠ "order_id") (given : params.lookup field = some value) (spelling : String) :
    (naming params spelling).lookup field = some value := (naming_other apart params spelling).trans given

theorem naming_required (apart : field ≠ "order_id") (params : Params) (spelling : String) :
    required (naming params spelling) field = required params field := by
  simp [required,naming_other apart]

theorem naming_param (params : Params) (spelling : String) (default : Json) :
    param (naming params spelling) "order_id" default = .str spelling := param_given (naming_id params spelling) default

theorem Given.some (given : Given params fields) (listed : field ∈ fields) : ∃ value, params.lookup field = some value :=
  Option.isSome_iff_exists.mp (given field listed)

theorem Given.absent (missing : ¬ Given params fields) : ∃ field ∈ fields, required params field = .error .keyError := by
  unfold Given at missing
  push Not at missing
  obtain ⟨field,listed,absent⟩ := missing
  refine ⟨field,listed,?_⟩
  simp only [ne_eq,Bool.not_eq_true,Option.isSome_eq_false_iff,Option.isNone_iff_eq_none] at absent
  simp [required,absent]

-- One id after normalization, one run
theorem named_normalized (normal : normalizes tool = true)
    (same : normalizeOrderId texts (.str spelling) = normalizeOrderId texts (.str key)) :
    named texts errorText outside w tool params spelling = named texts errorText outside w tool params key := by
  unfold named
  cases tool with
  | lookUpOrder => rw [execute,lookUpOrder,lookUpOrder,naming_param,naming_param,same]
  | checkOrderStatus => rw [execute,checkOrderStatus,checkOrderStatus,naming_param,naming_param,same]
  | cancelOrder =>
    rw [execute,cancelOrder,cancelOrder,naming_param,naming_param,same,naming_required (by decide),naming_required (by decide)]
  | _ => cases normal

theorem newAddress_naming (params : Params) (spelling : String) : newAddress (naming params spelling) = newAddress params := by
  unfold newAddress
  simp [naming_required,param,naming_other]

theorem newAddress_given (given : Given params ["line1","city","state","postal_code"]) :
    ∃ address, newAddress params = .ok address := newAddress_filled fun _ listed => given.some listed

theorem newAddress_absent (missing : ¬ Given params ["line1","city","state","postal_code"]) :
    ∃ e, newAddress params = .error e := by
  by_contra returned
  cases made : newAddress params with
  | error e => exact returned ⟨e,made⟩
  | ok address =>
    refine missing ?_
    unfold newAddress at made
    obtain ⟨line1,one,made⟩ := except_bind.mp made
    obtain ⟨city,two,made⟩ := except_bind.mp made
    obtain ⟨state,three,made⟩ := except_bind.mp made
    obtain ⟨code,four,_⟩ := except_bind.mp made
    have there {field : String} {value : Json} (read : required params field = .ok value) :
        (params.lookup field).isSome = true := by
      unfold required at read
      cases found : params.lookup field with
      | none => simp [found] at read
      | some value => rfl
    simp [Given,there one,there two,there three,there four]

-- A tool that does not get as far as its service fails under every name.
theorem named_stopped (texts : Texts) (errorText : PyError → String) (outside : Outside) (w : World)
    (stops : ¬ Asks tool params) (takes : tool ∈ orderTools) :
    ∃ e, ∀ spelling, named texts errorText outside w tool params spelling = ⟨.error e,w,[]⟩ := by
  unfold named
  cases tool with
  | cancelOrder =>
    obtain ⟨field,listed,absent⟩ := Given.absent stops
    obtain rfl := List.mem_singleton.mp listed
    refine ⟨.keyError,fun spelling => ?_⟩
    rw [execute,cancelOrder,naming_param,normalizeOrderId,lift_bind_ok,naming_required (by decide),absent,lift_bind_error]
  | updateShippingAddress =>
    obtain ⟨e,raised⟩ := newAddress_absent stops
    refine ⟨e,fun spelling => ?_⟩
    rw [execute,updateShippingAddress,newAddress_naming,raised,lift_bind_error]
  | initiateReturn =>
    cases listed : params.lookup "items" with
    | none =>
      have absent : required params "items" = .error .keyError := by simp [required,listed]
      refine ⟨.keyError,fun spelling => ?_⟩
      rw [execute,initiateReturn,naming_required (by decide),absent,lift_bind_error]
    | some listing =>
      cases itemized : returnItems listing with
      | error e =>
        refine ⟨e,fun spelling => ?_⟩
        rw [execute,initiateReturn,naming_required (by decide),required_given listed,lift_bind_ok]
        change (lift (returnItems listing) >>= _) w = _
        rw [itemized,lift_bind_error]
      | ok items =>
        have missing : ¬ Given params ["reason"] := fun given => stops ⟨given,listing,items,listed,itemized⟩
        obtain ⟨field,member,absent⟩ := Given.absent missing
        obtain rfl := List.mem_singleton.mp member
        refine ⟨.keyError,fun spelling => ?_⟩
        rw [execute,initiateReturn,naming_required (by decide),required_given listed,lift_bind_ok]
        change (lift (returnItems listing) >>= _) w = _
        rw [itemized,lift_bind_ok,required_given (naming_id _ _),lift_bind_ok,naming_required (by decide),absent,
          lift_bind_error]
  | offerPartialRefund =>
    obtain ⟨field,listed,absent⟩ := Given.absent stops
    by_cases offered : ∃ amount, required params "amount" = .ok amount
    · obtain ⟨amount,offered⟩ := offered
      have same : field = "reason" := by
        simp only [List.mem_cons,List.not_mem_nil,or_false] at listed
        rcases listed with rfl | rfl
        · rw [offered] at absent
          cases absent
        · rfl
      subst same
      refine ⟨.keyError,fun spelling => ?_⟩
      rw [execute,offerPartialRefund,required_given (naming_id _ _),lift_bind_ok,naming_required (by decide),offered,
        lift_bind_ok,naming_required (by decide),absent,lift_bind_error]
    · cases refused : required params "amount" with
      | ok amount => exact absurd ⟨amount,refused⟩ offered
      | error e =>
        refine ⟨e,fun spelling => ?_⟩
        rw [execute,offerPartialRefund,required_given (naming_id _ _),lift_bind_ok,naming_required (by decide),refused,
          lift_bind_error]
  | offerFullRefund =>
    obtain ⟨field,listed,absent⟩ := Given.absent stops
    obtain rfl := List.mem_singleton.mp listed
    refine ⟨.keyError,fun spelling => ?_⟩
    rw [execute,offerFullRefund,required_given (naming_id _ _),lift_bind_ok,naming_required (by decide),absent,lift_bind_error]
  | lookUpOrder => exact absurd trivial stops
  | checkOrderStatus => exact absurd trivial stops
  | trackShipment => exact absurd trivial stops
  | _ => exact absurd takes (by decide)

-- The parcels are those of the first store.
theorem shipments_fixed (outside : Outside) (calls : List ServiceCall) :
    (worldAfter outside calls).store.shipments = initialStore.shipments := by
  refine invariant (I := fun w : World => w.store.shipments = initialStore.shipments) (fun w call same => ?_) rfl
  obtain ⟨write,writes,ends⟩ := step_writes outside call w
  rw [ends,(tables_same writes).2.1,same]

theorem absent_shipment (outside : Outside) (calls : List ServiceCall) (foreign : ∀ m, spelling ≠ orderKey m) :
    (worldAfter outside calls).store.shipments.get spelling = none := by
  rw [shipments_fixed]
  by_contra there
  obtain ⟨tracking,known⟩ := Option.ne_none_iff_exists'.mp there
  obtain ⟨listed,same⟩ := keyed_get known
  have numbered : ∀ shipment ∈ initialShipments, ∃ m, shipment.orderId = orderKey m := by
    simp [initialShipments]
  obtain ⟨m,order⟩ := numbered tracking listed
  exact foreign m (same.symm.trans order)

-- What a tool makes of an order that is there is nothing it makes of one that is not.
theorem partial_differs (known : w.store.orders.get key = some order) (unknown : w.store.orders.get spelling = none)
    (given : Given params ["amount","reason"]) :
    (named texts errorText outside w .offerPartialRefund params spelling).value ≠
      (named texts errorText outside w .offerPartialRefund params key).value := by
  obtain ⟨amount,offered⟩ := given.some (by decide : "amount" ∈ _)
  obtain ⟨reason,because⟩ := given.some (by decide : "reason" ∈ _)
  have offer (id : String) := naming_given (by decide) offered id
  have cause (id : String) := naming_given (by decide) because id
  have missing := processPartialRefund_unknown outside (demand_unknown unknown outside "Order") (.json amount) reason
  unfold named
  rw [offerPartialRefund_raised texts errorText outside (naming_id _ _) (offer _) (cause _) missing]
  by_cases covered : ∃ x, amount.number? = some x ∧ order.total.less (.finite x) = false
  · obtain ⟨x,counted,covered⟩ := covered
    rw [offerPartialRefund_covered texts errorText outside (naming_id _ _) (offer _) (cause _) known counted covered]
    cases large : PyFloat.tooLarge x <;>
      simp [PyFloat.money,large,bind,Except.bind,pure,Except.pure,notFound,overflowError]
  · obtain ⟨e,asked,other⟩ := processPartialRefund_refused outside known (numeric_uncovered covered) reason
    rw [offerPartialRefund_raised texts errorText outside (naming_id _ _) (offer _) (cause _) asked]
    exact fun same => other spelling (Except.error.inj same).symm

theorem return_differs (known : w.store.orders.get key = some order) (unknown : w.store.orders.get spelling = none)
    (asks : Asks .initiateReturn params) :
    (named texts errorText outside w .initiateReturn params spelling).value ≠
      (named texts errorText outside w .initiateReturn params key).value := by
  obtain ⟨given,listing,items,listed,itemized⟩ := asks
  obtain ⟨reason,because⟩ := given.some (by decide : "reason" ∈ _)
  have list (id : String) := naming_given (by decide) listed id
  have cause (id : String) := naming_given (by decide) because id
  unfold named
  rw [initiateReturn_unknown texts errorText outside (list _) itemized (naming_id _ _) (cause _) unknown,
    initiateReturn_asks texts errorText outside (list _) itemized (naming_id _ _) (cause _)]
  by_cases returnable : Returnable w.store key
  · obtain ⟨result,createdAt,readings,drawn,ran,_⟩ := initiateReturn_open (ω := Empty) outside returnable items reason
    have asked : mock outside (.initiateReturn (.str key) items reason) w = _ := ran
    rw [reported_answered errorText outside _ asked]
    intro same
    cases same
  · rcases processReturn_refused outside known returnable items reason with ⟨text,asked,other⟩ | ⟨_,asked⟩
    · rw [reported_caught errorText outside _ asked]
      intro same
      exact other spelling (HatResult.mk.inj (Except.ok.inj same)).2.2.symm
    · rw [reported_raised errorText outside _ asked rfl]
      intro same
      cases same

theorem address_differs (known : w.store.orders.get key = some order) (unknown : w.store.orders.get spelling = none)
    (given : Given params ["line1","city","state","postal_code"]) :
    (named texts errorText outside w .updateShippingAddress params spelling).value ≠
      (named texts errorText outside w .updateShippingAddress params key).value := by
  obtain ⟨address,made⟩ := newAddress_given given
  have addressed (id : String) : newAddress (naming params id) = .ok address := (newAddress_naming params id).trans made
  unfold named
  rw [updateShippingAddress_unknown texts errorText outside (addressed _) (naming_id _ _) unknown]
  by_cases open_ : order.status ∈ unshipped
  · obtain ⟨data,message,done⟩ := updateShippingAddress_done texts errorText outside (addressed _) (naming_id _ _) known open_
    rw [done]
    intro same
    cases same
  · rw [updateShippingAddress_refused texts errorText outside (addressed _) (naming_id _ _) known open_]
    intro same
    have heads := congrArg (·.toList.head?) (HatResult.mk.inj (Except.ok.inj same)).2.2
    simp [String.toList_append] at heads

theorem cancel_differs (known : w.store.orders.get key = some order) (unknown : w.store.orders.get other = none)
    (named_ : normalizeOrderId texts (.str key) = .ok key) (misnamed : normalizeOrderId texts (.str spelling) = .ok other)
    (given : Given params ["reason"]) :
    (named texts errorText outside w .cancelOrder params spelling).value ≠
      (named texts errorText outside w .cancelOrder params key).value := by
  obtain ⟨reason,because⟩ := given.some (by decide : "reason" ∈ _)
  have cause (id : String) := naming_given (by decide) because id
  have canonical : normalizeOrderId texts (param (naming params key) "order_id" (.str "")) = .ok key := by
    rw [naming_param,named_]
  have strange : normalizeOrderId texts (param (naming params spelling) "order_id" (.str "")) = .ok other := by
    rw [naming_param,misnamed]
  unfold named
  rw [cancelOrder_unknown texts errorText outside strange (cause _) unknown]
  by_cases closed : order.status ∈ settled
  · rw [cancelOrder_refused texts errorText outside canonical (cause _) known closed]
    intro same
    have heads := congrArg (·.toList.head?) (HatResult.mk.inj (Except.ok.inj same)).2.2
    simp [String.toList_append] at heads
  · rw [cancelOrder_done texts errorText outside canonical (cause _) known closed]
    cases order.total.money <;> simp [bind,Except.bind,pure,Except.pure,failure]

-- Without a parcel only the messages tell the names apart.
theorem track_differs (ascii : AsciiTexts texts) (unknown : w.store.shipments.get spelling = none) (other : spelling ≠ key) :
    (named texts errorText outside w .trackShipment params spelling).value ≠
      (named texts errorText outside w .trackShipment params key).value := by
  unfold named
  rw [trackShipment_unknown texts errorText outside (naming_id _ _) unknown]
  cases tracked : w.store.shipments.get key with
  | none =>
    rw [trackShipment_unknown texts errorText outside (naming_id _ _) tracked]
    intro same
    have messages := (HatResult.mk.inj (Except.ok.inj same)).2.2
    rw [shown,shown,ascii.str,ascii.str] at messages
    simp [other] at messages
  | some tracking =>
    obtain ⟨message,ran⟩ := trackShipment_known texts errorText outside (naming_id _ _) tracked
    rw [ran]
    intro same
    cases same

theorem full_differs (known : w.store.orders.get key = some order) (unknown : w.store.orders.get spelling = none)
    (given : Given params ["reason"]) :
    (named texts errorText outside w .offerFullRefund params spelling).value ≠
      (named texts errorText outside w .offerFullRefund params key).value := by
  obtain ⟨reason,because⟩ := given.some (by decide : "reason" ∈ _)
  obtain ⟨message,ran⟩ := offerFullRefund_known texts errorText outside (naming_id params key)
    (naming_given (by decide) because key) known
  unfold named
  rw [ran,offerFullRefund_unknown texts errorText outside (naming_id _ _) (naming_given (by decide) because _)
    (demand_unknown unknown outside "Order")]
  intro same
  cases same

theorem named_differs (ascii : AsciiTexts texts) (calls : List ServiceCall) (readings drawn : Nat)
    (known : (stateAfter outside calls readings drawn).store.orders.get (orderKey n) = some order)
    (takes : tool ∈ orderTools) (asks : Asks tool params) (spells : Spells (toString n) spelling) (other : spelling ≠ orderKey n)
    (differs : normalizes tool = true → letters spelling = hashPrefixed (toString n)) :
    (named texts errorText outside (stateAfter outside calls readings drawn) tool params spelling).value ≠
      (named texts errorText outside (stateAfter outside calls readings drawn) tool params (orderKey n)).value := by
  have inv : StoreInvariant outside (stateAfter outside calls readings drawn).store := reached_invariant outside calls
  have foreign := misspelled spells other
  have unknown := absent_order inv foreign
  have canonical := normalize_plain ascii (orderKey_spells n) (orderKey_plain n)
  have doubled := absent_order inv (doubled_foreign n)
  have strange (normal : normalizes tool = true) := normalize_hashed ascii spells (differs normal)
  cases tool with
  | lookUpOrder =>
    unfold named
    rw [lookUpOrder_unknown texts errorText outside (by rw [naming_param,strange rfl]) doubled,
      lookUpOrder_known texts errorText outside (by rw [naming_param,canonical]) known]
    intro same
    cases same
  | checkOrderStatus =>
    unfold named
    rw [checkOrderStatus_unknown texts errorText outside (by rw [naming_param,strange rfl]) doubled,
      checkOrderStatus_known texts errorText outside (by rw [naming_param,canonical]) known]
    intro same
    cases same
  | cancelOrder => exact cancel_differs known doubled canonical (strange rfl) asks
  | trackShipment => exact track_differs ascii (absent_shipment outside calls foreign) other
  | updateShippingAddress => exact address_differs known unknown asks
  | initiateReturn => exact return_differs known unknown asks
  | offerPartialRefund => exact partial_differs known unknown asks
  | offerFullRefund => exact full_differs known unknown asks
  | _ => exact absurd takes (by decide)

-- Every id of the store is a number after its prefix.
theorem order_number {id : String} (inv : StoreInvariant outside w.store) (known : w.store.orders.get ("ORD-" ++ id) = some order) :
    ∃ n : Nat, id = toString n := by
  obtain ⟨_,n,_,same⟩ := inv.orderKeys _ _ known
  refine ⟨n,?_⟩
  rw [orderKey,← String.toList_inj,String.toList_append,String.toList_append] at same
  exact String.toList_inj.mp (List.append_cancel_left same)

theorem order_spellings {id : String} (ascii : AsciiTexts texts) (errorText : PyError → String) (outside : Outside)
    (calls : List ServiceCall) (readings drawn : Nat)
    (known : ((storeAfter outside calls).orders.get ("ORD-" ++ id)).isSome = true)
    (takes : tool ∈ orderTools) (spells : Spells id spelling) (params : Params) :
    Agrees texts errorText outside (stateAfter outside calls readings drawn) tool params ("ORD-" ++ id) spelling ↔
      spelling = "ORD-" ++ id ∨ (normalizes tool = true ∧ letters spelling ≠ hashPrefixed id) ∨ ¬ Asks tool params := by
  obtain ⟨order,known⟩ := Option.isSome_iff_exists.mp known
  obtain ⟨n,rfl⟩ := order_number (w := worldAfter outside calls) (reached_invariant outside calls) known
  constructor
  · intro agrees
    by_contra none_
    push Not at none_
    obtain ⟨other,unlike,asks⟩ := none_
    exact named_differs ascii calls readings drawn known takes asks spells other unlike agrees.1
  · rintro (rfl | ⟨normal,plain⟩ | stops)
    · exact ⟨rfl,rfl⟩
    · have canonical : normalizeOrderId texts (.str (orderKey n)) = .ok (orderKey n) :=
        normalize_plain ascii (orderKey_spells n) (orderKey_plain n)
      have same : named texts errorText outside (stateAfter outside calls readings drawn) tool params spelling =
          named texts errorText outside (stateAfter outside calls readings drawn) tool params (orderKey n) :=
        named_normalized normal ((normalize_plain ascii spells plain).trans canonical.symm)
      exact ⟨congrArg (·.value) same,congrArg (·.state.store) same⟩
    · obtain ⟨e,stopped⟩ := named_stopped texts errorText outside
        (stateAfter outside calls readings drawn) stops takes
      unfold Agrees
      rw [stopped,stopped]
      exact ⟨rfl,rfl⟩

end

theorem plain_ascii : AsciiTexts plainTexts where
  str _ := rfl
  upper text _ := by
    rw [← String.toList_inj]
    simp [plainTexts,String.toUpper,letters]

theorem order_spellings_hash : Agrees plainTexts (fun _ => "") shopClock (stateAfter shopClock [] 0 0) .lookUpOrder ∅
    ("ORD-" ++ "12345") "#12345" :=
  (order_spellings plain_ascii _ _ [] 0 0 (by decide +kernel) (by decide) (by decide) _).mpr (.inr (.inl ⟨rfl,by decide⟩))

def damaged : Params := AList.singleton "reason" (.str "damaged")

-- The order that look_up_order finds under its number has no refund under it.
theorem refund_misnamed : Agrees plainTexts (fun _ => "") shopClock initialWorld .lookUpOrder damaged (orderKey 12345) "12345" ∧
    ¬ Agrees plainTexts (fun _ => "") shopClock initialWorld .offerFullRefund damaged (orderKey 12345) "12345" := by
  constructor
  · have spells : Spells (toString 12345) "12345" := by decide
    have normal := (normalize_plain plain_ascii spells (by decide)).trans
      (normalize_plain plain_ascii (orderKey_spells 12345) (orderKey_plain 12345)).symm
    have same : named plainTexts (fun _ => "") shopClock initialWorld .lookUpOrder damaged "12345" =
        named plainTexts (fun _ => "") shopClock initialWorld .lookUpOrder damaged (orderKey 12345) :=
      named_normalized rfl normal
    exact ⟨congrArg (·.value) same,congrArg (·.state.store) same⟩
  · intro agrees
    have there : (initialStore.orders.get (orderKey 12345)).isSome = true := by decide +kernel
    have absent : initialStore.orders.get "12345" = none := @absent_order shopClock initialWorld "12345" initial_invariant fun m =>
      misspelled (n := 12345) (by decide) (by decide) m
    obtain ⟨order,known⟩ := Option.isSome_iff_exists.mp there
    exact full_differs (w := initialWorld) known absent (by decide) agrees.1

end Sophia.CustomerService
