import Sophia.McpFailures

namespace Sophia.Mcp
open TracedRun Json ServiceModels CustomerService

section
variable {texts : Texts} {platform : Platform} {asked : ServiceCall} {result : McpToolResult} {config : ToolConfig}
variable {σ : Type} {server : Server σ} {wiring : ServiceKind → Backend σ} {s : σ}

-- A run of the tools in which the server answers the call with an error that the adapter turns into None
structure Refused (texts : Texts) (server : Server σ) (wiring : ServiceKind → Backend σ) (asked : ServiceCall)
    (result : McpToolResult) : Prop where
  none : ∀ s, (asked,result) ∈ (serve texts server wiring asked s).trace →
    (serve texts server wiring asked s).value = .ok .none
  absorbed : absorbs asked = true

abbrev Fails (asked : ServiceCall) (result : McpToolResult) (m : ServerRun σ HatResult) : Prop :=
  Notes (asked,result) (fun r => r.success = false) m

theorem Refused.call (refused : Refused texts server wiring asked result) (other : ServiceCall) :
    Notes (asked,result) (fun value => value = .none ∧ absorbs other = true) (serve texts server wiring other) := by
  intro s present
  have same : asked = other := serve_events texts server wiring other s _ present
  subst same
  exact ⟨_,refused.none s present,rfl,refused.absorbed⟩

theorem Refused.quiet (refused : Refused texts server wiring asked result) (ignored : absorbs other = false) :
    Emits (fun event => event ≠ (asked,result)) (serve texts server wiring other) := by
  intro s event present same
  subst same
  have called : asked = other := serve_events texts server wiring other s _ present
  rw [called] at refused
  exact absurd refused.absorbed (by simp [ignored])

-- A step that calls a service: the tool fails on None, and where it goes on, it fails too.
theorem Refused.bind (refused : Refused texts server wiring asked result) {good : β → Prop}
    {next : ServiceValue → ServerRun σ β} (other : ServiceCall)
    (fails : absorbs other = true → ∀ s, ∃ b, (next .none s).value = .ok b ∧ good b)
    (later : ∀ value, Notes (asked,result) good (next value)) :
    Notes (asked,result) good (serve texts server wiring other >>= next) := by
  refine (refused.call other).bind (fun value known => ?_) later
  obtain ⟨absent,absorbed⟩ := known
  subst absent
  exact fails absorbed

theorem Refused.missing (refused : Refused texts server wiring asked result)
    {success : ServiceValue → ServerRun σ HatResult} {message : String} (other : ServiceCall)
    (later : ∀ value, Fails asked result (success value)) :
    Fails asked result (serve texts server wiring other >>= fun value =>
      if found value then success value else pure (failure message)) := by
  refine refused.bind other (fun _ s => ⟨_,rfl,rfl⟩) fun value => ?_
  exact Notes.ite (later value) (Notes.silent (Emits.pure _))

theorem Refused.newItems (refused : Refused texts server wiring asked result) (items : List Json) :
    Notes (asked,result) (fun outcome => ∃ productId, outcome = .inl productId)
    (newItems (serve texts server wiring) items) := by
  induction items with
  | nil => exact Notes.silent (Emits.pure _)
  | cons item rest ih =>
    refine Notes.lift_bind _ fun productId => Notes.lift_bind _ fun quantity => ?_
    refine refused.bind _ (fun _ s => ⟨_,rfl,productId,rfl⟩) fun details => Notes.ite ?_ (Notes.silent (Emits.pure _))
    refine Notes.lift_bind _ fun ordered => ih.bind (fun outcome absent s => ?_) fun _ => Notes.silent (Emits.pure _)
    obtain ⟨other,same⟩ := absent
    subst same
    exact ⟨_,rfl,other,rfl⟩

theorem Refused.reported (refused : Refused texts server wiring asked result)
    {report : ServiceValue → Except PyError HatResult} {errorText : PyError → String} (ignored : absorbs other = false) :
    Fails asked result (reported errorText (serve texts server wiring) report other) := by
  refine Notes.silent (Emits.bind (Emits.rescue ?_) fun outcome => ?_)
  · rw [← bind_pure_comp]
    exact Emits.bind (refused.quiet ignored) fun _ => Emits.pure _
  · cases outcome with
    | inl message => exact Emits.pure _
    | inr value => exact Emits.lift _

theorem Refused.execute (refused : Refused texts server wiring asked result) (errorText : PyError → String)
    (tool : HatTool) (params : Params) :
    Fails asked result (execute texts errorText (serve texts server wiring) tool params) := by
  have quiet {other : ServiceCall} (ignored : absorbs other = false) := refused.quiet ignored
  cases tool with
  | lookUpOrder =>
    exact Notes.lift_bind _ fun orderId => refused.missing _ fun order => Notes.lift_bind _ fun _ => Notes.silent (Emits.pure _)
  | checkOrderStatus =>
    refine Notes.lift_bind _ fun orderId => refused.missing _ fun status => ?_
    exact Notes.lift_bind _ fun _ => Notes.lift_bind _ fun _ => Notes.silent (Emits.pure _)
  | placeNewOrder =>
    refine Notes.lift_bind _ fun rawItems => (refused.newItems rawItems).bind (fun outcome absent s => ?_) fun outcome => ?_
    · obtain ⟨productId,same⟩ := absent
      subst same
      exact ⟨_,rfl,rfl⟩
    · cases outcome with
      | inl productId => exact Notes.silent (Emits.pure _)
      | inr items => exact Notes.silent (Emits.bind (quiet rfl) fun _ => Emits.bind (Emits.lift _) fun _ => Emits.pure _)
  | cancelOrder =>
    refine Notes.lift_bind _ fun orderId => Notes.lift_bind _ fun reason => Notes.silent (Emits.bind (quiet rfl) fun _ => ?_)
    refine Emits.bind (Emits.lift _) fun value => Emits.ite ?_ (Emits.pure _)
    exact Emits.bind (Emits.lift _) fun refund => Emits.bind (Emits.lift _) fun _ => Emits.pure _
  | lookUpCustomer =>
    refine Notes.ite (refused.missing _ fun customers => ?_) (Notes.silent (Emits.pure _))
    exact Notes.lift_bind _ fun _ => Notes.silent (Emits.pure _)
  | getCustomerOrderHistory => exact Notes.lift_bind _ fun _ => refused.reported rfl
  | checkCurrentInventory =>
    refine refused.bind _ (fun given s => ?_) fun stocks => ?_
    · have asking : (param params "product_id").truthy = true := given
      have missing : ((param params "product_id").truthy && !found .none) = true := by simp [asking,found]
      rw [if_pos missing]
      exact ⟨_,rfl,rfl⟩
    · exact Notes.ite (Notes.silent (Emits.pure _)) (Notes.lift_bind _ fun _ => Notes.silent (Emits.pure _))
  | lookUpProduct =>
    refine Notes.lift_bind _ fun productId => refused.missing _ fun details => ?_
    exact Notes.lift_bind _ fun _ => Notes.lift_bind _ fun _ => Notes.silent (Emits.pure _)
  | checkWarrantyStatus => exact Notes.lift_bind _ fun _ => Notes.lift_bind _ fun _ => refused.reported rfl
  | trackShipment =>
    refine Notes.lift_bind _ fun orderId => refused.missing _ fun tracking => ?_
    exact Notes.lift_bind _ fun _ => Notes.lift_bind _ fun _ => Notes.silent (Emits.pure _)
  | updateShippingAddress =>
    refine Notes.lift_bind _ fun _ => Notes.lift_bind _ fun _ => Notes.silent (Emits.bind (quiet rfl) fun _ => ?_)
    exact Emits.bind (Emits.lift _) fun value => Emits.ite (Emits.pure _) (Emits.pure _)
  | offerDiscount =>
    refine Notes.lift_bind _ fun _ => Notes.lift_bind _ fun _ => Notes.lift_bind _ fun _ => Notes.silent ?_
    exact Emits.bind (quiet rfl) fun _ => Emits.bind (Emits.lift _) fun _ => Emits.bind (Emits.lift _) fun _ => Emits.pure _
  | offerFreeShipping =>
    refine Notes.lift_bind _ fun _ => Notes.lift_bind _ fun _ => Notes.silent (Emits.bind (quiet rfl) ?_)
    exact fun _ => Emits.bind (Emits.lift _) fun _ => Emits.pure _
  | offerPartialRefund =>
    refine Notes.lift_bind _ fun _ => Notes.lift_bind _ fun _ => Notes.lift_bind _ fun _ => Notes.silent ?_
    refine Emits.bind (quiet rfl) fun _ => Emits.bind (Emits.lift _) fun _ => Emits.bind (Emits.lift _) fun _ => ?_
    exact Emits.bind (Emits.lift _) fun _ => Emits.pure _
  | offerFullRefund =>
    refine Notes.lift_bind _ fun _ => Notes.lift_bind _ fun _ => Notes.silent (Emits.bind (quiet rfl) ?_)
    exact fun _ => Emits.bind (Emits.lift _) fun _ => Emits.pure _
  | sendReplacementProduct =>
    refine Notes.lift_bind _ fun productId => refused.missing _ fun product => Notes.lift_bind _ fun _ => ?_
    refine Notes.silent (Emits.bind (quiet rfl) fun _ => Emits.bind (Emits.lift _) fun _ => ?_)
    exact Emits.bind (Emits.lift _) fun _ => Emits.pure _
  | offerFreeItem => exact Notes.silent (Emits.pure _)
  | initiateReturn =>
    exact Notes.lift_bind _ fun _ => Notes.lift_bind _ fun _ => Notes.lift_bind _ fun _ => Notes.lift_bind _ fun _ =>
      refused.reported rfl
  | checkReturnStatus =>
    refine Notes.lift_bind _ fun _ => refused.missing _ fun status => ?_
    exact Notes.lift_bind _ fun _ => Notes.lift_bind _ fun _ => Notes.silent (Emits.pure _)

theorem defaultErrorHandler_handled (handled : IfTruthy (First (Object Anything)) result.content) :
    defaultErrorHandler result = .ok .none := by
  obtain ⟨value,returned⟩ := (parses_defaultErrorHandler result).returns handled
  rw [returned,defaultErrorHandler_none returned]

theorem toolsContained (mapped : Mapped texts platform asked config) (absorbed : absorbs asked = true)
    (handled : IfTruthy (First (Object Anything)) result.content) : ToolsContained texts platform asked result := by
  intro σ server wiring errorText tool params s placed failed present
  have refused : Refused texts server wiring asked result := by
    refine ⟨fun s present => ?_,absorbed⟩
    rw [serve_noted placed mapped.known present,answerOf,if_pos failed,defaultErrorHandler_handled handled]
  exact refused.execute errorText tool params s present

theorem serviceContained_iff (mapped : Mapped texts platform asked config) :
    ServiceContained texts platform asked result ↔
    ArgsFit texts platform asked ∧ Acceptable asked (answerOf config result) := by
  constructor
  · intro contained
    have served := contained Unit (fun _ _ s => (s,.ok result)) (fun _ => .mcp platform) () rfl fun _ _ => rfl
    by_cases fits : ArgsFit texts platform asked
    · obtain ⟨args,applied⟩ := mapped.args.returns fits
      rw [serve_answered rfl mapped.known applied rfl] at served
      exact ⟨fits,served⟩
    · obtain ⟨e,misfit,harmful⟩ := mapped.args.raises fits
      rw [serve_misfit rfl mapped.known misfit] at served
      exact absurd served (not_acceptable_harmful harmful)
  · intro both σ server wiring s placed answers
    obtain ⟨args,applied⟩ := mapped.args.returns both.1
    rw [serve_answered placed mapped.known applied (answers _ _)]
    exact both.2

-- The two lookups whose tools do not expect None: a history, and the stock of every product
theorem lookups (known : supported texts platform asked = true) (reads : isLookup asked = true)
    (open_ : absorbs asked = false) : (∃ customerId, asked = .getCustomerHistory customerId) ∨
      ∃ productId, asked = .checkStock productId ∧ productId.truthy = false := by
  cases asked with
  | getCustomerHistory customerId => exact .inl ⟨customerId,rfl⟩
  | checkStock productId => exact .inr ⟨productId,rfl,open_⟩
  | checkWarrantyStatus orderId productId => cases platform <;> cases known
  | checkReturnStatus returnId => cases platform <;> cases known
  | _ => first | cases reads; done | cases open_

-- The tools that call them, on a None
theorem history_crashes (served : serve texts server wiring (.getCustomerHistory customerId) s = ⟨.ok .none,t,[event]⟩) :
    execute texts (fun _ => "") (serve texts server wiring) .getCustomerOrderHistory
      (AList.singleton "customer_id" customerId) s =
      ⟨.error .typeError,t,[event]⟩ := by
  have given : required (AList.singleton "customer_id" customerId) "customer_id" = .ok customerId := rfl
  have caught : rescue (caughtValueError fun _ => "")
      (Sum.inr <$> serve texts server wiring (.getCustomerHistory customerId)) s =
      ⟨.ok (.inr .none),t,[event]⟩ := by
    unfold rescue
    rw [← bind_pure_comp,bind_ok (by rw [served]),served]
    rfl
  unfold execute getCustomerOrderHistory reported
  dsimp only
  rw [given,lift_bind_ok,bind_ok (by rw [caught]),caught]
  rfl

theorem stock_crashes (falsy : productId.truthy = false)
    (served : serve texts server wiring (.checkStock productId) s = ⟨.ok .none,t,[event]⟩) :
    execute texts (fun _ => "") (serve texts server wiring) .checkCurrentInventory
      (AList.singleton "product_id" productId) s =
      ⟨.error .typeError,t,[event]⟩ := by
  have given : param (AList.singleton "product_id" productId) "product_id" = productId := rfl
  unfold execute checkCurrentInventory
  dsimp only
  rw [given,bind_ok (by rw [served]),served,falsy]
  rfl

theorem acceptable_answerOf (mapped : Mapped texts platform asked config) : Acceptable asked (answerOf config result) ↔
    if result.isError.truthy then isLookup asked = true ∧ IfTruthy (First (Object Anything)) result.content
    else Readable texts (shapeOf texts platform asked) result := by
  unfold answerOf
  cases result.isError.truthy with
  | true => exact acceptable_defaultErrorHandler
  | false => exact mapped.answers result

theorem isLookup_of_absorbs (absorbed : absorbs asked = true) : isLookup asked = true := by
  cases asked with
  | _ => first | rfl | cases absorbed

theorem absorbs_of_tools (known : supported texts platform asked = true) (mapped : Mapped texts platform asked config)
    (fits : ArgsFit texts platform asked) (failed : result.isError.truthy = true) (reads : isLookup asked = true)
    (handled : IfTruthy (First (Object Anything)) result.content) (contained : ToolsContained texts platform asked result) :
    absorbs asked = true := by
  by_contra crashing
  obtain ⟨args,applied⟩ := mapped.args.returns fits
  have served : serve texts (fun _ _ s => (s,.ok result)) (fun _ => .mcp platform) asked () =
      ⟨.ok .none,(),[(asked,result)]⟩ := by
    rw [serve_answered rfl mapped.known applied rfl,answerOf,if_pos failed,defaultErrorHandler_handled handled]
  rcases lookups known reads (by simpa using crashing) with ⟨customerId,same⟩ | ⟨productId,same,falsy⟩
  · subst same
    have crashed := history_crashes served
    obtain ⟨r,returned,_⟩ := contained Unit _ _ _ .getCustomerOrderHistory _ () rfl failed (by rw [crashed]; simp)
    rw [crashed] at returned
    cases returned
  · subst same
    have crashed := stock_crashes falsy served
    obtain ⟨r,returned,_⟩ := contained Unit _ _ _ .checkCurrentInventory _ () rfl failed (by rw [crashed]; simp)
    rw [crashed] at returned
    cases returned

theorem mcp_failures (texts : Texts) (platform : Platform) (asked : ServiceCall) (result : McpToolResult)
    (known : supported texts platform asked = true) :
    Contained texts platform asked result ↔ WellAnswered texts platform asked result := by
  obtain ⟨config,mapped⟩ := mapped known
  unfold Contained WellAnswered
  rw [serviceContained_iff mapped,acceptable_answerOf mapped]
  cases failed : result.isError.truthy with
  | false =>
    refine ⟨fun both => both.1,fun both => ⟨both,?_⟩⟩
    intro σ server wiring errorText tool params s placed impossible present
    rw [failed] at impossible
    cases impossible
  | true =>
    constructor
    · intro both
      obtain ⟨⟨fits,reads,handled⟩,contained⟩ := both
      exact ⟨fits,absorbs_of_tools known mapped fits failed reads handled contained,handled⟩
    · intro both
      obtain ⟨fits,absorbed,handled⟩ := both
      exact ⟨⟨fits,isLookup_of_absorbs absorbed,handled⟩,toolsContained mapped absorbed handled⟩

end

-- An order without any of its fields
theorem mcp_failures_empty : Contained plainTexts .shopify (.getOrder (.str "ORD-1"))
    ⟨.arr [.obj [("type",.str "text"),("text",.str "\x7b\x7d")]],.bool false⟩ := by
  refine (mcp_failures plainTexts .shopify (.getOrder (.str "ORD-1")) _ rfl).mpr ⟨trivial,?_⟩
  refine fun _ => ⟨_,rfl,_,rfl,?_⟩
  intro value present
  cases present
  refine ⟨_,rfl,.inr ⟨.obj [],rfl,[],rfl,⟨[],rfl,by simp⟩,?_,trivial,⟨_,rfl,trivial⟩,?_,?_⟩⟩
  · intro impossible
    cases impossible
  · change PyFloat.tooLarge 0 = false
    decide +kernel
  · intro impossible
    cases impossible

-- ShipStation's lambda has no parameter new_address.
theorem address_update_crashes : supported plainTexts .shipstation (.updateShippingAddress (.str "ORD-1")
      ⟨.str "1 Main St",.str "Springfield",.str "IL",.str "62701",.null,.str "US"⟩) = true ∧
    ¬ Contained plainTexts .shipstation (.updateShippingAddress (.str "ORD-1")
      ⟨.str "1 Main St",.str "Springfield",.str "IL",.str "62701",.null,.str "US"⟩) ⟨.arr [],.bool false⟩ := by
  refine ⟨rfl,fun contained => ?_⟩
  have served := contained.1 Unit (fun _ _ s => (s,.ok ⟨.arr [],.bool false⟩)) (fun _ => .mcp .shipstation) () rfl
    fun _ _ => rfl
  cases served

end Sophia.Mcp
