import Sophia.ToolRuns

namespace Sophia.CustomerService
open TracedRun Json ServiceModels Mcp MockServices StepRun ParameterGate

def maxFinancialImpact : HatTool → Option ℚ
  | .offerFreeShipping => some 15
  | .offerPartialRefund => some 50
  | .offerFullRefund => some 100
  | _ => none

-- The refund or the estimated saving in the data of a result
def givenAway (result : HatResult) : Option PyFloat :=
  match result.data with
  | .record (.refund refund) => some refund.amount
  | .record (.freeShipping shipping) => some shipping.estimatedSavings
  | _ => none

section
variable (texts : Texts) (errorText : PyError → String) (outside : Outside) {runtime : Runtime} {known : List String}

def WithinLimit (w : World) (tool : HatTool) (params : Params) : Prop := ∀ limit result,
  maxFinancialImpact tool = some limit → (execute texts errorText (mock outside) tool params w).value = .ok result →
  result.success = true → ∃ amount, givenAway result = some amount ∧ amount.atMost (.finite limit) = true

-- A refund of more than $50 that the order covers and float holds, or a full refund of an order of more than $100
def Overspends (w : World) : HatTool → Params → Prop
  | .offerPartialRefund,params => ∃ key order amount x, params.lookup "order_id" = some (.str key) ∧
      w.store.orders.get key = some order ∧ params.lookup "amount" = some amount ∧ amount.number? = some x ∧
      order.total.less (.finite x) = false ∧ PyFloat.tooLarge x = false ∧ 50 < x
  | .offerFullRefund,params => ∃ key order, params.lookup "order_id" = some (.str key) ∧
      w.store.orders.get key = some order ∧ order.total.atMost (.finite 100) = false
  | _,_ => False

end

section
variable {texts : Texts} {errorText : PyError → String} {outside : Outside} {w : World} {params : Params}
  {runtime : Runtime} {known : List String}

-- A result that gives money away keeps the limit exactly when the money does.
theorem withinLimit_paid (limited : maxFinancialImpact tool = some limit)
    (returned : (execute texts errorText (mock outside) tool params w).value = .ok ⟨true,data,message⟩)
    (gives : givenAway ⟨true,data,message⟩ = some amount) :
    WithinLimit texts errorText outside w tool params ↔ amount.atMost (.finite limit) = true := by
  constructor
  · intro within
    obtain ⟨same,given,kept⟩ := within limit _ limited returned rfl
    rw [gives] at given
    cases given
    exact kept
  · intro kept other result declared finished succeeded
    rw [limited] at declared
    rw [returned] at finished
    cases declared
    cases finished
    exact ⟨amount,gives,kept⟩

theorem withinLimit_raised (raised : (execute texts errorText (mock outside) tool params w).value = .error e) :
    WithinLimit texts errorText outside w tool params := by
  intro limit result limited returned succeeded
  rw [raised] at returned
  cases returned

theorem withinLimit_undeclared (undeclared : maxFinancialImpact tool = none) :
    WithinLimit texts errorText outside w tool params := by
  intro limit result limited
  rw [undeclared] at limited
  cases limited

theorem fullRefund_within (ordered : params.lookup "order_id" = some orderId) (because : params.lookup "reason" = some reason) :
    WithinLimit texts errorText outside w .offerFullRefund params ↔ ¬ Overspends w .offerFullRefund params := by
  rcases demand_cases outside "Order" w.store.orders orderId with ⟨key,order,same,known⟩ | ⟨e,raised⟩
  · subst same
    obtain ⟨message,returned⟩ := offerFullRefund_known texts errorText outside ordered because known
    rw [withinLimit_paid rfl returned rfl]
    change order.total.atMost (.finite 100) = true ↔ _
    constructor
    · rintro kept ⟨other,entry,given,there,exceeds⟩
      rw [ordered] at given
      cases given
      rw [known] at there
      cases there
      simp [kept] at exceeds
    · intro fine
      by_contra exceeds
      exact fine ⟨key,order,ordered,known,by simpa using exceeds⟩
  · have failed := offerFullRefund_unknown texts errorText outside ordered because raised
    refine iff_of_true (withinLimit_raised (by rw [failed])) ?_
    rintro ⟨key,order,given,known,_⟩
    rw [ordered] at given
    cases given
    rw [demand_found known] at raised
    cases raised

theorem partialRefund_within (ordered : params.lookup "order_id" = some orderId)
    (offered : params.lookup "amount" = some amount) (because : params.lookup "reason" = some reason) :
    WithinLimit texts errorText outside w .offerPartialRefund params ↔ ¬ Overspends w .offerPartialRefund params := by
  rcases demand_cases outside "Order" w.store.orders orderId with ⟨key,order,same,known⟩ | ⟨e,raised⟩
  · subst same
    have only (overspends : Overspends w .offerPartialRefund params) : ∃ x, amount.number? = some x ∧
        order.total.less (.finite x) = false ∧ PyFloat.tooLarge x = false ∧ 50 < x := by
      obtain ⟨other,entry,given,x,named,there,same,counted,rest⟩ := overspends
      rw [ordered] at named
      cases named
      rw [known] at there
      cases there
      rw [offered] at same
      cases same
      exact ⟨x,counted,rest⟩
    by_cases covered : ∃ x, amount.number? = some x ∧ order.total.less (.finite x) = false
    · obtain ⟨x,counted,covered⟩ := covered
      have ran := offerPartialRefund_covered texts errorText outside ordered offered because known counted covered
      cases held : PyFloat.tooLarge x with
      | false =>
        have returned : (execute texts errorText (mock outside) .offerPartialRefund params w).value =
            .ok ⟨true,.record (.refund (nextRefund outside w key (.finite x))),
              "Partial refund of $" ++ PyText.fixed 2 (PyFloat.nearest x) ++ " issued for order " ++ shown texts (.str key)⟩ := by
          rw [ran,PyFloat.money_small held]
          rfl
        rw [withinLimit_paid rfl returned rfl]
        change PyFloat.atMost (.finite x) (.finite 50) = true ↔ _
        constructor
        · intro kept overspends
          obtain ⟨y,again,_,_,exceeds⟩ := only overspends
          rw [counted] at again
          cases again
          simp [PyFloat.atMost,PyFloat.less] at kept
          exact absurd exceeds (not_lt.mpr kept)
        · intro fine
          by_contra exceeds
          refine fine ⟨key,order,amount,x,ordered,known,offered,counted,covered,held,?_⟩
          simpa [PyFloat.atMost,PyFloat.less] using exceeds
      | true =>
        have raised : (execute texts errorText (mock outside) .offerPartialRefund params w).value = .error overflowError := by
          rw [ran,PyFloat.money_large held]
          rfl
        refine iff_of_true (withinLimit_raised raised) fun overspends => ?_
        obtain ⟨y,again,_,fits,_⟩ := only overspends
        rw [counted] at again
        cases again
        rw [held] at fits
        cases fits
    · obtain ⟨e,asked,_⟩ := processPartialRefund_refused outside known (numeric_uncovered covered) reason
      have failed := offerPartialRefund_raised texts errorText outside ordered offered because asked
      refine iff_of_true (withinLimit_raised (by rw [failed])) fun overspends => ?_
      obtain ⟨x,counted,fits,_⟩ := only overspends
      exact covered ⟨x,counted,fits⟩
  · have asked := processPartialRefund_unknown outside raised (.json amount) reason
    have failed := offerPartialRefund_raised texts errorText outside ordered offered because asked
    refine iff_of_true (withinLimit_raised (by rw [failed])) ?_
    rintro ⟨key,order,_,_,given,known,_⟩
    rw [ordered] at given
    cases given
    rw [demand_found known] at raised
    cases raised

-- A customer saves $9.99.
theorem freeShipping_within (customer : params.lookup "customer_id" = some customerId)
    (because : params.lookup "reason" = some reason) :
    WithinLimit texts errorText outside w .offerFreeShipping params := by
  rcases demand_cases outside "Customer" w.store.customers customerId with ⟨key,entry,same,known⟩ | ⟨e,raised⟩
  · subst same
    have asked : mock outside (.applyFreeShipping (.str key) (param params "order_id") reason) w =
        ⟨.ok (.freeShipping ⟨true,.str key,.ofRat (999/100)⟩),w,[]⟩ := by
      rw [mock,perform,applyFreeShipping,read_bind,demand_found known,lift_bind_ok]
      rfl
    have returned : ∃ message, (execute texts errorText (mock outside) .offerFreeShipping params w).value =
        .ok ⟨true,.record (.freeShipping ⟨true,.str key,.ofRat (999/100)⟩),message⟩ := by
      rw [execute,offerFreeShipping,required_given customer,lift_bind_ok,required_given because,lift_bind_ok,bind_ran asked]
      exact ⟨_,rfl⟩
    obtain ⟨message,returned⟩ := returned
    have little : PyFloat.atMost (PyFloat.ofRat (999/100)) (.finite 15) = true := by decide +kernel
    exact (withinLimit_paid rfl returned rfl).mpr little
  · have asked : mock outside (.applyFreeShipping customerId (param params "order_id") reason) w = ⟨.error e,w,[]⟩ := by
      rw [mock,perform,applyFreeShipping,read_bind,raised,lift_bind_error]
    refine withinLimit_raised (e := e) ?_
    rw [execute,offerFreeShipping,required_given customer,lift_bind_ok,required_given because,lift_bind_ok,bind_raised asked]

-- Whatever the gate lets pass keeps the limit, or overspends.
theorem run_within (run : Execution runtime known) (w : World) :
    WithinLimit texts errorText outside w run.tool run.params ↔ ¬ Overspends w run.tool run.params := by
  obtain ⟨tool,params,accepted⟩ := run
  have filled {field : String} (needed : field ∈ (toolOf tool).required) : ∃ value, params.lookup field = some value := by
    obtain ⟨value,given,_⟩ := Execution.filled ⟨tool,params,accepted⟩ needed
    exact ⟨value,given⟩
  cases tool with
  | offerFreeShipping =>
    obtain ⟨customerId,customer⟩ := filled (by decide : "customer_id" ∈ _)
    obtain ⟨reason,because⟩ := filled (by decide : "reason" ∈ _)
    exact iff_of_true (freeShipping_within customer because) id
  | offerPartialRefund =>
    obtain ⟨orderId,ordered⟩ := filled (by decide : "order_id" ∈ _)
    obtain ⟨amount,offered⟩ := filled (by decide : "amount" ∈ _)
    obtain ⟨reason,because⟩ := filled (by decide : "reason" ∈ _)
    exact partialRefund_within ordered offered because
  | offerFullRefund =>
    obtain ⟨orderId,ordered⟩ := filled (by decide : "order_id" ∈ _)
    obtain ⟨reason,because⟩ := filled (by decide : "reason" ∈ _)
    exact fullRefund_within ordered because
  | _ => exact iff_of_true (withinLimit_undeclared rfl) id

end

section
variable (texts : Texts) (errorText : PyError → String) (outside : Outside) {runtime : Runtime} {known : List String}

-- The step of a run, none where a tool without a service is executed
def KeepsLimit (w : World) (run : Option (Execution runtime known)) : Prop :=
  ∀ call, run = some call → WithinLimit texts errorText outside w call.tool call.params

def Overspending (w : World) (run : Option (Execution runtime known)) : Prop :=
  ∃ call, run = some call ∧ Overspends w call.tool call.params

theorem financial_limits (w : World) (runs : List (Option (Execution runtime known))) :
    Along (execution texts errorText outside) (KeepsLimit texts errorText outside) w runs ↔
      Along (execution texts errorText outside) (fun w run => ¬ Overspending w run) w runs := by
  have pointwise (w : World) (run : Option (Execution runtime known)) :
      KeepsLimit texts errorText outside w run ↔ ¬ Overspending w run := by
    constructor
    · rintro kept ⟨call,same,overspends⟩
      exact (run_within call w).mp (kept call same) overspends
    · intro fine call same
      exact (run_within call w).mpr fun overspends => fine ⟨call,same,overspends⟩
  constructor
  · exact fun along earlier run later split => (pointwise _ _).mp (along earlier run later split)
  · exact fun along earlier run later split => (pointwise _ _).mpr (along earlier run later split)

end

-- The console of order 67890 costs $499.99.
def wholeConsole : Execution .ascii corePlaceholders where
  tool := .offerFullRefund
  params := (AList.singleton "order_id" (.str (orderKey 67890))).insert "reason" (.str "damaged")
  accepted := by decide +kernel

theorem limit_exceeded : ¬ Along (execution plainTexts (fun _ => "") shopClock) (KeepsLimit plainTexts (fun _ => "") shopClock)
    initialWorld [some wholeConsole] := by
  intro along
  have within := along [] (some wholeConsole) [] rfl wholeConsole rfl
  obtain ⟨amount,given,kept⟩ := within 100 _ rfl rfl rfl
  cases given
  revert kept
  decide +kernel

end Sophia.CustomerService
