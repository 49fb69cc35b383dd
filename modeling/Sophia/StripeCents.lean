import Sophia.StripeMapping
import Mathlib.Algebra.Order.Floor.Ring
import Mathlib.Tactic.Linarith

namespace Sophia.StripeCents
open ServiceModels Mcp Mcp.Stripe

-- The dollars that an amount of a call stands for, where it is a number
def dollars : Argument → Option ℚ
  | .json value => value.number?
  | .float (.finite value) => some value
  | _ => none

section
variable (texts : Texts)

def buildArgs (method : String) (kwargs : Kwargs) : Except PyError Kwargs :=
  match (compensationMapping texts).lookup method with
  | some config => config.buildArgs.apply kwargs
  | none => .error .keyError

def RefundSends (amount : Argument) (k : Nat) : Prop := ∀ orderId reason, ∃ sent,
  buildArgs texts "process_partial_refund" [("order_id",orderId),("amount",amount),("reason",reason)] = .ok sent ∧
    argument sent "amount" = .json (.int k)

def CouponSends (value : PyFloat) (k : Nat) : Prop := ∀ params : CouponParams,
  params.type = "fixed_amount" → params.value = value → ∃ sent,
    buildArgs texts "generate_coupon" [("params",.coupon params)] = .ok sent ∧ argument sent "amount_off" = .json (.int k)

-- The response to a successful refund of k cents, whatever else it holds
def RefundReads (k : Nat) : Prop := ∀ fields : List (String × Json), fields.lookup "status" = some (.str "succeeded") →
  fields.lookup "amount" = some (.int k) → ∃ refund, parseStripeRefund texts (.obj fields) = .ok refund ∧
    refund.status = "processed" ∧ refund.amount = .ofRat (k / 100)

def ToTheCent (amount : Argument) (value : ℚ) (k : Nat) : Prop :=
  RefundSends texts amount k ∧ CouponSends texts (.finite value) k ∧ RefundReads texts k

end

-- An amount whose cents the float product by 100 does not leave under k: k is itself a double, and the amount
-- falls short of it by half the distance between the doubles below k at most.
def Reaches (value : ℚ) (k : Nat) : Prop :=
  k = 0 ∨ BinaryRounding.Exact PyFloat.double k ∧ ((k : ℚ) - 2 ^ ((Nat.clog 2 k : Int) - 54)) / 100 ≤ value

theorem truncate_int (n : Int) : PyFloat.truncate n = n := by
  unfold PyFloat.truncate
  split
  · rw [← Int.cast_neg,Int.floor_intCast,neg_neg]
  · exact Int.floor_intCast n

theorem nearest_nonneg {y : ℚ} (nonneg : 0 ≤ y) : 0 ≤ PyFloat.nearest y := by
  have nearest := BinaryRounding.round_nearest PyFloat.double y 0
  rw [Int.cast_zero,zero_mul,zero_sub,abs_neg,abs_of_nonneg nonneg,abs_le] at nearest
  linarith

-- Near 0 both the product and what it is rounded to are cut off to 0.
theorem truncate_zero {y : ℚ} (near : |y| ≤ 1 / 4) : PyFloat.truncate (PyFloat.nearest y) = 0 := by
  have nearest := BinaryRounding.round_nearest PyFloat.double y 0
  rw [Int.cast_zero,zero_mul,zero_sub,abs_neg] at nearest
  obtain ⟨below,above⟩ := abs_le.mp (nearest.trans near)
  obtain ⟨low,high⟩ := abs_le.mp near
  unfold PyFloat.truncate
  split
  · rw [Int.floor_eq_zero_iff.mpr ⟨by linarith,by linarith⟩,neg_zero]
  · next nonneg => exact Int.floor_eq_zero_iff.mpr ⟨not_lt.mp nonneg,by linarith⟩

theorem truncate_near {value : ℚ} {k : Nat} (near : |value - k / 100| ≤ 1 / 10 ^ 9) :
    PyFloat.truncate (PyFloat.nearest (value * 100)) = k ↔ Reaches value k := by
  have close : |value * 100 - k| ≤ 1 / 10 ^ 7 := by
    obtain ⟨below,above⟩ := abs_le.mp near
    rw [abs_le]
    constructor <;> linarith
  unfold Reaches
  rcases Nat.eq_zero_or_pos k with rfl | positive
  · rw [Nat.cast_zero,sub_zero] at close
    exact iff_of_true (truncate_zero (by linarith)) (.inl rfl)
  · have atLeast : (1 : ℚ) ≤ k := by exact_mod_cast positive
    have nonneg := nearest_nonneg (show 0 ≤ value * 100 by have := (abs_le.mp close).1; linarith)
    have floored := BinaryRounding.floor_round (by decide : PyFloat.double.least ≤ -(PyFloat.double.digits : Int)) positive
      (by decide) (show |value * 100 - k| < 1 / 4 by linarith)
    have half : (Nat.clog 2 k : Int) - (PyFloat.double.digits : Int) - 1 = Nat.clog 2 k - 54 := by
      rw [show (PyFloat.double.digits : Int) = 53 from rfl]
      omega
    rw [PyFloat.truncate,if_neg (not_lt.mpr nonneg),or_iff_right (by omega),floored,half,div_le_iff₀ (by norm_num)]

theorem ofRat_toInt {x : ℚ} (fits : PyFloat.tooLarge x = false) :
    (PyFloat.ofRat x).toInt = .ok (PyFloat.truncate (PyFloat.nearest x)) := by
  rw [PyFloat.ofRat_fits fits]
  rfl

theorem ofRat_raises {x : ℚ} (large : PyFloat.tooLarge x = true) : (PyFloat.ofRat x).toInt = .error overflowError := by
  rw [PyFloat.ofRat,large]
  rfl

-- An integer amount is sent as it is. A float is multiplied as a float, and where that is k so is the integer.
theorem cents_of {texts : Texts} {k : Nat} (worth : dollars amount = some value) (near : |value - k / 100| ≤ 1 / 10 ^ 9)
    (fits : PyFloat.tooLarge (value * 100) = false) (reaches : Reaches value k) : cents texts amount = .ok (k : Int) := by
  have rounded := (truncate_near near).mpr reaches
  have whole (n : Int) (same : (n : ℚ) = value) : n * 100 = (k : Int) := by
    obtain ⟨below,above⟩ := abs_le.mp near
    have low : ((k : Int) : ℚ) - 1 < ((n * 100 : Int) : ℚ) := by
      push_cast
      linarith
    have high : ((n * 100 : Int) : ℚ) < ((k : Int) : ℚ) + 1 := by
      push_cast
      linarith
    have low : (k : Int) - 1 < n * 100 := by exact_mod_cast low
    have high : n * 100 < (k : Int) + 1 := by exact_mod_cast high
    omega
  cases amount with
  | json given =>
    cases given with
    | bool b =>
      cases worth
      cases b
      · exact congrArg Except.ok (whole 0 (by simp))
      · exact congrArg Except.ok (whole 1 (by simp))
    | int n =>
      cases worth
      exact congrArg Except.ok (whole n rfl)
    | float x =>
      cases worth
      exact (ofRat_toInt fits).trans (congrArg Except.ok rounded)
    | _ => cases worth
  | float given =>
    cases given with
    | finite x =>
      cases worth
      exact (ofRat_toInt fits).trans (congrArg Except.ok rounded)
    | _ => cases worth
  | _ => cases worth

theorem refund_sends {texts : Texts} {k : Nat} (sent : cents texts amount = .ok (k : Int)) : RefundSends texts amount k := by
  intro orderId reason
  refine ⟨[("payment_intent",orderId),("amount",.json (.int k)),("reason",reason)],?_,rfl⟩
  change (cents texts amount >>= _) = _
  rw [sent]
  rfl

theorem coupon_built (texts : Texts) {params : CouponParams} (fixed : params.type = "fixed_amount") :
    buildArgs texts "generate_coupon" [("params",.coupon params)] =
      ((params.value.mul (.finite 100)).toInt.map fun n => [("percent_off",.json .null),("amount_off",.json (.int n)),
        ("currency",.json (.str "usd")),("duration",.json (.str "once"))]) := by
  obtain ⟨type,value⟩ := params
  cases fixed
  change (((Json.int ·) <$> (value.mul (.finite 100)).toInt) >>= _) = _
  cases (value.mul (.finite 100)).toInt with
  | error e => rfl
  | ok n => rfl

theorem coupon_sends (texts : Texts) (value : ℚ) : CouponSends texts (.finite value) k ↔
    PyFloat.tooLarge (value * 100) = false ∧ PyFloat.truncate (PyFloat.nearest (value * 100)) = k := by
  constructor
  · intro sends
    obtain ⟨sent,given,same⟩ := sends {type := "fixed_amount",value := .finite value} rfl rfl
    rw [coupon_built texts rfl] at given
    change (PyFloat.ofRat (value * 100)).toInt.map _ = _ at given
    cases fits : PyFloat.tooLarge (value * 100) with
    | true => rw [ofRat_raises fits] at given; cases given
    | false =>
      rw [ofRat_toInt fits] at given
      cases given
      exact ⟨rfl,Json.int.inj (Argument.json.inj same)⟩
  · rintro ⟨fits,same⟩ params fixed worth
    have sent : (params.value.mul (.finite 100)).toInt = .ok (k : Int) := by
      rw [worth,← same]
      exact ofRat_toInt fits
    rw [coupon_built texts fixed,sent]
    exact ⟨_,rfl,rfl⟩

theorem refund_reads (texts : Texts) {value : ℚ} {k : Nat} (near : |value - k / 100| ≤ 1 / 10 ^ 9)
    (fits : PyFloat.tooLarge (value * 100) = false) : RefundReads texts k := by
  obtain ⟨limit,wide,large⟩ : ∃ limit : ℚ, 1 ≤ limit ∧ ∀ x : ℚ, PyFloat.tooLarge x = decide (limit ≤ |x|) :=
    ⟨2 ^ 1024 - 2 ^ 970,by decide +kernel,fun _ => rfl⟩
  have small : PyFloat.tooLarge ((k : Int) / 100 : ℚ) = false := by
    obtain ⟨below,_⟩ := abs_le.mp near
    rw [large,decide_eq_false_iff_not,not_le] at fits ⊢
    have bounded := (abs_lt.mp fits).2
    have nonneg : (0 : ℚ) ≤ k := Nat.cast_nonneg k
    rw [Int.cast_natCast,abs_of_nonneg (by linarith)]
    linarith
  intro fields succeeded amounts
  have rawStatus : (Json.obj fields).get "status" (.str "") = .ok (.str "succeeded") := by
    rw [Json.get,succeeded]
    rfl
  have amount : (Json.obj fields).get "amount" (.int 0) = .ok (.int k) := by
    rw [Json.get,amounts]
    rfl
  have share : (Json.int k).hundredth = .ok (.ofRat (k / 100)) := by
    rw [Json.hundredth,small]
    exact congrArg Except.ok (PyFloat.ofRat_fits small).symm
  have parsed : parseStripeRefund texts (.obj fields) = .ok {
      refundId := texts.str (.json ((fields.lookup "id").getD (.str ""))),
      orderId := texts.str (.json ((fields.lookup "payment_intent").getD (.str ""))),
      amount := .ofRat (k / 100), status := "processed", method := "original_payment"} := by
    unfold parseStripeRefund
    rw [rawStatus,amount]
    simp only [share,text,Json.get,bind,Except.bind,pure,Except.pure]
    rfl
  exact ⟨_,parsed,rfl,rfl⟩

theorem cents_exact (texts : Texts) (amount : Argument) (value : ℚ) (k : Nat) (worth : dollars amount = some value)
    (near : |value - k / 100| ≤ 1 / 10 ^ 9) : ToTheCent texts amount value k ↔
      Reaches value k ∧ PyFloat.tooLarge (value * 100) = false := by
  constructor
  · rintro ⟨_,coupon,_⟩
    obtain ⟨fits,same⟩ := (coupon_sends texts value).mp coupon
    exact ⟨(truncate_near near).mp same,fits⟩
  · rintro ⟨reaches,fits⟩
    exact ⟨refund_sends (cents_of worth near fits reaches),
      (coupon_sends texts value).mpr ⟨fits,(truncate_near near).mpr reaches⟩,refund_reads texts near fits⟩

-- The double of 0.06 lies below it, and its product by 100 is rounded up to 6.
theorem cents_exact_six : ToTheCent plainTexts (.json (.float (1080863910568919 / 2 ^ 54))) (1080863910568919 / 2 ^ 54) 6 :=
  (cents_exact plainTexts _ _ 6 rfl (by norm_num [abs_le])).mpr ⟨.inr ⟨by decide +kernel,by
    rw [show Nat.clog 2 6 = 3 by decide]
    norm_num⟩,by decide +kernel⟩

-- The double of 0.29 lies below it too, and its product by 100 stays below 29.
def twentyNine : ℚ := 5224175567749775 / 2 ^ 54

theorem cents_short : |twentyNine - (29 : Nat) / 100| ≤ 1 / 10 ^ 9 ∧
    ¬ ToTheCent plainTexts (.json (.float twentyNine)) twentyNine 29 ∧
      RefundSends plainTexts (.json (.float twentyNine)) 28 := by
  have fits : PyFloat.tooLarge (twentyNine * 100) = false := by decide +kernel
  have short : PyFloat.truncate (PyFloat.nearest (twentyNine * 100)) = 28 := by decide +kernel
  refine ⟨by norm_num [twentyNine,abs_le],?_,refund_sends ((ofRat_toInt fits).trans (congrArg Except.ok short))⟩
  rintro ⟨_,coupon,_⟩
  obtain ⟨_,same⟩ := (coupon_sends plainTexts twentyNine).mp coupon
  rw [short] at same
  cases same

end Sophia.StripeCents
