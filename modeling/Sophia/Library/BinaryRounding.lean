import Mathlib.Algebra.Order.Floor.Ring
import Mathlib.Data.Int.Log
import Mathlib.Data.Rat.Floor
import Mathlib.Tactic.FieldSimp
import Mathlib.Tactic.Linarith
import Mathlib.Tactic.NormNum
import Mathlib.Tactic.Ring

namespace BinaryRounding

-- To the nearest integer, and to the even one from the middle between two
def halfEven (y : ℚ) : Int :=
  if y - ⌊y⌋ < 1 / 2 then ⌊y⌋
  else if 1 / 2 < y - ⌊y⌋ then ⌊y⌋ + 1
  else ⌊y⌋ + ⌊y⌋ % 2

-- A binary format: how many digits a significand has, and the exponent of the least distance
structure Format where
  digits : Nat
  least : Int

-- The distance between the numbers of the format around x
def quantum (format : Format) (x : ℚ) : ℚ := 2 ^ max (Int.log 2 |x| + 1 - format.digits) format.least

-- The format has no greatest number here.
def round (format : Format) (x : ℚ) : ℚ := halfEven (x / quantum format x) * quantum format x

-- A number of the format
def Exact (format : Format) (x : ℚ) : Prop := round format x = x

instance (format : Format) (x : ℚ) : Decidable (Exact format x) := decEq _ _

section
variable {format : Format} {x y : ℚ} {n : Int}

theorem halfEven_near (y : ℚ) : |(halfEven y : ℚ) - y| ≤ 1 / 2 := by
  have low := Int.floor_le y
  have high := Int.lt_floor_add_one y
  unfold halfEven
  split
  · next below => rw [abs_le]; constructor <;> linarith
  · next notBelow =>
    split
    · next above =>
      push_cast
      rw [abs_le]
      constructor <;> linarith
    · next notAbove =>
      rcases Int.emod_two_eq ⌊y⌋ with even | odd
      · rw [even,abs_le]
        push_cast
        constructor <;> linarith
      · rw [odd,abs_le]
        push_cast
        constructor <;> linarith

-- No integer is nearer.
theorem halfEven_nearest (y : ℚ) (n : Int) : |(halfEven y : ℚ) - y| ≤ |(n : ℚ) - y| := by
  by_cases same : halfEven y = n
  · rw [same]
  have apart : (1 : ℚ) ≤ |(halfEven y : ℚ) - n| := by
    have distinct : 0 < |halfEven y - n| := abs_pos.mpr (sub_ne_zero.mpr same)
    exact_mod_cast (show (1 : Int) ≤ |halfEven y - n| by omega)
  have path := abs_sub_le (halfEven y : ℚ) y n
  rw [abs_sub_comm y] at path
  have near := halfEven_near y
  linarith

theorem halfEven_reaches (below : y < n) : halfEven y = n ↔ (n : ℚ) - 1 / 2 < y ∨ (y = n - 1 / 2 ∧ n % 2 = 0) := by
  constructor
  · intro reached
    have near := (abs_le.mp (halfEven_near y)).2
    rw [reached] at near
    rcases lt_or_eq_of_le (show (n : ℚ) - 1 / 2 ≤ y by linarith) with above | tie
    · exact .inl above
    · refine .inr ⟨tie.symm,?_⟩
      have floored : ⌊y⌋ = n - 1 := by
        rw [Int.floor_eq_iff]
        push_cast
        constructor <;> linarith
      unfold halfEven at reached
      rw [floored] at reached
      push_cast at reached
      rw [if_neg (by linarith),if_neg (by linarith)] at reached
      omega
  · intro close
    have floored : ⌊y⌋ = n - 1 := by
      rw [Int.floor_eq_iff]
      push_cast
      rcases close with above | ⟨tie,_⟩ <;> constructor <;> linarith
    unfold halfEven
    rw [floored]
    push_cast
    rcases close with above | ⟨tie,even⟩
    · rw [if_neg (by linarith),if_pos (by linarith)]
      omega
    · rw [if_neg (by linarith),if_neg (by linarith)]
      omega

theorem halfEven_under (below : |y| < (n : ℚ) - 1 / 2) : |(halfEven y : ℚ)| ≤ n - 1 := by
  have near := abs_le.mp (halfEven_near y)
  have bounds := abs_lt.mp below
  have strict : |(halfEven y : ℚ)| < n := by
    rw [abs_lt]
    constructor <;> linarith
  have strict : |halfEven y| < n := by exact_mod_cast strict
  exact_mod_cast Int.le_sub_one_of_lt strict

theorem quantum_positive (format : Format) (x : ℚ) : 0 < quantum format x := zpow_pos (by norm_num) _

theorem round_near (format : Format) (x : ℚ) : |round format x - x| ≤ quantum format x / 2 := by
  have positive := quantum_positive format x
  have near := mul_le_mul_of_nonneg_right (halfEven_near (x / quantum format x)) positive.le
  rw [← abs_of_pos positive,← abs_mul,abs_of_pos positive,sub_mul,div_mul_cancel₀ _ positive.ne'] at near
  unfold round
  linarith

-- No multiple of the distance is nearer.
theorem round_nearest (format : Format) (x : ℚ) (n : Int) :
    |round format x - x| ≤ |n * quantum format x - x| := by
  have positive := quantum_positive format x
  have nearest := mul_le_mul_of_nonneg_right (halfEven_nearest (x / quantum format x) n) positive.le
  rwa [← abs_of_pos positive,← abs_mul,← abs_mul,abs_of_pos positive,sub_mul,sub_mul,
    div_mul_cancel₀ _ positive.ne'] at nearest

theorem round_reaches (below : x < n * quantum format x) : round format x = n * quantum format x ↔
    (n : ℚ) * quantum format x - quantum format x / 2 < x ∨ (x = n * quantum format x - quantum format x / 2 ∧ n % 2 = 0) := by
  have positive := quantum_positive format x
  unfold round
  rw [mul_left_inj' positive.ne',Int.cast_inj,halfEven_reaches ((div_lt_iff₀ positive).mpr below),lt_div_iff₀ positive,
    div_eq_iff positive.ne',sub_mul,one_div_mul_eq_div]

theorem round_multiple (multiple : x = n * quantum format x) : round format x = x := by
  have nearest := round_nearest format x n
  rw [← multiple,sub_self,abs_zero] at nearest
  exact sub_eq_zero.mp (abs_nonpos_iff.mp nearest)

@[simp] theorem round_zero (format : Format) : round format 0 = 0 := round_multiple (n := 0) (by simp)

theorem log_between {e : Int} (low : (2 : ℚ) ^ e ≤ y) (high : y < 2 ^ (e + 1)) : Int.log 2 |y| = e := by
  have positive : 0 < y := lt_of_lt_of_le (zpow_pos (by norm_num) e) low
  rw [abs_of_pos positive]
  have least := (Int.zpow_le_iff_le_log (b := 2) (x := e) (by norm_num) positive).mp (by exact_mod_cast low)
  have most := (Int.lt_zpow_iff_log_lt (b := 2) (x := e + 1) (by norm_num) positive).mp (by exact_mod_cast high)
  omega

theorem quantum_eq (logged : Int.log 2 |x| + 1 = n) : quantum format x = 2 ^ max (n - format.digits) format.least := by
  rw [quantum,logged]

theorem quantum_le (below : |x| < 2 ^ n) (nonzero : x ≠ 0) (least : format.least ≤ n - format.digits) :
    quantum format x ≤ 2 ^ (n - format.digits) := by
  have logged : Int.log 2 |x| < n := (Int.lt_zpow_iff_log_lt (by norm_num) (abs_pos.mpr nonzero)).mp (by exact_mod_cast below)
  exact zpow_le_zpow_right₀ (by norm_num) (by omega)

-- Below the middle between the last number under 2 ^ e and 2 ^ e itself, nothing rounds up to it.
theorem round_under {e : Int} (two : 2 ≤ format.digits) (least : format.least < e - format.digits)
    (below : |x| < 2 ^ e - 2 ^ (e - format.digits) / 2) : |round format x| ≤ 2 ^ e - 2 ^ (e - format.digits) := by
  obtain ⟨q,positive,last⟩ : ∃ q : ℚ, 0 < q ∧ (2 : ℚ) ^ (e - (format.digits : Int)) = q := ⟨_,zpow_pos (by norm_num) _,rfl⟩
  have whole : (2 : ℚ) ^ e = 2 ^ format.digits * q := by
    rw [← last,← zpow_natCast,← zpow_add₀ (by norm_num)]
    congr 1
    omega
  have four : (4 : ℚ) ≤ 2 ^ format.digits := by
    calc (4 : ℚ) = 2 ^ 2 := by norm_num
      _ ≤ 2 ^ format.digits := pow_le_pow_right₀ (by norm_num) two
  have room : 4 * q ≤ 2 ^ format.digits * q := mul_le_mul_of_nonneg_right four positive.le
  rw [last,whole] at below ⊢
  by_cases zero : x = 0
  · rw [zero,round_zero,abs_zero]
    linarith
  by_cases small : |x| < 2 ^ (e - 1)
  · have fine : quantum format x ≤ _ := quantum_le small zero (by omega)
    have half : (2 : ℚ) ^ (e - 1 - (format.digits : Int)) = q / 2 := by
      rw [← last,show e - 1 - (format.digits : Int) = e - format.digits - 1 by omega,zpow_sub_one₀ (by norm_num)]
      ring
    have middle : (2 : ℚ) ^ (e - 1) = 2 ^ format.digits * q / 2 := by
      rw [← whole,zpow_sub_one₀ (by norm_num)]
      ring
    have near := abs_le.mp (round_near format x)
    have bounds := abs_lt.mp (middle ▸ small)
    rw [abs_le]
    constructor <;> linarith
  · have upper : |x| < 2 ^ (e - 1 + 1) := by
      rw [Int.sub_add_cancel,whole]
      linarith
    have logged := log_between (not_lt.mp small) upper
    rw [abs_abs] at logged
    have distance : quantum format x = q := by rw [quantum_eq (n := e) (by omega),max_eq_left least.le,last]
    have scaled : |x / q| < ((2 ^ format.digits : Int) : ℚ) - 1 / 2 := by
      push_cast
      rw [abs_div,abs_of_pos positive,div_lt_iff₀ positive]
      linarith
    have most := halfEven_under scaled
    push_cast at most
    rw [round,distance,abs_mul,abs_of_pos positive]
    calc |(halfEven (x / q) : ℚ)| * q ≤ (2 ^ format.digits - 1) * q := mul_le_mul_of_nonneg_right most positive.le
      _ = 2 ^ format.digits * q - q := by ring

-- The whole part of a rounded number is a multiple of the distance around it.
theorem floor_multiple (format : Format) (x : ℚ) : ∃ n : Int, (⌊round format x⌋ : ℚ) = n * quantum format x := by
  unfold round quantum
  generalize halfEven _ = m
  generalize max (Int.log 2 |x| + 1 - (format.digits : Int)) format.least = e
  rcases Int.le_total 0 e with large | small
  · obtain ⟨j,rfl⟩ := Int.eq_ofNat_of_zero_le large
    refine ⟨m,?_⟩
    rw [zpow_natCast,show (m : ℚ) * 2 ^ j = ((m * 2 ^ j : Int) : ℚ) by push_cast; rfl,Int.floor_intCast]
  · obtain ⟨j,same⟩ := Int.eq_ofNat_of_zero_le (Int.neg_nonneg_of_nonpos small)
    refine ⟨⌊(m : ℚ) * 2 ^ e⌋ * 2 ^ j,?_⟩
    rw [show e = -(j : Int) by omega,zpow_neg,zpow_natCast]
    push_cast
    rw [mul_assoc,mul_inv_cancel₀ (pow_ne_zero j (by norm_num)),mul_one]

end

section
variable {format : Format} {y : ℚ} {k : Nat}

-- A number just above a natural number lies between the same powers, one just below it between those it does not exceed.
theorem log_above (some : 1 ≤ k) (low : (k : ℚ) ≤ y) (high : y < k + 1) : Int.log 2 |y| = Nat.log 2 k := by
  have least : ((2 ^ Nat.log 2 k : Nat) : ℚ) ≤ k := Nat.cast_le.mpr (Nat.pow_log_le_self 2 (by omega))
  have most : ((k + 1 : Nat) : ℚ) ≤ ((2 ^ (Nat.log 2 k + 1) : Nat) : ℚ) :=
    Nat.cast_le.mpr (Nat.lt_pow_succ_log_self (by decide) k)
  push_cast at least most
  refine log_between ?_ ?_
  · rw [zpow_natCast]
    linarith
  · rw [show (Nat.log 2 k : Int) + 1 = ((Nat.log 2 k + 1 : Nat) : Int) by push_cast; rfl,zpow_natCast]
    linarith

theorem log_below (some : 1 ≤ k) (low : (k : ℚ) - 1 / 2 ≤ y) (high : y < k) : Int.log 2 |y| = Nat.clog 2 k - 1 := by
  have most : (k : ℚ) ≤ 2 ^ Nat.clog 2 k := by exact_mod_cast Nat.le_pow_clog (by decide) k
  refine log_between ?_ ?_
  · rcases Nat.lt_or_ge 1 k with large | one
    · have least : ((2 ^ (Nat.clog 2 k - 1) + 1 : Nat) : ℚ) ≤ k := Nat.cast_le.mpr (Nat.pow_pred_clog_lt_self (by decide) large)
      have grown : 0 < Nat.clog 2 k := Nat.clog_pos (by decide) large
      rw [show (Nat.clog 2 k : Int) - 1 = ((Nat.clog 2 k - 1 : Nat) : Int) by omega,zpow_natCast]
      push_cast at least
      linarith
    · obtain rfl : k = 1 := by omega
      norm_num at low ⊢
      linarith
  · rw [Int.sub_add_cancel,zpow_natCast]
    linarith

theorem quantum_above (some : 1 ≤ k) (low : (k : ℚ) ≤ y) (high : y < k + 1) : quantum format y = quantum format k := by
  rw [quantum,quantum,log_above some low high,log_above some (le_refl _) (by linarith)]

-- Where the distance is less than a half, a natural number is an even multiple of it.
theorem even_multiple {e m : Int} (small : (2 : ℚ) ^ e < 1 / 2) (multiple : (k : ℚ) = m * 2 ^ e) : m % 2 = 0 := by
  have small : (2 : ℚ) ^ e < 2 ^ (-1 : Int) := small.trans_eq (by norm_num)
  have room : e < -1 := (zpow_lt_zpow_iff_right₀ (by norm_num)).mp small
  obtain ⟨j,rfl⟩ : ∃ j : Nat, e = -((j + 2 : Nat) : Int) := ⟨(-e - 2).toNat,by omega⟩
  have value : (m : ℚ) = k * 2 ^ (j + 2) := by
    rw [multiple,zpow_neg,zpow_natCast,inv_mul_cancel_right₀ (pow_ne_zero _ (by norm_num))]
  have whole : m = k * 2 ^ j * 2 * 2 := by
    have value : m = k * 2 ^ (j + 2) := by exact_mod_cast value
    rw [value,pow_succ,pow_succ,mul_assoc,mul_assoc,mul_assoc]
  omega

-- In a format whose integers are not the least of its numbers
section
variable (fine : format.least ≤ -format.digits)
include fine

theorem quantum_natural (some : 1 ≤ k) : quantum format (k : ℚ) = 2 ^ ((Nat.log 2 k : Int) + 1 - format.digits) := by
  rw [quantum,log_above some (le_refl _) (by linarith),max_eq_left (by omega)]

theorem quantum_below (some : 1 ≤ k) (low : (k : ℚ) - 1 / 2 ≤ y) (high : y < k) :
    quantum format y = 2 ^ ((Nat.clog 2 k : Int) - format.digits) := by
  rw [quantum,log_below some low high,max_eq_left (by omega)]
  congr 1
  omega

theorem exact_power (some : 1 ≤ k) (digits : 1 ≤ format.digits) (power : k = 2 ^ Nat.log 2 k) : Exact format k := by
  refine round_multiple (n := 2 ^ (format.digits - 1)) ?_
  rw [quantum_natural fine some]
  push_cast
  rw [← zpow_natCast,← zpow_add₀ (by norm_num)]
  refine (congrArg Nat.cast power).trans ?_
  push_cast
  rw [← zpow_natCast]
  congr 1
  omega

-- A natural number is one of the format when the distance around it divides it, on either side.
theorem exact_natural (some : 1 ≤ k) (digits : 1 ≤ format.digits) (low : (k : ℚ) - 1 / 2 ≤ y) (high : y < k + 1) :
    Exact format k ↔ ∃ m : Int, (k : ℚ) = m * quantum format y := by
  rcases le_or_gt (k : ℚ) y with above | below
  · rw [quantum_above some above high]
    exact ⟨fun exact => ⟨_,exact.symm⟩,fun ⟨m,multiple⟩ => round_multiple multiple⟩
  · have logs : Nat.log 2 k ≤ Nat.clog 2 k ∧ Nat.clog 2 k ≤ Nat.log 2 k + 1 := by
      refine ⟨Nat.log_le_clog 2 k,(Nat.clog_le_iff_le_pow (by decide)).mpr ?_⟩
      exact (Nat.lt_pow_succ_log_self (by decide) k).le
    rw [quantum_below fine some low below]
    constructor
    · intro exact
      refine ⟨halfEven (k / quantum format k) * 2 ^ (Nat.log 2 k + 1 - Nat.clog 2 k),?_⟩
      have split : quantum format (k : ℚ) =
          2 ^ (Nat.log 2 k + 1 - Nat.clog 2 k) * 2 ^ ((Nat.clog 2 k : Int) - format.digits) := by
        rw [quantum_natural fine some,← zpow_natCast,← zpow_add₀ (by norm_num)]
        congr 1
        omega
      have value : (halfEven (k / quantum format k) : ℚ) * quantum format k = k := exact
      calc (k : ℚ) = halfEven (k / quantum format k) * quantum format k := value.symm
        _ = halfEven (k / quantum format k) *
            (2 ^ (Nat.log 2 k + 1 - Nat.clog 2 k) * 2 ^ ((Nat.clog 2 k : Int) - format.digits)) := congrArg _ split
        _ = _ := by push_cast; ring
    · rintro ⟨m,multiple⟩
      by_cases grown : Nat.clog 2 k = Nat.log 2 k + 1
      · refine round_multiple (n := m) (multiple.trans ?_)
        rw [quantum_natural fine some,grown]
        push_cast
        rfl
      · have power : k = 2 ^ Nat.log 2 k := by
          have most := Nat.le_pow_clog (by decide : 1 < 2) k
          rw [show Nat.clog 2 k = Nat.log 2 k by omega] at most
          exact le_antisymm most (Nat.pow_log_le_self 2 (by omega))
        exact exact_power fine some digits power

-- A number close to a natural one is rounded to that or to one above it unless it lies over half a distance below.
-- In the middle itself the multiple is even: the distance is less than a half there.
theorem floor_round (some : 1 ≤ k) (digits : 1 ≤ format.digits) (near : |y - k| < 1 / 4) :
    ⌊round format y⌋ = k ↔ Exact format k ∧ (k : ℚ) - 2 ^ ((Nat.clog 2 k : Int) - format.digits - 1) ≤ y := by
  obtain ⟨low,high⟩ := abs_lt.mp near
  have exact := exact_natural fine some digits (show (k : ℚ) - 1 / 2 ≤ y by linarith) (by linarith)
  have half : (2 : ℚ) ^ ((Nat.clog 2 k : Int) - format.digits - 1) = 2 ^ ((Nat.clog 2 k : Int) - format.digits) / 2 :=
    zpow_sub_one₀ (by norm_num) _
  have positive : (0 : ℚ) < 2 ^ ((Nat.clog 2 k : Int) - format.digits) := zpow_pos (by norm_num) _
  rw [exact,half,Int.floor_eq_iff]
  push_cast
  constructor
  · rintro ⟨least,most⟩
    obtain ⟨m,whole⟩ := floor_multiple format y
    rw [Int.floor_eq_iff.mpr ⟨by exact_mod_cast least,by exact_mod_cast most⟩] at whole
    refine ⟨⟨m,by exact_mod_cast whole⟩,?_⟩
    rcases le_or_gt (k : ℚ) y with above | below
    · linarith
    · have multiple : (k : ℚ) = m * quantum format y := by exact_mod_cast whole
      have reached : round format y = m * quantum format y := by
        have nearest := round_nearest format y m
        rw [← multiple,abs_of_pos (sub_pos.mpr below)] at nearest
        have upper := (abs_le.mp nearest).2
        linarith
      have close := (round_reaches (multiple ▸ below)).mp reached
      rw [← multiple,quantum_below fine some (by linarith) below] at close
      rcases close with above | ⟨tie,_⟩ <;> linarith
  · rintro ⟨⟨m,multiple⟩,close⟩
    have nearest := round_nearest format y m
    rw [← multiple] at nearest
    rcases le_or_gt (k : ℚ) y with above | below
    · rw [abs_sub_comm (k : ℚ) y,abs_of_nonneg (sub_nonneg.mpr above),abs_le] at nearest
      constructor <;> linarith
    · have reached : round format y = k := by
        have distance := quantum_below fine some (show (k : ℚ) - 1 / 2 ≤ y by linarith) below
        rw [multiple]
        refine (round_reaches (multiple ▸ below)).mpr ?_
        rw [← multiple,distance]
        rcases lt_or_eq_of_le close with above | tie
        · exact .inl above
        · exact .inr ⟨tie.symm,even_multiple (by linarith) (distance ▸ multiple)⟩
      rw [reached]
      constructor <;> linarith

end

end

end BinaryRounding
