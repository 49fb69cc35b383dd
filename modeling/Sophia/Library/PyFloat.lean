import Sophia.Library.PyValue
import Sophia.Library.PyText
import Sophia.Library.BinaryRounding

namespace Sophia

-- A float. A finite one is given by its value, and there is one zero.
inductive PyFloat where
  | finite (value : ℚ)
  | infinite (negative : Bool)
  | nan
  deriving DecidableEq

def overflowError : PyError := .raised "OverflowError"

namespace PyFloat

-- The significand of a double and its least exponent
def double : BinaryRounding.Format := ⟨53,-1074⟩

abbrev nearest (x : ℚ) : ℚ := BinaryRounding.round double x

-- From here on a number rounds to no finite double.
def tooLarge (x : ℚ) : Bool := 2^1024 - 2^970 ≤ |x|

-- The double of a number: of a literal, and of the exact result of an operation
def ofRat (x : ℚ) : PyFloat := if tooLarge x then .infinite (x < 0) else .finite (nearest x)

-- float(n) of an integer
def ofInt (n : Int) : Except PyError PyFloat := if tooLarge n then .error overflowError else .ok (.finite (nearest n))

def rounded : PyFloat → PyFloat
  | .finite x => ofRat x
  | x => x

def mul : PyFloat → PyFloat → PyFloat
  | .finite x,.finite y => ofRat (x * y)
  | .infinite negative,.finite y => if y = 0 then .nan else .infinite (negative != (y < 0))
  | .finite x,.infinite negative => if x = 0 then .nan else .infinite (negative != (x < 0))
  | .infinite a,.infinite b => .infinite (a != b)
  | _,_ => .nan

-- The sum as a number, before it is rounded
def plus : PyFloat → PyFloat → PyFloat
  | .finite x,.finite y => .finite (x + y)
  | .infinite a,.infinite b => if a = b then .infinite a else .nan
  | .infinite a,.finite _ => .infinite a
  | .finite _,.infinite b => .infinite b
  | _,_ => .nan

def add (x y : PyFloat) : PyFloat := (x.plus y).rounded

-- x < y and x <= y; with NaN neither holds.
def less : PyFloat → PyFloat → Bool
  | .finite x,.finite y => x < y
  | .infinite a,.infinite b => a && !b
  | .infinite a,.finite _ => a
  | .finite _,.infinite b => !b
  | _,_ => false

def atMost : PyFloat → PyFloat → Bool
  | .nan,_ => false
  | _,.nan => false
  | x,y => !less y x

def neg : PyFloat → PyFloat
  | .finite x => .finite (-x)
  | .infinite negative => .infinite !negative
  | .nan => .nan

-- x or 0.0
def orZero : Option PyFloat → PyFloat
  | some x => x
  | none => .finite 0

def abs : PyFloat → PyFloat
  | .finite x => .finite |x|
  | .infinite _ => .infinite false
  | .nan => .nan

def isFinite : PyFloat → Bool
  | .finite _ => true
  | _ => false

-- sum() adds one by one up to Python 3.11. From 3.12 on it keeps what the additions lose.
inductive Summation where
  | plain
  | compensated

structure Compensated where
  total : PyFloat
  lost : PyFloat := .finite 0

def Compensated.add (so : Compensated) (x : PyFloat) : Compensated :=
  let t := so.total.add x
  let error := if x.abs.atMost so.total.abs then (so.total.add t.neg).add x else (x.add t.neg).add so.total
  ⟨t,so.lost.add error⟩

def Compensated.result (so : Compensated) : PyFloat :=
  if so.lost.isFinite && so.lost != .finite 0 then so.total.add so.lost else so.total

-- sum(values), which starts from the integer 0
def sum (summation : Summation) (values : List PyFloat) : PyFloat :=
  match summation,values with
  | .plain,values => values.foldl add (.finite 0)
  | .compensated,[] => .finite 0
  | .compensated,first :: rest => (rest.foldl Compensated.add ⟨(finite 0).add first,.finite 0⟩).result

-- Both ways the double of 1.23, which is more than three times the double of 0.41
example (summation : Summation) : sum summation (List.replicate 3 (ofRat (41/100))) = ofRat (123/100) := by
  cases summation <;> decide +kernel

-- What the values sum up to as numbers
def total (values : List PyFloat) : PyFloat := values.foldl plus (.finite 0)

def truncate (x : ℚ) : Int := if x < 0 then -(⌊-x⌋) else ⌊x⌋

-- int(x)
def toInt : PyFloat → Except PyError Int
  | .finite x => .ok (truncate x)
  | .infinite _ => .error overflowError
  | .nan => .error .valueError

-- format(x, '.2f'); an integer goes through float.
def money : PyFloat → Except PyError String
  | .finite x => if tooLarge x then .error overflowError else .ok (PyText.fixed 2 (nearest x))
  | .infinite negative => .ok (if negative then "-inf" else "inf")
  | .nan => .ok "nan"

-- What is no overflow is none after it is rounded.
theorem nearest_fits {x : ℚ} (fits : tooLarge x = false) : tooLarge (nearest x) = false := by
  have top : (2 : ℚ) ^ (1024 : Int) = 2 ^ 1024 := zpow_natCast 2 1024
  have step : (2 : ℚ) ^ ((1024 : Int) - (double.digits : Int)) = 2 * 2 ^ 970 :=
    (show (1024 : Int) - (double.digits : Int) = ((971 : Nat) : Int) from rfl) ▸ (zpow_natCast 2 971).trans (pow_succ' 2 970)
  have positive : (0 : ℚ) < 2 ^ 970 := pow_pos (by norm_num) _
  unfold tooLarge at fits ⊢
  rw [decide_eq_false_iff_not,not_le] at fits ⊢
  generalize (2 : ℚ) ^ 970 = half at *
  generalize (2 : ℚ) ^ 1024 = whole at *
  have under : |nearest x| ≤ _ := BinaryRounding.round_under (e := 1024) (by decide) (by decide) (by
    rw [top,step]
    linarith)
  rw [top,step] at under
  linarith

theorem ofRat_fits {x : ℚ} (fits : tooLarge x = false) : ofRat x = .finite (nearest x) := by
  rw [ofRat,if_neg (by simp [fits])]

theorem money_small {x : ℚ} (small : tooLarge x = false) : (finite x).money = .ok (PyText.fixed 2 (nearest x)) := by
  simp [money,small]

theorem money_large {x : ℚ} (large : tooLarge x = true) : (finite x).money = .error overflowError := by
  simp [money,large]

end PyFloat

namespace Json

def ofBool (value : Bool) : Int := if value then 1 else 0

-- float(value)
def toFloat (parse : String → Option PyFloat) : Json → Except PyError PyFloat
  | .bool value => .ok (.finite (ofBool value))
  | .int value => PyFloat.ofInt value
  | .float value => .ok (.finite value)
  | .str text => match parse text with
    | some x => .ok x
    | none => .error .valueError
  | _ => .error .typeError

-- int(value)
def toInt (parse : String → Option Int) : Json → Except PyError Int
  | .bool value => .ok (ofBool value)
  | .int value => .ok value
  | .float value => .ok (PyFloat.truncate value)
  | .str text => match parse text with
    | some n => .ok n
    | none => .error .valueError
  | _ => .error .typeError

-- x * value of a float x
def scale (x : PyFloat) : Json → Except PyError PyFloat
  | .bool value => .ok (x.mul (.finite (ofBool value)))
  | .int value => do return x.mul (← PyFloat.ofInt value)
  | .float value => .ok (x.mul (.finite value))
  | _ => .error .typeError

-- value / 100. The quotient of an integer is rounded once.
def hundredth : Json → Except PyError PyFloat
  | .bool value => .ok (.finite (PyFloat.nearest (ofBool value / 100)))
  | .int value =>
    if PyFloat.tooLarge (value / 100) then .error overflowError else .ok (.finite (PyFloat.nearest (value / 100)))
  | .float value => .ok (.finite (PyFloat.nearest (value / 100)))
  | _ => .error .typeError

-- value > 0
def positive (value : Json) : Except PyError Bool :=
  match value.number? with
  | some x => .ok (0 < x)
  | none => .error .typeError

-- value[0]
def first : Json → Except PyError Json
  | .arr [] => .error (.raised "IndexError")
  | .arr (item :: _) => .ok item
  | .str text => match text.toList with
    | [] => .error (.raised "IndexError")
    | c :: _ => .ok (.str (String.ofList [c]))
  | .obj _ => .error .keyError
  | _ => .error .typeError

-- value is None
def isNull : Json → Bool
  | .null => true
  | _ => false

-- value or other
def orElse (value other : Json) : Json := if value.truthy then value else other

end Json
end Sophia
