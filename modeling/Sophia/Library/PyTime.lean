import Sophia.Library.PyText

namespace Sophia

-- A datetime up to ==, in microseconds: without a time zone its wall clock, with one the instant it names
inductive Moment where
  | naive (wall : Int)
  | aware (instant : Int)
  deriving DecidableEq, Repr

namespace Moment

def isNaive : Moment → Bool
  | .naive _ => true
  | .aware _ => false

def micros : Moment → Int
  | .naive wall => wall
  | .aware instant => instant

end Moment

-- datetime.fromisoformat, which raises ValueError where this is none
structure Calendar where
  fromisoformat : String → Option Moment

def epoch : Moment := .naive 0

-- fromisoformat(text.replace("Z", "+00:00"))
def Calendar.parse (calendar : Calendar) (text : String) : Option Moment :=
  calendar.fromisoformat (PyText.replaceChar 'Z' "+00:00" text)

end Sophia
