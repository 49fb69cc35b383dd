import Mathlib.Data.List.Infix
import Mathlib.Data.Rat.Floor

namespace Sophia.PyText

-- str.isspace: the characters that strip() and split() without arguments cut at.
def isSpace (c : Char) : Bool :=
  (9 ≤ c.toNat && c.toNat ≤ 13) || (28 ≤ c.toNat && c.toNat ≤ 32) || c.toNat = 133 || c.toNat = 160 ||
  c.toNat = 5760 || (8192 ≤ c.toNat && c.toNat ≤ 8202) || c.toNat = 8232 || c.toNat = 8233 ||
  c.toNat = 8239 || c.toNat = 8287 || c.toNat = 12288

def strip (s : String) : String :=
  String.ofList (((s.toList.dropWhile isSpace).reverse.dropWhile isSpace).reverse)

-- str.split(): the maximal runs of characters that are not spaces.
def splitChars : List Char → List (List Char)
  | [] => [[]]
  | c :: rest => match splitChars rest with
    | [] => [[c]]
    | word :: words => if isSpace c then [] :: word :: words else (c :: word) :: words

def splitWords (s : String) : List String :=
  ((splitChars s.toList).filter (!·.isEmpty)).map String.ofList

-- needle in text, for two strings
def hasSubstring (needle text : String) : Bool := decide (List.IsInfix needle.toList text.toList)

def roundHalfEven (x : ℚ) : Int :=
  if x - x.floor < 1/2 then x.floor
  else if 1/2 < x - x.floor then x.floor + 1
  else if x.floor % 2 = 0 then x.floor else x.floor + 1

-- format(x, '.<digits>f') on the exact value
def fixed (digits : Nat) (x : ℚ) : String :=
  let scaled := (roundHalfEven (|x| * 10^digits)).toNat
  let fraction := toString (scaled % 10^digits)
  (if x < 0 then "-" else "") ++ toString (scaled / 10^digits) ++
    (if digits = 0 then "" else "." ++ String.ofList (List.replicate (digits - fraction.length) '0') ++ fraction)

def percent (x : ℚ) : String := fixed 0 (x * 100) ++ "%"

def join (separator : String) : List String → String
  | [] => ""
  | [part] => part
  | part :: rest => part ++ separator ++ join separator rest

-- text.replace(old, new) for one character
def replaceChar (old : Char) (new text : String) : String :=
  String.ofList (text.toList.flatMap fun c => if c = old then new.toList else [c])

-- text.replace(old, new) for a nonempty old: from the left, without overlaps
def replaceFrom (old new : List Char) : (fuel : Nat) → List Char → List Char
  | 0,text => text
  | _,[] => []
  | fuel + 1,c :: rest =>
    if old.isPrefixOf (c :: rest) then new ++ replaceFrom old new fuel ((c :: rest).drop old.length)
    else c :: replaceFrom old new fuel rest

def replace (old new text : String) : String :=
  String.ofList (replaceFrom old.toList new.toList text.length text.toList)

-- text.split(c, 1)[0], and text.rstrip(c)
def before (c : Char) (text : String) : String := String.ofList (text.toList.takeWhile (· != c))
def rstripChar (c : Char) (text : String) : String := String.ofList (text.toList.reverse.dropWhile (· == c)).reverse

-- Two texts with a separator that read the same are the same, or one has the separator of the other inside.
theorem separated_append {α : Type} {c : α} {a b x y : List α} : a ++ c :: x = b ++ c :: y ↔
    (a = b ∧ x = y) ∨ (∃ m, a = b ++ c :: m ∧ y = m ++ c :: x) ∨ (∃ m, b = a ++ c :: m ∧ x = m ++ c :: y) := by
  constructor
  · intro same
    rcases List.append_eq_append_iff.mp same with ⟨m,rfl,tails⟩ | ⟨m,rfl,tails⟩
    · cases m with
      | nil => exact .inl ⟨by simp,by simpa using tails⟩
      | cons first m =>
        obtain ⟨rfl,rest⟩ := List.cons_eq_cons.mp tails
        exact .inr (.inr ⟨m,rfl,rest⟩)
    · cases m with
      | nil => exact .inl ⟨by simp,by simpa using tails.symm⟩
      | cons first m =>
        obtain ⟨rfl,rest⟩ := List.cons_eq_cons.mp tails
        exact .inr (.inl ⟨m,rfl,rest⟩)
  · rintro (⟨rfl,rfl⟩ | ⟨m,rfl,rfl⟩ | ⟨m,rfl,rfl⟩) <;> simp

end Sophia.PyText
