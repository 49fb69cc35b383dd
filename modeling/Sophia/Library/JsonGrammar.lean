import Sophia.Library.PyDict
import Sophia.Library.PyValue

namespace Sophia.JsonGrammar

def openBrace : Char := Char.ofNat 123
def closeBrace : Char := Char.ofNat 125

-- The whitespace between tokens
def isBlank (c : Char) : Bool := c = ' ' || c = '\t' || c = '\n' || c = '\r'

def Blanks (cs : List Char) : Prop := ∀ c ∈ cs, isBlank c

-- json.loads(..., parse_int, parse_float, parse_constant): what it makes of the text of a
-- number, by default int and float, and of NaN and the infinities.
structure Hooks where
  parseInt : String → Except PyError Json
  parseFloat : String → Except PyError Json
  parseConstant : String → Except PyError Json

def digitsValue (cs : List Char) : Nat := cs.foldl (fun n c => 10 * n + (c.toNat - 48)) 0

-- int(text) and float(text) of a number, without the rounding. Python refuses an integer
-- of more than 4300 digits; NaN and the infinities are no Json here.
def Hooks.exact : Hooks where
  parseInt text :=
    let digits := text.toList.filter Char.isDigit
    if 4300 < digits.length then .error .valueError
    else .ok (.int (if text.toList.head? = some '-' then -(digitsValue digits) else digitsValue digits))
  parseFloat text :=
    let mantissa := text.toList.takeWhile fun c => c ≠ 'e' ∧ c ≠ 'E'
    let exponent := text.toList.drop (mantissa.length + 1)
    let places := (mantissa.dropWhile (· ≠ '.')).length - 1
    let magnitude : ℚ := digitsValue (mantissa.filter Char.isDigit) / 10^places
    let power := digitsValue (exponent.filter Char.isDigit)
    let scaled := if exponent.head? = some '-' then magnitude / 10^power else magnitude * 10^power
    .ok (.float (if mantissa.head? = some '-' then -scaled else scaled))
  parseConstant _ := .error .valueError

-- A number, cut at its fraction and its exponent
structure Numeral where
  sign : List Char
  whole : List Char
  fraction : List Char
  exponent : List Char

def Numeral.chars (n : Numeral) : List Char := n.sign ++ n.whole ++ n.fraction ++ n.exponent

def Hooks.number (hooks : Hooks) (n : Numeral) : Except PyError Json :=
  if n.fraction = [] ∧ n.exponent = [] then hooks.parseInt (String.ofList n.chars)
  else hooks.parseFloat (String.ofList n.chars)

def Digits (cs : List Char) : Prop := cs ≠ [] ∧ ∀ c ∈ cs, c.isDigit

def Whole (cs : List Char) : Prop := cs = ['0'] ∨ ∃ c ds, cs = c :: ds ∧ c ≠ '0' ∧ Digits cs
def Fraction (cs : List Char) : Prop := cs = [] ∨ ∃ ds, cs = '.' :: ds ∧ Digits ds

def Exponent (cs : List Char) : Prop := cs = [] ∨
  ∃ c sign ds, cs = c :: (sign ++ ds) ∧ (c = 'e' ∨ c = 'E') ∧ (sign = [] ∨ sign = ['+'] ∨ sign = ['-']) ∧ Digits ds

structure Numeral.WellFormed (n : Numeral) : Prop where
  sign : n.sign = [] ∨ n.sign = ['-']
  whole : Whole n.whole
  fraction : Fraction n.fraction
  exponent : Exponent n.exponent

-- What stands after a backslash, and what it means
def shortEscapes : List (Char × Char) :=
  [('"','"'),('\\','\\'),('/','/'),('b',Char.ofNat 8),('f',Char.ofNat 12),('n','\n'),('r','\r'),('t','\t')]

def hexValue (c : Char) : Option Nat :=
  if c.isDigit then some (c.toNat - 48)
  else if 97 ≤ c.toNat ∧ c.toNat ≤ 102 then some (c.toNat - 87)
  else if 65 ≤ c.toNat ∧ c.toNat ≤ 70 then some (c.toNat - 55)
  else none

def readHex : List Char → Option (Nat × List Char)
  | a :: b :: c :: d :: rest => do
    return ((← hexValue a) * 4096 + (← hexValue b) * 256 + (← hexValue c) * 16 + (← hexValue d),rest)
  | _ => none

def isHigh (n : Nat) : Bool := 55296 ≤ n && n < 56320
def isLow (n : Nat) : Bool := 56320 ≤ n && n < 57344

def joinPair (high low : Nat) : Nat := 65536 + (high - 55296) * 1024 + (low - 56320)

-- One character of a string. A surrogate stands only in a pair.
inductive CharText : Char → List Char → Prop where
  | plain : c ≠ '"' → c ≠ '\\' → 32 ≤ c.toNat → CharText c [c]
  | short : (mark,c) ∈ shortEscapes → CharText c ['\\',mark]
  | unicode : readHex hex = some (n,[]) → isHigh n = false → isLow n = false →
    CharText (Char.ofNat n) ('\\' :: 'u' :: hex)
  | pair : readHex first = some (high,[]) → isHigh high → readHex second = some (low,[]) → isLow low →
    CharText (Char.ofNat (joinPair high low)) ('\\' :: 'u' :: (first ++ '\\' :: 'u' :: second))

-- The characters of a string, without the quotes
inductive StringText : List Char → List Char → Prop where
  | nil : StringText [] []
  | cons : CharText c text → StringText cs rest → StringText (c :: cs) (text ++ rest)

-- A value, the items of an array up to its bracket, a member, or the members of an object up to its brace
inductive Piece where
  | value (value : Json)
  | items (items : List Json)
  | member (member : String × Json)
  | members (members : List (String × Json))

-- The renderings of a value. The object that a list of members denotes is a dict: of two
-- members with one key the later one counts.
inductive Renders (hooks : Hooks) : Piece → List Char → Prop where
  | null : Renders hooks (.value .null) "null".toList
  | bool : Renders hooks (.value (.bool b)) (if b then "true" else "false").toList
  | number : n.WellFormed → hooks.number n = .ok value → Renders hooks (.value value) n.chars
  | string {s : String} {chars : List Char} : StringText s.toList chars →
    Renders hooks (.value (.str s)) ('"' :: (chars ++ ['"']))
  | emptyArray : Blanks gap → Renders hooks (.value (.arr [])) ('[' :: (gap ++ [']']))
  | array : Blanks gap → Renders hooks (.items items) rest → Renders hooks (.value (.arr items)) ('[' :: (gap ++ rest))
  | emptyObject : Blanks gap → Renders hooks (.value (.obj [])) (openBrace :: (gap ++ [closeBrace]))
  | object : Blanks gap → Renders hooks (.members members) rest →
    Renders hooks (.value (.obj (PyDict.ofList members).entries)) (openBrace :: (gap ++ rest))
  | lastItem : Renders hooks (.value value) text → Blanks gap → Renders hooks (.items [value]) (text ++ (gap ++ [']']))
  | moreItems : Renders hooks (.value value) text → Blanks gap → Blanks next → Renders hooks (.items items) rest →
    Renders hooks (.items (value :: items)) (text ++ (gap ++ ',' :: (next ++ rest)))
  | member {key : String} {value : Json} {chars before after text : List Char} : StringText key.toList chars →
    Blanks before → Blanks after → Renders hooks (.value value) text →
    Renders hooks (.member (key,value)) ('"' :: (chars ++ '"' :: (before ++ ':' :: (after ++ text))))
  | lastMember : Renders hooks (.member m) text → Blanks gap →
    Renders hooks (.members [m]) (text ++ (gap ++ [closeBrace]))
  | moreMembers : Renders hooks (.member m) text → Blanks gap → Blanks next → Renders hooks (.members members) rest →
    Renders hooks (.members (m :: members)) (text ++ (gap ++ ',' :: (next ++ rest)))

section
variable {hooks : Hooks} {piece : Piece} {text cs : List Char} {n : Numeral}

-- The characters a value begins with, and those it ends with
def opener (c : Char) : Bool := c.isDigit || ['-','"','[',openBrace,'n','t','f'].contains c
def closer (c : Char) : Bool := c.isDigit || ['"',']',closeBrace,'l','e'].contains c

theorem Digits.opens (digits : Digits cs) : ∃ c rest, cs = c :: rest ∧ c.isDigit = true := by
  cases cs with
  | nil => exact absurd rfl digits.1
  | cons c rest => exact ⟨c,rest,rfl,digits.2 c (List.mem_cons_self)⟩

theorem Digits.closes (digits : Digits cs) (front : List Char) :
    ∃ before c, front ++ cs = before ++ [c] ∧ closer c = true := by
  refine ⟨front ++ cs.dropLast,cs.getLast digits.1,?_,?_⟩
  · rw [List.append_assoc,List.dropLast_append_getLast]
  · simp [closer,digits.2 _ (List.getLast_mem digits.1)]

theorem Whole.digits (whole : Whole cs) : Digits cs := by
  rcases whole with rfl | ⟨c,ds,_,_,digits⟩
  · exact ⟨by simp,by simp⟩
  · exact digits

theorem Numeral.WellFormed.begins (formed : n.WellFormed) :
    ∃ d tail, d.isDigit = true ∧ (n.chars = d :: tail ∨ n.chars = '-' :: d :: tail) := by
  obtain ⟨d,others,same,digit⟩ := formed.whole.digits.opens
  refine ⟨d,others ++ (n.fraction ++ n.exponent),digit,?_⟩
  unfold Numeral.chars
  rcases formed.sign with plain | minus
  · exact .inl (by simp [plain,same])
  · exact .inr (by simp [minus,same])

theorem Numeral.WellFormed.opens (formed : n.WellFormed) : ∃ c rest, n.chars = c :: rest ∧ opener c = true := by
  obtain ⟨d,tail,digit,same | same⟩ := formed.begins
  · exact ⟨_,_,same,by simp [opener,digit]⟩
  · exact ⟨_,_,same,rfl⟩

theorem Numeral.WellFormed.closes (formed : n.WellFormed) :
    ∃ front c, n.chars = front ++ [c] ∧ closer c = true := by
  unfold Numeral.chars
  rcases formed.exponent with none | ⟨c,sign,ds,some,_,_,digits⟩
  · rw [none,List.append_nil]
    rcases formed.fraction with none | ⟨ds,some,digits⟩
    · rw [none,List.append_nil]
      exact formed.whole.digits.closes _
    · rw [some,List.append_cons]
      exact digits.closes _
  · rw [some,List.append_cons,← List.append_assoc]
    exact digits.closes _

theorem Renders.opens (renders : Renders hooks piece text) : ∃ c rest, text = c :: rest ∧ opener c = true := by
  have onward {text : List Char} (ih : ∃ c rest, text = c :: rest ∧ opener c = true) (behind : List Char) :
      ∃ c rest, text ++ behind = c :: rest ∧ opener c = true := by
    obtain ⟨c,rest,rfl,opening⟩ := ih
    exact ⟨_,_,rfl,opening⟩
  induction renders with
  | null => exact ⟨_,_,rfl,rfl⟩
  | @bool b => cases b <;> exact ⟨_,_,rfl,rfl⟩
  | number formed _ => exact formed.opens
  | lastItem _ _ ih => exact onward ih _
  | moreItems _ _ _ _ ih _ => exact onward ih _
  | lastMember _ _ ih => exact onward ih _
  | moreMembers _ _ _ _ ih _ => exact onward ih _
  | _ => exact ⟨_,_,rfl,rfl⟩

theorem Renders.closes (renders : Renders hooks piece text) : ∃ front c, text = front ++ [c] ∧ closer c = true := by
  have closing {c : Char} (front : List Char) (ends : closer c = true) :
      ∃ before d, front ++ [c] = before ++ [d] ∧ closer d = true := ⟨front,c,rfl,ends⟩
  have behind {rest : List Char} (front : List Char) (ih : ∃ before c, rest = before ++ [c] ∧ closer c = true) :
      ∃ before c, front ++ rest = before ++ [c] ∧ closer c = true := by
    obtain ⟨before,c,rfl,ends⟩ := ih
    exact ⟨front ++ before,c,(List.append_assoc ..).symm,ends⟩
  induction renders with
  | null => exact closing ['n','u','l'] rfl
  | @bool b => cases b <;> [exact closing ['f','a','l','s'] rfl; exact closing ['t','r','u'] rfl]
  | number formed _ => exact formed.closes
  | @string _ chars _ => exact closing ('"' :: chars) rfl
  | @emptyArray gap _ => exact closing ('[' :: gap) rfl
  | @array gap _ _ _ _ ih => exact behind ('[' :: gap) ih
  | @emptyObject gap _ => exact closing (openBrace :: gap) rfl
  | @object gap _ _ _ _ ih => exact behind (openBrace :: gap) ih
  | @lastItem _ text gap _ _ _ => exact behind text (closing gap rfl)
  | @moreItems _ text gap next _ _ _ _ _ _ _ ih => exact behind text (behind gap (behind (',' :: next) ih))
  | @member _ _ chars before after _ _ _ _ _ ih =>
    exact behind ('"' :: chars) (behind ('"' :: before) (behind (':' :: after) ih))
  | @lastMember _ text gap _ _ _ => exact behind text (closing gap rfl)
  | @moreMembers _ text gap next _ _ _ _ _ _ _ ih => exact behind text (behind gap (behind (',' :: next) ih))

end

end Sophia.JsonGrammar
