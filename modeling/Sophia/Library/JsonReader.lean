import Sophia.Library.JsonGrammar
import Mathlib.Data.List.TakeWhile

namespace Sophia.JsonReader
open JsonGrammar

def skip (text : List Char) : List Char := text.dropWhile isBlank

def takeSign : List Char → List Char × List Char
  | [] => ([],[])
  | c :: rest => if c = '-' then ([c],rest) else ([],c :: rest)

-- 0|[1-9][0-9]*
def takeWhole : List Char → Option (List Char × List Char)
  | [] => none
  | c :: rest =>
    if c = '0' then some ([c],rest)
    else if c.isDigit then some (c :: rest.takeWhile Char.isDigit,rest.dropWhile Char.isDigit)
    else none

-- A point or an exponent without digits is left where it stands.
def takeFraction : List Char → List Char × List Char
  | [] => ([],[])
  | c :: rest =>
    if c = '.' ∧ rest.takeWhile Char.isDigit ≠ [] then (c :: rest.takeWhile Char.isDigit,rest.dropWhile Char.isDigit)
    else ([],c :: rest)

def takeExponentSign : List Char → List Char × List Char
  | [] => ([],[])
  | c :: rest => if c = '+' ∨ c = '-' then ([c],rest) else ([],c :: rest)

def takeExponent : List Char → List Char × List Char
  | [] => ([],[])
  | c :: rest =>
    let (sign,after) := takeExponentSign rest
    if (c = 'e' ∨ c = 'E') ∧ after.takeWhile Char.isDigit ≠ [] then
      (c :: (sign ++ after.takeWhile Char.isDigit),after.dropWhile Char.isDigit)
    else ([],c :: rest)

def readNumber (hooks : Hooks) (text : List Char) : Except PyError (Json × List Char) := do
  let (sign,unsigned) := takeSign text
  match takeWhole unsigned with
  | none => .error .valueError
  | some (whole,after) =>
    let (fraction,next) := takeFraction after
    let (exponent,rest) := takeExponent next
    return (← hooks.number ⟨sign,whole,fraction,exponent⟩,rest)

def constants (hooks : Hooks) : List (String × Except PyError Json) :=
  [("null",.ok .null),("true",.ok (.bool true)),("false",.ok (.bool false)),("NaN",hooks.parseConstant "NaN"),
    ("Infinity",hooks.parseConstant "Infinity"),("-Infinity",hooks.parseConstant "-Infinity")]

def readAtom (hooks : Hooks) (text : List Char) : Except PyError (Json × List Char) :=
  match (constants hooks).find? (·.1.toList.isPrefixOf text) with
  | some (name,value) => do return (← value,text.drop name.length)
  | none => readNumber hooks text

def readUnicode (text : List Char) : Option (Char × List Char) := do
  let (n,rest) ← readHex text
  if isHigh n then
    match rest with
    | '\\' :: 'u' :: next => do
      let (low,after) ← readHex next
      if isLow low then return (Char.ofNat (joinPair n low),after) else none
    | _ => none
  else if isLow n then none
  else return (Char.ofNat n,rest)

-- What follows a backslash
def readEscape : List Char → Option (Char × List Char)
  | [] => none
  | c :: rest => if c = 'u' then readUnicode rest else (shortEscapes.lookup c).map (·,rest)

-- A string behind its opening quote. Control characters are refused (strict).
def readString : (fuel : Nat) → List Char → Except PyError (List Char × List Char)
  | 0,_ => .error .valueError
  | _,[] => .error .valueError
  | fuel + 1,c :: rest =>
    if c = '"' then .ok ([],rest)
    else if c = '\\' then
      match readEscape rest with
      | none => .error .valueError
      | some (first,after) => do
        let (others,last) ← readString fuel after
        return (first :: others,last)
    else if c.toNat < 32 then .error .valueError
    else do
      let (others,last) ← readString fuel rest
      return (c :: others,last)

def expect (c : Char) : List Char → Except PyError (List Char)
  | [] => .error .valueError
  | d :: rest => if d = c then .ok rest else .error .valueError

-- Behind an element: whether it was the last one
def separator (closing : Char) : List Char → Except PyError (Bool × List Char)
  | [] => .error .valueError
  | c :: rest => if c = closing then .ok (true,rest) else if c = ',' then .ok (false,rest) else .error .valueError

def readMember (readValue : List Char → Except PyError (Json × List Char)) (text : List Char) :
    Except PyError ((String × Json) × List Char) := do
  let quoted ← expect '"' text
  let (chars,after) ← readString quoted.length quoted
  let next ← expect ':' (skip after)
  let (value,rest) ← readValue (skip next)
  return ((String.ofList chars,value),rest)

-- The elements of an array or an object, up to what closes it
def readElements {α : Type} (readOne : List Char → Except PyError (α × List Char)) (closing : Char) :
    (fuel : Nat) → List Char → Except PyError (List α × List Char)
  | 0,_ => .error .valueError
  | fuel + 1,text => do
    let (first,after) ← readOne text
    let (last,rest) ← separator closing (skip after)
    if last then return ([first],rest)
    else do
      let (others,ends) ← readElements readOne closing fuel (skip rest)
      return (first :: others,ends)

def readBody {α : Type} (readOne : List Char → Except PyError (α × List Char)) (closing : Char) (text : List Char) :
    Except PyError (List α × List Char) :=
  if (skip text).head? = some closing then .ok ([],(skip text).tail)
  else readElements readOne closing text.length (skip text)

-- scan_once. The fuel bounds the nesting, and the length of the text is enough.
def readValue (hooks : Hooks) : (fuel : Nat) → List Char → Except PyError (Json × List Char)
  | 0,_ => .error .valueError
  | _,[] => .error .valueError
  | fuel + 1,c :: rest =>
    if c = '"' then do
      let (chars,after) ← readString rest.length rest
      return (.str (String.ofList chars),after)
    else if c = '[' then do
      let (items,after) ← readBody (readValue hooks fuel) ']' rest
      return (.arr items,after)
    else if c = openBrace then do
      let (members,after) ← readBody (readMember (readValue hooks fuel)) closeBrace rest
      return (.obj (PyDict.ofList members).entries,after)
    else readAtom hooks (c :: rest)

-- json.loads of a str
def loads (hooks : Hooks) (text : String) : Except PyError Json := do
  if text.toList.head? = some (Char.ofNat 65279) then .error .valueError
  let (value,rest) ← readValue hooks text.length (skip text.toList)
  if skip rest = [] then return value else .error .valueError

section
variable {hooks : Hooks} {piece : Piece} {text rest gap ds cs : List Char} {c : Char} {n : Numeral}

theorem skip_gap (blanks : Blanks gap) (solid : isBlank c = false) : skip (gap ++ c :: rest) = c :: rest := by
  unfold skip
  rw [List.dropWhile_append_of_pos blanks,List.dropWhile_cons_of_neg (by simp [solid])]

-- What may follow a number
def Stops (rest : List Char) : Prop := ∀ c ∈ rest.head?, c.isDigit = false ∧ c ≠ '.' ∧ c ≠ 'e' ∧ c ≠ 'E'

def NoDigit (rest : List Char) : Prop := ∀ c ∈ rest.head?, c.isDigit = false

theorem digits_span (digits : ∀ c ∈ ds, c.isDigit = true) (stop : NoDigit rest) :
    (ds ++ rest).takeWhile Char.isDigit = ds ∧ (ds ++ rest).dropWhile Char.isDigit = rest := by
  rw [List.takeWhile_append_of_pos digits,List.dropWhile_append_of_pos digits]
  cases rest with
  | nil => exact ⟨List.append_nil _,rfl⟩
  | cons c rest =>
    have other := stop c rfl
    rw [List.takeWhile_cons_of_neg (by simp [other]),List.dropWhile_cons_of_neg (by simp [other])]
    exact ⟨List.append_nil _,rfl⟩

theorem digit_ne {c d : Char} (digit : c.isDigit = true) (other : d.isDigit = false) : c ≠ d := by
  rintro rfl
  rw [other] at digit
  cases digit

theorem takeExponent_reads {exponent : List Char} (formed : Exponent exponent) (stops : Stops rest) :
    takeExponent (exponent ++ rest) = (exponent,rest) := by
  have stop : NoDigit rest := fun c first => (stops c first).1
  rcases formed with rfl | ⟨c,sign,ds,rfl,letter,signed,digits⟩
  · cases rest with
    | nil => rfl
    | cons c rest =>
      have other := (stops c rfl).2.2
      simp [takeExponent,other.1,other.2]
  · have taken : takeExponentSign (sign ++ (ds ++ rest)) = (sign,ds ++ rest) := by
      rcases signed with rfl | rfl | rfl
      · obtain ⟨d,others,rfl,digit⟩ := digits.opens
        simp (disch := decide) [takeExponentSign,digit_ne digit]
      · rfl
      · rfl
    obtain ⟨kept,left⟩ := digits_span digits.2 stop
    simp [takeExponent,taken,kept,left,letter,digits.1]

theorem exponent_stop {exponent : List Char} (formed : Exponent exponent) (stops : Stops rest) :
    NoDigit (exponent ++ rest) := by
  rcases formed with rfl | ⟨c,sign,ds,rfl,letter,_⟩
  · exact fun c first => (stops c first).1
  · rcases letter with rfl | rfl <;> simp [NoDigit]

theorem takeFraction_reads {fraction exponent : List Char} (formed : Fraction fraction) (ends : Exponent exponent)
    (stops : Stops rest) : takeFraction (fraction ++ (exponent ++ rest)) = (fraction,exponent ++ rest) := by
  rcases formed with rfl | ⟨ds,rfl,digits⟩
  · have other : ∀ c ∈ (exponent ++ rest).head?, c ≠ '.' := by
      rcases ends with rfl | ⟨c,sign,ds,rfl,letter,_⟩
      · exact fun c first => (stops c first).2.1
      · rcases letter with rfl | rfl <;> simp
    rw [List.nil_append]
    cases behind : exponent ++ rest with
    | nil => rfl
    | cons c left => simp [takeFraction,other c (by simp [behind])]
  · obtain ⟨kept,left⟩ := digits_span digits.2 (exponent_stop ends stops)
    simp [takeFraction,kept,left,digits.1]

theorem fraction_stop {fraction exponent : List Char} (formed : Fraction fraction) (ends : Exponent exponent)
    (stops : Stops rest) : NoDigit (fraction ++ (exponent ++ rest)) := by
  rcases formed with rfl | ⟨ds,rfl,_⟩
  · rw [List.nil_append]
    exact exponent_stop ends stops
  · simp [NoDigit]

theorem takeWhole_reads {whole : List Char} (formed : Whole whole) (stop : NoDigit rest) :
    takeWhole (whole ++ rest) = some (whole,rest) := by
  rcases formed with rfl | ⟨c,ds,rfl,other,_,digits⟩
  · rfl
  · obtain ⟨digit,digits⟩ := List.forall_mem_cons.mp digits
    obtain ⟨kept,left⟩ := digits_span digits stop
    simp [takeWhole,other,digit,kept,left]

theorem readNumber_reads (formed : n.WellFormed) (stops : Stops rest) :
    readNumber hooks (n.chars ++ rest) = (hooks.number n).map (·,rest) := by
  have signed : takeSign (n.chars ++ rest) = (n.sign,n.whole ++ (n.fraction ++ (n.exponent ++ rest))) := by
    unfold Numeral.chars
    obtain ⟨d,others,same,digit⟩ := formed.whole.digits.opens
    rcases formed.sign with plain | minus
    · simp (disch := decide) [plain,same,takeSign,digit_ne digit]
    · simp [minus,takeSign]
  have whole := takeWhole_reads formed.whole (fraction_stop formed.fraction formed.exponent stops)
  have fraction := takeFraction_reads formed.fraction formed.exponent stops
  have exponent := takeExponent_reads formed.exponent stops
  simp only [readNumber,signed,whole,fraction,exponent]
  cases hooks.number n <;> rfl

-- No constant begins like a number.
theorem readAtom_number (formed : n.WellFormed) (stops : Stops rest) :
    readAtom hooks (n.chars ++ rest) = (hooks.number n).map (·,rest) := by
  have other : (constants hooks).find? (·.1.toList.isPrefixOf (n.chars ++ rest)) = none := by
    obtain ⟨d,tail,digit,same⟩ := formed.begins
    have apart (c : Char) (letter : c.isDigit = false) : c ≠ d := (digit_ne digit letter).symm
    rcases same with same | same <;> simp (disch := decide) [constants,same,apart]
  rw [readAtom,other]
  exact readNumber_reads formed stops

theorem readHex_append {hex : List Char} {k : Nat} (reads : readHex hex = some (k,[])) (rest : List Char) :
    readHex (hex ++ rest) = some (k,rest) := by
  unfold readHex at reads
  split at reads
  · next a b c d others =>
    cases first : hexValue a <;> cases second : hexValue b <;> cases third : hexValue c <;> cases last : hexValue d <;>
      simp_all [readHex]
  · cases reads

theorem readEscape_short {mark : Char} (listed : (mark,c) ∈ shortEscapes) (rest : List Char) :
    readEscape (mark :: rest) = some (c,rest) := by
  have looked : ∀ entry ∈ shortEscapes, entry.1 ≠ 'u' ∧ shortEscapes.lookup entry.1 = some entry.2 := by decide
  obtain ⟨other,found⟩ := looked _ listed
  simp [readEscape,other,found]

theorem CharText.nonempty (reads : CharText c text) : 0 < text.length := by cases reads <;> simp

theorem readString_char (reads : CharText c text) (fuel : Nat) (rest : List Char) :
    readString (fuel + 1) (text ++ rest) = (readString fuel rest).map fun read => (c :: read.1,read.2) := by
  have escaped {text : List Char} (reads : readEscape (text ++ rest) = some (c,rest)) :
      readString (fuel + 1) (('\\' :: text) ++ rest) = (readString fuel rest).map fun read => (c :: read.1,read.2) := by
    rw [List.cons_append,readString,if_neg (by decide),if_pos rfl,reads]
    dsimp only
    cases readString fuel rest <;> rfl
  cases reads with
  | plain notQuote notSlash printed =>
    rw [List.singleton_append,readString,if_neg notQuote,if_neg notSlash,if_neg (by omega)]
    cases readString fuel rest <;> rfl
  | short listed => exact escaped (readEscape_short listed rest)
  | unicode reads high low =>
    exact escaped (by simp [readEscape,readUnicode,readHex_append reads,high,low])
  | pair reads high next low =>
    exact escaped (by simp [readEscape,readUnicode,readHex_append reads,readHex_append next,high,low])

theorem readString_reads (reads : StringText cs text) (fuel : Nat) (enough : text.length < fuel) (rest : List Char) :
    readString fuel (text ++ '"' :: rest) = .ok (cs,rest) := by
  induction reads generalizing fuel with
  | nil =>
    obtain ⟨fuel,rfl⟩ := Nat.exists_eq_add_of_lt enough
    rfl
  | @cons c text cs others first _ ih =>
    have nonempty := CharText.nonempty first
    rw [List.length_append] at enough
    cases fuel with
    | zero => cases enough
    | succ fuel =>
      rw [List.append_assoc,readString_char first,ih fuel (by omega)]
      rfl

theorem opener_solid (opening : opener c = true) : isBlank c = false ∧ c ≠ ']' ∧ c ≠ closeBrace := by
  simp only [opener,Bool.or_eq_true,List.contains_iff_mem,List.mem_cons,List.not_mem_nil,or_false] at opening
  rcases opening with digit | rfl | rfl | rfl | rfl | rfl | rfl | rfl
  · simp (disch := decide) [isBlank,digit_ne digit]
  all_goals decide

theorem skip_piece (blanks : Blanks gap) (renders : Renders hooks piece text) (rest : List Char) :
    skip (gap ++ (text ++ rest)) = text ++ rest := by
  obtain ⟨c,others,rfl,opening⟩ := renders.opens
  exact skip_gap blanks (opener_solid opening).1

theorem separator_closing {closing : Char} (blanks : Blanks gap) (solid : isBlank closing = false) (rest : List Char) :
    separator closing (skip (gap ++ closing :: rest)) = .ok (true,rest) := by
  rw [skip_gap blanks solid,separator,if_pos rfl]

theorem separator_comma {closing : Char} (blanks : Blanks gap) (other : ',' ≠ closing) (rest : List Char) :
    separator closing (skip (gap ++ ',' :: rest)) = .ok (false,rest) := by
  rw [skip_gap blanks (by decide),separator,if_neg other,if_pos rfl]

theorem blank_stops (blank : isBlank c = true) : Stops (c :: rest) := by
  simp only [isBlank,Bool.or_eq_true,decide_eq_true_eq] at blank
  rcases blank with ((rfl | rfl) | rfl) | rfl <;> simp [Stops]

theorem gap_stops (blanks : Blanks gap) (stops : Stops rest) : Stops (gap ++ rest) := by
  cases gap with
  | nil => exact stops
  | cons d gap => exact blank_stops (blanks d List.mem_cons_self)

section
variable {α : Type} {readOne : List Char → Except PyError (α × List Char)} {closing : Char} {x : α} {xs : List α}
  {others next : List Char} {fuel : Nat}

theorem readElements_last (reads : ∀ rest, Stops rest → readOne (text ++ rest) = .ok (x,rest)) (blanks : Blanks gap)
    (solid : isBlank closing = false) (stops : Stops (closing :: rest))
    (enough : (text ++ (gap ++ [closing])).length ≤ fuel) :
    readElements readOne closing fuel (text ++ (gap ++ [closing]) ++ rest) = .ok ([x],rest) := by
  simp only [List.length_append,List.length_singleton] at enough
  cases fuel with
  | zero => omega
  | succ fuel =>
    rw [List.append_assoc,List.append_assoc,List.singleton_append,readElements,reads _ (gap_stops blanks stops)]
    dsimp only [bind,Except.bind]
    rw [separator_closing blanks solid]
    rfl

theorem readElements_more (reads : ∀ rest, Stops rest → readOne (text ++ rest) = .ok (x,rest)) (blanks : Blanks gap)
    (before : Blanks next) (other : ',' ≠ closing) (renders : Renders hooks piece others)
    (later : ∀ fuel, others.length ≤ fuel → readElements readOne closing fuel (others ++ rest) = .ok (xs,rest))
    (enough : (text ++ (gap ++ ',' :: (next ++ others))).length ≤ fuel) :
    readElements readOne closing fuel (text ++ (gap ++ ',' :: (next ++ others)) ++ rest) = .ok (x :: xs,rest) := by
  simp only [List.length_append,List.length_cons] at enough
  cases fuel with
  | zero => omega
  | succ fuel =>
    have first := reads (gap ++ ',' :: (next ++ (others ++ rest))) (gap_stops blanks (by simp [Stops]))
    rw [List.append_assoc,List.append_assoc,List.cons_append,List.append_assoc,readElements,first]
    dsimp only [bind,Except.bind]
    rw [separator_comma blanks other]
    dsimp only
    rw [if_neg (by decide),skip_piece before renders,later fuel (by omega)]
    rfl

theorem readBody_empty (readOne : List Char → Except PyError (α × List Char)) (blanks : Blanks gap)
    (solid : isBlank closing = false) (rest : List Char) :
    readBody readOne closing (gap ++ closing :: rest) = .ok ([],rest) := by
  rw [readBody,skip_gap blanks solid,List.head?_cons,if_pos rfl,List.tail_cons]

theorem readBody_elements (blanks : Blanks gap) (renders : Renders hooks piece text)
    (apart : ∀ c, opener c = true → c ≠ closing)
    (reads : ∀ fuel, text.length ≤ fuel → readElements readOne closing fuel (text ++ rest) = .ok (xs,rest)) :
    readBody readOne closing (gap ++ (text ++ rest)) = .ok (xs,rest) := by
  obtain ⟨c,others,same,opening⟩ := renders.opens
  have started : (text ++ rest).head? ≠ some closing := by
    rw [same]
    simp [apart c opening]
  rw [readBody,skip_piece blanks renders,if_neg started]
  refine reads _ ?_
  simp only [List.length_append]
  omega

end

-- What reading a piece means. A value is read as far as it goes when nothing that could
-- continue a number follows; the elements of an array or an object end themselves.
def Reads (hooks : Hooks) : Piece → List Char → Prop
  | .value value,text => ∀ fuel rest, text.length ≤ fuel → Stops rest →
    readValue hooks fuel (text ++ rest) = .ok (value,rest)
  | .items items,text => ∀ fuel n rest, text.length ≤ fuel → text.length ≤ n →
    readElements (readValue hooks fuel) ']' n (text ++ rest) = .ok (items,rest)
  | .member member,text => ∀ fuel rest, text.length ≤ fuel → Stops rest →
    readMember (readValue hooks fuel) (text ++ rest) = .ok (member,rest)
  | .members members,text => ∀ fuel n rest, text.length ≤ fuel → text.length ≤ n →
    readElements (readMember (readValue hooks fuel)) closeBrace n (text ++ rest) = .ok (members,rest)

-- A value is read with one unit of fuel for its first character.
theorem value_reads {value : Json} (read : ∀ fuel rest, text.length ≤ fuel → Stops rest →
    readValue hooks (fuel + 1) (c :: (text ++ rest)) = .ok (value,rest)) : Reads hooks (.value value) (c :: text) := by
  intro fuel rest enough stops
  cases fuel with
  | zero => cases enough
  | succ fuel => exact read fuel rest (Nat.le_of_succ_le_succ enough) stops

theorem string_reads {s : String} (reads : StringText s.toList text) :
    Reads hooks (.value (.str s)) ('"' :: (text ++ ['"'])) := by
  refine value_reads fun fuel rest _ _ => ?_
  have inner := readString_reads reads (text ++ '"' :: rest).length (by simp) rest
  rw [List.append_assoc,List.singleton_append,readValue,if_pos rfl,inner]
  simp [bind,Except.bind,pure,Except.pure]

theorem array_reads {items : List Json} (body : ∀ fuel rest, text.length ≤ fuel →
    readBody (readValue hooks fuel) ']' (text ++ rest) = .ok (items,rest)) :
    Reads hooks (.value (.arr items)) ('[' :: text) := by
  refine value_reads fun fuel rest enough _ => ?_
  rw [readValue,if_neg (by decide),if_pos rfl,body fuel rest enough]
  rfl

theorem object_reads {members : List (String × Json)} (body : ∀ fuel rest, text.length ≤ fuel →
    readBody (readMember (readValue hooks fuel)) closeBrace (text ++ rest) = .ok (members,rest)) :
    Reads hooks (.value (.obj (PyDict.ofList members).entries)) (openBrace :: text) := by
  refine value_reads fun fuel rest enough _ => ?_
  rw [readValue,if_neg (by decide),if_neg (by decide),if_pos rfl,body fuel rest enough]
  rfl

-- Only strings, arrays and objects are no atoms.
theorem atom_reads {value : Json} (atom : ∀ rest, Stops rest → readAtom hooks (text ++ rest) = .ok (value,rest))
    (opens : ∃ c others, text = c :: others ∧ c ≠ '"' ∧ c ≠ '[' ∧ c ≠ openBrace) :
    Reads hooks (.value value) text := by
  obtain ⟨c,others,rfl,string,array,object⟩ := opens
  refine value_reads fun fuel rest _ stops => ?_
  rw [readValue,if_neg string,if_neg array,if_neg object]
  exact atom rest stops

theorem number_reads {value : Json} (formed : n.WellFormed) (converted : hooks.number n = .ok value) :
    Reads hooks (.value value) n.chars := by
  refine atom_reads (fun rest stops => ?_) ?_
  · rw [readAtom_number formed stops,converted]
    rfl
  · obtain ⟨d,tail,digit,same | same⟩ := formed.begins
    · exact ⟨d,tail,same,digit_ne digit (by decide),digit_ne digit (by decide),digit_ne digit (by decide)⟩
    · exact ⟨_,_,same,by decide,by decide,by decide⟩

theorem member_reads {key : String} {value : Json} {chars before after : List Char} (name : StringText key.toList chars)
    (front : Blanks before) (back : Blanks after) (renders : Renders hooks (.value value) text)
    (reads : Reads hooks (.value value) text) :
    Reads hooks (.member (key,value)) ('"' :: (chars ++ '"' :: (before ++ ':' :: (after ++ text)))) := by
  intro fuel rest enough stops
  simp only [List.length_cons,List.length_append] at enough
  have quoted := readString_reads name (chars ++ '"' :: (before ++ ':' :: (after ++ (text ++ rest)))).length
    (by simp) (before ++ ':' :: (after ++ (text ++ rest)))
  have read := reads fuel rest (by omega) stops
  simp only [readMember,expect,List.cons_append,List.append_assoc,if_true,bind,Except.bind,quoted,
    skip_gap front (by decide : isBlank ':' = false),skip_piece back renders,read,String.ofList_toList,pure,Except.pure]

-- Every rendering is read as what it renders.
theorem renders_reads (renders : Renders hooks piece text) : Reads hooks piece text := by
  induction renders with
  | null => exact atom_reads (fun rest _ => rfl) ⟨_,_,rfl,by decide,by decide,by decide⟩
  | @bool b => cases b <;> exact atom_reads (fun rest _ => rfl) ⟨_,_,rfl,by decide,by decide,by decide⟩
  | number formed converted => exact number_reads formed converted
  | string reads => exact string_reads reads
  | @emptyArray gap blanks =>
    refine array_reads fun fuel rest _ => ?_
    rw [List.append_assoc,List.singleton_append]
    exact readBody_empty _ blanks (by decide) rest
  | @array gap items text blanks renders ih =>
    refine array_reads fun fuel rest enough => ?_
    rw [List.length_append] at enough
    rw [List.append_assoc]
    exact readBody_elements blanks renders (fun c opening => (opener_solid opening).2.1)
      fun n large => ih fuel n rest (by omega) large
  | @emptyObject gap blanks =>
    have empty : Reads hooks (.value (.obj (PyDict.ofList []).entries)) (openBrace :: (gap ++ [closeBrace])) := by
      refine object_reads fun fuel rest _ => ?_
      rw [List.append_assoc,List.singleton_append]
      exact readBody_empty _ blanks (by decide) rest
    exact empty
  | @object gap members text blanks renders ih =>
    refine object_reads fun fuel rest enough => ?_
    rw [List.length_append] at enough
    rw [List.append_assoc]
    exact readBody_elements blanks renders (fun c opening => (opener_solid opening).2.2)
      fun n large => ih fuel n rest (by omega) large
  | lastItem _ blanks ih =>
    intro fuel n rest enough large
    rw [List.length_append] at enough
    exact readElements_last (ih fuel · (by omega)) blanks (by decide) (by simp [Stops]) large
  | moreItems _ blanks before renders ih later =>
    intro fuel n rest enough large
    simp only [List.length_append,List.length_cons] at enough
    exact readElements_more (ih fuel · (by omega)) blanks before (by decide) renders
      (later fuel · rest (by omega)) large
  | member name front back renders ih => exact member_reads name front back renders ih
  | lastMember _ blanks ih =>
    intro fuel n rest enough large
    rw [List.length_append] at enough
    exact readElements_last (ih fuel · (by omega)) blanks (by decide) (by simp [Stops,closeBrace]) large
  | moreMembers _ blanks before renders ih later =>
    intro fuel n rest enough large
    simp only [List.length_append,List.length_cons] at enough
    exact readElements_more (ih fuel · (by omega)) blanks before (by decide) renders
      (later fuel · rest (by omega)) large

-- A document may stand between blanks, and nothing else may stand behind it.
theorem loads_renders {value : Json} {document : String} {before after : List Char}
    (renders : Renders hooks (.value value) text) (front : Blanks before) (back : Blanks after) (same : document.toList = before ++ (text ++ after)) :
    loads hooks document = .ok value := by
  have unmarked : document.toList.head? ≠ some (Char.ofNat 65279) := by
    rw [same]
    cases before with
    | nil =>
      obtain ⟨c,others,rfl,opening⟩ := renders.opens
      rw [List.nil_append,List.cons_append,List.head?_cons]
      rintro marked
      cases marked
      cases opening
    | cons c before =>
      have blank := front c List.mem_cons_self
      rw [List.cons_append,List.head?_cons]
      rintro marked
      cases marked
      cases blank
  have size : text.length ≤ document.length := by
    rw [← String.length_toList,same]
    simp only [List.length_append]
    omega
  have last : Stops [] := nofun
  have stops := gap_stops back last
  rw [List.append_nil] at stops
  have read := renders_reads renders document.length after size stops
  have ended : skip after = [] := List.dropWhile_eq_nil_iff.mpr back
  rw [loads,if_neg unmarked,same,skip_piece front renders]
  simp [read,ended,bind,Except.bind,pure,Except.pure]

end

end Sophia.JsonReader