import Mathlib.Data.List.Basic

namespace Sophia.JsonText

def hexDigit (n : Nat) : Char := Char.ofNat (if n < 10 then 48 + n else 87 + n)
def hexValue (c : Char) : Nat := if c.toNat < 58 then c.toNat - 48 else c.toNat - 87

def hex4 (n : Nat) : List Char :=
  [hexDigit (n / 4096 % 16),hexDigit (n / 256 % 16),hexDigit (n / 16 % 16),hexDigit (n % 16)]

-- One character of a JSON string under ensure_ascii: short escapes, printable ASCII as it
-- is, everything else as \uXXXX, and two of those beyond the basic plane.
def escapeChar (c : Char) : List Char :=
  if c = '"' then ['\\','"']
  else if c = '\\' then ['\\','\\']
  else if c.toNat = 10 then ['\\','n']
  else if c.toNat = 13 then ['\\','r']
  else if c.toNat = 9 then ['\\','t']
  else if c.toNat = 12 then ['\\','f']
  else if c.toNat = 8 then ['\\','b']
  else if 32 ≤ c.toNat ∧ c.toNat ≤ 126 then [c]
  else if c.toNat < 65536 then '\\' :: 'u' :: hex4 c.toNat
  else ('\\' :: 'u' :: hex4 (55296 + (c.toNat - 65536) / 1024)) ++
    ('\\' :: 'u' :: hex4 (56320 + (c.toNat - 65536) % 1024))

def escapeText (cs : List Char) : List Char := cs.flatMap escapeChar

def quote (s : String) : List Char := '"' :: (escapeText s.toList ++ ['"'])

def dumpField (field : String × String) : List Char := quote field.1 ++ ':' :: ' ' :: quote field.2

def dumpFields : List (String × String) → List Char
  | [] => []
  | [field] => dumpField field
  | field :: next :: rest => dumpField field ++ ',' :: ' ' :: dumpFields (next :: rest)

-- json.dumps of an object whose values are strings, in the order given
def dumpObject (fields : List (String × String)) : List Char :=
  Char.ofNat 123 :: (dumpFields fields ++ [Char.ofNat 125])

-- Reading one escaped character back. It is here for the uniqueness proofs only.
def readHex4 : List Char → Option (Nat × List Char)
  | a :: b :: c :: d :: rest =>
    some (hexValue a * 4096 + hexValue b * 256 + hexValue c * 16 + hexValue d,rest)
  | _ => none

def unescapeUnicode (text : List Char) : Option (Char × List Char) := do
  let (n,rest) ← readHex4 text
  if 55296 ≤ n ∧ n < 56320 then do
    let (m,tail) ← readHex4 (rest.drop 2)
    return (Char.ofNat (65536 + (n - 55296) * 1024 + (m - 56320)),tail)
  else return (Char.ofNat n,rest)

def unescapeChar : List Char → Option (Char × List Char)
  | [] => none
  | c :: rest =>
    if c = '\\' then match rest with
      | [] => none
      | d :: tail =>
        if d = 'n' then some (Char.ofNat 10,tail)
        else if d = 'r' then some (Char.ofNat 13,tail)
        else if d = 't' then some (Char.ofNat 9,tail)
        else if d = 'f' then some (Char.ofNat 12,tail)
        else if d = 'b' then some (Char.ofNat 8,tail)
        else if d = 'u' then unescapeUnicode tail
        else some (d,tail)
    else some (c,rest)

theorem hexValue_digit (small : n < 16) : hexValue (hexDigit n) = n := by
  have all : ∀ k : Fin 16, hexValue (hexDigit k.val) = k.val := by decide
  exact all ⟨n,small⟩

theorem readHex4_hex4 (small : n < 65536) (rest : List Char) : readHex4 (hex4 n ++ rest) = some (n,rest) := by
  simp only [hex4,List.cons_append,List.nil_append,readHex4,Option.some.injEq,Prod.mk.injEq,and_true]
  rw [hexValue_digit (Nat.mod_lt _ (by decide)),hexValue_digit (Nat.mod_lt _ (by decide)),
    hexValue_digit (Nat.mod_lt _ (by decide)),hexValue_digit (Nat.mod_lt _ (by decide))]
  omega

theorem char_of_nat (same : c.toNat = n) : Char.ofNat n = c := by rw [← same,Char.ofNat_toNat]

theorem unescape_unicode (small : n < 65536) (plain : n < 55296 ∨ 57344 ≤ n) (rest : List Char) :
    unescapeUnicode (hex4 n ++ rest) = some (Char.ofNat n,rest) := by
  have notHigh : ¬ (55296 ≤ n ∧ n < 56320) := by omega
  simp only [unescapeUnicode,readHex4_hex4 small,Option.bind_eq_bind,Option.bind_some,if_neg notHigh,
    Option.pure_def]

theorem unescape_pair (high : h < 1024) (low : l < 1024) (rest : List Char) :
    unescapeUnicode (hex4 (55296 + h) ++ '\\' :: 'u' :: (hex4 (56320 + l) ++ rest)) =
      some (Char.ofNat (65536 + h * 1024 + l),rest) := by
  have first := readHex4_hex4 (by omega : 55296 + h < 65536) ('\\' :: 'u' :: (hex4 (56320 + l) ++ rest))
  have second := readHex4_hex4 (by omega : 56320 + l < 65536) rest
  have surrogate : 55296 ≤ 55296 + h ∧ 55296 + h < 56320 := by omega
  have upper := Nat.add_sub_cancel_left (n := 55296) (m := h)
  have lower := Nat.add_sub_cancel_left (n := 56320) (m := l)
  simp only [unescapeUnicode,first,Option.bind_eq_bind,Option.bind_some,if_pos surrogate,
    List.drop_succ_cons,List.drop_zero,second,Option.pure_def,upper,lower]

theorem unescape_u (text : List Char) : unescapeChar ('\\' :: 'u' :: text) = unescapeUnicode text := rfl

theorem toNat_range (c : Char) : c.toNat < 55296 ∨ 57344 ≤ c.toNat ∧ c.toNat < 1114112 := by
  rcases c.valid with low | ⟨above,below⟩
  · exact .inl low
  · exact .inr ⟨Nat.succ_le_of_lt above,below⟩

theorem unescape_escape (c : Char) (rest : List Char) :
    unescapeChar (escapeChar c ++ rest) = some (c,rest) := by
  unfold escapeChar
  split
  · next same => subst c; rfl
  split
  · next same => subst c; rfl
  split
  · next same => rw [← char_of_nat same]; rfl
  split
  · next same => rw [← char_of_nat same]; rfl
  split
  · next same => rw [← char_of_nat same]; rfl
  split
  · next same => rw [← char_of_nat same]; rfl
  split
  · next same => rw [← char_of_nat same]; rfl
  split
  · next plain _ _ _ _ _ _ => simp [unescapeChar,plain]
  have range := toNat_range c
  split
  · next small =>
    rw [List.cons_append,List.cons_append,unescape_u,unescape_unicode small (by omega),Char.ofNat_toNat]
  · next large =>
    rw [List.append_assoc,List.cons_append,List.cons_append,List.cons_append,List.cons_append,unescape_u,
      unescape_pair (by omega) (Nat.mod_lt _ (by decide)),char_of_nat (by omega : c.toNat = _)]

theorem escape_inj (same : escapeChar c ++ left = escapeChar d ++ right) : c = d ∧ left = right := by
  have read := unescape_escape c left
  rw [same,unescape_escape d right] at read
  simp only [Option.some.injEq,Prod.mk.injEq] at read
  exact ⟨read.1.symm,read.2.symm⟩

-- No escaped character begins with the closing quote.
theorem escape_not_quote (c : Char) : escapeChar c ++ left ≠ '"' :: right := by
  intro same
  have read := unescape_escape c left
  rw [same] at read
  simp only [unescapeChar,Char.reduceEq,if_false,Option.some.injEq,Prod.mk.injEq] at read
  obtain ⟨rfl,_⟩ := read
  simp [escapeChar] at same

theorem escapeText_inj {xs ys : List Char} (same : escapeText xs ++ '"' :: left = escapeText ys ++ '"' :: right) :
    xs = ys ∧ left = right := by
  induction xs generalizing ys with
  | nil => cases ys with
    | nil => exact ⟨rfl,by simpa [escapeText] using same⟩
    | cons y ys =>
      simp only [escapeText,List.flatMap_cons,List.flatMap_nil,List.append_assoc,List.nil_append] at same
      exact absurd same.symm (escape_not_quote y)
  | cons x xs ih => cases ys with
    | nil =>
      simp only [escapeText,List.flatMap_cons,List.flatMap_nil,List.append_assoc,List.nil_append] at same
      exact absurd same (escape_not_quote x)
    | cons y ys =>
      simp only [escapeText,List.flatMap_cons,List.append_assoc] at same
      obtain ⟨rfl,tails⟩ := escape_inj same
      obtain ⟨rfl,rests⟩ := ih tails
      exact ⟨rfl,rests⟩

theorem quote_inj (same : quote a ++ left = quote b ++ right) : a = b ∧ left = right := by
  simp only [quote,List.cons_append,List.append_assoc,List.cons.injEq,true_and,List.nil_append] at same
  obtain ⟨chars,rests⟩ := escapeText_inj same
  exact ⟨String.toList_injective chars,rests⟩

theorem field_inj (same : dumpField a ++ left = dumpField b ++ right) : a = b ∧ left = right := by
  simp only [dumpField,List.append_assoc,List.cons_append] at same
  obtain ⟨keys,tails⟩ := quote_inj same
  simp only [List.cons.injEq,true_and] at tails
  obtain ⟨values,rests⟩ := quote_inj tails
  exact ⟨Prod.ext keys values,rests⟩

theorem dumpField_head (field : String × String) : ∃ tail, dumpField field = '"' :: tail :=
  ⟨_,by simp only [dumpField,quote,List.cons_append]; rfl⟩

-- What follows the first field: the closing brace, or a comma and the other fields.
def fieldsTail : List (String × String) → List Char
  | [] => [Char.ofNat 125]
  | next :: rest => ',' :: ' ' :: (dumpFields (next :: rest) ++ [Char.ofNat 125])

theorem dumpFields_cons (field : String × String) (rest : List (String × String)) :
    dumpFields (field :: rest) ++ [Char.ofNat 125] = dumpField field ++ fieldsTail rest := by
  cases rest <;> simp [dumpFields,fieldsTail]

theorem dumpFields_inj {xs ys : List (String × String)}
    (same : dumpFields xs ++ [Char.ofNat 125] = dumpFields ys ++ [Char.ofNat 125]) : xs = ys := by
  induction xs generalizing ys with
  | nil => cases ys with
    | nil => rfl
    | cons y ys =>
      obtain ⟨tail,head⟩ := dumpField_head y
      cases ys <;> simp [dumpFields,head] at same
  | cons x xs ih => cases ys with
    | nil =>
      obtain ⟨tail,head⟩ := dumpField_head x
      cases xs <;> simp [dumpFields,head] at same
    | cons y ys =>
      have parts : x = y ∧ fieldsTail xs = fieldsTail ys := by
        rw [dumpFields_cons,dumpFields_cons] at same
        exact field_inj same
      obtain ⟨rfl,tails⟩ := parts
      cases xs with
      | nil => cases ys with
        | nil => rfl
        | cons z zs => simp [fieldsTail] at tails
      | cons w ws => cases ys with
        | nil => simp [fieldsTail] at tails
        | cons z zs =>
          simp only [fieldsTail,List.cons.injEq,true_and] at tails
          rw [ih tails]

theorem dumpObject_inj (same : dumpObject xs = dumpObject ys) : xs = ys :=
  dumpFields_inj (List.cons.inj same).2

-- A reader's state: inside a quoted string or not, and whether a backslash came just before.
def scanStep (state : Bool × Bool) (c : Char) : Bool × Bool :=
  if state.2 then (state.1,false)
  else if c = '\\' then (state.1,true)
  else if c = '"' then (!state.1,false)
  else (state.1,false)

def scan (state : Bool × Bool) (cs : List Char) : Bool × Bool := cs.foldl scanStep state

@[simp] theorem scan_nil (state : Bool × Bool) : scan state [] = state := rfl
@[simp] theorem scan_cons (state : Bool × Bool) (c : Char) (cs : List Char) :
    scan state (c :: cs) = scan (scanStep state c) cs := rfl
@[simp] theorem scan_append (state : Bool × Bool) (xs ys : List Char) :
    scan state (xs ++ ys) = scan (scan state xs) ys := by simp [scan]

-- Escapes do not depend on the quoting, so the two readings of one text stay opposite.
theorem scan_flip (quoted escaped : Bool) (cs : List Char) :
    scan (!quoted,escaped) cs = (!(scan (quoted,escaped) cs).1,(scan (quoted,escaped) cs).2) := by
  induction cs generalizing quoted escaped with
  | nil => rfl
  | cons c cs ih =>
    have step : scanStep (!quoted,escaped) c =
        (!(scanStep (quoted,escaped) c).1,(scanStep (quoted,escaped) c).2) := by
      unfold scanStep; split <;> [rfl; (split <;> [rfl; (split <;> rfl)])]
    rw [scan_cons,step,ih]; rfl

theorem scan_digit (small : n < 16) (quoted : Bool) : scanStep (quoted,false) (hexDigit n) = (quoted,false) := by
  have all : ∀ (k : Fin 16) (q : Bool), scanStep (q,false) (hexDigit k.val) = (q,false) := by decide
  exact all ⟨n,small⟩ quoted

theorem scan_unicode (n : Nat) (quoted : Bool) : scan (quoted,false) ('\\' :: 'u' :: hex4 n) = (quoted,false) := by
  have opened : scanStep (scanStep (quoted,false) '\\') 'u' = (quoted,false) := rfl
  simp only [scan_cons,opened,hex4,scan_nil,scan_digit (Nat.mod_lt _ (by decide : 0 < 16))]

theorem scan_escape (c : Char) (quoted : Bool) : scan (quoted,false) (escapeChar c) = (quoted,false) := by
  unfold escapeChar
  split
  · rfl
  split
  · rfl
  split
  · rfl
  split
  · rfl
  split
  · rfl
  split
  · rfl
  split
  · rfl
  split
  · next notQuote notSlash _ _ _ _ _ _ => simp [scanStep,notQuote,notSlash]
  split
  · exact scan_unicode _ _
  · rw [scan_append,scan_unicode,scan_unicode]

theorem scan_escapeText (cs : List Char) (quoted : Bool) : scan (quoted,false) (escapeText cs) = (quoted,false) := by
  induction cs with
  | nil => rfl
  | cons c cs ih => rw [escapeText,List.flatMap_cons,scan_append,scan_escape]; exact ih

@[simp] theorem scan_quote (s : String) : scan (false,false) (quote s) = (false,false) := by
  have opened : scanStep (false,false) '"' = (true,false) := rfl
  rw [quote,scan_cons,opened,scan_append,scan_escapeText]; rfl

-- Outside quotes a colon is followed by a blank. Inside quotes nothing is asked.
def Spaced : Bool × Bool → List Char → Prop
  | _,[] => True
  | state,c :: rest => (state.1 = false → c = ':' → rest.head? = some ' ') ∧ Spaced (scanStep state c) rest

theorem Spaced.append (left : Spaced state xs) (right : Spaced (scan state xs) ys) : Spaced state (xs ++ ys) := by
  induction xs generalizing state with
  | nil => exact right
  | cons x xs ih =>
    refine ⟨?_,ih left.2 right⟩
    intro outside colon
    have blank := left.1 outside colon
    cases xs with
    | nil => cases blank
    | cons y ys => exact blank

theorem Spaced.follow (spaced : Spaced state (before ++ ':' :: after)) (outside : (scan state before).1 = false) :
    after.head? = some ' ' := by
  induction before generalizing state with
  | nil => exact spaced.1 outside rfl
  | cons c before ih => exact ih spaced.2 outside

theorem spaced_unicode (n : Nat) : Spaced (true,false) ('\\' :: 'u' :: hex4 n) := by
  have opened : scanStep (scanStep (true,false) '\\') 'u' = (true,false) := rfl
  refine ⟨by simp,by simp [scanStep],?_⟩
  rw [opened]
  simp only [hex4,Spaced,scan_digit (Nat.mod_lt _ (by decide : 0 < 16)),Bool.true_eq_false,false_implies,and_self]

theorem spaced_escape (c : Char) : Spaced (true,false) (escapeChar c) := by
  have short (d : Char) : Spaced (true,false) ['\\',d] := ⟨by simp,by simp [scanStep],trivial⟩
  unfold escapeChar
  split
  · exact short _
  split
  · exact short _
  split
  · exact short _
  split
  · exact short _
  split
  · exact short _
  split
  · exact short _
  split
  · exact short _
  split
  · exact ⟨by simp,trivial⟩
  split
  · exact spaced_unicode _
  · exact (spaced_unicode _).append (by rw [scan_unicode]; exact spaced_unicode _)

theorem spaced_escapeText (cs : List Char) : Spaced (true,false) (escapeText cs) := by
  induction cs with
  | nil => trivial
  | cons c cs ih =>
    rw [escapeText,List.flatMap_cons]
    exact (spaced_escape c).append (by rw [scan_escape]; exact ih)

theorem spaced_quote (s : String) : Spaced (false,false) (quote s) := by
  have opened : scanStep (false,false) '"' = (true,false) := rfl
  refine ⟨by simp,?_⟩
  rw [opened]
  exact (spaced_escapeText _).append (by rw [scan_escapeText]; exact ⟨by simp,trivial⟩)

theorem field_reads (field : String × String) :
    Spaced (false,false) (dumpField field) ∧ scan (false,false) (dumpField field) = (false,false) := by
  have between : scan (false,false) [':',' '] = (false,false) := rfl
  have text : dumpField field = quote field.1 ++ ([':',' '] ++ quote field.2) := rfl
  have blank : Spaced (false,false) [':',' '] := by simp [Spaced]
  rw [text]
  refine ⟨(spaced_quote _).append ?_,by rw [scan_append,scan_quote,scan_append,between,scan_quote]⟩
  rw [scan_quote]
  exact blank.append (by rw [between]; exact spaced_quote _)

theorem fields_read (fields : List (String × String)) :
    Spaced (false,false) (dumpFields fields) ∧ scan (false,false) (dumpFields fields) = (false,false) := by
  induction fields with
  | nil => exact ⟨trivial,rfl⟩
  | cons field rest ih => cases rest with
    | nil => exact field_reads field
    | cons next rest =>
      have comma : scan (false,false) [',',' '] = (false,false) := rfl
      have text : dumpFields (field :: next :: rest) =
          dumpField field ++ ([',',' '] ++ dumpFields (next :: rest)) := rfl
      obtain ⟨spaced,ends⟩ := field_reads field
      rw [text]
      refine ⟨spaced.append ?_,by rw [scan_append,ends,scan_append,comma]; exact ih.2⟩
      rw [ends]
      exact Spaced.append (by simp [Spaced]) (by rw [comma]; exact ih.1)

theorem object_reads (fields : List (String × String)) :
    Spaced (false,false) (dumpObject fields) ∧ scan (false,false) (dumpObject fields) = (false,false) := by
  obtain ⟨spaced,ends⟩ := fields_read fields
  have opened : scanStep (false,false) (Char.ofNat 123) = (false,false) := rfl
  refine ⟨⟨fun _ colon => absurd colon (by decide),?_⟩,by rw [dumpObject,scan_cons,opened,scan_append,ends]; rfl⟩
  rw [opened]
  exact spaced.append (by rw [ends]; exact ⟨fun _ colon => absurd colon (by decide),trivial⟩)

-- No dumped object ends in a colon followed by another whole one: inside a key the quotes
-- left over would be odd, and outside one a colon is followed by a blank.
theorem no_inner_dump (xs ys : List (String × String)) (before : List Char) :
    dumpObject xs ≠ before ++ ':' :: dumpObject ys := by
  intro same
  obtain ⟨spaced,ends⟩ := object_reads xs
  rw [same] at spaced ends
  cases inside : (scan (false,false) before).1 with
  | false => cases spaced.follow inside
  | true =>
    rw [scan_append,scan_cons] at ends
    have colon : scanStep (scan (false,false) before) ':' = (true,false) := by
      generalize scan (false,false) before = state at inside
      obtain ⟨quoted,escaped⟩ := state
      cases inside
      cases escaped <;> rfl
    rw [colon,show (true,false) = (!false,false) from rfl,scan_flip,(object_reads ys).2] at ends
    cases ends

-- A name and a dumped object joined by a colon, whatever the name contains.
theorem joined_inj {left right : List Char} {xs ys : List (String × String)}
    (same : left ++ ':' :: dumpObject xs = right ++ ':' :: dumpObject ys) : left = right ∧ xs = ys := by
  rcases List.append_eq_append_iff.mp same with ⟨extra,longer,rest⟩ | ⟨extra,longer,rest⟩
  · cases extra with
    | nil => exact ⟨by rw [longer,List.append_nil],dumpObject_inj (List.cons.inj rest).2⟩
    | cons c extra => exact absurd (List.cons.inj rest).2 (no_inner_dump _ _ _)
  · cases extra with
    | nil => exact ⟨by rw [longer,List.append_nil],(dumpObject_inj (List.cons.inj rest).2).symm⟩
    | cons c extra => exact absurd (List.cons.inj rest).2 (no_inner_dump _ _ _)

end Sophia.JsonText
