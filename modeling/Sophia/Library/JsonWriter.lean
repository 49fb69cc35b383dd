import Sophia.Library.JsonText
import Sophia.Library.JsonReader

namespace Sophia.JsonWriter
open JsonGrammar

-- A number with a fraction or an exponent
def FloatText (text : String) : Prop :=
  ∃ n : Numeral, n.WellFormed ∧ ¬ (n.fraction = [] ∧ n.exponent = []) ∧ text.toList = n.chars

-- float on the text of a number, and float.__repr__, whose text is read as the float it was written for
structure Floats where
  parse : String → Except PyError Json
  repr : ℚ → String
  reads : ∀ text value, parse text = .ok value →
    ∃ x, value = .float x ∧ parse (repr x) = .ok (.float x) ∧ FloatText (repr x)

-- json.loads without hooks. NaN and the infinities are no Json here.
def Floats.hooks (floats : Floats) : Hooks where
  parseInt := Hooks.exact.parseInt
  parseFloat := floats.parse
  parseConstant _ := .error .valueError

-- json.dumps: ensure_ascii, and a blank behind every comma and every colon
mutual

def dumpValue (repr : ℚ → String) : Json → List Char
  | .null => "null".toList
  | .bool value => (if value then "true" else "false").toList
  | .int value => (toString value).toList
  | .float value => (repr value).toList
  | .str value => JsonText.quote value
  | .arr items => '[' :: dumpItems repr items
  | .obj fields => openBrace :: dumpMembers repr fields

def dumpItems (repr : ℚ → String) : List Json → List Char
  | [] => [']']
  | [item] => dumpValue repr item ++ [']']
  | item :: next :: rest => dumpValue repr item ++ ',' :: ' ' :: dumpItems repr (next :: rest)

def dumpMembers (repr : ℚ → String) : List (String × Json) → List Char
  | [] => [closeBrace]
  | [(key,value)] => JsonText.quote key ++ ':' :: ' ' :: dumpValue repr value ++ [closeBrace]
  | (key,value) :: next :: rest =>
    JsonText.quote key ++ ':' :: ' ' :: dumpValue repr value ++ ',' :: ' ' :: dumpMembers repr (next :: rest)

end

def dumps (repr : ℚ → String) (value : Json) : String := String.ofList (dumpValue repr value)

theorem hexValue_digit (small : n < 16) : hexValue (JsonText.hexDigit n) = some n := by
  have all : ∀ k : Fin 16, hexValue (JsonText.hexDigit k.val) = some k.val := by decide
  exact all ⟨n,small⟩

theorem readHex_hex4 (small : n < 65536) : readHex (JsonText.hex4 n) = some (n,[]) := by
  simp only [JsonText.hex4,readHex,hexValue_digit (Nat.mod_lt _ (by decide : 0 < 16)),Option.bind_eq_bind,
    Option.bind_some,Option.pure_def,Option.some.injEq,Prod.mk.injEq,and_true]
  omega

theorem escapeChar_reads (c : Char) : CharText c (JsonText.escapeChar c) := by
  have short {mark : Char} {n : Nat} (same : c.toNat = n) (listed : (mark,Char.ofNat n) ∈ shortEscapes) :
      CharText c ['\\',mark] := by
    rw [JsonText.char_of_nat same] at listed
    exact .short listed
  unfold JsonText.escapeChar
  split
  · next same => subst c; exact .short (by decide)
  split
  · next same => subst c; exact .short (by decide)
  split
  · next same => exact short same (by decide)
  split
  · next same => exact short same (by decide)
  split
  · next same => exact short same (by decide)
  split
  · next same => exact short same (by decide)
  split
  · next same => exact short same (by decide)
  split
  · next notQuote notSlash _ _ _ _ _ printed => exact .plain notQuote notSlash printed.1
  have range := JsonText.toNat_range c
  split
  · next small =>
    have high : isHigh c.toNat = false := by simp [isHigh]; omega
    have low : isLow c.toNat = false := by simp [isLow]; omega
    have read := CharText.unicode (readHex_hex4 small) high low
    rwa [Char.ofNat_toNat] at read
  · next large =>
    have first := readHex_hex4 (by omega : 55296 + (c.toNat - 65536) / 1024 < 65536)
    have second := readHex_hex4 (by omega : 56320 + (c.toNat - 65536) % 1024 < 65536)
    have read := CharText.pair first (by simp [isHigh]; omega) second (by simp [isLow]; omega)
    have joined : joinPair (55296 + (c.toNat - 65536) / 1024) (56320 + (c.toNat - 65536) % 1024) = c.toNat := by
      unfold joinPair
      omega
    rwa [joined,Char.ofNat_toNat] at read

theorem escapeText_reads (cs : List Char) : StringText cs (JsonText.escapeText cs) := by
  induction cs with
  | nil => exact .nil
  | cons c cs ih => exact .cons (escapeChar_reads c) ih

theorem toDigits_leads (positive : 0 < n) : ∃ c ds, Nat.toDigits 10 n = c :: ds ∧ c ≠ '0' := by
  induction n using Nat.strongRecOn with
  | ind n ih =>
    by_cases small : n < 10
    · have leads : ∀ k : Fin 10, 0 < k.val → k.val.digitChar ≠ '0' := by decide
      exact ⟨n.digitChar,[],Nat.toDigits_of_lt_base small,leads ⟨n,small⟩ positive⟩
    · obtain ⟨c,ds,same,leads⟩ := ih (n / 10) (by omega) (by omega)
      refine ⟨c,ds ++ [(n % 10).digitChar],?_,leads⟩
      rw [Nat.toDigits_of_base_le (by decide) (by omega),same,List.cons_append]

theorem toDigits_digits (n : Nat) : Digits (Nat.toDigits 10 n) :=
  ⟨Nat.toDigits_ne_nil,fun _ present => Nat.isDigit_of_mem_toDigits (by decide) (by decide) present⟩

theorem toDigits_whole (n : Nat) : Whole (Nat.toDigits 10 n) := by
  rcases Nat.eq_zero_or_pos n with rfl | positive
  · exact .inl (Nat.toDigits_zero 10)
  · obtain ⟨c,ds,same,leads⟩ := toDigits_leads positive
    exact .inr ⟨c,ds,same,leads,same ▸ toDigits_digits n⟩

-- The numeral that str(value) writes
def numeralOf (value : Int) : Numeral := ⟨if value < 0 then ['-'] else [],Nat.toDigits 10 value.natAbs,[],[]⟩

theorem numeralOf_formed (value : Int) : (numeralOf value).WellFormed := by
  refine ⟨?_,toDigits_whole _,.inl rfl,.inl rfl⟩
  unfold numeralOf
  split
  · exact .inr rfl
  · exact .inl rfl

theorem toString_numeral (value : Int) : (toString value).toList = (numeralOf value).chars := by
  unfold numeralOf Numeral.chars
  cases value with
  | ofNat n =>
    rw [if_neg (Int.not_lt.mpr (Int.natCast_nonneg n) : ¬ Int.ofNat n < 0)]
    simp [toString,Int.repr]
  | negSucc n =>
    rw [if_pos (by omega)]
    simp [toString,Int.repr]

theorem digitsValue_toDigits (n : Nat) : digitsValue (Nat.toDigits 10 n) = n := Nat.ofDigitChars_ten_toDigits

theorem digitsValue_lt {ds : List Char} (digits : ∀ c ∈ ds, c.isDigit = true) : digitsValue ds < 10 ^ ds.length := by
  induction ds using List.reverseRecOn with
  | nil => decide
  | append_singleton ds c ih =>
    have before := ih fun d present => digits d (List.mem_append_left _ present)
    have last := digits c (List.mem_append_right _ List.mem_cons_self)
    have small : c.toNat - 48 ≤ 9 := by
      simp [Char.isDigit,UInt32.le_iff_toNat_le] at last
      omega
    have value : digitsValue (ds ++ [c]) = 10 * digitsValue ds + (c.toNat - 48) := by simp [digitsValue]
    rw [value,List.length_append,List.length_singleton,Nat.pow_succ]
    omega

-- A number is written with no more digits than it was read from.
theorem toDigits_short {ds : List Char} (digits : ∀ c ∈ ds, c.isDigit = true) (positive : 0 < limit)
    (short : ds.length ≤ limit) : (Nat.toDigits 10 (digitsValue ds)).length ≤ limit := by
  rw [Nat.length_toDigits_le_iff (by decide) positive]
  exact lt_of_lt_of_le (digitsValue_lt digits) (Nat.pow_le_pow_right (by decide) short)

theorem numeral_filter (value : Int) : (numeralOf value).chars.filter Char.isDigit = Nat.toDigits 10 value.natAbs := by
  have kept := List.filter_eq_self.mpr (toDigits_digits value.natAbs).2
  unfold numeralOf Numeral.chars
  split <;> simp [kept]

theorem numeral_signed (value : Int) : (numeralOf value).chars.head? = some '-' ↔ value < 0 := by
  obtain ⟨d,others,same,digit⟩ := (toDigits_digits value.natAbs).opens
  unfold numeralOf Numeral.chars
  split
  · next negative => simp [negative]
  · next positive =>
    have apart : d ≠ '-' := JsonReader.digit_ne digit (by decide)
    simp [positive,same,apart]

-- An integer that was read can be written and read again.
theorem parseInt_again (read : Hooks.exact.parseInt text = .ok (.int value)) :
    Hooks.exact.parseInt (toString value) = .ok (.int value) := by
  simp only [Hooks.exact] at read ⊢
  split at read
  · cases read
  next short =>
    have magnitude : value.natAbs = digitsValue (text.toList.filter Char.isDigit) := by
      simp only [Except.ok.injEq,Json.int.injEq] at read
      rw [← read]
      split <;> omega
    have digits : ∀ c ∈ text.toList.filter Char.isDigit, c.isDigit = true := fun c present => List.of_mem_filter present
    have written : (Nat.toDigits 10 value.natAbs).length ≤ 4300 := by
      rw [magnitude]
      exact toDigits_short digits (by decide) (not_lt.mp short)
    rw [toString_numeral,numeral_filter,if_neg (not_lt.mpr written),digitsValue_toDigits]
    simp only [numeral_signed]
    congr 2
    split <;> omega

section
variable {floats : Floats}

-- A value that can be written and read again: its numbers can, and no object has a key twice.
inductive Writable (floats : Floats) : Json → Prop where
  | null : Writable floats .null
  | bool : Writable floats (.bool b)
  | int : Hooks.exact.parseInt (toString value) = .ok (.int value) → Writable floats (.int value)
  | float : floats.parse (floats.repr x) = .ok (.float x) → FloatText (floats.repr x) → Writable floats (.float x)
  | str : Writable floats (.str s)
  | arr : (∀ item ∈ items, Writable floats item) → Writable floats (.arr items)
  | obj : (fields.map Prod.fst).Nodup → (∀ field ∈ fields, Writable floats field.2) → Writable floats (.obj fields)

theorem gap_blanks : Blanks [] := fun _ present => by cases present
theorem space_blanks : Blanks [' '] := fun c present => by cases List.mem_singleton.mp present; rfl

theorem quote_reads (s : String) (rest : List Char) :
    StringText s.toList (JsonText.escapeText s.toList) ∧
      JsonText.quote s ++ rest = '"' :: (JsonText.escapeText s.toList ++ '"' :: rest) :=
  ⟨escapeText_reads _,by simp [JsonText.quote]⟩

theorem items_render {items : List Json} (some : items ≠ [])
    (each : ∀ item ∈ items, Renders floats.hooks (.value item) (dumpValue floats.repr item)) :
    Renders floats.hooks (.items items) (dumpItems floats.repr items) := by
  induction items with
  | nil => exact absurd rfl some
  | cons item rest ih =>
    obtain ⟨first,later⟩ := List.forall_mem_cons.mp each
    cases rest with
    | nil => exact .lastItem first gap_blanks
    | cons next rest => exact .moreItems first gap_blanks space_blanks (ih (List.cons_ne_nil _ _) later)

theorem member_renders {key : String} {value : Json} (renders : Renders floats.hooks (.value value) text) :
    Renders floats.hooks (.member (key,value)) (JsonText.quote key ++ ':' :: ' ' :: text) := by
  obtain ⟨reads,same⟩ := quote_reads key (':' :: ' ' :: text)
  rw [same]
  exact .member reads gap_blanks space_blanks renders

theorem members_render {fields : List (String × Json)} (some : fields ≠ [])
    (each : ∀ field ∈ fields, Renders floats.hooks (.value field.2) (dumpValue floats.repr field.2)) :
    Renders floats.hooks (.members fields) (dumpMembers floats.repr fields) := by
  induction fields with
  | nil => exact absurd rfl some
  | cons field rest ih =>
    obtain ⟨first,later⟩ := List.forall_mem_cons.mp each
    cases rest with
    | nil => exact .lastMember (member_renders first) gap_blanks
    | cons next rest =>
      exact .moreMembers (member_renders first) gap_blanks space_blanks (ih (List.cons_ne_nil _ _) later)

-- Every value that can be written is, as a rendering of itself.
theorem dumpValue_renders (writable : Writable floats value) :
    Renders floats.hooks (.value value) (dumpValue floats.repr value) := by
  induction writable with
  | null => exact .null
  | bool => exact .bool
  | @int value again =>
    rw [dumpValue,toString_numeral]
    refine .number (numeralOf_formed value) ?_
    rw [Hooks.number,if_pos ⟨rfl,rfl⟩,← toString_numeral,String.ofList_toList]
    exact again
  | @float x again written =>
    obtain ⟨n,formed,broken,same⟩ := written
    rw [dumpValue,same]
    refine .number formed ?_
    rw [Hooks.number,if_neg broken,← same,String.ofList_toList]
    exact again
  | @str s => exact .string (escapeText_reads _)
  | @arr items _ ih =>
    rw [dumpValue]
    cases items with
    | nil => exact .emptyArray gap_blanks
    | cons item rest => exact .array gap_blanks (items_render (List.cons_ne_nil _ _) ih)
  | @obj fields distinct _ ih =>
    rw [dumpValue]
    cases fields with
    | nil => exact .emptyObject gap_blanks
    | cons field rest =>
      have read := Renders.object gap_blanks (members_render (List.cons_ne_nil _ _) ih)
      rwa [PyDict.ofList_entries distinct] at read

theorem number_writable {n : Numeral} (converted : floats.hooks.number n = .ok value) : Writable floats value := by
  unfold Hooks.number at converted
  split at converted
  · have read : Hooks.exact.parseInt (String.ofList n.chars) = .ok value := converted
    have integer : ∃ k, value = .int k := by
      simp only [Hooks.exact] at read
      split at read
      · cases read
      · cases read
        exact ⟨_,rfl⟩
    obtain ⟨k,rfl⟩ := integer
    exact .int (parseInt_again read)
  · obtain ⟨x,rfl,again,written⟩ := floats.reads _ _ converted
    exact .float again written

theorem atom_writable (read : JsonReader.readAtom floats.hooks text = .ok (value,rest)) : Writable floats value := by
  unfold JsonReader.readAtom at read
  split at read
  · next name constant found =>
    obtain ⟨known,named,read⟩ := except_bind.mp read
    cases read
    have listed := List.mem_of_find?_eq_some found
    simp only [JsonReader.constants,List.mem_cons,Prod.mk.injEq,List.not_mem_nil,or_false] at listed
    rcases listed with ⟨_,rfl⟩ | ⟨_,rfl⟩ | ⟨_,rfl⟩ | ⟨_,rfl⟩ | ⟨_,rfl⟩ | ⟨_,rfl⟩
    · cases named; exact .null
    · cases named; exact .bool
    · cases named; exact .bool
    all_goals cases named
  · unfold JsonReader.readNumber at read
    dsimp only at read
    split at read
    · cases read
    · obtain ⟨known,converted,read⟩ := except_bind.mp read
      cases read
      exact number_writable converted

section
variable {α : Type} {readOne : List Char → Except PyError (α × List Char)} {closing : Char} {p : α → Prop}

theorem elements_all (each : ∀ text x rest, readOne text = .ok (x,rest) → p x) (fuel : Nat) {xs : List α}
    (read : JsonReader.readElements readOne closing fuel text = .ok (xs,rest)) : ∀ x ∈ xs, p x := by
  induction fuel generalizing text xs rest with
  | zero => cases read
  | succ fuel ih =>
    obtain ⟨⟨first,after⟩,one,read⟩ := except_bind.mp read
    obtain ⟨⟨last,behind⟩,_,read⟩ := except_bind.mp read
    have holds := each _ _ _ one
    cases last with
    | true =>
      cases read
      exact List.forall_mem_singleton.mpr holds
    | false =>
      obtain ⟨⟨others,ends⟩,later,read⟩ := except_bind.mp read
      cases read
      exact List.forall_mem_cons.mpr ⟨holds,ih later⟩

theorem body_all (each : ∀ text x rest, readOne text = .ok (x,rest) → p x) {xs : List α}
    (read : JsonReader.readBody readOne closing text = .ok (xs,rest)) : ∀ x ∈ xs, p x := by
  unfold JsonReader.readBody at read
  split at read
  · cases read
    exact fun x present => by cases present
  · exact elements_all each _ read

end

-- What is read can be written and read again.
theorem readValue_writable (fuel : Nat) (read : JsonReader.readValue floats.hooks fuel text = .ok (value,rest)) :
    Writable floats value := by
  induction fuel generalizing text value rest with
  | zero => cases read
  | succ fuel ih =>
    cases text with
    | nil => cases read
    | cons c behind =>
      rw [JsonReader.readValue] at read
      split at read
      · obtain ⟨_,_,read⟩ := except_bind.mp read
        cases read
        exact .str
      split at read
      · obtain ⟨⟨items,after⟩,body,read⟩ := except_bind.mp read
        cases read
        exact .arr (body_all (fun _ _ _ one => ih one) body)
      split at read
      · obtain ⟨⟨members,after⟩,body,read⟩ := except_bind.mp read
        cases read
        have each : ∀ member ∈ members, Writable floats member.2 := by
          refine body_all (fun text member rest one => ?_) body
          obtain ⟨quoted,_,one⟩ := except_bind.mp one
          obtain ⟨⟨chars,after⟩,_,one⟩ := except_bind.mp one
          obtain ⟨next,_,one⟩ := except_bind.mp one
          obtain ⟨⟨value,last⟩,inner,one⟩ := except_bind.mp one
          cases one
          exact ih inner
        refine .obj (PyDict.ofList members).distinct fun field present => ?_
        exact each _ (PyDict.mem_ofList (PyDict.mem_entries.mp present))
      · exact atom_writable read

theorem loads_writable (read : JsonReader.loads floats.hooks text = .ok value) : Writable floats value := by
  unfold JsonReader.loads at read
  split at read
  · cases read
  obtain ⟨⟨found,rest⟩,inner,read⟩ := except_bind.mp read
  dsimp only at read
  split at read
  · cases read
    exact readValue_writable _ inner
  · cases read

theorem loads_dumps (writable : Writable floats value) :
    JsonReader.loads floats.hooks (dumps floats.repr value) = .ok value :=
  JsonReader.loads_renders (dumpValue_renders writable) gap_blanks gap_blanks (by simp [dumps])

theorem Writable.lookup {fields : List (String × Json)} (writable : Writable floats (.obj fields))
    (found : fields.lookup key = some value) : Writable floats value := by
  cases writable with
  | obj distinct each => exact each (key,value) ((PyDict.mem_entries (d := ⟨fields,distinct⟩)).mpr found)

theorem Writable.iterate (writable : Writable floats value) (iterated : value.iterate = .ok items) :
    ∀ item ∈ items, Writable floats item := by
  cases writable with
  | str =>
    cases iterated
    intro item present
    obtain ⟨c,_,rfl⟩ := List.mem_map.mp present
    exact .str
  | arr each =>
    cases iterated
    exact each
  | obj distinct each =>
    cases iterated
    intro item present
    obtain ⟨field,_,rfl⟩ := List.mem_map.mp present
    exact .str
  | _ => cases iterated

end

end Sophia.JsonWriter
