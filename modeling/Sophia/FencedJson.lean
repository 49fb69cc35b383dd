import Sophia.Library.JsonReader
import Sophia.Library.TextLines

namespace Sophia.InputGate
open PyText TextLines JsonGrammar JsonReader

-- The lines before the closing fence, or all of them
def untilFence : List String → List String
  | [] => []
  | line :: rest => if strip line = "```" then [] else line :: untilFence rest

-- _extract_json
def extractJson (response : String) : String :=
  let text := strip response
  if "```".toList.isPrefixOf text.toList then join "\n" (untilFence (splitLines text).tail) else text

-- json.loads(_extract_json(response)), as every stage reads what the LLM answered
def parseResponse (hooks : Hooks) (response : String) : Except PyError Json := loads hooks (extractJson response)

def LineEnd (ends : List Char) : Prop := ends = ['\n'] ∨ ends = ['\r','\n']

def fence : List Char := "```".toList

-- The lines of a fenced block, with the closing fence or without
inductive Fenced (document : List Char) : List Char → Prop where
  | closed : '\n' ∉ info → LineEnd first → LineEnd last → Spaces indent → '\n' ∉ indent → Spaces margin →
    '\n' ∉ margin → (after = [] ∨ ∃ ends more, after = ends ++ more ∧ LineEnd ends) →
    Fenced document (fence ++ info ++ first ++ (document ++ last) ++ (indent ++ fence ++ margin ++ after))
  | unclosed : '\n' ∉ info → LineEnd first → Fenced document (fence ++ info ++ first ++ document)

section
variable {hooks : Hooks} {piece : Piece} {text document info cs : List Char} {c : Char}

def tick : Char := Char.ofNat 96

theorem fence_ticks : fence = [tick,tick,tick] := rfl

theorem digit_solid (digit : c.isDigit = true) : isSpace c = false ∧ c ≠ tick := by
  have bounds : 48 ≤ c.toNat ∧ c.toNat ≤ 57 := by
    simpa [Char.isDigit,UInt32.le_iff_toNat_le] using digit
  refine ⟨?_,?_⟩
  · simp only [isSpace,Bool.or_eq_false_iff,Bool.and_eq_false_iff,decide_eq_false_iff_not]
    omega
  · exact digit_ne digit (by decide)

theorem opener_visible (opening : opener c = true) : isSpace c = false ∧ c ≠ tick := by
  simp only [opener,Bool.or_eq_true,List.contains_iff_mem,List.mem_cons,List.not_mem_nil,or_false] at opening
  rcases opening with digit | rfl | rfl | rfl | rfl | rfl | rfl | rfl
  · exact digit_solid digit
  all_goals decide

theorem closer_visible (closing : closer c = true) : isSpace c = false := by
  simp only [closer,Bool.or_eq_true,List.contains_iff_mem,List.mem_cons,List.not_mem_nil,or_false] at closing
  rcases closing with digit | rfl | rfl | rfl | rfl | rfl
  · exact (digit_solid digit).1
  all_goals decide

theorem sign_ticks {cs : List Char} (sign : cs = [] ∨ cs = ['+'] ∨ cs = ['-']) : ∀ c ∈ cs, c ≠ tick := by
  rcases sign with rfl | rfl | rfl <;> simp [tick]

theorem digits_ticks (digits : Digits cs) : ∀ c ∈ cs, c ≠ tick := fun c present => (digit_solid (digits.2 c present)).2

theorem numeral_ticks {n : Numeral} (formed : n.WellFormed) : ∀ c ∈ n.chars, c ≠ tick := by
  intro c present
  simp only [Numeral.chars,List.mem_append] at present
  rcases present with ((sign | whole) | fraction) | exponent
  · rcases formed.sign with none | minus
    · simp [none] at sign
    · exact sign_ticks (.inr (.inr minus)) c sign
  · exact digits_ticks formed.whole.digits c whole
  · rcases formed.fraction with none | ⟨ds,some,digits⟩
    · simp [none] at fraction
    · rw [some,List.mem_cons] at fraction
      rcases fraction with rfl | within
      · decide
      · exact digits_ticks digits c within
  · rcases formed.exponent with none | ⟨d,sign,ds,some,letter,signed,digits⟩
    · simp [none] at exponent
    · rw [some,List.mem_cons,List.mem_append] at exponent
      rcases exponent with rfl | within | within
      · rcases letter with rfl | rfl <;> decide
      · exact sign_ticks signed c within
      · exact digits_ticks digits c within

theorem blanks_ticks (blanks : Blanks cs) : ∀ c ∈ cs, c ≠ tick := by
  rintro c present rfl
  cases blanks _ present

theorem blank_space (blank : isBlank c = true) : isSpace c = true := by
  simp only [isBlank,Bool.or_eq_true,decide_eq_true_eq] at blank
  rcases blank with ((rfl | rfl) | rfl) | rfl <;> rfl

theorem hex_unbroken {hex : List Char} {n : Nat} (reads : readHex hex = some (n,[])) : '\n' ∉ hex := by
  unfold readHex at reads
  split at reads
  · next a b c d rest =>
    have digits :
        rest = [] ∧ (hexValue a).isSome ∧ (hexValue b).isSome ∧ (hexValue c).isSome ∧ (hexValue d).isSome := by
      cases first : hexValue a <;> cases second : hexValue b <;> cases third : hexValue c <;>
        cases last : hexValue d <;> simp_all
    obtain ⟨rfl,first,second,third,last⟩ := digits
    simp only [List.mem_cons,List.not_mem_nil,or_false]
    rintro (rfl | rfl | rfl | rfl)
    · cases first
    · cases second
    · cases third
    · cases last
  · cases reads

theorem char_unbroken (chars : CharText c text) : '\n' ∉ text := by
  cases chars with
  | plain _ _ printed =>
    rw [List.mem_singleton]
    rintro rfl
    exact absurd printed (by decide)
  | @short mark _ listed =>
    have marks : ∀ entry ∈ shortEscapes, '\n' ≠ entry.1 := by decide
    simp [marks _ listed]
  | unicode reads _ _ => simp [hex_unbroken reads]
  | pair reads _ next _ => simp [hex_unbroken reads,hex_unbroken next]

theorem string_unbroken (chars : StringText cs text) : '\n' ∉ text := by
  induction chars with
  | nil => exact List.not_mem_nil
  | cons first _ ih =>
    rw [List.mem_append,not_or]
    exact ⟨char_unbroken first,ih⟩

theorem cons_behind (other : c ≠ tick) (behind : Behind tick false cs) : Behind tick false (c :: cs) :=
  ⟨fun same => absurd same other,behind.weaken nofun⟩

theorem gap_behind {gap : List Char} (blanks : Blanks gap) (behind : Behind tick false cs) :
    Behind tick false (gap ++ cs) :=
  (behind_of_absent (blanks_ticks blanks) _).append behind

-- Only strings have ticks, and their opening quote stands on the same line.
theorem quoted_behind (chars : StringText cs text) {rest : List Char} (behind : Behind tick false rest) :
    Behind tick false ('"' :: (text ++ '"' :: rest)) :=
  ⟨fun same => absurd same (by decide),
    (behind_of_quoted (string_unbroken chars)).append (cons_behind (by decide) behind)⟩

theorem renders_behind (renders : Renders hooks piece text) : Behind tick false text := by
  induction renders with
  | null => exact behind_of_absent (by simp [tick]) _
  | @bool b => cases b <;> exact behind_of_absent (by simp [tick]) _
  | number formed _ => exact behind_of_absent (numeral_ticks formed) _
  | string chars => exact quoted_behind chars trivial
  | emptyArray blanks => exact cons_behind (by decide) (gap_behind blanks (cons_behind (by decide) trivial))
  | array blanks _ ih => exact cons_behind (by decide) (gap_behind blanks ih)
  | emptyObject blanks => exact cons_behind (by decide) (gap_behind blanks (cons_behind (by decide) trivial))
  | object blanks _ ih => exact cons_behind (by decide) (gap_behind blanks ih)
  | lastItem _ blanks ih => exact ih.append (gap_behind blanks (cons_behind (by decide) trivial))
  | moreItems _ blanks before _ ih later =>
    exact ih.append (gap_behind blanks (cons_behind (by decide) (gap_behind before later)))
  | member name front back _ ih =>
    exact quoted_behind name (gap_behind front (cons_behind (by decide) (gap_behind back ih)))
  | lastMember _ blanks ih => exact ih.append (gap_behind blanks (cons_behind (by decide) trivial))
  | moreMembers _ blanks before _ ih later =>
    exact ih.append (gap_behind blanks (cons_behind (by decide) (gap_behind before later)))

-- A line that trims to the fence has a tick and no quote.
theorem no_fence (behind : Behind tick false cs) :
    ∀ line ∈ (cs.splitOn '\n').map String.ofList, strip line ≠ "```" := by
  intro line listed trimmed
  obtain ⟨chars,present,rfl⟩ := List.mem_map.mp listed
  have within : tick ∈ (strip (String.ofList chars)).toList := by
    rw [trimmed]
    simp [tick]
  have quote := behind.quoted chars present (strip_mem within)
  have kept := mem_strip quote (by decide : isSpace '"' = false)
  rw [trimmed] at kept
  simp at kept

theorem untilFence_append {xs : List String} (inner : ∀ line ∈ xs, strip line ≠ "```") (ys : List String) :
    untilFence (xs ++ ys) = xs ++ untilFence ys := by
  induction xs with
  | nil => rfl
  | cons line rest ih =>
    obtain ⟨other,inner⟩ := List.forall_mem_cons.mp inner
    rw [List.cons_append,untilFence,if_neg other,ih inner,List.cons_append]

theorem extract_lines {response : String} {body : List Char} (unbroken : '\n' ∉ info)
    (stripped : strip response = String.ofList (fence ++ info ++ '\n' :: body)) :
    extractJson response = join "\n" (untilFence ((body.splitOn '\n').map String.ofList)) := by
  have opened : "```".toList.isPrefixOf (fence ++ info ++ '\n' :: body) = true := by
    rw [List.isPrefixOf_iff_prefix,List.append_assoc]
    exact List.prefix_append _ _
  have first : (fence ++ info).splitOn '\n' = [fence ++ info] := by
    refine List.splitOn_eq_singleton ?_
    rw [List.mem_append,not_or]
    exact ⟨by simp [fence],unbroken⟩
  rw [← String.toList_ofList (l := fence ++ info ++ '\n' :: body)] at opened
  unfold extractJson
  rw [stripped]
  refine (if_pos opened).trans ?_
  rw [splitLines,String.toList_ofList,List.splitOn_append_cons_self,first]
  rfl

theorem LineEnd.split {ends : List Char} (formed : LineEnd ends) :
    ∃ cr, ends = cr ++ ['\n'] ∧ Blanks cr ∧ Spaces cr ∧ '\n' ∉ cr := by
  rcases formed with rfl | rfl
  · exact ⟨[],rfl,nofun,nofun,List.not_mem_nil⟩
  · exact ⟨['\r'],rfl,by simp [Blanks,isBlank],by simp [Spaces,isSpace],by simp⟩

theorem first_line {kept : List Char} (present : c ∈ kept.takeWhile (· != '\n')) (dropped : List Char) :
    c ∈ (kept ++ dropped).takeWhile (· != '\n') := by
  rw [List.takeWhile_append]
  split
  · exact List.mem_append_left _ (List.takeWhile_prefix _ |>.subset present)
  · exact present

-- What stays of the closing fence's line behind the fence
theorem margin_spaces {margin after right : List Char} (spaces : Spaces margin) (unbroken : '\n' ∉ margin)
    (behind : after = [] ∨ ∃ ends more, after = ends ++ more ∧ LineEnd ends) (last : Spaces right) :
    Spaces (((margin ++ after ++ right).rdropWhile isSpace).takeWhile (· != '\n')) := by
  intro c present
  obtain ⟨dropped,whole⟩ := List.rdropWhile_prefix isSpace (margin ++ after ++ right)
  have kept := first_line present dropped
  rw [whole] at kept
  rcases behind with rfl | ⟨ends,more,rfl,formed⟩
  · have within := (List.takeWhile_prefix _).subset kept
    rw [List.append_nil] at within
    exact (List.mem_append.mp within).elim (spaces c) (last c)
  · obtain ⟨cr,rfl,_,blank,single⟩ := formed.split
    have shape : margin ++ (cr ++ ['\n'] ++ more) ++ right = (margin ++ cr) ++ '\n' :: (more ++ right) := by simp
    have plain : ∀ d ∈ margin ++ cr, (d != '\n') = true := by
      intro d within
      rw [bne_iff_ne]
      rintro rfl
      exact (List.mem_append.mp within).elim unbroken single
    rw [shape,List.takeWhile_append_of_pos plain] at kept
    have within : c ∈ margin ++ cr := by simpa using kept
    exact (List.mem_append.mp within).elim (spaces c) (blank c)

theorem fence_line {indent rest : List Char} (spaces : Spaces indent) (unbroken : '\n' ∉ indent)
    (margin : Spaces (rest.takeWhile (· != '\n'))) :
    untilFence (((indent ++ (fence ++ rest)).splitOn '\n').map String.ofList) = [] := by
  have plain : ∀ c ∈ indent ++ fence, (c != '\n') = true := by
    intro c within
    rw [bne_iff_ne]
    rintro rfl
    exact (List.mem_append.mp within).elim unbroken (by simp [fence])
  obtain ⟨more,split⟩ := splitOn_first (indent ++ (fence ++ rest))
  rw [split,← List.append_assoc,List.takeWhile_append_of_pos plain,List.append_assoc,List.map_cons,untilFence,if_pos]
  have opens : ∃ c rest, fence = c :: rest ∧ isSpace c = false := ⟨tick,[tick,tick],rfl,by decide⟩
  have closes : ∃ rest c, fence = rest ++ [c] ∧ isSpace c = false := ⟨[tick,tick],tick,rfl,by decide⟩
  have trimmed := strip_exact spaces opens closes margin
  rw [trimmed]
  rfl

section
variable {body left right lead trail indent : List Char}

theorem extract_closed (ticks : Behind tick false body) (before : Spaces left) (unbroken : '\n' ∉ info)
    (spaces : Spaces indent) (single : '\n' ∉ indent)
    (margin : Spaces ((right.rdropWhile isSpace).takeWhile (· != '\n'))) :
    extractJson (String.ofList (left ++ (fence ++ info ++ '\n' :: (body ++ '\n' :: (indent ++ fence)) ++ right))) =
      String.ofList body := by
  have opens : ∃ c rest, fence ++ info ++ '\n' :: (body ++ '\n' :: (indent ++ fence)) = c :: rest ∧ isSpace c = false :=
    ⟨tick,_,rfl,by decide⟩
  have closes : ∃ rest c, fence ++ info ++ '\n' :: (body ++ '\n' :: (indent ++ fence)) = rest ++ [c] ∧
      isSpace c = false :=
    ⟨fence ++ info ++ '\n' :: (body ++ '\n' :: (indent ++ [tick,tick])),tick,by simp [fence_ticks],by decide⟩
  have shape : fence ++ info ++ '\n' :: (body ++ '\n' :: (indent ++ fence)) ++ right.rdropWhile isSpace =
      fence ++ info ++ '\n' :: (body ++ '\n' :: (indent ++ (fence ++ right.rdropWhile isSpace))) := by simp
  have stripped := strip_solid before opens closes right
  rw [shape] at stripped
  rw [extract_lines unbroken stripped,List.splitOn_append_cons_self,List.map_append,untilFence_append (no_fence ticks),
    fence_line spaces single margin,List.append_nil,join_split]

theorem extract_unclosed (ticks : Behind tick false body) (ends : ∃ rest c, body = rest ++ [c] ∧ isSpace c = false)
    (before : Spaces left) (unbroken : '\n' ∉ info) (behind : Spaces right) :
    extractJson (String.ofList (left ++ (fence ++ info ++ '\n' :: body ++ right))) = String.ofList body := by
  have closes : ∃ rest c, fence ++ info ++ '\n' :: body = rest ++ [c] ∧ isSpace c = false := by
    obtain ⟨rest,c,rfl,solid⟩ := ends
    exact ⟨fence ++ info ++ '\n' :: rest,c,by simp,solid⟩
  have opens : ∃ c rest, fence ++ info ++ '\n' :: body = c :: rest ∧ isSpace c = false := ⟨tick,_,rfl,by decide⟩
  have stripped := strip_exact before opens closes behind
  have whole := untilFence_append (no_fence ticks) []
  rw [List.append_nil,untilFence,List.append_nil] at whole
  rw [extract_lines unbroken stripped,whole,join_split]

-- Of a fenced block the document comes out, with the blanks of its lines.
theorem extract_fenced {block : List Char} (quoted : Behind tick false document)
    (ends : ∃ rest c, document = rest ++ [c] ∧ isSpace c = false) (before : Spaces left) (behind : Spaces right)
    (front : Blanks lead) (back : Blanks trail) (fenced : Fenced (lead ++ (document ++ trail)) block) :
    ∃ rest, Blanks rest ∧
      extractJson (String.ofList (left ++ (block ++ right))) = String.ofList (lead ++ (document ++ rest)) := by
  have ticks {rest : List Char} (blanks : Blanks rest) : Behind tick false (lead ++ (document ++ rest)) :=
    gap_behind front (quoted.append (behind_of_absent (blanks_ticks blanks) _))
  cases fenced with
  | @closed info first last indent margin after unbroken started ended spaces single blank plain tail =>
    obtain ⟨cr,rfl,_,_,unended⟩ := started.split
    obtain ⟨rest,rfl,blanks,_⟩ := ended.split
    have headline : '\n' ∉ info ++ cr := fun within => (List.mem_append.mp within).elim unbroken unended
    have blanks : Blanks (trail ++ rest) := fun c within => (List.mem_append.mp within).elim (back c) (blanks c)
    have extracted := extract_closed (ticks blanks) before headline spaces single (margin_spaces blank plain tail behind)
    simp only [List.append_assoc,List.cons_append,List.nil_append] at extracted ⊢
    exact ⟨trail ++ rest,blanks,extracted⟩
  | @unclosed info first unbroken started =>
    obtain ⟨cr,rfl,_,_,unended⟩ := started.split
    have headline : '\n' ∉ info ++ cr := fun within => (List.mem_append.mp within).elim unbroken unended
    have closes : ∃ rest c, lead ++ (document ++ []) = rest ++ [c] ∧ isSpace c = false := by
      obtain ⟨rest,c,rfl,solid⟩ := ends
      exact ⟨lead ++ rest,c,by simp,solid⟩
    have none : Blanks [] := nofun
    have spaces : Spaces (trail ++ right) :=
      fun c within => (List.mem_append.mp within).elim (fun blank => blank_space (back c blank)) (behind c)
    have extracted := extract_unclosed (ticks none) closes before headline spaces
    simp only [List.append_assoc,List.cons_append,List.nil_append] at extracted ⊢
    exact ⟨[],none,by simpa using extracted⟩

end

theorem fences_transparent {value : Json} {left right : List Char} (renders : Renders hooks (.value value) text)
    (before : Spaces left) (behind : Spaces right) :
    parseResponse hooks (String.ofList (left ++ (text ++ right))) = .ok value ∧
    ∀ lead trail block, Blanks lead → Blanks trail → Fenced (lead ++ (text ++ trail)) block →
      parseResponse hooks (String.ofList (left ++ (block ++ right))) = .ok value := by
  have none : Blanks [] := nofun
  obtain ⟨c,rest,begins,opening⟩ := renders.opens
  obtain ⟨front,d,ends,closing⟩ := renders.closes
  have closes : ∃ rest c, text = rest ++ [c] ∧ isSpace c = false := ⟨front,d,ends,closer_visible closing⟩
  constructor
  · have stripped := strip_exact before ⟨c,rest,begins,(opener_visible opening).1⟩ closes behind
    have plain : ¬ "```".toList.isPrefixOf (String.ofList text).toList = true := by
      intro fenced
      rw [String.toList_ofList (l := text),begins,List.isPrefixOf_iff_prefix] at fenced
      exact (opener_visible opening).2 (List.cons_prefix_cons.mp fenced).1.symm
    have extracted : extractJson (String.ofList (left ++ (text ++ right))) = String.ofList text := by
      unfold extractJson
      rw [stripped]
      exact if_neg plain
    rw [parseResponse,extracted]
    exact loads_renders renders none none (by simp)
  · intro lead trail block front back fenced
    obtain ⟨blanks,spaces,extracted⟩ := extract_fenced (renders_behind renders) closes before behind front back fenced
    rw [parseResponse,extracted]
    exact loads_renders renders front spaces (by simp)

end

-- The closing fence is found behind the line that only quotes one.
theorem fences_transparent_quoting : parseResponse .exact "```json\r\n[1,\n\"```\"]\n ``` \nDone." =
    .ok (.arr [.int 1,.str "```"]) := by
  have single : (⟨[],['1'],[],[]⟩ : Numeral).WellFormed :=
    ⟨.inl rfl,.inr ⟨'1',[],rfl,by decide,by simp [Digits]⟩,.inl rfl,.inl rfl⟩
  have one : Renders .exact (.value (.int 1)) ['1'] := .number single rfl
  have plain : CharText tick [tick] := .plain (by decide) (by decide) (by decide)
  have chars : StringText "```".toList [tick,tick,tick] := .cons plain (.cons plain (.cons plain .nil))
  have none : Blanks [] := nofun
  have feed : Blanks ['\n'] := by simp [Blanks,isBlank]
  have array : Renders .exact (.value (.arr [.int 1,.str "```"])) ['[','1',',','\n','"',tick,tick,tick,'"',']'] :=
    .array none (.moreItems one none feed (.lastItem (.string chars) none))
  have block : Fenced ([] ++ (['[','1',',','\n','"',tick,tick,tick,'"',']'] ++ []))
      (fence ++ "json".toList ++ ['\r','\n'] ++ (['[','1',',','\n','"',tick,tick,tick,'"',']'] ++ ['\n']) ++
        ([' '] ++ fence ++ [' '] ++ "\nDone.".toList)) :=
    .closed (by simp) (.inr rfl) (.inl rfl) (by simp [Spaces,isSpace]) (by simp) (by simp [Spaces,isSpace]) (by simp)
      (.inr ⟨['\n'],"Done.".toList,rfl,.inl rfl⟩)
  have edges : Spaces [] := nofun
  have read := (fences_transparent array edges edges).2 [] [] _ none none block
  refine (congrArg (parseResponse .exact) ?_).trans read
  rw [← String.toList_inj]
  simp [fence,tick]

end Sophia.InputGate
