import Sophia.Library.PyText
import Mathlib.Data.List.DropRight
import Mathlib.Data.List.TakeWhile

namespace Sophia.TextLines
open PyText

-- text.split("\n")
def splitLines (text : String) : List String := (text.toList.splitOn '\n').map String.ofList

def Spaces (cs : List Char) : Prop := ∀ c ∈ cs, isSpace c

section
variable {cs left front right : List Char} {c mark : Char}

theorem toList_join (lines : List (List Char)) :
    (join "\n" (lines.map String.ofList)).toList = ['\n'].intercalate lines := by
  induction lines with
  | nil => rfl
  | cons line rest ih => cases rest with
    | nil => simp [join,List.intercalate]
    | cons next rest =>
      have joined : join "\n" ((line :: next :: rest).map String.ofList) =
          String.ofList line ++ "\n" ++ join "\n" ((next :: rest).map String.ofList) := rfl
      rw [joined,String.toList_append,String.toList_append,ih]
      simp [List.intercalate]

-- "\n".join undoes split("\n").
theorem join_split (cs : List Char) : join "\n" ((cs.splitOn '\n').map String.ofList) = String.ofList cs := by
  rw [← String.toList_inj,toList_join,List.intercalate_splitOn,String.toList_ofList]

theorem splitOn_first (cs : List Char) : ∃ more, cs.splitOn '\n' = cs.takeWhile (· != '\n') :: more := by
  induction cs with
  | nil => exact ⟨[],rfl⟩
  | cons c cs ih =>
    obtain ⟨more,first⟩ := ih
    rw [List.splitOn_cons_eq_if_modifyHead,first]
    by_cases ends : c = '\n'
    · exact ⟨cs.takeWhile (· != '\n') :: more,by simp [ends]⟩
    · exact ⟨more,by simp [ends]⟩

theorem rdropWhile_solid (closes : ∃ rest c, front = rest ++ [c] ∧ isSpace c = false) (back : List Char) :
    (front ++ back).rdropWhile isSpace = front ++ back.rdropWhile isSpace := by
  induction back using List.reverseRecOn with
  | nil =>
    obtain ⟨rest,c,rfl,solid⟩ := closes
    simp [solid]
  | append_singleton back c ih =>
    rw [← List.append_assoc,List.rdropWhile_concat,List.rdropWhile_concat]
    split
    · exact ih
    · rw [List.append_assoc]

-- Spaces are cut at both ends, and no further than the first and the last other character.
theorem strip_solid (before : Spaces left) (opens : ∃ c rest, front = c :: rest ∧ isSpace c = false)
    (closes : ∃ rest c, front = rest ++ [c] ∧ isSpace c = false) (back : List Char) :
    strip (String.ofList (left ++ (front ++ back))) = String.ofList (front ++ back.rdropWhile isSpace) := by
  have begun : (left ++ (front ++ back)).dropWhile isSpace = front ++ back := by
    obtain ⟨c,rest,rfl,solid⟩ := opens
    rw [List.dropWhile_append_of_pos before]
    simp [solid]
  unfold strip
  rw [String.toList_ofList,begun]
  exact congrArg String.ofList (rdropWhile_solid closes back)

theorem strip_exact (before : Spaces left) (opens : ∃ c rest, front = c :: rest ∧ isSpace c = false)
    (closes : ∃ rest c, front = rest ++ [c] ∧ isSpace c = false) (after : Spaces right) :
    strip (String.ofList (left ++ (front ++ right))) = String.ofList front := by
  rw [strip_solid before opens closes,List.rdropWhile_eq_nil_iff.mpr after,List.append_nil]

theorem mem_strip (present : c ∈ cs) (solid : isSpace c = false) : c ∈ (strip (String.ofList cs)).toList := by
  have kept {cs : List Char} (present : c ∈ cs) : c ∈ cs.dropWhile isSpace := by
    rw [← List.takeWhile_append_dropWhile (p := isSpace) (l := cs),List.mem_append] at present
    rcases present with cut | kept
    · have space := List.mem_takeWhile_imp cut
      rw [solid] at space
      cases space
    · exact kept
  unfold strip
  rw [String.toList_ofList,String.toList_ofList,List.mem_reverse]
  exact kept (List.mem_reverse.mpr (kept present))

theorem strip_mem (present : c ∈ (strip (String.ofList cs)).toList) : c ∈ cs := by
  unfold strip at present
  rw [String.toList_ofList,String.toList_ofList,List.mem_reverse] at present
  have first := (List.dropWhile_sublist isSpace).subset present
  exact (List.dropWhile_sublist isSpace).subset (List.mem_reverse.mp first)

-- Every mark stands behind a quote on its line; seen says whether the line had one so far.
def seenAfter (seen : Bool) (c : Char) : Bool := if c = '\n' then false else seen || c = '"'

def Behind (mark : Char) : Bool → List Char → Prop
  | _,[] => True
  | seen,c :: rest => (c = mark → seen = true) ∧ Behind mark (seenAfter seen c) rest

theorem behind_of_absent (absent : ∀ c ∈ cs, c ≠ mark) (seen : Bool) : Behind mark seen cs := by
  induction cs generalizing seen with
  | nil => trivial
  | cons c cs ih =>
    obtain ⟨other,absent⟩ := List.forall_mem_cons.mp absent
    exact ⟨fun same => absurd same other,ih absent _⟩

theorem behind_of_quoted (unbroken : '\n' ∉ cs) : Behind mark true cs := by
  induction cs with
  | nil => trivial
  | cons c cs ih =>
    rw [List.mem_cons,not_or] at unbroken
    refine ⟨fun _ => rfl,?_⟩
    rw [seenAfter,if_neg (Ne.symm unbroken.1),Bool.true_or]
    exact ih unbroken.2

theorem Behind.weaken {seen later : Bool} (behind : Behind mark seen cs) (more : seen = true → later = true) :
    Behind mark later cs := by
  induction cs generalizing seen later with
  | nil => trivial
  | cons c cs ih =>
    refine ⟨fun same => more (behind.1 same),ih behind.2 ?_⟩
    intro first
    unfold seenAfter at first ⊢
    split at first
    · cases first
    · next unbroken =>
      rw [if_neg unbroken]
      rw [Bool.or_eq_true] at first ⊢
      exact first.imp_left more

theorem Behind.append {seen : Bool} {others : List Char} (behind : Behind mark seen cs)
    (later : Behind mark false others) : Behind mark seen (cs ++ others) := by
  induction cs generalizing seen with
  | nil => exact later.weaken nofun
  | cons c cs ih => exact ⟨behind.1,ih behind.2⟩

-- So no line has a mark and no quote, but for a first line that goes on behind one.
theorem Behind.lines {seen : Bool} (behind : Behind mark seen cs) : ∃ first more, cs.splitOn '\n' = first :: more ∧
    (mark ∈ first → seen = true ∨ '"' ∈ first) ∧ ∀ line ∈ more, mark ∈ line → '"' ∈ line := by
  induction cs generalizing seen with
  | nil => exact ⟨[],[],rfl,nofun,nofun⟩
  | cons c cs ih =>
    obtain ⟨first,more,split,head,tail⟩ := ih behind.2
    rw [List.splitOn_cons_eq_if_modifyHead,split]
    by_cases ends : c = '\n'
    · refine ⟨[],first :: more,by simp [ends],nofun,?_⟩
      refine List.forall_mem_cons.mpr ⟨fun marked => ?_,tail⟩
      simpa [seenAfter,ends] using head marked
    · refine ⟨c :: first,more,by simp [ends],?_,tail⟩
      intro marked
      rcases List.mem_cons.mp marked with same | later
      · exact .inl (behind.1 same.symm)
      · have sighted := head later
        simp only [seenAfter,if_neg ends,Bool.or_eq_true,decide_eq_true_eq] at sighted
        rcases sighted with (before | quote) | within
        · exact .inl before
        · exact .inr (quote ▸ List.mem_cons_self)
        · exact .inr (List.mem_cons_of_mem _ within)

theorem Behind.quoted (behind : Behind mark false cs) : ∀ line ∈ cs.splitOn '\n', mark ∈ line → '"' ∈ line := by
  obtain ⟨first,more,split,head,tail⟩ := behind.lines
  rw [split]
  refine List.forall_mem_cons.mpr ⟨fun marked => ?_,tail⟩
  exact (head marked).resolve_left nofun

end

end Sophia.TextLines
