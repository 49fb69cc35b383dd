import Sophia.EscalationGate

namespace Sophia.EscalationGate
open PyText

-- lower() taken character by character; a character may become several.
def eachChar (lowerChar : Char → List Char) (text : String) : String := String.ofList (text.toList.flatMap lowerChar)

def charwise (runtime : Runtime) (lowerChar : Char → List Char) : Runtime := {runtime with lower := eachChar lowerChar}

def Keyword (runtime : Runtime) (trigger word : String) : Prop :=
  word ∈ splitWords (runtime.lower trigger) ∧ 4 ≤ word.length ∧ word ∉ stopwords

def Occurs (runtime : Runtime) (word text : String) : Prop := word.toList <:+: (runtime.lower text).toList

-- All keywords of the trigger in one text
def Names (runtime : Runtime) (trigger text : String) : Prop := ∀ word, Keyword runtime trigger word → Occurs runtime word text

section
variable {runtime : Runtime} {constraints : Constraints} {message : String} {history : List Turn}

theorem mem_keywords : word ∈ extractKeywords runtime trigger ↔ Keyword runtime trigger word := by
  rw [extractKeywords,List.mem_filter,Bool.and_eq_true,decide_eq_true_iff]
  simp [Keyword,minKeywordLen]

theorem matches_iff : matchesTrigger runtime text trigger = true ↔
    (∃ word, Keyword runtime trigger word) ∧ Names runtime trigger text := by
  unfold matchesTrigger Names Occurs
  simp only [Bool.and_eq_true,List.all_eq_true,hasSubstring,decide_eq_true_eq,mem_keywords]
  refine and_congr ?_ Iff.rfl
  rw [Bool.not_eq_true',List.isEmpty_eq_false_iff_exists_mem]
  simp only [mem_keywords]

theorem firstMatch_iff : firstMatch runtime constraints text ≠ none ↔
    ∃ trigger ∈ constraints.escalationTriggers, matchesTrigger runtime text trigger = true := by
  rw [ne_eq,firstMatch_none]
  simp

theorem mem_texts : text ∈ texts message history ↔
    text = message ∨ ∃ turn ∈ history, turn.role = "user" ∧ text = turn.content := by
  rw [texts,List.mem_cons,userTexts,List.mem_map]
  simp only [List.mem_filter,beq_iff_eq,and_assoc]
  refine or_congr_right (exists_congr fun turn => ?_)
  rw [eq_comm (a := text)]

theorem triggered_iff : (checkEscalationTriggers runtime message constraints history).triggered = true ↔
    ∃ text ∈ texts message history, ∃ trigger ∈ constraints.escalationTriggers, matchesTrigger runtime text trigger = true := by
  have found : (texts message history).findSome? (firstMatch runtime constraints) ≠ none ↔
      ∃ text ∈ texts message history, firstMatch runtime constraints text ≠ none := by
    rw [ne_eq,List.findSome?_eq_none_iff]
    simp
  simp only [← firstMatch_iff,← found]
  rw [check_texts]
  cases (texts message history).findSome? (firstMatch runtime constraints) <;> simp [notTriggered,triggeredBy]

theorem inherited_iff (triggered : (checkEscalationTriggers runtime message constraints history).triggered = true) :
    (checkEscalationTriggers runtime message constraints history).inherited = true ↔
      ∀ trigger ∈ constraints.escalationTriggers, matchesTrigger runtime message trigger = false := by
  rw [← firstMatch_none]
  rw [check_texts] at triggered ⊢
  cases found : (texts message history).findSome? (firstMatch runtime constraints) with
  | none =>
    rw [found] at triggered
    cases triggered
  | some trigger => simp [triggeredBy]

end

-- Every character keeps its place among the others.
theorem eachChar_append (lowerChar : Char → List Char) (a b : String) :
    eachChar lowerChar (a ++ b) = eachChar lowerChar a ++ eachChar lowerChar b := by
  simp [eachChar,String.toList_append,String.ofList_append]

theorem occurs_within (runtime : Runtime) (lowerChar : Char → List Char) (word before text after : String)
    (occurs : Occurs (charwise runtime lowerChar) word text) :
    Occurs (charwise runtime lowerChar) word (before ++ text ++ after) := by
  refine List.IsInfix.trans occurs ?_
  change (eachChar lowerChar text).toList <:+: (eachChar lowerChar (before ++ text ++ after)).toList
  rw [eachChar_append,eachChar_append,String.toList_append,String.toList_append]
  exact List.infix_append _ _ _

theorem detection_exact (runtime : Runtime) (lowerChar : Char → List Char) (message : String) (constraints : Constraints)
    (history : List Turn) :
    ((checkEscalationTriggers (charwise runtime lowerChar) message constraints history).triggered = true ↔
      ∃ trigger ∈ constraints.escalationTriggers, (∃ word, Keyword (charwise runtime lowerChar) trigger word) ∧
        (Names (charwise runtime lowerChar) trigger message ∨
          ∃ turn ∈ history, turn.role = "user" ∧ Names (charwise runtime lowerChar) trigger turn.content)) ∧
    ((checkEscalationTriggers (charwise runtime lowerChar) message constraints history).triggered = true →
      ((checkEscalationTriggers (charwise runtime lowerChar) message constraints history).inherited = true ↔
        ∀ trigger ∈ constraints.escalationTriggers, ¬ ((∃ word, Keyword (charwise runtime lowerChar) trigger word) ∧
          Names (charwise runtime lowerChar) trigger message)) ∧
      ∀ before after more longer, constraints.escalationTriggers ⊆ more → history.Sublist longer →
        (checkEscalationTriggers (charwise runtime lowerChar) (before ++ message ++ after)
          {constraints with escalationTriggers := more} longer).triggered = true) := by
  refine ⟨?_,fun triggered => ⟨?_,fun before after more longer added extended => ?_⟩⟩
  · rw [triggered_iff]
    simp only [matches_iff,mem_texts]
    constructor
    · rintro ⟨text,rfl | ⟨turn,present,user,rfl⟩,trigger,listed,keywords,names⟩
      · exact ⟨trigger,listed,keywords,.inl names⟩
      · exact ⟨trigger,listed,keywords,.inr ⟨turn,present,user,names⟩⟩
    · rintro ⟨trigger,listed,keywords,names | ⟨turn,present,user,names⟩⟩
      · exact ⟨message,.inl rfl,trigger,listed,keywords,names⟩
      · exact ⟨turn.content,.inr ⟨turn,present,user,rfl⟩,trigger,listed,keywords,names⟩
  · rw [inherited_iff triggered]
    simp only [← matches_iff,Bool.not_eq_true]
  · obtain ⟨text,present,trigger,listed,matched⟩ := triggered_iff.mp triggered
    rw [triggered_iff]
    rcases mem_texts.mp present with rfl | ⟨turn,inside,user,rfl⟩
    · obtain ⟨keywords,names⟩ := matches_iff.mp matched
      refine ⟨_,mem_texts.mpr (.inl rfl),trigger,added listed,matches_iff.mpr ⟨keywords,fun word keyword => ?_⟩⟩
      exact occurs_within runtime lowerChar word before text after (names word keyword)
    · exact ⟨turn.content,mem_texts.mpr (.inr ⟨turn,extended.subset inside,user,rfl⟩),trigger,added listed,matched⟩

end Sophia.EscalationGate
