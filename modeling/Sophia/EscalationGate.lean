import Sophia.Domain

namespace Sophia.EscalationGate
open PyText

def stopwords : List String := ["the","a","an","and","or","for","with","that","this","from","into","have","been","will",
  "when","what","your","their","customer","agent","claims","threatens","requests","involves","exceeds","over"]

def minKeywordLen : Nat := 4

structure EscalationTriggerResult where
  triggered : Bool
  matchedTrigger : Option String
  minTier : String
  inherited : Bool := false
  deriving DecidableEq, Repr

def extractKeywords (runtime : Runtime) (trigger : String) : List String :=
  (splitWords (runtime.lower trigger)).filter fun word => minKeywordLen ≤ word.length && !stopwords.contains word

def matchesTrigger (runtime : Runtime) (message trigger : String) : Bool :=
  let keywords := extractKeywords runtime trigger
  !keywords.isEmpty && keywords.all fun keyword => hasSubstring keyword (runtime.lower message)

def getTriggerMinTier (trigger : String) (constraints : Constraints) : String :=
  (constraints.escalationTriggerSeverity.lookup trigger).getD "ORANGE"

def notTriggered : EscalationTriggerResult := ⟨false,none,"GREEN",false⟩

def triggeredBy (constraints : Constraints) (inherited : Bool) (trigger : String) : EscalationTriggerResult :=
  ⟨true,some trigger,getTriggerMinTier trigger constraints,inherited⟩

-- One inner loop over the triggers
def firstMatch (runtime : Runtime) (constraints : Constraints) (text : String) : Option String :=
  constraints.escalationTriggers.find? (matchesTrigger runtime text)

def inheritedMatch (runtime : Runtime) (constraints : Constraints) : List Turn → Option String
  | [] => none
  | turn :: rest =>
    if turn.role ≠ "user" then inheritedMatch runtime constraints rest
    else match firstMatch runtime constraints turn.content with
      | some trigger => some trigger
      | none => inheritedMatch runtime constraints rest

def checkEscalationTriggers (runtime : Runtime) (message : String) (constraints : Constraints)
    (conversationHistory : List Turn) : EscalationTriggerResult :=
  match firstMatch runtime constraints message with
  | some trigger => triggeredBy constraints false trigger
  | none => match inheritedMatch runtime constraints conversationHistory with
    | some trigger => triggeredBy constraints true trigger
    | none => notTriggered

-- The texts the gate reads, in its order
def userTexts (history : List Turn) : List String := (history.filter (·.role == "user")).map (·.content)
def texts (message : String) (history : List Turn) : List String := message :: userTexts history

theorem inheritedMatch_texts (runtime : Runtime) (constraints : Constraints) (history : List Turn) :
    inheritedMatch runtime constraints history = (userTexts history).findSome? (firstMatch runtime constraints) := by
  induction history with
  | nil => rfl
  | cons turn rest ih =>
    rw [inheritedMatch]
    by_cases user : turn.role = "user"
    · cases found : firstMatch runtime constraints turn.content <;> simp [userTexts,user,found,ih]
    · simp [userTexts,user,ih]

-- The two nested searches are one search through the texts.
theorem check_texts (runtime : Runtime) (message : String) (constraints : Constraints) (history : List Turn) :
    checkEscalationTriggers runtime message constraints history =
      ((texts message history).findSome? (firstMatch runtime constraints)).elim notTriggered
        (triggeredBy constraints (firstMatch runtime constraints message).isNone) := by
  rw [checkEscalationTriggers,texts,List.findSome?_cons,inheritedMatch_texts]
  cases firstMatch runtime constraints message with
  | some trigger => rfl
  | none => cases (userTexts history).findSome? (firstMatch runtime constraints) <;> rfl

theorem check_minTier (found : (texts message history).findSome? (firstMatch runtime constraints) = some trigger) :
    (checkEscalationTriggers runtime message constraints history).minTier = getTriggerMinTier trigger constraints := by
  rw [check_texts,found]; rfl

theorem check_quiet (quiet : (texts message history).findSome? (firstMatch runtime constraints) = none) :
    checkEscalationTriggers runtime message constraints history = notTriggered := by
  rw [check_texts,quiet]; rfl

theorem check_matched (runtime : Runtime) (message : String) (constraints : Constraints) (history : List Turn) :
    (checkEscalationTriggers runtime message constraints history).matchedTrigger = none ↔
      (checkEscalationTriggers runtime message constraints history).triggered = false := by
  rw [check_texts]
  cases (texts message history).findSome? (firstMatch runtime constraints) with
  | none => exact ⟨fun _ => rfl,fun _ => rfl⟩
  | some trigger => exact ⟨fun unmatched => (nomatch unmatched),fun untriggered => (nomatch untriggered)⟩

theorem firstMatch_none : firstMatch runtime constraints text = none ↔
    ∀ trigger ∈ constraints.escalationTriggers, matchesTrigger runtime text trigger = false := by
  simp [firstMatch]

theorem firstMatch_some (found : firstMatch runtime constraints text = some trigger) :
    trigger ∈ constraints.escalationTriggers ∧ matchesTrigger runtime text trigger = true :=
  ⟨List.mem_of_find?_eq_some found,List.find?_some found⟩

-- A text decides when a trigger matches it and none matches a text read before it.
structure Decides (runtime : Runtime) (constraints : Constraints) (message : String) (history : List Turn)
    (text : String) : Prop where
  reached : ∃ before after, texts message history = before ++ text :: after ∧
    ∀ earlier ∈ before, firstMatch runtime constraints earlier = none
  matched : firstMatch runtime constraints text ≠ none

theorem found_decides : (texts message history).findSome? (firstMatch runtime constraints) = some trigger ↔
    ∃ text, Decides runtime constraints message history text ∧ firstMatch runtime constraints text = some trigger := by
  rw [List.findSome?_eq_some_iff]
  constructor
  · intro first
    obtain ⟨before,text,after,split,found,earlier⟩ := first
    exact ⟨text,⟨⟨before,after,split,earlier⟩,by rw [found]; exact Option.some_ne_none _⟩,found⟩
  · intro decided
    obtain ⟨text,decides,found⟩ := decided
    obtain ⟨before,after,split,earlier⟩ := decides.reached
    exact ⟨before,text,after,split,found,earlier⟩

theorem userTexts_append (history later : List Turn) :
    userTexts (history ++ later) = userTexts history ++ userTexts later := by
  simp [userTexts]

-- Once triggered the answer stays the same when turns are appended.
theorem check_append (found : (texts message history).findSome? (firstMatch runtime constraints) = some trigger)
    (later : List Turn) : checkEscalationTriggers runtime message constraints (history ++ later) =
      checkEscalationTriggers runtime message constraints history := by
  have longer : (texts message (history ++ later)).findSome? (firstMatch runtime constraints) = some trigger := by
    rw [texts,userTexts_append,← List.cons_append,← texts,List.findSome?_append,found]
    rfl
  rw [check_texts,check_texts,longer,found]

theorem check_grows (runtime : Runtime) (message : String) (constraints : Constraints) (history later : List Turn)
    (before : Tier.ofName? (checkEscalationTriggers runtime message constraints history).minTier = some low)
    (after : Tier.ofName? (checkEscalationTriggers runtime message constraints (history ++ later)).minTier = some high) :
    low ≤ high := by
  cases found : (texts message history).findSome? (firstMatch runtime constraints) with
  | none =>
    rw [check_quiet found] at before
    cases before
    exact Tier.green_le _
  | some trigger =>
    rw [check_append found,before] at after
    cases after
    exact le_refl _

def reorder (constraints : Constraints) (triggers : List String) : Constraints :=
  {constraints with escalationTriggers := triggers}

theorem firstMatch_reorder (same : constraints.escalationTriggers.Perm triggers) :
    firstMatch runtime (reorder constraints triggers) text = none ↔ firstMatch runtime constraints text = none := by
  rw [firstMatch_none,firstMatch_none]
  exact ⟨fun quiet trigger present => quiet trigger (same.mem_iff.mp present),
    fun quiet trigger present => quiet trigger (same.mem_iff.mpr present)⟩

-- Where the triggers that match the deciding text agree on the severity, their order is immaterial.
theorem check_reorder (same : constraints.escalationTriggers.Perm triggers)
    (agree : ∀ text, Decides runtime constraints message history text →
      ∀ a ∈ constraints.escalationTriggers, ∀ b ∈ constraints.escalationTriggers,
        matchesTrigger runtime text a = true → matchesTrigger runtime text b = true →
          getTriggerMinTier a constraints = getTriggerMinTier b constraints) :
    (checkEscalationTriggers runtime message (reorder constraints triggers) history).minTier =
      (checkEscalationTriggers runtime message constraints history).minTier := by
  cases found : (texts message history).findSome? (firstMatch runtime constraints) with
  | none =>
    have quiet : (texts message history).findSome? (firstMatch runtime (reorder constraints triggers)) = none := by
      rw [List.findSome?_eq_none_iff] at found ⊢
      exact fun text present => (firstMatch_reorder same).mpr (found text present)
    rw [check_quiet found,check_quiet quiet]
  | some trigger =>
    obtain ⟨text,decides,first⟩ := found_decides.mp found
    have matched : firstMatch runtime (reorder constraints triggers) text ≠ none :=
      fun unmatched => decides.matched ((firstMatch_reorder same).mp unmatched)
    obtain ⟨other,second⟩ := Option.ne_none_iff_exists'.mp matched
    obtain ⟨before,after,split,earlier⟩ := decides.reached
    have moved : (texts message history).findSome? (firstMatch runtime (reorder constraints triggers)) = some other :=
      found_decides.mpr ⟨text,⟨⟨before,after,split,fun t present => (firstMatch_reorder same).mpr (earlier t present)⟩,
        matched⟩,second⟩
    rw [check_minTier found,check_minTier moved]
    exact agree text decides other (same.mem_iff.mpr (firstMatch_some second).1) trigger (firstMatch_some first).1
      (firstMatch_some second).2 (firstMatch_some first).2

theorem escalation_severity (runtime : Runtime) (message : String) (constraints : Constraints) (history : List Turn) :
    (∀ text early trigger late, Decides runtime constraints message history text →
      constraints.escalationTriggers = early ++ trigger :: late →
      (∀ other ∈ early, matchesTrigger runtime text other = false) → matchesTrigger runtime text trigger = true →
      (checkEscalationTriggers runtime message constraints history).minTier = getTriggerMinTier trigger constraints) ∧
    ((∀ text, ¬ Decides runtime constraints message history text) →
      checkEscalationTriggers runtime message constraints history = notTriggered) ∧
    (∀ later low high,
      Tier.ofName? (checkEscalationTriggers runtime message constraints history).minTier = some low →
      Tier.ofName? (checkEscalationTriggers runtime message constraints (history ++ later)).minTier = some high →
      low ≤ high) ∧
    (∀ triggers, constraints.escalationTriggers.Perm triggers →
      (∀ text, Decides runtime constraints message history text →
        ∀ a ∈ constraints.escalationTriggers, ∀ b ∈ constraints.escalationTriggers,
          matchesTrigger runtime text a = true → matchesTrigger runtime text b = true →
            getTriggerMinTier a constraints = getTriggerMinTier b constraints) →
      (checkEscalationTriggers runtime message (reorder constraints triggers) history).minTier =
        (checkEscalationTriggers runtime message constraints history).minTier) := by
  refine ⟨?_,?_,fun later low high before after => check_grows _ _ _ _ _ before after,
    fun triggers same agree => check_reorder same agree⟩
  · intro text early trigger late decides split before matched
    have first : firstMatch runtime constraints text = some trigger := by
      rw [firstMatch,List.find?_eq_some_iff_append]
      exact ⟨matched,early,late,split,fun other present => by rw [before other present]; rfl⟩
    exact check_minTier (found_decides.mpr ⟨text,decides,first⟩)
  · intro undecided
    apply check_quiet
    cases found : (texts message history).findSome? (firstMatch runtime constraints) with
    | none => rfl
    | some trigger =>
      obtain ⟨text,decides,_⟩ := found_decides.mp found
      exact absurd decides (undecided text)

-- The manager request stands first in the list, so the legal threat in the same message
-- leaves its own severity unread.
def threats : Constraints where
  escalationTriggers := ["speak with manager","legal action"]
  escalationTriggerSeverity := AList.singleton "legal action" "RED"

theorem escalation_order_matters :
    matchesTrigger Runtime.ascii "let me speak to your manager about legal action" "legal action" = true ∧
    getTriggerMinTier "legal action" threats = "RED" ∧
    (checkEscalationTriggers Runtime.ascii "let me speak to your manager about legal action" threats []).minTier =
      "ORANGE" ∧
    (checkEscalationTriggers Runtime.ascii "let me speak to your manager about legal action"
      (reorder threats ["legal action","speak with manager"]) []).minTier = "RED" := by
  decide

end Sophia.EscalationGate
