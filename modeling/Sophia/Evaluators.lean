import Sophia.Consequence

namespace Sophia.Evaluators
open Json Consequence

structure EvaluatorResult where
  evaluatorName : String
  score : ℚ
  confidence : ℚ
  flags : Json := .arr []
  reasoning : Json := .str ""
  keyConcerns : Json := .arr []

inductive EvaluationMode where
  | response
  | situation
  deriving DecidableEq, Repr

structure EvaluationContext where
  consequenceTree : ConsequenceTree
  hatConfig : Option HatConfig
  constraints : Constraints := {}
  stakeholders : List Stakeholder := []
  requestorContext : Params := ∅
  evaluationMode : EvaluationMode := .response
  originalRequest : Option String := none

inductive Evaluator where
  | selfInterest
  | tribal
  | domain
  | authority
  deriving DecidableEq, Repr

def Evaluator.name : Evaluator → String
  | .selfInterest => "self_interest"
  | .tribal => "tribal"
  | .domain => "domain"
  | .authority => "authority"

-- The panel in the order _rebuild_pipeline builds it
def evaluators : List Evaluator := [.selfInterest,.tribal,.domain,.authority]

def parseResult (name : String) (parsed : Json) : Except PyError EvaluatorResult := do
  let score ← clamp (-1) 1 (← parsed.get "score" (.float 0))
  let confidence ← clamp 0 1 (← parsed.get "confidence" (.float (1/2)))
  let flags ← parsed.get "flags" (.arr [])
  let reasoning ← parsed.get "reasoning" (.str "")
  let keyConcerns ← parsed.get "key_concerns" (.arr [])
  return {evaluatorName := name,score,confidence,flags,reasoning,keyConcerns}

-- if flag in result.flags and result.score > ceiling: result.score = ceiling
def capScore (flag : String) (ceiling : ℚ) (result : EvaluatorResult) : Except PyError EvaluatorResult := do
  let flagged ← contains flag result.flags
  return if flagged ∧ ceiling < result.score then {result with score := ceiling} else result

def catastrophicScoreThreshold : ℚ := -4/5

-- The flags are read only when the score is low enough, and only a list takes the append.
def enforceCatastrophe (result : EvaluatorResult) : Except PyError EvaluatorResult :=
  if result.score ≤ catastrophicScoreThreshold then do
    let flagged ← contains "catastrophic_harm" result.flags
    if flagged then return result
    else
      let flags ← result.flags.append (.str "catastrophic_harm")
      return {result with flags}
  else .ok result

def evaluateTribal (parsed : Json) : Except PyError EvaluatorResult := do
  let result ← parseResult "tribal" parsed
  let result ← enforceCatastrophe result
  let result ← capScore "social_engineering" (-1/2) result
  capScore "fabricated_claim" (-1/2) result

def evaluateDomain (parsed : Json) : Except PyError EvaluatorResult := do
  let result ← parseResult "domain" parsed
  let result ← capScore "social_engineering" (-1/2) result
  capScore "free_item_attempt" (-7/10) result

def evaluateAuthority (parsed : Json) : Except PyError EvaluatorResult := do
  let result ← parseResult "authority" parsed
  let result := if result.flags.truthy ∧ 0 ≤ result.score then {result with score := -3/10} else result
  let result ← capScore "cross_customer_access" (-7/10) result
  let result ← capScore "social_engineering" (-7/10) result
  capScore "fabricated_claim" (-11/20) result

def Evaluator.evaluate : Evaluator → Json → Except PyError EvaluatorResult
  | .selfInterest => parseResult "self_interest"
  | .tribal => evaluateTribal
  | .domain => evaluateDomain
  | .authority => evaluateAuthority

-- A result that raises no flag and names no concern
def quiet (name : String) (score : ℚ) : EvaluatorResult := {evaluatorName := name,score,confidence := 1}

-- A flag the classifier sees: an item of whatever the flags value iterates to
def EvaluatorResult.carries (flag : String) (result : EvaluatorResult) : Prop :=
  ∃ items, result.flags.iterate = .ok items ∧ Json.str flag ∈ items

theorem quiet_carries (name : String) (score : ℚ) (flag : String) : ¬ (quiet name score).carries flag := by
  intro carried
  obtain ⟨items,taken,present⟩ := carried
  cases taken
  cases present

theorem parseResult_parts (parsed? : parseResult name parsed = .ok result) :
    result.evaluatorName = name ∧ -1 ≤ result.score ∧ result.score ≤ 1 ∧
      parsed.get "flags" (.arr []) = .ok result.flags := by
  unfold parseResult at parsed?
  obtain ⟨score,_,parsed?⟩ := except_bind.mp parsed?
  obtain ⟨clamped,bounded,parsed?⟩ := except_bind.mp parsed?
  obtain ⟨_,_,parsed?⟩ := except_bind.mp parsed?
  obtain ⟨_,_,parsed?⟩ := except_bind.mp parsed?
  obtain ⟨flags,found,parsed?⟩ := except_bind.mp parsed?
  obtain ⟨_,_,parsed?⟩ := except_bind.mp parsed?
  obtain ⟨_,_,parsed?⟩ := except_bind.mp parsed?
  cases parsed?
  exact ⟨rfl,(clamp_bounds (by norm_num) bounded).1,(clamp_bounds (by norm_num) bounded).2,found⟩

-- A cap touches the score only, and lowers it to the ceiling exactly when the flag is there.
theorem capScore_parts (capped : capScore flag ceiling before = .ok after) :
    after.evaluatorName = before.evaluatorName ∧ after.flags = before.flags ∧
      ∃ flagged, contains flag before.flags = .ok flagged ∧
        after.score = if flagged then min ceiling before.score else before.score := by
  unfold capScore at capped
  obtain ⟨flagged,found,capped⟩ := except_bind.mp capped
  cases capped
  cases flagged with
  | false => simp [found]
  | true =>
    by_cases above : ceiling < before.score
    · simp [found,above,min_eq_left above.le]
    · simp [found,above,min_eq_right (not_lt.mp above)]

theorem capScore_below (capped : capScore flag ceiling before = .ok after) (low : after.score ≤ bound)
    (small : bound < ceiling) : after.score = before.score := by
  obtain ⟨_,_,flagged,_,score⟩ := capScore_parts capped
  cases flagged with
  | false => exact score
  | true =>
    simp only [if_true] at score
    rcases min_choice ceiling before.score with same | same
    · rw [same] at score
      exact absurd (score ▸ low) (not_le.mpr small)
    · exact score.trans same

end Sophia.Evaluators
