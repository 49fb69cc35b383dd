import Sophia.Evaluators
import Sophia.Library.Ceilings
import Mathlib.Tactic.Linarith

namespace Sophia.Evaluators
open Json Ceilings

-- What each evaluator does with a parsed result
def Evaluator.enforce : Evaluator → EvaluatorResult → Except PyError EvaluatorResult
  | .selfInterest,result => .ok result
  | .tribal,result => do
    let result ← enforceCatastrophe result
    let result ← capScore "social_engineering" (-1/2) result
    capScore "fabricated_claim" (-1/2) result
  | .domain,result => do
    let result ← capScore "social_engineering" (-1/2) result
    capScore "free_item_attempt" (-7/10) result
  | .authority,result => do
    let result := if result.flags.truthy ∧ 0 ≤ result.score then {result with score := -3/10} else result
    let result ← capScore "cross_customer_access" (-7/10) result
    let result ← capScore "social_engineering" (-7/10) result
    capScore "fabricated_claim" (-11/20) result

theorem evaluate_enforce (e : Evaluator) (parsed : Json) : e.evaluate parsed = parseResult e.name parsed >>= e.enforce := by
  cases e with
  | selfInterest =>
    change parseResult "self_interest" parsed = parseResult "self_interest" parsed >>= Except.ok
    cases parseResult "self_interest" parsed with
    | error e => rfl
    | ok result => rfl
  | _ => rfl

-- The ceilings that the flags carry
def Evaluator.ceilingTable : Evaluator → List (String × ℚ)
  | .selfInterest => []
  | .tribal => [("social_engineering",-1/2),("fabricated_claim",-1/2)]
  | .domain => [("social_engineering",-1/2),("free_item_attempt",-7/10)]
  | .authority => [("cross_customer_access",-7/10),("social_engineering",-7/10),("fabricated_claim",-11/20)]

-- For the authority evaluator any flag rules out a score that is not negative.
def Evaluator.ceilings (e : Evaluator) (flags : List String) (score : ℚ) : List ℚ :=
  applying flags.contains e.ceilingTable ++ if e = .authority ∧ flags ≠ [] ∧ 0 ≤ score then [-3/10] else []

-- A catastrophic score brings its own flag.
def Evaluator.noted (e : Evaluator) (flags : List String) (score : ℚ) : List String :=
  if e = .tribal ∧ score ≤ catastrophicScoreThreshold ∧ "catastrophic_harm" ∉ flags then flags ++ ["catastrophic_harm"]
  else flags

def texts (flags : List String) : Json := .arr (flags.map .str)

theorem contains_texts (flag : String) (flags : List String) : contains flag (texts flags) = .ok (flags.contains flag) := by
  have same : (flags.map Json.str).any (isStr flag) = flags.contains flag := by
    rw [Bool.eq_iff_iff,any_isStr,List.contains_iff_mem]
    simp
  exact congrArg Except.ok same

theorem capScore_texts (flag : String) (ceiling : ℚ) (result : EvaluatorResult) (held : result.flags = texts flags) :
    capScore flag ceiling result = .ok {result with score := capOne flags.contains result.score (flag,ceiling)} := by
  unfold capScore capOne
  rw [held,contains_texts,← held]
  change Except.ok (if _ then _ else _) = _
  cases flags.contains flag with
  | false => simp
  | true =>
    by_cases above : ceiling < result.score
    · simp [above,min_eq_left above.le]
    · simp [above,min_eq_right (not_lt.mp above)]

theorem enforceCatastrophe_texts (result : EvaluatorResult) (held : result.flags = texts flags) :
    enforceCatastrophe result = .ok {result with flags := texts (Evaluator.tribal.noted flags result.score)} := by
  unfold enforceCatastrophe Evaluator.noted
  by_cases low : result.score ≤ catastrophicScoreThreshold
  · rw [if_pos low,held,contains_texts]
    by_cases flagged : "catastrophic_harm" ∈ flags
    · rw [List.contains_iff_mem.mpr flagged,if_neg (by simp [flagged]),← held]
      rfl
    · rw [Bool.eq_false_iff.mpr (mt List.contains_iff_mem.mp flagged),if_pos ⟨rfl,low,flagged⟩]
      simp [texts,append,bind,Except.bind,pure,Except.pure]
  · rw [if_neg low,if_neg (by simp [low]),← held]

-- A flag that the tables do not know changes no ceiling.
theorem noted_ceilings (e : Evaluator) (flags : List String) (score : ℚ) :
    applying (e.noted flags score).contains e.ceilingTable = applying flags.contains e.ceilingTable := by
  unfold Evaluator.noted
  split
  · next tribal =>
    rw [tribal.1]
    unfold applying
    congr 1
    refine List.filter_congr fun entry present => ?_
    have other : entry.1 ≠ "catastrophic_harm" := by
      rcases List.mem_cons.mp present with rfl | last
      · decide
      · cases List.mem_singleton.mp last
        decide
    simp [other]
  · rfl

def capAll (table : List (String × ℚ)) (result : EvaluatorResult) : Except PyError EvaluatorResult :=
  table.foldlM (fun result entry => capScore entry.1 entry.2 result) result

theorem capAll_texts (table : List (String × ℚ)) (result : EvaluatorResult) (held : result.flags = texts flags) :
    capAll table result = .ok {result with score := lowest (applying flags.contains table) result.score} := by
  rw [← capped_lowest]
  induction table generalizing result with
  | nil => rfl
  | cons entry rest ih =>
    rw [capAll,List.foldlM_cons,capScore_texts entry.1 entry.2 result held]
    exact ih _ held

-- What each evaluator does before the ceilings of its table
def Evaluator.prepare : Evaluator → EvaluatorResult → Except PyError EvaluatorResult
  | .tribal,result => enforceCatastrophe result
  | .authority,result =>
    .ok (if result.flags.truthy ∧ 0 ≤ result.score then {result with score := -3/10} else result)
  | _,result => .ok result

theorem enforce_caps (e : Evaluator) (result : EvaluatorResult) :
    e.enforce result = e.prepare result >>= capAll e.ceilingTable := by
  cases e with
  | selfInterest => rfl
  | tribal =>
    change enforceCatastrophe result >>= _ = enforceCatastrophe result >>= _
    congr 1
    funext noted
    simp [capAll,Evaluator.ceilingTable]
  | domain =>
    change _ = capAll Evaluator.domain.ceilingTable result
    simp [capAll,Evaluator.ceilingTable,Evaluator.enforce]
  | authority =>
    change _ = capAll Evaluator.authority.ceilingTable _
    simp [capAll,Evaluator.ceilingTable,Evaluator.enforce]

theorem enforce_texts (e : Evaluator) (result : EvaluatorResult) (held : result.flags = texts flags) :
    e.enforce result = .ok {result with
      score := lowest (e.ceilings flags result.score) result.score
      flags := texts (e.noted flags result.score)} := by
  rw [enforce_caps]
  unfold Evaluator.ceilings
  rw [lowest_append]
  cases e with
  | tribal =>
    rw [Evaluator.prepare,enforceCatastrophe_texts result held]
    change capAll _ _ = _
    rw [capAll_texts _ _ rfl,noted_ceilings]
    simp
  | authority =>
    have some : result.flags.truthy = true ↔ flags ≠ [] := by
      rw [held]
      simp [texts,truthy]
    change capAll _ (if result.flags.truthy ∧ 0 ≤ result.score then {result with score := -3/10} else result) = _
    by_cases flagged : flags ≠ [] ∧ 0 ≤ result.score
    · have lower : (-3/10 : ℚ) ≤ result.score := by linarith [flagged.2]
      rw [if_pos ⟨some.mpr flagged.1,flagged.2⟩,if_pos ⟨rfl,flagged⟩,
        capAll_texts _ {result with score := -3/10} held,lowest_cons,lowest_nil,min_eq_left lower]
      simp [Evaluator.noted,← held]
    · rw [if_neg fun all => flagged ⟨some.mp all.1,all.2⟩,if_neg fun all => flagged all.2,capAll_texts _ _ held]
      simp [Evaluator.noted,← held]
  | _ =>
    change capAll _ result = _
    rw [capAll_texts _ _ held]
    simp [Evaluator.noted,← held]

theorem table_least (e : Evaluator) : ∀ entry ∈ e.ceilingTable, -1 ≤ entry.2 := by
  cases e <;> simp [Evaluator.ceilingTable] <;> norm_num

-- The ceilings of the tribal evaluator lie above the catastrophic threshold.
theorem tribal_table : ∀ entry ∈ Evaluator.tribal.ceilingTable, catastrophicScoreThreshold < entry.2 := by
  simp [Evaluator.ceilingTable,catastrophicScoreThreshold]
  norm_num

theorem ceilings_least (e : Evaluator) (flags : List String) (score : ℚ) : ∀ ceiling ∈ e.ceilings flags score, -1 ≤ ceiling := by
  intro ceiling present
  rcases List.mem_append.mp present with listed | any
  · obtain ⟨flag,known,_⟩ := mem_applying.mp listed
    exact table_least e _ known
  · split at any
    · cases List.mem_singleton.mp any
      norm_num
    · cases any

theorem tribal_ceilings (flags : List String) (score : ℚ) :
    ∀ ceiling ∈ Evaluator.tribal.ceilings flags score, catastrophicScoreThreshold < ceiling := by
  intro ceiling present
  rcases List.mem_append.mp present with listed | any
  · obtain ⟨flag,known,_⟩ := mem_applying.mp listed
    exact tribal_table _ known
  · simp at any

-- What enforcing leaves is left alone by enforcing again.
theorem ceilings_again (e : Evaluator) (flags : List String) (score : ℚ) : ∀ ceiling ∈
    e.ceilings (e.noted flags score) (lowest (e.ceilings flags score) score),
      lowest (e.ceilings flags score) score ≤ ceiling := by
  intro ceiling present
  rcases List.mem_append.mp present with listed | any
  · rw [noted_ceilings] at listed
    exact lowest_le_of_mem (List.mem_append_left _ listed)
  · split at any
    · next authority =>
      obtain ⟨rfl,some,nonneg⟩ := authority
      have raised : 0 ≤ score := le_trans nonneg lowest_le
      have known : flags ≠ [] := by simpa [Evaluator.noted] using some
      have capped : (-3/10 : ℚ) ∈ Evaluator.authority.ceilings flags score :=
        List.mem_append_right _ (by simp [known,raised])
      have low : lowest (Evaluator.authority.ceilings flags score) score ≤ -3/10 := lowest_le_of_mem capped
      linarith
    · cases any

theorem tribal_low (low : lowest (Evaluator.tribal.ceilings flags score) score ≤ catastrophicScoreThreshold) :
    score ≤ catastrophicScoreThreshold := by
  by_contra high
  exact absurd low (not_le.mpr (lt_lowest (not_le.mp high) (tribal_ceilings flags score)))

theorem tribal_noted (low : score ≤ catastrophicScoreThreshold) :
    "catastrophic_harm" ∈ Evaluator.tribal.noted flags score := by
  unfold Evaluator.noted
  split
  · simp
  · next present => simpa [low] using present

theorem noted_again (e : Evaluator) (flags : List String) (score : ℚ) :
    e.noted (e.noted flags score) (lowest (e.ceilings flags score) score) = e.noted flags score := by
  unfold Evaluator.noted
  by_cases tribal : e = .tribal
  · subst tribal
    refine if_neg fun missing => missing.2.2 ?_
    exact tribal_noted (tribal_low missing.2.1)
  · exact if_neg fun bad => tribal bad.1

theorem enforce_again (e : Evaluator) (enforced : e.enforce before = .ok after) (held : before.flags = texts flags) :
    e.enforce after = .ok after := by
  rw [enforce_texts e before held] at enforced
  cases enforced
  rw [enforce_texts e _ rfl,noted_again]
  dsimp only
  rw [lowest_under (ceilings_again e flags before.score)]

-- Only which flags there are counts.
theorem ceilings_same (e : Evaluator) (score : ℚ) (into : flags ⊆ others) (back : others ⊆ flags) :
    e.ceilings flags score = e.ceilings others score := by
  have same : ∀ flag, flags.contains flag = others.contains flag := by
    intro flag
    rw [Bool.eq_iff_iff,List.contains_iff_mem,List.contains_iff_mem]
    exact ⟨fun present => into present,fun present => back present⟩
  have empty : flags ≠ [] ↔ others ≠ [] := by
    rw [not_iff_not]
    constructor
    · rintro rfl
      exact List.subset_nil.mp back
    · rintro rfl
      exact List.subset_nil.mp into
  unfold Evaluator.ceilings applying
  simp only [same,empty]

-- An answer with the score x and these flags
structure Answers (parsed : Json) (x : ℚ) (flags : List String) : Prop where
  score : ∃ value, parsed.get "score" (.float 0) = .ok value ∧ value.number? = some x
  flags : parsed.get "flags" (.arr []) = .ok (texts flags)

def kept (x : ℚ) : ℚ := max (-1) (min 1 x)

theorem kept_bounds (x : ℚ) : -1 ≤ kept x ∧ kept x ≤ 1 :=
  ⟨le_max_left _ _,max_le (by norm_num) (min_le_left _ _)⟩

theorem parseResult_answers (answers : Answers parsed x flags) (read : parseResult name parsed = .ok result) :
    result.score = kept x ∧ result.flags = texts flags := by
  obtain ⟨value,given,number⟩ := answers.score
  unfold parseResult at read
  obtain ⟨first,taken,read⟩ := except_bind.mp read
  cases taken.symm.trans given
  obtain ⟨clamped,bounded,read⟩ := except_bind.mp read
  obtain ⟨_,_,read⟩ := except_bind.mp read
  obtain ⟨_,_,read⟩ := except_bind.mp read
  obtain ⟨held,found,read⟩ := except_bind.mp read
  cases found.symm.trans answers.flags
  obtain ⟨_,_,read⟩ := except_bind.mp read
  obtain ⟨_,_,read⟩ := except_bind.mp read
  cases read
  refine ⟨?_,rfl⟩
  unfold clamp at bounded
  rw [number] at bounded
  cases bounded
  rfl

theorem evaluate_answers (e : Evaluator) (answers : Answers parsed x flags) (evaluated : e.evaluate parsed = .ok result) :
    result.score = lowest (e.ceilings flags (kept x)) (kept x) ∧ result.flags = texts (e.noted flags (kept x)) ∧
      e.enforce result = .ok result := by
  rw [evaluate_enforce] at evaluated
  obtain ⟨before,read,enforced⟩ := except_bind.mp evaluated
  obtain ⟨score,held⟩ := parseResult_answers answers read
  have again := enforce_again e enforced held
  rw [enforce_texts e before held,score] at enforced
  cases enforced
  exact ⟨rfl,rfl,again⟩

-- An answer is only refused for its confidence.
theorem evaluate_returns (e : Evaluator) (answers : Answers parsed x flags) : (∃ result, e.evaluate parsed = .ok result) ↔
    ∃ value y, parsed.get "confidence" (.float (1/2)) = .ok value ∧ value.number? = some y := by
  obtain ⟨given,scored,number⟩ := answers.score
  cases parsed with
  | obj fields =>
    constructor
    · rintro ⟨result,evaluated⟩
      rw [evaluate_enforce] at evaluated
      obtain ⟨before,read,_⟩ := except_bind.mp evaluated
      unfold parseResult at read
      obtain ⟨_,_,read⟩ := except_bind.mp read
      obtain ⟨_,_,read⟩ := except_bind.mp read
      obtain ⟨value,found,read⟩ := except_bind.mp read
      obtain ⟨confidence,bounded,_⟩ := except_bind.mp read
      unfold clamp at bounded
      split at bounded
      · next y sure => exact ⟨value,y,found,sure⟩
      · cases bounded
    · rintro ⟨value,y,found,sure⟩
      have score : clamp (-1) 1 given = .ok (kept x) := by rw [clamp,number]; rfl
      have confidence : clamp 0 1 value = .ok (max 0 (min 1 y)) := by rw [clamp,sure]
      have read : ∃ result, parseResult e.name (.obj fields) = .ok result := by
        refine except_returns scored (except_returns score (except_returns found (except_returns confidence ?_)))
        exact ⟨_,rfl⟩
      obtain ⟨result,read⟩ := read
      rw [evaluate_enforce]
      exact except_returns read ⟨_,enforce_texts e result (parseResult_answers answers read).2⟩
  | _ => cases scored

theorem enforcement_exact (e : Evaluator) (answers : Answers parsed x flags) :
    ((∃ result, e.evaluate parsed = .ok result) ↔
      ∃ value y, parsed.get "confidence" (.float (1/2)) = .ok value ∧ value.number? = some y) ∧
    ∀ result, e.evaluate parsed = .ok result →
      (-1 ≤ result.score ∧ result.score ≤ 1 ∧ result.score ≤ kept x) ∧
      result.score = lowest (e.ceilings flags (kept x)) (kept x) ∧
      (e = .tribal → result.score ≤ -4/5 → result.carries "catastrophic_harm") ∧
      e.enforce result = .ok result ∧
      ∀ other more second, Answers other x more → flags ⊆ more → more ⊆ flags → e.evaluate other = .ok second →
        second.score = result.score := by
  refine ⟨evaluate_returns e answers,fun result evaluated => ?_⟩
  obtain ⟨score,held,again⟩ := evaluate_answers e answers evaluated
  rw [score]
  refine ⟨⟨?_,?_,lowest_le⟩,rfl,?_,again,?_⟩
  · exact le_lowest (kept_bounds x).1 (ceilings_least e flags (kept x))
  · exact le_trans lowest_le (kept_bounds x).2
  · rintro rfl low
    exact ⟨_,by rw [held]; rfl,List.mem_map_of_mem (tribal_noted (tribal_low low))⟩
  · intro other more second moreAnswers into back evaluatedOther
    obtain ⟨same,_⟩ := evaluate_answers e moreAnswers evaluatedOther
    rw [same,ceilings_same e (kept x) into back]

-- An answer that likes what a fraudster asks for
def friendlyAnswer : Json := .obj [("score",.float (3/10)),("flags",.arr [.str "social_engineering",.str "fabricated_claim"])]

theorem friendly_enforced : ∃ result, evaluateAuthority friendlyAnswer = .ok result ∧ result.score =
    lowest (Evaluator.authority.ceilings ["social_engineering","fabricated_claim"] (kept (3/10))) (kept (3/10)) := by
  have answers : Answers friendlyAnswer (3/10) ["social_engineering","fabricated_claim"] := ⟨⟨_,rfl,rfl⟩,rfl⟩
  obtain ⟨returns,exact_⟩ := enforcement_exact .authority answers
  obtain ⟨result,evaluated⟩ := returns.mpr ⟨_,_,rfl,rfl⟩
  exact ⟨result,evaluated,(exact_ result evaluated).2.1⟩

end Sophia.Evaluators
