import Sophia.ExecutionGating

namespace Sophia.AgentLoop
open TracedRun Consequence ConsequenceEngine Evaluators RiskClassifier EscalationGate RiskFloor ParameterGate
open PreflightAck Executor

def unrecommended (c : RiskClassification) : RiskClassification := {c with recommendedAction := none}

theorem recommended_empty (tier : Tier) : selectRecommendedAction tier [] = none := by cases tier <;> rfl

-- The candidates reach the recommendation and no other field.
theorem classify_unrecommended (runtime : Runtime) (results : List EvaluatorResult) (hat : Option HatConfig)
    (candidates : List CandidateAction) (minTier : Option String) :
    (classify runtime results hat candidates minTier).map unrecommended = classify runtime results hat [] minTier := by
  unfold classify
  cases allFlags results with
  | error e => rfl
  | ok flags =>
    simp only [bind,Except.bind,pure,Except.pure]
    split
    · rfl
    split
    · rfl
    cases applyFloor minTier (raisedTier results hat,none) with
    | error e => rfl
    | ok floored =>
      cases second : applyFloor (hatMinTier hat) floored with
      | error e => simp only [second]; rfl
      | ok final => simp only [second,Except.map,unrecommended,recommended_empty]

-- Of the classification the executor's calls read the tier and the explanation, of the proposal the first candidate.
theorem tiered_same {registry : ToolRegistry} {perform₁ perform₂ : String → Params → Except PyError ToolResult}
    {runtime : Runtime} {rc₁ rc₂ : RiskClassification} {proposal₁ proposal₂ : Proposal} {trees₁ trees₂ : List ConsequenceTree}
    {cache₁ cache₂ : Cache} (same : unrecommended rc₁ = unrecommended rc₂)
    (top : proposal₁.candidates.head? = proposal₂.candidates.head?) :
    calls (tieredExecute registry perform₁ runtime rc₁ proposal₁ trees₁) cache₁ =
      calls (tieredExecute registry perform₂ runtime rc₂ proposal₂ trees₂) cache₂ := by
  have tier : rc₁.tier = rc₂.tier := congrArg (·.tier) same
  have explanation : rc₁.explanation = rc₂.explanation := congrArg (·.explanation) same
  have parameters : escalationParameters rc₁ = escalationParameters rc₂ := by
    rw [escalationParameters,escalationParameters,tier,explanation]
  rw [tiered_calls,tiered_calls,execute_calls,execute_calls,escalation_calls,escalation_calls,tier,parameters]
  cases shape₁ : proposal₁.candidates with
  | nil =>
    rw [shape₁] at top
    rw [List.head?_eq_none_iff.mp top.symm]
  | cons first rest₁ =>
    rw [shape₁] at top
    obtain ⟨rest₂,shape₂⟩ := List.head?_eq_some_iff.mp top.symm
    rw [shape₂]

section
variable {agent : Agent} {env : Environment} {request : Request} {cache : Cache} {prepared : Prepared}

-- The part of a decision that does not name the candidates
def verdict (judged : Judged) : List EvaluatorResult × RiskClassification :=
  (judged.evaluationResults,unrecommended judged.riskClassification)

-- What the panel says of the first candidate's tree alone
def firstVerdict (agent : Agent) (env : Environment) (hat : HatConfig) (intent : Intent) (tree : ConsequenceTree)
    (escalation floor : Option String) : Except PyError (List EvaluatorResult × RiskClassification) := do
  let minTier ← maxTier escalation floor
  let results ← scores env (panelContext hat intent tree)
  let rc ← classify agent.runtime results (some hat) [] minTier
  return (results,rc)

theorem judge_verdict (shape : prepared.proposal.candidates = first :: rest)
    (generated : (analyzeAll agent env prepared.proposal.candidates cache).2 = .ok trees)
    (alone : firstTree agent env cache first = .ok tree) (floor : Option Tier) :
    (judge agent env prepared floor cache).value.map verdict =
      firstVerdict agent env prepared.hat prepared.intent tree (escalationMinTier prepared.escalation)
        (floor.map Tier.name) := by
  have built := generated
  rw [shape] at built
  obtain ⟨other,others,rfl,same⟩ := analyzeAll_first built
  cases alone.symm.trans same
  unfold judge firstVerdict
  rw [bind_value,overState_value,generated]
  dsimp only [Except.bind]
  rw [bind_value,lift_value]
  cases maxTier (escalationMinTier prepared.escalation) (floor.map Tier.name) with
  | error e => rfl
  | ok minTier =>
    dsimp only [Except.bind,List.head?_cons,runEvaluationPanel]
    rw [bind_value,bind_value,(scoreAll_scores env _ _).1]
    cases scores env (panelContext prepared.hat prepared.intent tree) with
    | error e => rfl
    | ok results =>
      dsimp only [Except.bind]
      rw [bind_value,lift_value]
      change _ = (classify agent.runtime results (some prepared.hat) [] minTier).bind fun rc => .ok (results,rc)
      rw [← classify_unrecommended agent.runtime results (some prepared.hat) prepared.proposal.candidates minTier]
      cases classify agent.runtime results (some prepared.hat) prepared.proposal.candidates minTier <;> rfl

-- A run that no stage before the panel breaks off: neither the parser, the proposer and the callback nor a tree
structure Undisturbed (agent : Agent) (env : Environment) (request : Request) (cache : Cache) (intent : Intent)
    (candidates : List CandidateAction) : Prop where
  parsed : env.parse request.message = .ok intent
  proposed : env.propose intent = .ok candidates
  acknowledged : ∀ text, env.acknowledge text = .ok ()
  generated : ∃ trees, (analyzeAll agent env (postGateProposal agent intent candidates).candidates cache).2 = .ok trees

theorem sendAck_returns (request : Request) (cache : Cache) (acknowledged : ∀ text, env.acknowledge text = .ok ())
    (ack : Option String) :
    ∃ sent, (sendAck env request ack cache).value = .ok sent := by
  unfold sendAck
  cases truthyText ack with
  | none => exact ⟨none,rfl⟩
  | some text =>
    by_cases callback : request.onPreflightAck = true
    · simp only [if_pos callback]
      exact bind_defined (emit_value _) (bind_defined (acknowledged text) ⟨_,rfl⟩)
    · simp only [if_neg callback]
      exact ⟨some env.wallClock,rfl⟩

theorem Undisturbed.ready (undisturbed : Undisturbed agent env request cache intent candidates)
    (equipped : agent.hat = some hat) : ∃ prepared, (prepare agent env request cache).value = .ok prepared ∧
      prepared.hat = hat ∧ prepared.intent = intent ∧ prepared.proposal = postGateProposal agent intent candidates ∧
      prepared.escalation = escalationOf agent request hat := by
  have active : activeHat agent = .ok hat := by rw [activeHat,equipped]
  have returned : ∃ prepared, (prepare agent env request cache).value = .ok prepared := by
    obtain ⟨sent,told⟩ := sendAck_returns request cache undisturbed.acknowledged
      (if request.source = "webhook" then none else maybeGenerateAck agent.runtime env.draw intent
        (postGateProposal agent intent candidates).candidates agent.registry (some hat))
    refine bind_defined undisturbed.parsed (bind_defined undisturbed.proposed ?_)
    exact bind_defined active (bind_defined told ⟨_,rfl⟩)
  obtain ⟨prepared,returned⟩ := returned
  have parts := prepare_parts returned
  obtain rfl := parts.worn equipped
  obtain ⟨rfl,shape⟩ := parts.given undisturbed.parsed undisturbed.proposed
  exact ⟨prepared,returned,rfl,rfl,shape,parts.escalation⟩

-- With a first candidate that acts and no RED floor, a run is the panel's.
structure Acting (agent : Agent) (proposal : Proposal) (first : CandidateAction) : Prop where
  top : proposal.candidates.head? = some first
  acting : isDefensive first = false
  low : getProposalFloor proposal.candidates agent.registry ≠ some .red

theorem Acting.undefended (acting : Acting agent proposal first) : defensiveTop proposal = none := by
  rw [defensiveTop,acting.top,Option.filter_some,acting.acting]
  rfl

theorem Acting.calls (acting : Acting agent prepared.proposal first)
    (ready : (prepare agent env request cache).value = .ok prepared) : calls (process agent env request) cache =
      calls (panel agent env request prepared (getProposalFloor prepared.proposal.candidates agent.registry)) cache := by
  rw [process_calls,ready]
  exact if_pos ⟨acting.low,acting.undefended⟩

theorem Acting.judged (acting : Acting agent prepared.proposal first)
    (ready : (prepare agent env request cache).value = .ok prepared)
    (returned : (process agent env request cache).value = .ok result) : ∃ judged,
      (judge agent env prepared (getProposalFloor prepared.proposal.candidates agent.registry) cache).value = .ok judged ∧
        result.riskClassification = judged.riskClassification := by
  obtain ⟨_,made,_,exit⟩ := process_exit returned
  cases ready.symm.trans made
  cases exit with
  | refused red => exact absurd red acting.low
  | evaluated top _ waiting => cases acting.undefended.symm.trans waiting
  | bypassed top _ waiting => cases acting.undefended.symm.trans waiting
  | judged judged _ _ decided _ rc => exact ⟨judged,decided,rc⟩

theorem scores_same (same : ∀ evaluator, env₁.evaluate evaluator context₁ = env₂.evaluate evaluator context₂) :
    scores env₁ context₁ = scores env₂ context₂ := by
  have each : scoreOf env₁ context₁ = scoreOf env₂ context₂ := by
    funext evaluator
    rw [scoreOf,scoreOf,same evaluator]
  rw [scores,scores,each]

-- The same answers about the first candidate's tree, whatever tree each run gets for it
def SameAnswers (agent : Agent) (env₁ env₂ : Environment) (cache : Cache) (hat : HatConfig) (intent : Intent)
    (first : CandidateAction) : Prop :=
  ∀ tree₁ tree₂, firstTree agent env₁ cache first = .ok tree₁ → firstTree agent env₂ cache first = .ok tree₂ →
    ∀ evaluator, env₁.evaluate evaluator (panelContext hat intent tree₁) =
      env₂.evaluate evaluator (panelContext hat intent tree₂)

-- They are the same when the two runs ask the same of the same oracles.
theorem sameAnswers_of_oracles (clock : env₁.lookupClock 0 = env₂.lookupClock 0) (ids : env₁.ids 0 = env₂.ids 0)
    (consequences : env₁.consequences 0 first = env₂.consequences 0 first) (evaluate : env₁.evaluate = env₂.evaluate) :
    SameAnswers agent env₁ env₂ cache hat intent first := by
  intro tree₁ tree₂ built₁ built₂ evaluator
  have same : firstTree agent env₁ cache first = firstTree agent env₂ cache first := by
    unfold firstTree
    rw [clock]
    cases begun : analyzeBegin agent.engine (env₂.lookupClock 0) first cache with
    | mk after outcome =>
      cases outcome with
      | inl tree => rfl
      | inr call =>
        obtain ⟨_,rfl,_⟩ := analyzeBegin_miss begun
        rw [treeAt,treeAt,ids,consequences]
  cases built₁.symm.trans (same.trans built₂)
  rw [evaluate]

theorem map_same {x y : Except ε α} {f : α → β} (same : x.map f = y.map f) :
    (∃ e, x = .error e ∧ y = .error e) ∨ ∃ a b, x = .ok a ∧ y = .ok b ∧ f a = f b := by
  cases x with
  | error e => cases y with
    | error d => cases same; exact .inl ⟨e,rfl,rfl⟩
    | ok b => cases same
  | ok a => cases y with
    | error d => cases same
    | ok b => exact .inr ⟨a,b,rfl,rfl,Except.ok.inj same⟩

theorem judge_same {prepared₁ prepared₂ : Prepared} (top₁ : prepared₁.proposal.candidates.head? = some first)
    (top₂ : prepared₂.proposal.candidates.head? = some first)
    (generated₁ : (analyzeAll agent env₁ prepared₁.proposal.candidates cache).2 = .ok trees₁)
    (generated₂ : (analyzeAll agent env₂ prepared₂.proposal.candidates cache).2 = .ok trees₂)
    (hat : prepared₁.hat = prepared₂.hat) (intent : prepared₁.intent = prepared₂.intent)
    (escalation : prepared₁.escalation = prepared₂.escalation)
    (answers : SameAnswers agent env₁ env₂ cache prepared₂.hat prepared₂.intent first) (floor : Option Tier) :
    (judge agent env₁ prepared₁ floor cache).value.map verdict =
      (judge agent env₂ prepared₂ floor cache).value.map verdict := by
  obtain ⟨rest₁,shape₁⟩ := List.head?_eq_some_iff.mp top₁
  obtain ⟨rest₂,shape₂⟩ := List.head?_eq_some_iff.mp top₂
  obtain ⟨tree₁,_,_,alone₁⟩ := analyzeAll_first (shape₁ ▸ generated₁)
  obtain ⟨tree₂,_,_,alone₂⟩ := analyzeAll_first (shape₂ ▸ generated₂)
  rw [judge_verdict shape₁ generated₁ alone₁,judge_verdict shape₂ generated₂ alone₂,hat,intent,escalation]
  unfold firstVerdict
  rw [scores_same (answers tree₁ tree₂ alone₁ alone₂)]

theorem lower_candidates (agent : Agent) (env₁ env₂ : Environment) (request₁ request₂ : Request) (cache : Cache)
    (hat : HatConfig) (intent : Intent) (candidates₁ candidates₂ : List CandidateAction) (first : CandidateAction)
    (equipped : agent.hat = some hat) (message : request₁.message = request₂.message)
    (history : request₁.conversationHistory = request₂.conversationHistory)
    (undisturbed₁ : Undisturbed agent env₁ request₁ cache intent candidates₁)
    (undisturbed₂ : Undisturbed agent env₂ request₂ cache intent candidates₂)
    (acting₁ : Acting agent (postGateProposal agent intent candidates₁) first)
    (acting₂ : Acting agent (postGateProposal agent intent candidates₂) first)
    (floor : getProposalFloor (postGateProposal agent intent candidates₁).candidates agent.registry =
      getProposalFloor (postGateProposal agent intent candidates₂).candidates agent.registry)
    (answers : SameAnswers agent env₁ env₂ cache hat intent first) :
    calls (process agent env₁ request₁) cache = calls (process agent env₂ request₂) cache ∧
    ∀ result₁ result₂, (process agent env₁ request₁ cache).value = .ok result₁ →
      (process agent env₂ request₂ cache).value = .ok result₂ →
      result₁.riskClassification.tier = result₂.riskClassification.tier ∧
      result₁.execution.riskTier = result₂.execution.riskTier ∧
      result₁.riskClassification.weightedScore = result₂.riskClassification.weightedScore ∧
      result₁.riskClassification.individualScores = result₂.riskClassification.individualScores := by
  obtain ⟨prepared₁,ready₁,hat₁,intent₁,proposal₁,escalation₁⟩ := undisturbed₁.ready equipped
  obtain ⟨prepared₂,ready₂,hat₂,intent₂,proposal₂,escalation₂⟩ := undisturbed₂.ready equipped
  obtain ⟨trees₁,generated₁⟩ := undisturbed₁.generated
  obtain ⟨trees₂,generated₂⟩ := undisturbed₂.generated
  rw [← proposal₁] at acting₁ generated₁ floor
  rw [← proposal₂] at acting₂ generated₂ floor
  have escalation : prepared₁.escalation = prepared₂.escalation := by
    rw [escalation₁,escalation₂,escalationOf,escalationOf,message,history]
  subst hat₂ intent₂
  have same := judge_same acting₁.top acting₂.top generated₁ generated₂ hat₁ intent₁ escalation answers
    (getProposalFloor prepared₂.proposal.candidates agent.registry)
  constructor
  · rw [acting₁.calls ready₁,acting₂.calls ready₂,floor,panel_calls,panel_calls]
    rcases map_same same with ⟨e,raised₁,raised₂⟩ | ⟨judged₁,judged₂,decided₁,decided₂,verdicts⟩
    · rw [raised₁,raised₂]
    · rw [decided₁,decided₂]
      exact tiered_same (Prod.mk.inj verdicts).2 (acting₁.top.trans acting₂.top.symm)
  · intro result₁ result₂ returned₁ returned₂
    obtain ⟨judged₁,decided₁,rc₁⟩ := acting₁.judged ready₁ returned₁
    obtain ⟨judged₂,decided₂,rc₂⟩ := acting₂.judged ready₂ returned₂
    rw [floor] at decided₁
    rw [decided₁,decided₂] at same
    have verdicts := (Prod.mk.inj (Except.ok.inj same)).2
    rw [← rc₁,← rc₂] at verdicts
    have tier : result₁.riskClassification.tier = result₂.riskClassification.tier := congrArg (·.tier) verdicts
    refine ⟨tier,?_,congrArg (·.weightedScore) verdicts,congrArg (·.individualScores) verdicts⟩
    rw [process_sameTier returned₁,process_sameTier returned₂,tier]

-- A second lookup of the same shape stands behind the first, and its answer draws another tree.
def crowded : Environment := {calm inquiry [lookupCandidate,{lookupCandidate with reasoning := "once more"}] with
  consequences := fun i _ => if i = 0 then .ok (.obj []) else
    .ok (.obj [("consequences",.arr [.obj [("description",.str "the same order is read twice")]])])}

theorem lower_candidates_crowded :
    calls (process deskAgent (calm inquiry [lookupCandidate]) greeting) ∅ = calls (process deskAgent crowded greeting) ∅ ∧
    ∀ result₁ result₂, (process deskAgent (calm inquiry [lookupCandidate]) greeting ∅).value = .ok result₁ →
      (process deskAgent crowded greeting ∅).value = .ok result₂ →
      result₁.riskClassification.tier = result₂.riskClassification.tier ∧
      result₁.execution.riskTier = result₂.execution.riskTier ∧
      result₁.riskClassification.weightedScore = result₂.riskClassification.weightedScore ∧
      result₁.riskClassification.individualScores = result₂.riskClassification.individualScores := by
  have grown₁ : ((analyzeAll deskAgent (calm inquiry [lookupCandidate])
      (postGateProposal deskAgent inquiry [lookupCandidate]).candidates ∅).2.map (·.length)).toOption = some 1 := by
    decide +kernel
  have grown₂ : ((analyzeAll deskAgent crowded (postGateProposal deskAgent inquiry
      [lookupCandidate,{lookupCandidate with reasoning := "once more"}]).candidates ∅).2.map
        (·.map (·.totalNodes))).toOption = some [0,1] := by
    decide +kernel
  obtain ⟨trees₁,generated₁,_⟩ := toOption_map.mp grown₁
  obtain ⟨trees₂,generated₂,_⟩ := toOption_map.mp grown₂
  exact lower_candidates deskAgent _ crowded greeting greeting ∅ legalHat inquiry _ _ lookupCandidate rfl rfl rfl
    ⟨rfl,rfl,fun _ => rfl,trees₁,generated₁⟩ ⟨rfl,rfl,fun _ => rfl,trees₂,generated₂⟩
    ⟨rfl,by decide,by decide⟩ ⟨rfl,by decide,by decide⟩ (by decide) (sameAnswers_of_oracles rfl rfl rfl rfl)

end

end Sophia.AgentLoop
