import Sophia.AuditWriters
import Sophia.Library.StepRun
import Sophia.Library.ChildRows
import Sophia.Library.Paging
import Mathlib.Data.List.Find
import Mathlib.Data.List.Perm.Basic

namespace Sophia.Audit
open StepRun ChildRows Paging RiskClassifier AgentLoop Evaluators

-- The rows as they are read back: a text column gives a text.
structure StoredDecision where
  id : Nat
  timestamp : Int
  hatName : String
  inputMessage : String
  intent : Intent
  riskTier : Tier
  actionTaken : String
  response : String
  bypassed : Bool
  preflightAck : Option String
  preflightAckAt : Option ℚ
  metadata : Params

structure StoredEvaluation where
  decisionId : Nat
  evaluatorName : String
  score : ℚ
  confidence : ℚ
  flags : Json
  reasoning : String
  keyConcerns : Json

structure StoredSnapshot where
  decisionId : Nat
  hatName : String
  hatVersion : String
  constraints : Params
  stakeholders : Json
  evaluatorConfig : Json

structure DecisionOutcome where
  decisionId : Nat
  timestamp : Int
  actualOutcome : String
  outcomeMatchesPrediction : Option Bool
  notes : String

structure Feedback where
  decisionId : Nat
  timestamp : Int
  feedbackType : String
  originalTier : String
  overrideAction : Option String
  reason : String

-- The tables, each in the order of its primary key
structure Tables where
  decisions : List StoredDecision := []
  proposals : List DecisionProposal := []
  trees : List DecisionTree := []
  evaluations : List StoredEvaluation := []
  snapshots : List StoredSnapshot := []
  outcomes : List DecisionOutcome := []
  feedback : List Feedback := []

-- The database of the log. A text column keeps a text as it is. Of another value it keeps some text, or the commit
-- fails; and a commit may fail for reasons of its own.
structure Database where
  text : Json → Option String
  textual : ∀ s, text (.str s) = some s
  accepts : AuditRecord → Bool

def Database.decision (db : Database) (id : Nat) (timestamp : Int) (row : Decision) : Option StoredDecision := do
  let hatName ← db.text row.hatName
  return {
    id,timestamp,hatName
    inputMessage := row.inputMessage
    intent := row.intent
    riskTier := row.riskTier
    actionTaken := row.actionTaken
    response := row.response
    bypassed := row.bypassed
    preflightAck := row.preflightAck
    preflightAckAt := row.preflightAckAt
    metadata := row.metadata}

def Database.evaluation (db : Database) (row : DecisionEvaluation) : Option StoredEvaluation := do
  let reasoning ← db.text row.reasoning
  return ⟨row.decisionId,row.evaluatorName,row.score,row.confidence,row.flags,reasoning,row.keyConcerns⟩

def Database.snapshot (db : Database) (row : SnapshotColumns) : Option StoredSnapshot := do
  let hatName ← db.text row.hatName
  let hatVersion ← db.text row.hatVersion
  return ⟨row.decisionId,hatName,hatVersion,row.constraints,row.stakeholders,row.evaluatorConfig⟩

-- The commit of store_decision_with_hat. The database gives the id, the clock the timestamp.
def Tables.insert (db : Database) (tables : Tables) (id : Nat) (timestamp : Int) (record : AuditRecord) : Option Tables := do
  let decisions ← (record.rows.filterMap decision?).mapM (db.decision id timestamp)
  let evaluations ← (record.rows.filterMap evaluation?).mapM db.evaluation
  let snapshots ← record.snapshot.toList.mapM db.snapshot
  return {tables with
    decisions := tables.decisions ++ decisions
    proposals := tables.proposals ++ record.rows.filterMap proposal?
    trees := tables.trees ++ record.rows.filterMap tree?
    evaluations := tables.evaluations ++ evaluations
    snapshots := tables.snapshots ++ snapshots}

-- A decision with its related rows
structure LoadedDecision where
  decision : StoredDecision
  proposals : List DecisionProposal
  trees : List DecisionTree
  evaluations : List StoredEvaluation
  outcome : Option DecisionOutcome
  feedbackEntries : List Feedback
  hatConfigSnapshot : Option StoredSnapshot

-- The order that one read finds the related rows in: selectinload asks for none.
structure ReadOrder where
  proposals : Arrangement DecisionProposal
  trees : Arrangement DecisionTree
  evaluations : Arrangement StoredEvaluation
  feedback : Arrangement Feedback

def load (order : ReadOrder) (tables : Tables) (decision : StoredDecision) : LoadedDecision where
  decision := decision
  proposals := order.proposals.arrange (tables.proposals.filter fun row => row.decisionId = decision.id)
  trees := order.trees.arrange (tables.trees.filter fun row => row.decisionId = decision.id)
  evaluations := order.evaluations.arrange (tables.evaluations.filter fun row => row.decisionId = decision.id)
  outcome := tables.outcomes.find? fun row => row.decisionId = decision.id
  feedbackEntries := order.feedback.arrange (tables.feedback.filter fun row => row.decisionId = decision.id)
  hatConfigSnapshot := tables.snapshots.find? fun row => row.decisionId = decision.id

def getDecision (order : ReadOrder) (tables : Tables) (decisionId : Nat) : Option LoadedDecision :=
  (tables.decisions.find? fun decision => decision.id = decisionId).map (load order tables)

-- The filters of query_decisions
structure Filters where
  hatName : Option String := none
  riskTier : Option String := none
  toolName : Option String := none
  startDate : Option Int := none
  endDate : Option Int := none

def Filters.keeps (filters : Filters) (decision : StoredDecision) : Bool :=
  ((truthyText filters.hatName).all fun hat => hat = decision.hatName) &&
  ((truthyText filters.riskTier).all fun tier => tier = decision.riskTier.name) &&
  ((truthyText filters.toolName).all fun tool => tool = decision.actionTaken) &&
  (filters.startDate.all fun start => start ≤ decision.timestamp) &&
  (filters.endDate.all fun last => decision.timestamp ≤ last)

def matching (tables : Tables) (filters : Filters) : List StoredDecision := tables.decisions.filter filters.keeps

-- ORDER BY timestamp DESC. Each query may put the decisions of one timestamp in another order.
def queryDecisions (newest : Descending StoredDecision.timestamp) (order : ReadOrder) (tables : Tables) (filters : Filters)
    (limit offset : Nat) : List LoadedDecision :=
  (((newest.arrange (matching tables filters)).drop offset).take limit).map (load order tables)

structure AuditDecisionSummary where
  id : Nat
  timestamp : Int
  hatName : String
  inputMessage : String
  riskTier : Tier
  actionTaken : String
  response : String
  bypassed : Bool
  proposalCount : Nat
  evaluationCount : Nat
  hasOutcome : Bool
  feedbackCount : Nat

structure AuditProposalResponse where
  rank : Nat
  toolName : String
  parameters : Params
  reasoning : String
  expectedOutcome : String

structure AuditTreeResponse where
  candidateToolName : String
  treeData : Json
  totalNodes : Nat
  worstHarm : Option ℚ
  bestBenefit : Option ℚ

structure AuditEvaluationResponse where
  evaluatorName : String
  score : ℚ
  confidence : ℚ
  flags : List String
  reasoning : String
  keyConcerns : List String

structure AuditOutcomeResponse where
  actualOutcome : String
  outcomeMatchesPrediction : Option Bool
  notes : String
  timestamp : Int

structure AuditFeedbackResponse where
  feedbackType : String
  originalTier : String
  overrideAction : Option String
  reason : String
  timestamp : Int

structure AuditHatConfigResponse where
  hatName : String
  hatVersion : String
  constraints : Params
  stakeholders : Json
  evaluatorConfig : Json

structure AuditDecisionDetail where
  id : Nat
  timestamp : Int
  hatName : String
  inputMessage : String
  intent : Intent
  riskTier : Tier
  actionTaken : String
  response : String
  bypassed : Bool
  metadata : Params
  proposals : List AuditProposalResponse
  trees : List AuditTreeResponse
  evaluations : List AuditEvaluationResponse
  outcome : Option AuditOutcomeResponse
  feedback : List AuditFeedbackResponse
  hatConfig : Option AuditHatConfigResponse

def validationError : PyError := .raised "ValidationError"

-- The fields of a response that a stored JSON value may not fit
def textField : Json → Except PyError String
  | .str text => .ok text
  | _ => .error validationError

def textsField : Json → Except PyError (List String)
  | .arr items => items.mapM textField
  | _ => .error validationError

def objectField : Json → Except PyError Json
  | .obj fields => .ok (.obj fields)
  | _ => .error validationError

def proposalResponse (row : DecisionProposal) : AuditProposalResponse :=
  ⟨row.rank,row.toolName,row.parameters,row.reasoning,row.expectedOutcome⟩

def treeResponse (row : DecisionTree) : Except PyError AuditTreeResponse := do
  let treeData ← objectField row.treeData
  return ⟨row.candidateToolName,treeData,row.totalNodes,row.worstHarm,row.bestBenefit⟩

def evaluationResponse (row : StoredEvaluation) : Except PyError AuditEvaluationResponse := do
  let flags ← textsField row.flags
  let keyConcerns ← textsField row.keyConcerns
  return ⟨row.evaluatorName,row.score,row.confidence,flags,row.reasoning,keyConcerns⟩

def outcomeResponse (row : DecisionOutcome) : AuditOutcomeResponse :=
  ⟨row.actualOutcome,row.outcomeMatchesPrediction,row.notes,row.timestamp⟩

def feedbackResponse (row : Feedback) : AuditFeedbackResponse :=
  ⟨row.feedbackType,row.originalTier,row.overrideAction,row.reason,row.timestamp⟩

def hatConfigResponse (row : StoredSnapshot) : Except PyError AuditHatConfigResponse := do
  let stakeholders ← objectField row.stakeholders
  let evaluatorConfig ← objectField row.evaluatorConfig
  return ⟨row.hatName,row.hatVersion,row.constraints,stakeholders,evaluatorConfig⟩

def decisionToSummary (d : LoadedDecision) : AuditDecisionSummary where
  id := d.decision.id
  timestamp := d.decision.timestamp
  hatName := d.decision.hatName
  inputMessage := d.decision.inputMessage
  riskTier := d.decision.riskTier
  actionTaken := d.decision.actionTaken
  response := d.decision.response
  bypassed := d.decision.bypassed
  proposalCount := d.proposals.length
  evaluationCount := d.evaluations.length
  hasOutcome := d.outcome.isSome
  feedbackCount := d.feedbackEntries.length

def listDecisions (newest : Descending StoredDecision.timestamp) (order : ReadOrder) (tables : Tables) (filters : Filters)
    (limit offset : Nat) : List AuditDecisionSummary :=
  (queryDecisions newest order tables filters limit offset).map decisionToSummary

def decisionToDetail (d : LoadedDecision) : Except PyError AuditDecisionDetail := do
  let trees ← d.trees.mapM treeResponse
  let evaluations ← d.evaluations.mapM evaluationResponse
  let hatConfig ← d.hatConfigSnapshot.mapM hatConfigResponse
  return {
    id := d.decision.id
    timestamp := d.decision.timestamp
    hatName := d.decision.hatName
    inputMessage := d.decision.inputMessage
    intent := d.decision.intent
    riskTier := d.decision.riskTier
    actionTaken := d.decision.actionTaken
    response := d.decision.response
    bypassed := d.decision.bypassed
    metadata := d.decision.metadata
    proposals := d.proposals.map proposalResponse
    trees
    evaluations
    outcome := d.outcome.map outcomeResponse
    feedback := d.feedbackEntries.map feedbackResponse
    hatConfig}

-- What a request reports of a decision
inductive Report where
  | outcome (actualOutcome : String) (outcomeMatchesPrediction : Option Bool) (notes : String)
  | feedback (feedbackType originalTier : String) (overrideAction : Option String) (reason : String)

structure ReportRequest where
  decisionId : Nat
  report : Report

inductive Reply where
  | stored (timestamp : Int)
  | refused (status : Nat) (detail : String)
  | failed

-- report_outcome and submit_feedback up to the insert, which is awaited
def checkReport (order : ReadOrder) (tables : Tables) (request : ReportRequest) : Option Reply :=
  match getDecision order tables request.decisionId,request.report with
  | none,_ => some (.refused 404 ("Decision " ++ toString request.decisionId ++ " not found"))
  | some decision,.outcome _ _ _ =>
    if decision.outcome.isSome then some (.refused 409 "Outcome already recorded for this decision") else none
  | some _,.feedback _ _ _ _ => none

-- The insert. A second outcome of a decision breaks its unique key.
def storeReport (tables : Tables) (request : ReportRequest) (timestamp : Int) : Tables × Reply :=
  match request.report with
  | .outcome actualOutcome outcomeMatchesPrediction notes =>
    if tables.outcomes.any fun row => row.decisionId = request.decisionId then (tables,.failed)
    else ({tables with
      outcomes := tables.outcomes ++ [⟨request.decisionId,timestamp,actualOutcome,outcomeMatchesPrediction,notes⟩]},.stored timestamp)
  | .feedback feedbackType originalTier overrideAction reason => ({tables with
      feedback := tables.feedback ++ [⟨request.decisionId,timestamp,feedbackType,originalTier,overrideAction,reason⟩]},
      .stored timestamp)

-- A decision that was committed
structure Recorded where
  id : Nat
  timestamp : Int
  result : PipelineResult
  inputMessage : String
  hat : Option LoadedHat

structure Service where
  tables : Tables := {}
  pending : List ReportRequest := []
  recorded : List Recorded := []
  replies : List (ReportRequest × Reply) := []

inductive ServiceInput where
  | record (entry : Recorded)
  | report (order : ReadOrder) (request : ReportRequest)
  | store (i : Nat) (timestamp : Int)

section
variable (db : Database)

def Recorded.record (entry : Recorded) : AuditRecord := storeWithHat entry.id entry.result entry.inputMessage entry.hat

-- Commits are atomic: what the database refuses, or gives a taken id, leaves nothing.
def serve (service : Service) : ServiceInput → Service
  | .record entry =>
    if db.accepts entry.record && service.tables.decisions.all fun decision => decision.id ≠ entry.id then
      match service.tables.insert db entry.id entry.timestamp entry.record with
      | some tables => {service with tables,recorded := service.recorded ++ [entry]}
      | none => service
    else service
  | .report order request => match checkReport order service.tables request with
    | none => {service with pending := service.pending ++ [request]}
    | some reply => {service with replies := service.replies ++ [(request,reply)]}
  | .store i timestamp => match service.pending[i]? with
    | none => service
    | some request =>
      let stored := storeReport service.tables request timestamp
      {service with
        tables := stored.1
        pending := service.pending.eraseIdx i
        replies := service.replies ++ [(request,stored.2)]}

end

def acceptedOutcome? : ReportRequest × Reply → Option DecisionOutcome
  | (⟨decisionId,.outcome actualOutcome outcomeMatchesPrediction notes⟩,.stored timestamp) =>
    some ⟨decisionId,timestamp,actualOutcome,outcomeMatchesPrediction,notes⟩
  | _ => none

def acceptedFeedback? : ReportRequest × Reply → Option Feedback
  | (⟨decisionId,.feedback feedbackType originalTier overrideAction reason⟩,.stored timestamp) =>
    some ⟨decisionId,timestamp,feedbackType,originalTier,overrideAction,reason⟩
  | _ => none

-- What the database keeps of a decision and of its related rows
def Recorded.stored (db : Database) (entry : Recorded) : Option StoredDecision :=
  db.decision entry.id entry.timestamp (decisionRow entry.result entry.inputMessage)

def Recorded.evaluations (db : Database) (entry : Recorded) : List StoredEvaluation :=
  (entry.record.rows.filterMap evaluation?).filterMap db.evaluation

def Recorded.snapshots (db : Database) (entry : Recorded) : List StoredSnapshot :=
  entry.record.snapshot.toList.filterMap db.snapshot

-- The tables that the commits and the accepted reports amount to
def tablesOf (db : Database) (recorded : List Recorded) (replies : List (ReportRequest × Reply)) : Tables where
  decisions := recorded.filterMap (Recorded.stored db)
  proposals := recorded.flatMap fun entry => entry.record.rows.filterMap proposal?
  trees := recorded.flatMap fun entry => entry.record.rows.filterMap tree?
  evaluations := recorded.flatMap (Recorded.evaluations db)
  snapshots := recorded.flatMap (Recorded.snapshots db)
  outcomes := replies.filterMap acceptedOutcome?
  feedback := replies.filterMap acceptedFeedback?

-- A record whose every column fits its table
structure Storable (db : Database) (entry : Recorded) : Prop where
  decision : (entry.stored db).isSome
  evaluations : ∀ row ∈ entry.record.rows.filterMap evaluation?, (db.evaluation row).isSome

structure Kept (db : Database) (service : Service) : Prop where
  tables : service.tables = tablesOf db service.recorded service.replies
  storable : ∀ entry ∈ service.recorded, Storable db entry
  distinct : (service.recorded.map Recorded.id).Nodup
  once : ((service.replies.filterMap acceptedOutcome?).map DecisionOutcome.decisionId).Nodup

section
variable {db : Database} {service : Service} {recorded : List Recorded} {replies : List (ReportRequest × Reply)}

theorem mapM_filterMap {α β : Type} {f : α → Option β} {xs : List α} {ys : List β} (all : xs.mapM f = some ys) :
    ys = xs.filterMap f ∧ ∀ x ∈ xs, (f x).isSome := by
  induction xs generalizing ys with
  | nil =>
    cases all
    exact ⟨rfl,fun _ present => absurd present List.not_mem_nil⟩
  | cons x xs ih =>
    rw [List.mapM_cons] at all
    obtain ⟨y,first,all⟩ := Option.bind_eq_some_iff.mp all
    obtain ⟨rest,others,all⟩ := Option.bind_eq_some_iff.mp all
    cases all
    obtain ⟨same,each⟩ := ih others
    refine ⟨by rw [List.filterMap_cons_some first,same],fun other present => ?_⟩
    rcases List.mem_cons.mp present with rfl | later
    · exact Option.isSome_of_eq_some first
    · exact each other later

-- One record row by row
theorem record_rows (entry : Recorded) :
    entry.record.rows.filterMap decision? = [decisionRow entry.result entry.inputMessage] ∧
    entry.record.rows.filterMap proposal? = entry.result.proposal.candidates.zipIdx.map (proposalRow entry.id) ∧
    entry.record.rows.filterMap tree? = entry.result.consequenceTrees.map (treeRow entry.id) ∧
    entry.record.rows.filterMap evaluation? = entry.result.evaluationResults.map (evaluationRow entry.id) := by
  refine ⟨?_,?_,?_,?_⟩ <;>
    simp [Recorded.record,storeWithHat,storeDecisionWithHat,List.filterMap_cons,List.filterMap_map,Function.comp_def,
      decision?,proposal?,tree?,evaluation?]

theorem insert_tables (entry : Recorded)
    (inserted : (tablesOf db recorded replies).insert db entry.id entry.timestamp entry.record = some tables) :
    tables = tablesOf db (recorded ++ [entry]) replies ∧ Storable db entry := by
  unfold Tables.insert at inserted
  obtain ⟨decisions,first,inserted⟩ := Option.bind_eq_some_iff.mp inserted
  obtain ⟨evaluations,second,inserted⟩ := Option.bind_eq_some_iff.mp inserted
  obtain ⟨snapshots,third,inserted⟩ := Option.bind_eq_some_iff.mp inserted
  cases inserted
  obtain ⟨rfl,decided⟩ := mapM_filterMap first
  obtain ⟨rfl,evaluated⟩ := mapM_filterMap second
  obtain ⟨rfl,_⟩ := mapM_filterMap third
  rw [(record_rows entry).1] at decided
  refine ⟨?_,decided _ List.mem_cons_self,evaluated⟩
  simp [tablesOf,(record_rows entry).1,Recorded.stored,Recorded.evaluations,Recorded.snapshots]
  rfl

theorem storeReport_tables (request : ReportRequest) (timestamp : Int) :
    (storeReport (tablesOf db recorded replies) request timestamp).1 =
      tablesOf db recorded (replies ++ [(request,(storeReport (tablesOf db recorded replies) request timestamp).2)]) := by
  obtain ⟨decisionId,report⟩ := request
  cases report with
  | outcome actualOutcome outcomeMatchesPrediction notes =>
    unfold storeReport
    dsimp only
    split <;> simp [tablesOf,acceptedOutcome?,acceptedFeedback?]
  | feedback feedbackType originalTier overrideAction reason => simp [storeReport,tablesOf,acceptedOutcome?,acceptedFeedback?]

-- Only a report of an outcome for a decision that has none adds one.
theorem storeReport_once {tables : Tables} (once : (tables.outcomes.map DecisionOutcome.decisionId).Nodup) (request : ReportRequest)
    (timestamp : Int) : ((storeReport tables request timestamp).1.outcomes.map DecisionOutcome.decisionId).Nodup := by
  unfold storeReport
  split
  · split
    · exact once
    · next fresh =>
      rw [List.map_append,List.nodup_append]
      refine ⟨once,List.nodup_singleton _,?_⟩
      intro id old other new same
      obtain ⟨row,listed,own⟩ := List.mem_map.mp old
      rw [List.map_singleton,List.mem_singleton] at new
      exact fresh (List.any_eq_true.mpr ⟨row,listed,by simpa using own.trans (same.trans new)⟩)
  · exact once

theorem Kept.outcomes (kept : Kept db service) : (service.tables.outcomes.map DecisionOutcome.decisionId).Nodup := by
  rw [kept.tables]
  exact kept.once

theorem acceptedOutcome_refused (request : ReportRequest) (status : Nat) (detail : String) :
    acceptedOutcome? (request,.refused status detail) = none ∧ acceptedFeedback? (request,.refused status detail) = none := by
  obtain ⟨decisionId,report⟩ := request
  cases report <;> exact ⟨rfl,rfl⟩

theorem checkReport_refused {tables : Tables} {request : ReportRequest} (refused : checkReport order tables request = some reply) :
    ∃ status detail, reply = .refused status detail := by
  unfold checkReport at refused
  split at refused
  · cases refused
    exact ⟨_,_,rfl⟩
  · split at refused
    · cases refused
      exact ⟨_,_,rfl⟩
    · cases refused
  · cases refused

theorem stored_id {entry : Recorded} (found : entry.stored db = some stored) :
    stored.id = entry.id := by
  obtain ⟨_,_,made⟩ := Option.bind_eq_some_iff.mp found
  cases made
  rfl

theorem Kept.unused (kept : Kept db service) {n : Nat}
    (fresh : (service.tables.decisions.all fun decision => decision.id ≠ n) = true) : n ∉ service.recorded.map Recorded.id := by
  intro used
  obtain ⟨earlier,listed,own⟩ := List.mem_map.mp used
  obtain ⟨stored,found⟩ := Option.isSome_iff_exists.mp (kept.storable earlier listed).decision
  have there : stored ∈ service.tables.decisions := by
    rw [kept.tables]
    exact List.mem_filterMap.mpr ⟨earlier,listed,found⟩
  exact of_decide_eq_true (List.all_eq_true.mp fresh stored there) ((stored_id found).trans own)

theorem Kept.committed (kept : Kept db service) {entry : Recorded} (free : entry.id ∉ service.recorded.map Recorded.id)
    {grown : Tables} (inserted : service.tables.insert db entry.id entry.timestamp entry.record = some grown) :
    Kept db {service with tables := grown,recorded := service.recorded ++ [entry]} := by
  rw [kept.tables] at inserted
  obtain ⟨same,storable⟩ := insert_tables entry inserted
  refine ⟨same,?_,?_,kept.once⟩
  · intro other listed
    rcases List.mem_append.mp listed with before | now
    · exact kept.storable other before
    · exact List.mem_singleton.mp now ▸ storable
  · rw [List.map_append]
    exact kept.distinct.append (List.nodup_singleton _) (List.disjoint_singleton.mpr free)

theorem serve_kept (service : Service) (input : ServiceInput) (kept : Kept db service) : Kept db (serve db service input) := by
  unfold serve
  cases input with
  | record entry =>
    dsimp only
    split
    · next allowed =>
      rw [Bool.and_eq_true] at allowed
      split
      · next tables inserted => exact kept.committed (kept.unused allowed.2) inserted
      · exact kept
    · exact kept
  | report order request =>
    dsimp only
    cases checked : checkReport order service.tables request with
    | none => exact ⟨kept.tables,kept.storable,kept.distinct,kept.once⟩
    | some reply =>
      obtain ⟨status,detail,rfl⟩ := checkReport_refused checked
      obtain ⟨noOutcome,noFeedback⟩ := acceptedOutcome_refused request status detail
      refine ⟨?_,kept.storable,kept.distinct,?_⟩
      · rw [kept.tables]
        simp [tablesOf,noOutcome,noFeedback]
      · simpa [noOutcome] using kept.once
  | store i timestamp =>
    dsimp only
    split
    · exact kept
    · next request _ =>
      have tables : (storeReport (tablesOf db service.recorded service.replies) request timestamp).1 = _ :=
        storeReport_tables request timestamp
      rw [← kept.tables] at tables
      refine ⟨tables,kept.storable,kept.distinct,?_⟩
      have once := storeReport_once kept.outcomes request timestamp
      rw [tables] at once
      exact once

variable (db) in
theorem run_kept (inputs : List ServiceInput) : Kept db (after (serve db) {} inputs) :=
  invariant (fun s input kept => serve_kept s input kept)
    ⟨rfl,fun _ listed => absurd listed List.not_mem_nil,List.nodup_nil,List.nodup_nil⟩

-- The answers whose lists fit their fields in a response
def Fits (result : EvaluatorResult) : Prop :=
  (∃ flags, result.flags = dumpTexts flags) ∧ ∃ concerns, result.keyConcerns = dumpTexts concerns

-- An answer as it is read back. Its reasoning is what the text column kept of it, a text as it was.
structure Shows (db : Database) (result : EvaluatorResult) (response : AuditEvaluationResponse) : Prop where
  name : response.evaluatorName = result.evaluatorName
  score : response.score = result.score
  confidence : response.confidence = result.confidence
  flags : result.flags = dumpTexts response.flags
  reasoning : db.text result.reasoning = .some response.reasoning
  concerns : result.keyConcerns = dumpTexts response.keyConcerns

-- The record as it was reported, its related rows in some order. The candidates carry their rank.
structure DetailOf (db : Database) (entry : Recorded) (outcome : Option DecisionOutcome) (feedback : List Feedback)
    (detail : AuditDecisionDetail) : Prop where
  id : detail.id = entry.id
  timestamp : detail.timestamp = entry.timestamp
  hatName : db.text (recordedHat entry.result) = some detail.hatName
  inputMessage : detail.inputMessage = entry.inputMessage
  intent : detail.intent = entry.result.intent
  riskTier : detail.riskTier = entry.result.riskClassification.tier
  actionTaken : detail.actionTaken = entry.result.execution.actionTaken.toolName
  response : detail.response = entry.result.response
  bypassed : detail.bypassed = entry.result.bypassed
  metadata : detail.metadata = entry.result.metadata
  proposals : detail.proposals.Perm (entry.result.proposal.candidates.zipIdx.map fun ranked =>
    ⟨ranked.2,ranked.1.toolName,ranked.1.parameters,ranked.1.reasoning,ranked.1.expectedOutcome⟩)
  trees : detail.trees.Perm (entry.result.consequenceTrees.map fun tree =>
    ⟨tree.candidateAction.toolName,treeToDict tree,tree.totalNodes,harmOf tree.worstTerminal,harmOf tree.bestTerminal⟩)
  evaluations : ∃ results, results.Perm entry.result.evaluationResults ∧ List.Forall₂ (Shows db) results detail.evaluations
  outcome : detail.outcome = outcome.map outcomeResponse
  feedback : detail.feedback.Perm (feedback.map feedbackResponse)
  hatConfig : detail.hatConfig = entry.hat.map fun hat =>
    ⟨hat.config.name,hat.config.manifest.version,hat.constraints,dumpStakeholders hat.config.stakeholders,
      dumpEvaluatorConfig hat.config.evaluatorConfig hat.customFlags⟩

theorem textsField_cases (value : Json) : (∃ texts, value = dumpTexts texts ∧ textsField value = .ok texts) ∨
    (∀ texts, value ≠ dumpTexts texts) ∧ textsField value = .error validationError := by
  cases value with
  | arr items =>
    induction items with
    | nil => exact .inl ⟨[],rfl,rfl⟩
    | cons item items ih =>
      have read : textsField (.arr (item :: items)) =
          textField item >>= fun text => textsField (.arr items) >>= fun texts => .ok (text :: texts) := List.mapM_cons
      cases item with
      | str text =>
        rcases ih with ⟨texts,same,others⟩ | ⟨apart,raised⟩
        · refine .inl ⟨text :: texts,?_,by rw [read,others]; rfl⟩
          rw [dumpTexts,Json.arr.injEq] at same
          rw [same]
          rfl
        · refine .inr ⟨fun texts same => ?_,by rw [read,raised]; rfl⟩
          cases texts with
          | nil => cases same
          | cons first texts =>
            cases same
            exact apart texts rfl
      | _ =>
        refine .inr ⟨fun texts same => ?_,by rw [read]; rfl⟩
        cases texts <;> cases same
  | _ => exact .inr ⟨fun _ => nofun,rfl⟩

-- The rows of a record name its decision.
theorem rows_owned (db : Database) (entry : Recorded) :
    (∀ row ∈ entry.record.rows.filterMap proposal?, row.decisionId = entry.id) ∧
    (∀ row ∈ entry.record.rows.filterMap tree?, row.decisionId = entry.id) ∧
    (∀ row ∈ entry.evaluations db, row.decisionId = entry.id) ∧
    ∀ row ∈ entry.snapshots db, row.decisionId = entry.id := by
  obtain ⟨_,proposals,trees,evaluations⟩ := record_rows entry
  rw [Recorded.evaluations,proposals,trees,evaluations]
  refine ⟨?_,?_,?_,?_⟩
  · intro row listed
    obtain ⟨ranked,_,rfl⟩ := List.mem_map.mp listed
    rfl
  · intro row listed
    obtain ⟨tree,_,rfl⟩ := List.mem_map.mp listed
    rfl
  · intro row listed
    obtain ⟨given,among,kept⟩ := List.mem_filterMap.mp listed
    obtain ⟨result,_,rfl⟩ := List.mem_map.mp among
    obtain ⟨_,_,made⟩ := Option.bind_eq_some_iff.mp kept
    cases made
    rfl
  · intro row listed
    obtain ⟨given,among,kept⟩ := List.mem_filterMap.mp listed
    obtain ⟨hat,_,rfl⟩ := Option.map_eq_some_iff.mp (Option.mem_toList.mp among)
    obtain ⟨_,_,made⟩ := Option.bind_eq_some_iff.mp kept
    obtain ⟨_,_,made⟩ := Option.bind_eq_some_iff.mp made
    cases made
    rfl

theorem load_recorded (order : ReadOrder) (kept : Kept db service) (present : entry ∈ service.recorded)
    (stored : entry.stored db = some decision) : load order service.tables decision = {
      decision := decision
      proposals := order.proposals.arrange (entry.result.proposal.candidates.zipIdx.map (proposalRow entry.id))
      trees := order.trees.arrange (entry.result.consequenceTrees.map (treeRow entry.id))
      evaluations := order.evaluations.arrange (entry.evaluations db)
      outcome := (service.replies.filterMap acceptedOutcome?).find? fun row => row.decisionId = entry.id
      feedbackEntries :=
        order.feedback.arrange ((service.replies.filterMap acceptedFeedback?).filter fun row => row.decisionId = entry.id)
      hatConfigSnapshot := (entry.snapshots db).head?} := by
  obtain ⟨_,proposals,trees,_⟩ := record_rows entry
  rw [kept.tables,load,stored_id stored]
  congr 1
  · exact congrArg _ ((filter_own (fun other => (rows_owned db other).1) kept.distinct present).trans proposals)
  · exact congrArg _ ((filter_own (fun other => (rows_owned db other).2.1) kept.distinct present).trans trees)
  · exact congrArg _ (filter_own (fun other => (rows_owned db other).2.2.1) kept.distinct present)
  · exact (List.head?_filter ..).symm.trans
      (congrArg _ (filter_own (fun other => (rows_owned db other).2.2.2) kept.distinct present))

theorem found_recorded (order : ReadOrder) (kept : Kept db service) (present : entry ∈ service.recorded) :
    ∃ decision, entry.stored db = some decision ∧
      getDecision order service.tables entry.id = some (load order service.tables decision) := by
  obtain ⟨decision,stored⟩ := Option.isSome_iff_exists.mp (kept.storable entry present).decision
  refine ⟨decision,stored,?_⟩
  have found : (tablesOf db service.recorded service.replies).decisions.find? (fun row => row.id = entry.id) = some decision := by
    rw [tablesOf,List.find?_filterMap]
    have own : service.recorded.find? (fun other => (other.stored db).any fun row => row.id = entry.id) =
        service.recorded.find? fun other => other.id = entry.id := by
      refine List.find?_congr fun other listed => ?_
      obtain ⟨row,kept⟩ := Option.isSome_iff_exists.mp (kept.storable other listed).decision
      rw [kept,Option.any_some,stored_id kept]
    rw [own,find_own kept.distinct present]
    exact stored
  rw [getDecision,kept.tables,found]
  rfl

theorem evaluationResponse_cases {id : Nat} {row : StoredEvaluation} (result : EvaluatorResult)
    (kept : db.evaluation (evaluationRow id result) = some row) :
    (∃ response, evaluationResponse row = .ok response ∧ Shows db result response) ∨
      ¬ Fits result ∧ evaluationResponse row = .error validationError := by
  obtain ⟨reasoning,text,made⟩ := Option.bind_eq_some_iff.mp kept
  cases made
  unfold evaluationResponse evaluationRow
  dsimp only
  rcases textsField_cases result.flags with ⟨flags,sameFlags,readFlags⟩ | ⟨apart,raised⟩
  · rcases textsField_cases result.keyConcerns with ⟨concerns,sameConcerns,readConcerns⟩ | ⟨apart,raised⟩
    · rw [readFlags,readConcerns]
      exact .inl ⟨_,rfl,rfl,rfl,rfl,sameFlags,text,sameConcerns⟩
    · rw [readFlags,raised]
      exact .inr ⟨fun fits => fits.2.elim apart,rfl⟩
  · rw [raised]
    exact .inr ⟨fun fits => fits.1.elim apart,rfl⟩

-- Rows of answers, in the order in which they are read
theorem evaluations_read {id : Nat} {rows : List StoredEvaluation} {results : List EvaluatorResult}
    (stored : List.Forall₂ (fun row result => db.evaluation (evaluationRow id result) = some row) rows results) :
    ((∀ result ∈ results, Fits result) ∧ ∃ responses, rows.mapM evaluationResponse = .ok responses ∧
      List.Forall₂ (Shows db) results responses) ∨
    (∃ result ∈ results, ¬ Fits result) ∧ rows.mapM evaluationResponse = .error validationError := by
  induction stored with
  | nil => exact .inl ⟨fun _ listed => absurd listed List.not_mem_nil,[],rfl,.nil⟩
  | @cons row result rows results kept _ ih =>
    rw [List.mapM_cons]
    rcases evaluationResponse_cases result kept with ⟨response,answered,shows⟩ | ⟨unfit,raised⟩
    · rw [answered]
      have fits : Fits result := ⟨⟨_,shows.flags⟩,_,shows.concerns⟩
      rcases ih with ⟨others,responses,read,shown⟩ | ⟨⟨other,listed,unfit⟩,raised⟩
      · refine .inl ⟨List.forall_mem_cons.mpr ⟨fits,others⟩,response :: responses,?_,.cons shows shown⟩
        rw [read]
        rfl
      · rw [raised]
        exact .inr ⟨⟨other,List.mem_cons_of_mem _ listed,unfit⟩,rfl⟩
    · rw [raised]
      exact .inr ⟨⟨result,List.mem_cons_self,unfit⟩,rfl⟩

theorem evaluations_stored {entry : Recorded} (storable : Storable db entry) :
    List.Forall₂ (fun row result => db.evaluation (evaluationRow entry.id result) = some row) (entry.evaluations db)
      entry.result.evaluationResults := by
  have each := storable.evaluations
  unfold Recorded.evaluations
  rw [(record_rows entry).2.2.2] at each ⊢
  generalize entry.result.evaluationResults = results at *
  induction results with
  | nil => exact .nil
  | cons result results ih =>
    obtain ⟨row,kept⟩ := Option.isSome_iff_exists.mp (each _ List.mem_cons_self)
    rw [List.map_cons,List.filterMap_cons_some kept]
    exact .cons kept (ih fun other listed => each other (List.mem_cons_of_mem _ listed))

theorem trees_read {id : Nat} {rows : List DecisionTree} {trees : List Consequence.ConsequenceTree}
    (same : rows.Perm (trees.map (treeRow id))) : ∃ responses, rows.mapM treeResponse = .ok responses ∧
      responses.Perm (trees.map fun tree => ⟨tree.candidateAction.toolName,treeToDict tree,tree.totalNodes,
        harmOf tree.worstTerminal,harmOf tree.bestTerminal⟩) := by
  let shown (row : DecisionTree) : AuditTreeResponse :=
    ⟨row.candidateToolName,row.treeData,row.totalNodes,row.worstHarm,row.bestBenefit⟩
  refine ⟨rows.map shown,?_,?_⟩
  · have answers : ∀ row ∈ rows, treeResponse row = pure (shown row) := by
      intro row listed
      obtain ⟨tree,_,rfl⟩ := List.mem_map.mp (same.mem_iff.mp listed)
      rfl
    rw [mapM_agrees answers]
    exact List.mapM_pure
  · have responses := same.map shown
    rw [List.map_map] at responses
    exact responses

theorem hat_read (db : Database) (entry : Recorded) : (entry.snapshots db).head?.mapM hatConfigResponse =
    .ok (entry.hat.map fun hat =>
      ⟨hat.config.name,hat.config.manifest.version,hat.constraints,dumpStakeholders hat.config.stakeholders,
        dumpEvaluatorConfig hat.config.evaluatorConfig hat.customFlags⟩) := by
  have snapshot (hat : LoadedHat) : db.snapshot (hatSnapshot entry.id hat) = some ⟨entry.id,hat.config.name,
      hat.config.manifest.version,hat.constraints,dumpStakeholders hat.config.stakeholders,
      dumpEvaluatorConfig hat.config.evaluatorConfig hat.customFlags⟩ := by
    unfold Database.snapshot hatSnapshot
    dsimp only
    rw [db.textual,db.textual]
    rfl
  unfold Recorded.snapshots Recorded.record storeWithHat
  cases entry.hat with
  | none => rfl
  | some hat =>
    rw [Option.map_some,Option.toList_some,List.filterMap_cons_some (snapshot hat)]
    rfl

theorem detail_read (order : ReadOrder) (kept : Kept db service) (present : entry ∈ service.recorded)
    (stored : entry.stored db = some decision) :
    ((∀ result ∈ entry.result.evaluationResults, Fits result) ∧
      ∃ detail, decisionToDetail (load order service.tables decision) = .ok detail ∧ DetailOf db entry
        ((service.replies.filterMap acceptedOutcome?).find? fun row => row.decisionId = entry.id)
        ((service.replies.filterMap acceptedFeedback?).filter fun row => row.decisionId = entry.id) detail) ∨
    (∃ result ∈ entry.result.evaluationResults, ¬ Fits result) ∧
      decisionToDetail (load order service.tables decision) = .error validationError := by
  rw [load_recorded order kept present stored]
  unfold decisionToDetail
  dsimp only
  obtain ⟨trees,treesRead,sameTrees⟩ := trees_read (order.trees.same (entry.result.consequenceTrees.map (treeRow entry.id)))
  obtain ⟨results,rowsOf,sameResults⟩ :=
    List.perm_comp_forall₂ (order.evaluations.same _) (evaluations_stored (kept.storable entry present))
  obtain ⟨hatName,text,made⟩ := Option.bind_eq_some_iff.mp stored
  cases made
  rw [treesRead,hat_read]
  rcases evaluations_read rowsOf with ⟨fits,responses,read,shown⟩ | ⟨⟨result,listed,unfit⟩,raised⟩
  · refine .inl ⟨fun result listed => fits result (sameResults.mem_iff.mpr listed),?_⟩
    rw [read]
    refine ⟨_,rfl,?_⟩
    exact {
      id := rfl,timestamp := rfl,hatName := text,inputMessage := rfl,intent := rfl,riskTier := rfl,actionTaken := rfl
      response := rfl,bypassed := rfl,metadata := rfl
      proposals := by
        have same := (order.proposals.same (entry.result.proposal.candidates.zipIdx.map (proposalRow entry.id))).map
          proposalResponse
        rw [List.map_map] at same
        exact same
      trees := sameTrees
      evaluations := ⟨results,sameResults,shown⟩
      outcome := rfl
      feedback := (order.feedback.same _).map feedbackResponse
      hatConfig := rfl}
  · rw [raised]
    exact .inr ⟨⟨result,sameResults.mem_iff.mp listed,unfit⟩,rfl⟩

end

section
variable (db : Database) (inputs : List ServiceInput)

-- Whatever was recorded and reported in between, and whatever order its rows are read in: a decision reads as it was
-- recorded, with the outcome and the feedback that were accepted for it, and no other decision is found.
theorem detail_exact (order : ReadOrder) :
    let service := after (serve db) {} inputs
    (∀ entry ∈ service.recorded, ∃ loaded, getDecision order service.tables entry.id = some loaded ∧
      ((∀ result ∈ entry.result.evaluationResults, Fits result) → ∃ detail, decisionToDetail loaded = .ok detail ∧
        DetailOf db entry ((service.replies.filterMap acceptedOutcome?).find? fun row => row.decisionId = entry.id)
          ((service.replies.filterMap acceptedFeedback?).filter fun row => row.decisionId = entry.id) detail) ∧
      ((∃ result ∈ entry.result.evaluationResults, ¬ Fits result) → decisionToDetail loaded = .error validationError)) ∧
    ∀ id, id ∉ service.recorded.map Recorded.id → getDecision order service.tables id = none := by
  intro service
  have kept : Kept db service := run_kept db inputs
  constructor
  · intro entry present
    obtain ⟨decision,stored,found⟩ := found_recorded order kept present
    refine ⟨_,found,?_⟩
    rcases detail_read order kept present stored with ⟨fits,shown⟩ | ⟨⟨result,listed,unfit⟩,raised⟩
    · exact ⟨fun _ => shown,fun ⟨result,listed,unfit⟩ => absurd (fits result listed) unfit⟩
    · exact ⟨fun fits => absurd (fits result listed) unfit,fun _ => raised⟩
  · intro id absent
    have missing : service.tables.decisions.find? (fun decision => decision.id = id) = none := by
      rw [List.find?_eq_none]
      intro decision listed same
      rw [kept.tables] at listed
      obtain ⟨entry,present,stored⟩ := List.mem_filterMap.mp listed
      rw [decide_eq_true_eq,stored_id stored] at same
      exact absent (same ▸ List.mem_map_of_mem present)
    rw [getDecision,missing]
    rfl

theorem keyed_once {α : Type} {key : α → Nat} {rows : List α} (distinct : (rows.map key).Nodup) (k : Nat) :
    (rows.filter fun row => key row = k).length ≤ 1 := by
  have alike : ∀ a ∈ (rows.filter fun row => key row = k).map key, a = k := by
    intro a listed
    obtain ⟨row,kept,rfl⟩ := List.mem_map.mp listed
    exact of_decide_eq_true (List.mem_filter.mp kept).2
  have replicated := List.eq_replicate_of_mem alike
  have apart : ((rows.filter fun row => key row = k).map key).Nodup := distinct.sublist (List.filter_sublist.map key)
  rw [replicated,List.nodup_replicate,List.length_map] at apart
  exact apart

-- However the reports of one decision are interleaved, one outcome at most is accepted.
theorem outcome_once (decisionId : Nat) :
    (((after (serve db) {} inputs).replies.filterMap acceptedOutcome?).filter fun row => row.decisionId = decisionId).length ≤ 1 :=
  keyed_once (run_kept db inputs).once decisionId

end

theorem serve_decisions (db : Database) (service : Service) (input : ServiceInput) :
    service.tables.decisions.Sublist (serve db service input).tables.decisions := by
  unfold serve
  cases input with
  | record entry =>
    dsimp only
    split
    · split
      · next tables inserted =>
        obtain ⟨decisions,_,inserted⟩ := Option.bind_eq_some_iff.mp inserted
        obtain ⟨_,_,inserted⟩ := Option.bind_eq_some_iff.mp inserted
        obtain ⟨_,_,inserted⟩ := Option.bind_eq_some_iff.mp inserted
        cases inserted
        exact List.sublist_append_left ..
      · exact List.Sublist.refl _
    · exact List.Sublist.refl _
  | report order request =>
    dsimp only
    split <;> exact List.Sublist.refl _
  | store i timestamp =>
    dsimp only
    split
    · exact List.Sublist.refl _
    · unfold storeReport
      split
      · split <;> exact List.Sublist.refl _
      · exact List.Sublist.refl _

section
variable (db : Database) (start : List ServiceInput) (between : Nat → List ServiceInput)

-- The service when its k-th page is read
def reading : Nat → Service
  | 0 => after (serve db) {} start
  | k + 1 => after (serve db) (reading k) (between k)

theorem matching_after (filters : Filters) (service : Service) (inputs : List ServiceInput) :
    (matching service.tables filters).Sublist (matching (after (serve db) service inputs).tables filters) := by
  induction inputs generalizing service with
  | nil => exact List.Sublist.refl _
  | cons input inputs ih => exact ((serve_decisions db service input).filter filters.keeps).trans (ih _)

-- Reading page after page while decisions are recorded and reports come in leaves out no decision that was there
-- when the first page was read and shares its timestamp with no other that matches.
theorem pages_complete (newest : Nat → Descending StoredDecision.timestamp) (order : Nat → ReadOrder) (filters : Filters)
    (limit n : Nat) (ends : (matching (reading db start between n).tables filters).length ≤ (n + 1) * limit)
    (decision : StoredDecision) (present : decision ∈ matching (reading db start between 0).tables filters)
    (alone : ∀ other ∈ matching (reading db start between n).tables filters,
      other.timestamp = decision.timestamp → other = decision) :
    ∃ k ≤ n, ∃ summary ∈ listDecisions (newest k) (order k) (reading db start between k).tables filters limit (k * limit),
      summary.id = decision.id := by
  have grows (k : Nat) : (matching (reading db start between k).tables filters).Sublist
      (matching (reading db start between (k + 1)).tables filters) := matching_after db filters _ (between k)
  obtain ⟨k,upto,shown⟩ := grown_pages newest grows limit ends present alone
  exact ⟨k,upto,_,List.mem_map_of_mem (List.mem_map_of_mem shown),rfl⟩

end

def refundEntry (id : Nat) : Recorded := ⟨id,id,acknowledgedRefund,"Refund order 7",some refundHat⟩

-- A third decision that comes between the pages of the first two
def laterRefund (k : Nat) : List ServiceInput := if k = 0 then [.record (refundEntry 3)] else []

def textLog : Database where
  text
    | .str s => some s
    | .int n => some (toString n)
    | _ => none
  textual _ := rfl
  accepts _ := true

def storedOrder : ReadOrder := ⟨.stored _,.stored _,.stored _,.stored _⟩

theorem pages_complete_refunds : ∃ k ≤ 2, ∃ summary ∈ listDecisions (.stable _) storedOrder
    (reading textLog [.record (refundEntry 1),.record (refundEntry 2)] laterRefund k).tables {} 1 (k * 1),
    summary.id = 1 := by
  have listed : ∃ first second third, (refundEntry 1).stored textLog = some first ∧
      matching (reading textLog [.record (refundEntry 1),.record (refundEntry 2)] laterRefund 0).tables {} = [first,second] ∧
      matching (reading textLog [.record (refundEntry 1),.record (refundEntry 2)] laterRefund 2).tables {} = [first,second,third] ∧
      first.timestamp = 1 ∧ second.timestamp = 2 ∧ third.timestamp = 3 := ⟨_,_,_,rfl,rfl,rfl,rfl,rfl,rfl⟩
  obtain ⟨first,second,third,stored,before,later,one,two,three⟩ := listed
  obtain ⟨k,upto,summary,shown,same⟩ := pages_complete textLog [.record (refundEntry 1),.record (refundEntry 2)] laterRefund
    (fun _ => .stable _) (fun _ => storedOrder) {} 1 2 (by rw [later]; exact Nat.le_refl 3) first (by rw [before]; exact List.mem_cons_self)
    (by
      rw [later,one]
      intro other among tied
      rcases List.mem_cons.mp among with rfl | among
      · rfl
      · rcases List.mem_pair.mp among with rfl | rfl
        · rw [two] at tied; cases tied
        · rw [three] at tied; cases tied)
  exact ⟨k,upto,summary,shown,same.trans (stored_id stored)⟩

end Sophia.Audit
