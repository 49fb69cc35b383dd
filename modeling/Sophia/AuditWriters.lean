import Sophia.Audit

namespace Sophia.Audit
open Consequence Evaluators RiskClassifier AgentLoop Executor

-- The columns of a snapshot as they are stored
structure SnapshotColumns where
  decisionId : Nat
  hatName : Json
  hatVersion : Json
  constraints : Params
  stakeholders : Json
  evaluatorConfig : Json

-- What one call adds to the session: the rows in order, and the snapshot after them
structure AuditRecord where
  rows : List Row
  snapshot : Option SnapshotColumns

-- A loaded hat with what the pipeline does not read of it
structure LoadedHat where
  config : HatConfig
  constraints : Params
  customFlags : List (String × List String) := []

def dumpFloats (table : AList (fun _ : String => ℚ)) : Json :=
  .obj (table.entries.map fun entry => (entry.1,.float entry.2))

def dumpTexts (texts : List String) : Json := .arr (texts.map .str)

-- StakeholderRegistry.model_dump()
def dumpStakeholders (stakeholders : List Stakeholder) : Json :=
  .obj [("stakeholders",.arr (stakeholders.map fun s => .obj [("id",.str s.id),("name",.str s.name),
    ("interests",dumpTexts s.interests),("harm_sensitivity",.str s.harmSensitivity),("weight",.float s.weight)]))]

-- EvaluatorConfig.model_dump()
def dumpEvaluatorConfig (config : EvaluatorConfig) (customFlags : List (String × List String)) : Json :=
  .obj [("weight_overrides",dumpFloats config.weightOverrides),
    ("custom_flags",.obj (customFlags.map fun flag => (flag.1,dumpTexts flag.2))),
    ("risk_thresholds",dumpFloats config.riskThresholds),("min_tier",(config.minTier.map .str).getD .null)]

-- metadata.get("hat", "none")
def recordedHat (result : PipelineResult) : Json := (result.metadata.lookup "hat").getD (.str "none")

-- The decision of the older writer, which leaves the two columns of the acknowledgement to their default
def plainDecisionRow (result : PipelineResult) (inputMessage : String) : Decision where
  hatName := recordedHat result
  inputMessage := inputMessage
  intent := result.intent
  riskTier := result.riskClassification.tier
  actionTaken := result.execution.actionTaken.toolName
  response := result.response
  bypassed := result.bypassed
  preflightAck := none
  preflightAckAt := none
  metadata := result.metadata

-- The older writer has no hat: it snapshots the parameters of the intent.
def plainSnapshot (id : Nat) (result : PipelineResult) : SnapshotColumns where
  decisionId := id
  hatName := recordedHat result
  hatVersion := (result.metadata.lookup "hat_version").getD (.str "unknown")
  constraints := result.intent.parameters
  stakeholders := .obj []
  evaluatorConfig := .obj []

def storeDecision (id : Nat) (result : PipelineResult) (inputMessage : String) : AuditRecord where
  rows := .decision (plainDecisionRow result inputMessage) ::
    (result.proposal.candidates.zipIdx.map fun ranked => .proposal (proposalRow id ranked)) ++
    (result.consequenceTrees.map fun tree => .tree (treeRow id tree)) ++
    (result.evaluationResults.map fun evaluated => .evaluation (evaluationRow id evaluated))
  snapshot := if Json.isStr "none" (recordedHat result) then none else some (plainSnapshot id result)

def hatSnapshot (id : Nat) (hat : LoadedHat) : SnapshotColumns where
  decisionId := id
  hatName := .str hat.config.name
  hatVersion := .str hat.config.manifest.version
  constraints := hat.constraints
  stakeholders := dumpStakeholders hat.config.stakeholders
  evaluatorConfig := dumpEvaluatorConfig hat.config.evaluatorConfig hat.customFlags

-- The writer of the pipeline: the rows before its snapshot, and the columns of that
def storeWithHat (id : Nat) (result : PipelineResult) (inputMessage : String) (hat : Option LoadedHat) : AuditRecord where
  rows := storeDecisionWithHat id result inputMessage none
  snapshot := hat.map (hatSnapshot id)

-- With a hat the same writer adds one row more, the snapshot.
theorem storeDecisionWithHat_record (id : Nat) (result : PipelineResult) (inputMessage : String)
    (hat : Option LoadedHat) :
    storeDecisionWithHat id result inputMessage (hat.map LoadedHat.config) =
      (storeWithHat id result inputMessage hat).rows ++ (hat.map fun hat => Row.snapshot (snapshotRow id hat.config)).toList := by
  cases hat <;> simp [storeDecisionWithHat,storeWithHat]

def decision? : Row → Option Decision
  | .decision row => some row
  | _ => none

def tree? : Row → Option DecisionTree
  | .tree row => some row
  | _ => none

def evaluation? : Row → Option DecisionEvaluation
  | .evaluation row => some row
  | _ => none

-- The record holds a snapshot whose constraints are the hat's, key by key.
def SnapshotsHat (record : AuditRecord) (hat : LoadedHat) : Prop :=
  ∃ columns, record.snapshot = some columns ∧ ∀ key, columns.constraints.lookup key = hat.constraints.lookup key

structure SameRecord (one other : AuditRecord) (hat : LoadedHat) : Prop where
  decisions : one.rows.filterMap decision? = other.rows.filterMap decision?
  proposals : one.rows.filterMap proposal? = other.rows.filterMap proposal?
  trees : one.rows.filterMap tree? = other.rows.filterMap tree?
  evaluations : one.rows.filterMap evaluation? = other.rows.filterMap evaluation?
  snapshots : SnapshotsHat one hat ∧ SnapshotsHat other hat

-- What the result has to be for the older writer to record it as the other does
structure PlainlyRecorded (result : PipelineResult) (hat : LoadedHat) : Prop where
  unacknowledged : result.preflightAck = none ∧ result.preflightAckAt = none
  worn : recordedHat result ≠ .str "none"
  parameters : ∀ key, result.intent.parameters.lookup key = hat.constraints.lookup key

section
variable {id : Nat} {result : PipelineResult} {inputMessage : String} {hat : LoadedHat}

theorem storeDecision_decisions : (storeDecision id result inputMessage).rows.filterMap decision? =
    [plainDecisionRow result inputMessage] := by
  simp [storeDecision,List.filterMap_map,Function.comp_def,decision?]

theorem storeWithHat_decisions : (storeWithHat id result inputMessage (some hat)).rows.filterMap decision? =
    [decisionRow result inputMessage] := by
  simp [storeWithHat,storeDecisionWithHat,List.filterMap_map,Function.comp_def,decision?]

-- Beside the acknowledgement the two decisions are one.
theorem decisions_agree : plainDecisionRow result inputMessage = decisionRow result inputMessage ↔
    result.preflightAck = none ∧ result.preflightAckAt = none := by
  simp [plainDecisionRow,decisionRow,recordedHat,eq_comm]

-- A view that does not see the decision sees the same of both.
theorem writers_agree (view : Row → Option β) (blind : ∀ row, view (.decision row) = none) :
    (storeDecision id result inputMessage).rows.filterMap view =
      (storeWithHat id result inputMessage (some hat)).rows.filterMap view := by
  simp [storeDecision,storeWithHat,storeDecisionWithHat,blind]

theorem storeDecision_snapshots : SnapshotsHat (storeDecision id result inputMessage) hat ↔
    recordedHat result ≠ .str "none" ∧ ∀ key, result.intent.parameters.lookup key = hat.constraints.lookup key := by
  have plain : recordedHat result ≠ .str "none" ↔ ¬ Json.isStr "none" (recordedHat result) = true :=
    not_congr Json.isStr_iff.symm
  rw [SnapshotsHat,storeDecision,plain]
  constructor
  · intro recorded
    obtain ⟨columns,added,same⟩ := recorded
    split at added
    · cases added
    · next worn =>
      cases added
      exact ⟨worn,same⟩
  · intro both
    exact ⟨plainSnapshot id result,if_neg both.1,both.2⟩

theorem storeWithHat_snapshots : SnapshotsHat (storeWithHat id result inputMessage (some hat)) hat :=
  ⟨hatSnapshot id hat,rfl,fun _ => rfl⟩

end

theorem writers_record_alike (id : Nat) (result : PipelineResult) (inputMessage : String) (hat : LoadedHat) :
    SameRecord (storeDecision id result inputMessage) (storeWithHat id result inputMessage (some hat)) hat ↔
      PlainlyRecorded result hat := by
  constructor
  · intro same
    have decisions := same.decisions
    rw [storeDecision_decisions,storeWithHat_decisions,List.singleton_inj,decisions_agree] at decisions
    obtain ⟨worn,parameters⟩ := storeDecision_snapshots.mp same.snapshots.1
    exact ⟨decisions,worn,parameters⟩
  · intro plain
    refine ⟨?_,writers_agree _ fun _ => rfl,writers_agree _ fun _ => rfl,writers_agree _ fun _ => rfl,?_⟩
    · rw [storeDecision_decisions,storeWithHat_decisions,decisions_agree.mpr plain.unacknowledged]
    · exact ⟨storeDecision_snapshots.mpr ⟨plain.worn,plain.parameters⟩,storeWithHat_snapshots⟩

def refundIntent : Intent where
  actionRequested := "process_refund"
  target := some "ORD-1"
  parameters := AList.singleton "order_id" (.str "ORD-1")

-- A refund that was acknowledged before it was judged
def acknowledgedRefund : PipelineResult where
  intent := refundIntent
  proposal := {intent := refundIntent,candidates := [{toolName := "process_refund"}]}
  consequenceTrees := []
  evaluationResults := []
  riskClassification := {tier := .green,weightedScore := 0}
  execution := {actionTaken := {toolName := "process_refund"},toolResult := ⟨true,.null,"Refunded."⟩,riskTier := .green}
  response := "Your refund is on its way."
  preflightAck := some "Let me look into that refund."
  preflightAckAt := some 1
  metadata := AList.singleton "hat" (.str "customer-service")

def refundHat : LoadedHat where
  config := {manifest := {name := "customer-service"}}
  constraints := AList.singleton "max_refund" (.int 500)

theorem acknowledgement_unrecorded :
    ¬ SameRecord (storeDecision 1 acknowledgedRefund "I need a refund")
      (storeWithHat 1 acknowledgedRefund "I need a refund" (some refundHat)) refundHat := by
  intro same
  have decisions := same.decisions
  rw [storeDecision_decisions,storeWithHat_decisions,List.singleton_inj] at decisions
  have acks : (none : Option String) = some "Let me look into that refund." := congrArg Decision.preflightAck decisions
  cases acks

end Sophia.Audit
