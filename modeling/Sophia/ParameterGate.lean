import Sophia.Domain

namespace Sophia.ParameterGate
open PyText

def converseToolName : String := "converse"

def corePlaceholders : List String := ["unknown","tbd","n/a","none","placeholder","todo","?","???"]

structure ParameterValidation where
  candidate : CandidateAction
  passed : Bool
  failures : List String := []

structure GateResult where
  originalCandidates : List CandidateAction
  survivingCandidates : List CandidateAction
  validations : List ParameterValidation := []
  promotedConverse : Bool := false

def placeholders (runtime : Runtime) (extra : List String) : List String :=
  corePlaceholders ++ extra.map fun pattern => runtime.lower (strip pattern)

-- The failure of one required field, if any
def fieldFailure (runtime : Runtime) (known : List String) (candidate : CandidateAction) (field : String) :
    Option String :=
  match candidate.parameters.lookup field with
  | none => some (candidate.toolName ++ " requires " ++ field ++ " but it is missing.")
  | some .null => some (candidate.toolName ++ " requires " ++ field ++ " but it is missing.")
  | some (.str value) =>
    if strip value = "" then some (field ++ ": required but received empty value.")
    else if known.contains (runtime.lower (strip value)) then
      some (candidate.toolName ++ " requires " ++ field ++ " but received placeholder '" ++ value ++ "'.")
    else none
  | some _ => none

-- An unknown tool is the executor's business.
def validateCandidate (runtime : Runtime) (known : List String) (registry : ToolRegistry)
    (candidate : CandidateAction) : ParameterValidation :=
  match registry.get candidate.toolName with
  | none => {candidate,passed := true}
  | some tool =>
    let failures := tool.required.filterMap (fieldFailure runtime known candidate)
    {candidate,passed := failures.isEmpty,failures}

def isConverse (candidate : CandidateAction) : Bool := candidate.toolName == converseToolName

def validateOne (runtime : Runtime) (known : List String) (registry : ToolRegistry) (candidate : CandidateAction) :
    ParameterValidation :=
  if isConverse candidate then {candidate,passed := true} else validateCandidate runtime known registry candidate

def synthesized (validations : List ParameterValidation) : CandidateAction where
  toolName := converseToolName
  reasoning := join " " ((validations.filter (!·.passed)).flatMap (·.failures)) ++
    " Asking for the missing information before proceeding."
  expectedOutcome := "Ask user for missing required information."

def validate (runtime : Runtime) (known : List String) (registry : ToolRegistry) (proposal : Proposal) : GateResult :=
  let validations := proposal.candidates.map (validateOne runtime known registry)
  let converse := proposal.candidates.filter isConverse
  let passing := proposal.candidates.filter fun c => !isConverse c && (validateCandidate runtime known registry c).passed
  let result (surviving : List CandidateAction) (promoted : Bool) : GateResult :=
    ⟨proposal.candidates,surviving,validations,promoted⟩
  if !passing.isEmpty then result (passing ++ converse) false
  else if proposal.candidates.any (!isConverse ·) then match converse with
    | first :: _ => result [first] true
    | [] => result [synthesized validations] true
  else result converse false

-- What process continues with: the survivors when something was promoted or dropped, and
-- otherwise the proposer's own list in its own order.
def postGate (gate : GateResult) (proposal : Proposal) : Proposal :=
  if gate.promotedConverse || decide (gate.survivingCandidates.length < gate.originalCandidates.length) then
    {proposal with candidates := gate.survivingCandidates}
  else proposal

-- One validation for each proposed candidate, in the proposer's order, whatever survives.
theorem validate_validations (runtime : Runtime) (known : List String) (registry : ToolRegistry) (proposal : Proposal) :
    (validate runtime known registry proposal).validations =
      proposal.candidates.map (validateOne runtime known registry) := by
  unfold validate
  dsimp only
  split
  · rfl
  · split
    · split <;> rfl
    · rfl

theorem validateOne_candidate (runtime : Runtime) (known : List String) (registry : ToolRegistry) (c : CandidateAction) :
    (validateOne runtime known registry c).candidate = c := by
  unfold validateOne validateCandidate
  split
  · rfl
  · split <;> rfl

-- A nonempty proposal stays nonempty, and an empty one stays empty.
theorem validate_empty (runtime : Runtime) (known : List String) (registry : ToolRegistry) (proposal : Proposal) :
    (validate runtime known registry proposal).survivingCandidates = [] ↔ proposal.candidates = [] := by
  constructor
  · intro dropped
    unfold validate at dropped
    dsimp only at dropped
    split at dropped
    · next passing =>
      rw [List.append_eq_nil_iff] at dropped
      rw [dropped.1] at passing
      cases passing
    split at dropped
    · split at dropped <;> cases dropped
    · next allConverse =>
      cases shape : proposal.candidates with
      | nil => rfl
      | cons c rest =>
        rw [shape] at dropped allConverse
        have first : isConverse c = true := by simpa using (List.any_eq_false.mp (Bool.eq_false_iff.mpr allConverse)) c
        rw [List.filter_cons_of_pos first] at dropped
        cases dropped
  · intro empty
    simp [validate,empty]

theorem postGate_empty (runtime : Runtime) (known : List String) (registry : ToolRegistry) (proposal : Proposal) :
    (postGate (validate runtime known registry proposal) proposal).candidates = [] ↔ proposal.candidates = [] := by
  unfold postGate
  split
  · exact validate_empty runtime known registry proposal
  · rfl

end Sophia.ParameterGate
