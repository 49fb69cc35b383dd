import Sophia.ParameterGate

namespace Sophia.ParameterGate
open PyText

-- A required field that is there with something to use: not null and no blank or placeholder text
def Filled (runtime : Runtime) (known : List String) (candidate : CandidateAction) (field : String) : Prop :=
  ∃ value, candidate.parameters.lookup field = some value ∧ value ≠ .null ∧
    ∀ text, value = .str text → strip text ≠ "" ∧ runtime.lower (strip text) ∉ known

def Sound (runtime : Runtime) (known : List String) (registry : ToolRegistry) (candidate : CandidateAction) : Prop :=
  ∀ tool, registry.get candidate.toolName = some tool → ∀ field ∈ tool.required, Filled runtime known candidate field

section
variable {runtime : Runtime} {known : List String} {registry : ToolRegistry} {candidate : CandidateAction} {proposal : Proposal}

theorem fieldFailure_none : fieldFailure runtime known candidate field = none ↔ Filled runtime known candidate field := by
  unfold fieldFailure Filled
  cases candidate.parameters.lookup field with
  | none => simp
  | some value =>
    cases value with
    | str text =>
      by_cases blank : strip text = ""
      · simp [blank]
      · by_cases placeholder : runtime.lower (strip text) ∈ known
        · simp [blank,placeholder]
        · simp [blank,placeholder]
    | _ => simp

theorem passed_iff : (validateCandidate runtime known registry candidate).passed = true ↔
    Sound runtime known registry candidate := by
  unfold validateCandidate Sound
  cases registry.get candidate.toolName with
  | none => simp
  | some tool => simp [List.filterMap_eq_nil_iff,fieldFailure_none]

instance : Decidable (Sound runtime known registry candidate) := decidable_of_iff _ passed_iff

-- Candidates for a tool that keep their place
def passes (runtime : Runtime) (known : List String) (registry : ToolRegistry) (candidate : CandidateAction) : Bool :=
  !isConverse candidate && decide (Sound runtime known registry candidate)

-- The three exits of validate, the middle one with what it continues with
inductive Outcome (runtime : Runtime) (known : List String) (registry : ToolRegistry) (proposal : Proposal) :
    List CandidateAction → Bool → Prop where
  | some : proposal.candidates.filter (passes runtime known registry) ≠ [] →
      Outcome runtime known registry proposal (proposal.candidates.filter (passes runtime known registry) ++
        proposal.candidates.filter isConverse) false
  | none : proposal.candidates.filter (passes runtime known registry) = [] →
      (∃ c ∈ proposal.candidates, isConverse c = false) →
      Outcome runtime known registry proposal [(proposal.candidates.find? isConverse).getD
        (synthesized (proposal.candidates.map (validateOne runtime known registry)))] true
  | converse : (∀ c ∈ proposal.candidates, isConverse c = true) →
      Outcome runtime known registry proposal proposal.candidates false

theorem validate_outcome (runtime : Runtime) (known : List String) (registry : ToolRegistry) (proposal : Proposal) :
    Outcome runtime known registry proposal (validate runtime known registry proposal).survivingCandidates
      (validate runtime known registry proposal).promotedConverse := by
  have same : (proposal.candidates.filter fun c => !isConverse c && (validateCandidate runtime known registry c).passed) =
      proposal.candidates.filter (passes runtime known registry) := by
    refine List.filter_congr fun c _ => ?_
    rw [passes,Bool.eq_iff_iff,Bool.and_eq_true,Bool.and_eq_true,passed_iff,decide_eq_true_iff]
  unfold validate
  dsimp only
  rw [same]
  split
  · next some => exact .some (by simpa using some)
  · next empty =>
    have none_ : proposal.candidates.filter (passes runtime known registry) = [] := by simpa using empty
    split
    · next others =>
      have nonConverse : ∃ c ∈ proposal.candidates, isConverse c = false := by simpa using others
      have exits := Outcome.none none_ nonConverse
      rw [← List.head?_filter] at exits
      split
      · next first rest shape =>
        rw [shape] at exits
        exact exits
      · next shape =>
        rw [shape] at exits
        exact exits
    · next only =>
      have converse : ∀ c ∈ proposal.candidates, isConverse c = true := by simpa using only
      rw [List.filter_eq_self.mpr converse]
      exact .converse converse

-- What passes for no tool leaves no candidate for a tool that is sound.
theorem passing_nil : proposal.candidates.filter (passes runtime known registry) = [] ↔
    ∀ c ∈ proposal.candidates, isConverse c = false → ¬ Sound runtime known registry c := by
  rw [List.filter_eq_nil_iff]
  simp [passes]

theorem converse_passes_not (converse : isConverse candidate = true) : passes runtime known registry candidate = false := by
  simp [passes,converse]

theorem converse_passing (all : ∀ c ∈ proposal.candidates, isConverse c = true) :
    proposal.candidates.filter (passes runtime known registry) = [] :=
  List.filter_eq_nil_iff.mpr fun c present => by simp [converse_passes_not (all c present)]

theorem passes_not_converse (pass : passes runtime known registry candidate = true) : isConverse candidate = false := by
  simpa using (Bool.and_eq_true_iff.mp pass).1

theorem passes_sound (pass : passes runtime known registry candidate = true) : Sound runtime known registry candidate :=
  decide_eq_true_iff.mp (Bool.and_eq_true_iff.mp pass).2

theorem validate_original (runtime : Runtime) (known : List String) (registry : ToolRegistry) (proposal : Proposal) :
    (validate runtime known registry proposal).originalCandidates = proposal.candidates := by
  unfold validate
  dsimp only
  split
  · rfl
  · split
    · split <;> rfl
    · rfl

-- The survivors: the candidates that pass, then converse ones
theorem survivors_parts {surviving : List CandidateAction} {promoted : Bool}
    (outcome : Outcome runtime known registry proposal surviving promoted) :
    ∃ converse, surviving = proposal.candidates.filter (passes runtime known registry) ++ converse ∧
      ∀ c ∈ converse, isConverse c = true := by
  cases outcome with
  | some _ => exact ⟨_,rfl,fun c present => (List.mem_filter.mp present).2⟩
  | none empty _ =>
    refine ⟨_,by rw [empty]; rfl,fun c present => ?_⟩
    rw [List.mem_singleton] at present
    subst present
    cases found : proposal.candidates.find? isConverse with
    | none => rfl
    | some first => exact List.find?_some found
  | converse all =>
    exact ⟨_,by rw [converse_passing all]; rfl,all⟩

theorem Outcome.promoted_iff {surviving : List CandidateAction} {promoted : Bool}
    (outcome : Outcome runtime known registry proposal surviving promoted) :
    promoted = true ↔ (∃ c ∈ proposal.candidates, isConverse c = false) ∧
      ∀ c ∈ proposal.candidates, isConverse c = false → ¬ Sound runtime known registry c := by
  rw [← passing_nil]
  cases outcome with
  | some some => simp [some]
  | none empty others => simp [empty,others]
  | converse all =>
    have none_ : ¬ ∃ c ∈ proposal.candidates, isConverse c = false := by simpa using all
    simp [none_]

theorem Outcome.only {surviving : List CandidateAction} (outcome : Outcome runtime known registry proposal surviving true) :
    surviving = [(proposal.candidates.find? isConverse).getD
      (synthesized (proposal.candidates.map (validateOne runtime known registry)))] := by
  cases outcome with
  | none _ _ => rfl

theorem Outcome.all {surviving : List CandidateAction} (outcome : Outcome runtime known registry proposal surviving false) :
    surviving = proposal.candidates.filter (passes runtime known registry) ++ proposal.candidates.filter isConverse := by
  cases outcome with
  | some _ => rfl
  | converse only => rw [converse_passing only,List.filter_eq_self.mpr only,List.nil_append]

theorem validateOne_settled (settled : isConverse candidate = true ∨ Sound runtime known registry candidate) :
    validateOne runtime known registry candidate = ⟨candidate,true,[]⟩ := by
  unfold validateOne
  split
  · rfl
  · next nonConverse =>
    have sound := settled.resolve_left nonConverse
    unfold Sound at sound
    unfold validateCandidate
    cases found : registry.get candidate.toolName with
    | none => rfl
    | some tool =>
      have clean : tool.required.filterMap (fieldFailure runtime known candidate) = [] :=
        List.filterMap_eq_nil_iff.mpr fun field required => fieldFailure_none.mpr (sound tool found field required)
      simp [clean]

-- Such a list passes the gate as it is.
theorem validate_settled {passing converse : List CandidateAction} (parts : proposal.candidates = passing ++ converse)
    (pass : ∀ c ∈ passing, passes runtime known registry c = true) (all : ∀ c ∈ converse, isConverse c = true) :
    validate runtime known registry proposal =
      ⟨proposal.candidates,proposal.candidates,proposal.candidates.map fun c => ⟨c,true,[]⟩,false⟩ := by
  have settled : ∀ c ∈ proposal.candidates, isConverse c = true ∨ Sound runtime known registry c := by
    intro c present
    rw [parts] at present
    rcases List.mem_append.mp present with inside | inside
    · exact .inr (passes_sound (pass c inside))
    · exact .inl (all c inside)
  have validations : proposal.candidates.map (validateOne runtime known registry) =
      proposal.candidates.map fun c => ⟨c,true,[]⟩ :=
    List.map_congr_left fun c present => validateOne_settled (settled c present)
  have outcome := validate_outcome runtime known registry proposal
  have kept : (validate runtime known registry proposal).promotedConverse = false := by
    rw [← Bool.not_eq_true,outcome.promoted_iff]
    rintro ⟨⟨c,present,nonConverse⟩,none_⟩
    rcases settled c present with converse | sound
    · rw [converse] at nonConverse
      cases nonConverse
    · exact none_ c present nonConverse sound
  rw [kept] at outcome
  have survives : (validate runtime known registry proposal).survivingCandidates = proposal.candidates := by
    rw [outcome.all,parts,List.filter_append,List.filter_append,List.filter_eq_self.mpr pass,List.filter_eq_self.mpr all,
      List.filter_eq_nil_iff.mpr fun c inside => by simp [converse_passes_not (all c inside)],
      List.filter_eq_nil_iff.mpr fun c inside => by simp [passes_not_converse (pass c inside)]]
    simp
  have gate : validate runtime known registry proposal = ⟨(validate runtime known registry proposal).originalCandidates,
    (validate runtime known registry proposal).survivingCandidates,(validate runtime known registry proposal).validations,
    (validate runtime known registry proposal).promotedConverse⟩ := rfl
  rw [gate,validate_original,survives,kept,validate_validations,validations]

end

structure Survives (runtime : Runtime) (known : List String) (registry : ToolRegistry) (proposal : Proposal)
    (gate : GateResult) : Prop where
  sound : ∀ c ∈ gate.survivingCandidates, isConverse c = false → Sound runtime known registry c
  complete : gate.survivingCandidates.filter (!isConverse ·) =
    proposal.candidates.filter fun c => !isConverse c && decide (Sound runtime known registry c)
  validations : gate.validations.map (·.candidate) = proposal.candidates
  nonempty : proposal.candidates ≠ [] → gate.survivingCandidates ≠ []
  promoted : gate.promotedConverse = true ↔ (∃ c ∈ proposal.candidates, isConverse c = false) ∧
    ∀ c ∈ proposal.candidates, isConverse c = false → ¬ Sound runtime known registry c
  onlyConverse : gate.promotedConverse = true → gate.survivingCandidates =
    [(proposal.candidates.find? isConverse).getD (synthesized gate.validations)]
  allConverse : gate.promotedConverse = false → gate.survivingCandidates =
    (proposal.candidates.filter fun c => !isConverse c && decide (Sound runtime known registry c)) ++
      proposal.candidates.filter isConverse
  again : validate runtime known registry {proposal with candidates := gate.survivingCandidates} =
    ⟨gate.survivingCandidates,gate.survivingCandidates,gate.survivingCandidates.map fun c => ⟨c,true,[]⟩,false⟩

theorem gate_survives (runtime : Runtime) (known : List String) (registry : ToolRegistry) (proposal : Proposal) :
    Survives runtime known registry proposal (validate runtime known registry proposal) := by
  have outcome := validate_outcome runtime known registry proposal
  obtain ⟨converse,parts,all⟩ := survivors_parts outcome
  have pass : ∀ c ∈ proposal.candidates.filter (passes runtime known registry), passes runtime known registry c = true :=
    fun c present => (List.mem_filter.mp present).2
  refine ⟨?_,?_,?_,?_,?_,?_,?_,?_⟩
  · intro c present nonConverse
    rw [parts] at present
    rcases List.mem_append.mp present with inside | inside
    · exact passes_sound (pass c inside)
    · rw [all c inside] at nonConverse
      cases nonConverse
  · have kept : (proposal.candidates.filter (passes runtime known registry)).filter (!isConverse ·) =
        proposal.candidates.filter (passes runtime known registry) :=
      List.filter_eq_self.mpr fun c inside => by simp [passes_not_converse (pass c inside)]
    have dropped : converse.filter (!isConverse ·) = [] :=
      List.filter_eq_nil_iff.mpr fun c inside => by simp [all c inside]
    rw [parts,List.filter_append,kept,dropped,List.append_nil]
    rfl
  · rw [validate_validations,List.map_map]
    exact (List.map_congr_left fun c _ => validateOne_candidate runtime known registry c).trans (List.map_id _)
  · exact fun some empty => some ((validate_empty runtime known registry proposal).mp empty)
  · exact outcome.promoted_iff
  · intro promoted
    rw [promoted] at outcome
    rw [validate_validations]
    exact outcome.only
  · intro kept
    rw [kept] at outcome
    exact outcome.all
  · exact validate_settled parts pass all

end Sophia.ParameterGate
