import Sophia.TierFloors
import Sophia.Library.Insertion

namespace Sophia.AgentLoop
open ParameterGate Insertion

section
variable {agent : Agent} {intent : Intent} {proposal : Proposal} {candidates more : List CandidateAction}

-- A candidate the gate keeps for its own sake, and one that it drops
def passes (agent : Agent) (c : CandidateAction) : Bool :=
  !isConverse c && (validateCandidate agent.runtime agent.placeholders agent.registry c).passed

def fails (agent : Agent) (c : CandidateAction) : Bool :=
  !isConverse c && !(validateCandidate agent.runtime agent.placeholders agent.registry c).passed

theorem passes_plain (passing : passes agent c = true) : isConverse c = false := by
  rw [passes,Bool.and_eq_true,Bool.not_eq_true'] at passing
  exact passing.1

theorem fails_plain (failing : fails agent c = true) : isConverse c = false ∧ passes agent c = false := by
  rw [fails,Bool.and_eq_true,Bool.not_eq_true',Bool.not_eq_true'] at failing
  exact ⟨failing.1,by rw [passes,failing.2,Bool.and_false]⟩

theorem kept_or_fails (agent : Agent) (c : CandidateAction) : (passes agent c || isConverse c) = !fails agent c := by
  unfold passes fails
  cases isConverse c <;> simp

-- Once some candidate passes, the run goes on with the two buckets if anything failed, and with
-- the proposer's own list otherwise.
theorem postGateProposal_passing (some_ : ∃ c ∈ candidates, passes agent c = true) :
    (postGateProposal agent intent candidates).candidates = if candidates.any (fails agent) then
      candidates.filter (passes agent) ++ candidates.filter isConverse else candidates := by
  have nonempty : (!(candidates.filter (passes agent)).isEmpty) = true := by
    obtain ⟨c,present,passing⟩ := some_
    have kept := List.mem_filter.mpr ⟨present,passing⟩
    rw [Bool.not_eq_true',List.isEmpty_eq_false_iff]
    exact List.ne_nil_of_mem kept
  have gate : validate agent.runtime agent.placeholders agent.registry ⟨intent,candidates⟩ =
      ⟨candidates,candidates.filter (passes agent) ++ candidates.filter isConverse,
        candidates.map (validateOne agent.runtime agent.placeholders agent.registry),false⟩ := by
    unfold validate
    exact if_pos nonempty
  have survivors : (candidates.filter (passes agent) ++ candidates.filter isConverse).length =
      (candidates.filter fun c => !fails agent c).length := by
    rw [List.length_append,← length_filter_or fun c => passes_plain]
    simp only [kept_or_fails]
  rw [postGateProposal,gate,postGate,Bool.false_or,survivors]
  cases dropped : candidates.any (fails agent) with
  | true =>
    obtain ⟨c,present,failing⟩ := List.any_eq_true.mp dropped
    have shorter : (candidates.filter fun c => !fails agent c).length < candidates.length := by
      apply List.length_filter_lt_length_iff_exists.mpr
      exact ⟨c,present,by rw [failing]; exact Bool.false_ne_true⟩
    rw [decide_eq_true shorter,if_pos rfl,if_pos rfl]
  | false =>
    have whole : candidates.filter (fun c => !fails agent c) = candidates := by
      rw [List.filter_eq_self]
      intro c present
      rw [Bool.not_eq_true']
      exact Bool.eq_false_iff.mpr (List.any_eq_false.mp dropped c present)
    rw [whole,decide_eq_false (Nat.lt_irrefl _)]
    rfl

theorem passing_head (agent : Agent) (some_ : ∃ c ∈ candidates, passes agent c = true) :
    ∃ first, passes agent first = true ∧
      (candidates.filter (passes agent) ++ candidates.filter isConverse).head? = some first := by
  obtain ⟨c,present,passing⟩ := some_
  have kept := List.mem_filter.mpr ⟨present,passing⟩
  cases bucket : candidates.filter (passes agent) with
  | nil => rw [bucket] at kept; cases kept
  | cons first rest =>
    have member : first ∈ candidates.filter (passes agent) := by rw [bucket]; exact List.mem_cons_self
    exact ⟨first,(List.mem_filter.mp member).2,rfl⟩

-- Nothing fails, or the conversational candidates already stand behind the passing ones
def RankingKept (agent : Agent) (candidates : List CandidateAction) : Prop :=
  candidates.any (fails agent) = false ∨
    candidates.Pairwise fun a b => isConverse a = true → passes agent b = false

theorem ranking_kept (some_ : ∃ c ∈ candidates, passes agent c = true) :
    (postGateProposal agent intent candidates).candidates.Sublist candidates ↔ RankingKept agent candidates := by
  rw [postGateProposal_passing some_,RankingKept]
  cases candidates.any (fails agent) with
  | true =>
    rw [if_pos rfl,buckets_sublist fun c => passes_plain]
    exact ⟨.inr,fun kept => kept.resolve_left Bool.true_eq_false.mp⟩
  | false => exact ⟨fun _ => .inl rfl,fun _ => List.Sublist.refl _⟩

-- The inserted candidates change nothing: one failed before, or there are none, or the first is no reply.
def FirstKept (agent : Agent) (candidates more : List CandidateAction) : Prop :=
  candidates.any (fails agent) = true ∨ more = candidates ∨ ∀ first ∈ candidates.head?, isConverse first = false

theorem first_kept (some_ : ∃ c ∈ candidates, passes agent c = true)
    (inserted : Inserted (fun c => fails agent c = true) candidates more) :
    (postGateProposal agent intent more).candidates.head? = (postGateProposal agent intent candidates).candidates.head? ↔
      FirstKept agent candidates more := by
  have samePassing := inserted.filter (q := passes agent) fun c failing => (fails_plain failing).2
  have sameReplies := inserted.filter (q := isConverse) fun c failing => (fails_plain failing).1
  have someMore : ∃ c ∈ more, passes agent c = true := by
    rw [← List.any_eq_true] at some_ ⊢
    exact inserted.any_mono some_
  rw [postGateProposal_passing some_,postGateProposal_passing someMore,samePassing,sameReplies,FirstKept]
  cases before : candidates.any (fails agent) with
  | true => rw [inserted.any_mono before]; simp
  | false =>
    rcases inserted.eq_or_some with same | ⟨c,present,failing⟩
    · rw [same,before]
      simp
    · have after : more.any (fails agent) = true := List.any_eq_true.mpr ⟨c,present,failing⟩
      have longer : more ≠ candidates := by
        intro same
        rw [same,before] at after
        cases after
      rw [after,if_pos rfl,if_neg Bool.false_ne_true]
      constructor
      · intro same
        refine .inr (.inr fun first head => ?_)
        obtain ⟨kept,passing,front⟩ := passing_head agent some_
        rw [front,head] at same
        rw [← Option.some.inj same]
        exact passes_plain passing
      · intro kept
        cases shape : candidates with
        | nil => rw [shape] at some_; obtain ⟨_,absent,_⟩ := some_; cases absent
        | cons first rest =>
          have plain : isConverse first = false := by
            rcases kept with failed | same | plain
            · cases failed
            · exact absurd same longer
            · exact plain first (by rw [shape]; rfl)
          have sound : fails agent first = false := by
            rw [shape,List.any_cons,Bool.or_eq_false_iff] at before
            exact before.1
          have passing : passes agent first = true := by
            have either := kept_or_fails agent first
            rwa [plain,sound,Bool.or_false] at either
          rw [List.filter_cons_of_pos passing]
          rfl

theorem gate_ranking (agent : Agent) (intent : Intent) (candidates more : List CandidateAction)
    (some_ : ∃ c ∈ candidates, passes agent c = true)
    (inserted : Inserted (fun c => fails agent c = true) candidates more) :
    ((postGateProposal agent intent candidates).candidates.Sublist candidates ∧
      (postGateProposal agent intent more).candidates.head? =
        (postGateProposal agent intent candidates).candidates.head?) ↔
      RankingKept agent candidates ∧ FirstKept agent candidates more := by
  rw [ranking_kept some_,first_kept some_ inserted]

end

def lookupTool : Tool := {name := "look_up_order",required := ["order_id"]}
def lookupAgent : Agent := {runtime := .ascii,hat := some legalHat,registry := ToolRegistry.empty.register lookupTool}
def knownOrder : CandidateAction := {toolName := "look_up_order",parameters := record [("order_id",.str "1001")]}
def unknownOrder : CandidateAction := {toolName := "look_up_order"}
def reply : CandidateAction := {toolName := "converse"}

theorem gate_ranking_behind :
    (postGateProposal lookupAgent inquiry [knownOrder,reply]).candidates.Sublist [knownOrder,reply] ∧
    (postGateProposal lookupAgent inquiry [unknownOrder,knownOrder,reply]).candidates.head? =
      (postGateProposal lookupAgent inquiry [knownOrder,reply]).candidates.head? :=
  (gate_ranking lookupAgent inquiry [knownOrder,reply] [unknownOrder,knownOrder,reply]
    ⟨knownOrder,List.mem_cons_self,by decide⟩ (.insert (by decide) (.keep (.keep .nil)))).mpr
    ⟨.inl (by decide),.inr (.inr fun first head => by cases head; decide)⟩

-- The proposer would reply first; a lookup that lacks its order puts the other lookup ahead.
theorem gate_ranking_overturned :
    ((postGateProposal lookupAgent inquiry [reply,knownOrder]).candidates.map (·.toolName)) = ["converse","look_up_order"] ∧
    ((postGateProposal lookupAgent inquiry [reply,knownOrder,unknownOrder]).candidates.map (·.toolName)) =
      ["look_up_order","converse"] ∧
    Inserted (fun c => fails lookupAgent c = true) [reply,knownOrder] [reply,knownOrder,unknownOrder] ∧
    ¬ (postGateProposal lookupAgent inquiry [reply,knownOrder,unknownOrder]).candidates.Sublist
      [reply,knownOrder,unknownOrder] ∧
    (postGateProposal lookupAgent inquiry [reply,knownOrder,unknownOrder]).candidates.head? ≠
      (postGateProposal lookupAgent inquiry [reply,knownOrder]).candidates.head? := by
  have first : ((postGateProposal lookupAgent inquiry [reply,knownOrder]).candidates.map (·.toolName)) =
      ["converse","look_up_order"] := by decide
  have second : ((postGateProposal lookupAgent inquiry [reply,knownOrder,unknownOrder]).candidates.map (·.toolName)) =
      ["look_up_order","converse"] := by decide
  refine ⟨first,second,.keep (.keep (.insert (by decide) .nil)),fun kept => ?_,fun same => ?_⟩
  · have names := kept.map (·.toolName)
    rw [second] at names
    exact absurd names (by decide)
  · have names := congrArg (Option.map (·.toolName)) same
    rw [← List.head?_map,← List.head?_map,first,second] at names
    exact absurd names (by decide)

end Sophia.AgentLoop
