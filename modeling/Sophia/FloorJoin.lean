import Sophia.RiskFloor
import Mathlib.Data.Multiset.Lattice
import Mathlib.Order.WithBot

namespace Sophia.RiskFloor

-- The floors of the candidates as a bag of heights
def heights (registry : ToolRegistry) (candidates : List CandidateAction) : Multiset (WithBot Tier) :=
  ↑(candidates.map fun candidate => height (floorOf registry candidate))

-- get_proposal_floor is the supremum of that bag.
theorem height_floor (registry : ToolRegistry) (candidates : List CandidateAction) :
    height (getProposalFloor candidates registry) = (heights registry candidates).sup := by
  rw [getProposalFloor,height_fold,heights,Multiset.sup_coe,List.foldr_map]
  rfl

theorem heights_append (registry : ToolRegistry) (xs ys : List CandidateAction) :
    heights registry (xs ++ ys) = heights registry xs + heights registry ys := by
  rw [heights,List.map_append,← Multiset.coe_add]
  rfl

theorem heights_perm (same : xs.Perm ys) : heights registry xs = heights registry ys :=
  Multiset.coe_eq_coe.mpr (same.map _)

theorem heights_subset (more : xs ⊆ ys) : heights registry xs ⊆ heights registry ys := by
  intro floor present
  obtain ⟨candidate,listed,rfl⟩ := List.mem_map.mp (Multiset.mem_coe.mp present)
  exact Multiset.mem_coe.mpr (List.mem_map.mpr ⟨candidate,more listed,rfl⟩)

-- _max_tier on the texts of two floors is a turn of the loop.
theorem maxTier_raise (a b : Option Tier) :
    maxTier (a.map Tier.name) (b.map Tier.name) = .ok ((raiseFloor a b).map Tier.name) := by
  cases a with
  | none => cases b <;> rfl
  | some left => cases b with
    | none => rfl
    | some right =>
      simp only [Option.map_some,maxTier,Tier.lookup_name,raiseFloor]
      by_cases below : left < right
      · rw [if_pos below]
        exact congrArg (fun floor => Except.ok (some floor)) (if_neg (not_le.mpr below))
      · rw [if_neg below]
        exact congrArg (fun floor => Except.ok (some floor)) (if_pos (not_lt.mp below))

theorem floor_append (registry : ToolRegistry) (xs ys : List CandidateAction) :
    getProposalFloor (xs ++ ys) registry = raiseFloor (getProposalFloor xs registry) (getProposalFloor ys registry) := by
  have joined : height (getProposalFloor (xs ++ ys) registry) =
      height (raiseFloor (getProposalFloor xs registry) (getProposalFloor ys registry)) := by
    rw [height_raise]
    simp only [height_floor,heights_append,Multiset.sup_add]
  exact joined

-- In a linear order the supremum of a bag is one of its elements, or the bottom.
theorem sup_attained {α : Type} [LinearOrder α] [OrderBot α] (bag : Multiset α) : bag.sup = ⊥ ∨ bag.sup ∈ bag := by
  induction bag using Multiset.induction with
  | empty => exact .inl rfl
  | cons first rest ih =>
    rw [Multiset.sup_cons]
    rcases le_total first rest.sup with below | above
    · rw [sup_eq_right.mpr below]
      exact ih.imp id (Multiset.mem_cons_of_mem)
    · rw [sup_eq_left.mpr above]
      exact .inr (Multiset.mem_cons_self _ _)

-- A floor is some candidate's own.
theorem floor_declared (found : getProposalFloor candidates registry = some floor) :
    ∃ candidate ∈ candidates, floorOf registry candidate = some floor := by
  have reached : (heights registry candidates).sup = (floor : WithBot Tier) := by
    rw [← height_floor,found]
    rfl
  have present := (sup_attained (heights registry candidates)).resolve_left (by rw [reached]; exact WithBot.coe_ne_bot)
  rw [reached] at present
  obtain ⟨candidate,listed,same⟩ := List.mem_map.mp (Multiset.mem_coe.mp present)
  exact ⟨candidate,listed,same⟩

theorem floorOf_declares : floorOf registry candidate = some floor ↔
    ∃ tool, registry.get candidate.toolName = some tool ∧ tool.riskFloor = some floor := Option.bind_eq_some_iff

-- The first candidate whose tool declares the floor
def Triggers (registry : ToolRegistry) (candidates : List CandidateAction) (floor : Tier) (name : String) : Prop :=
  ∃ before candidate after, candidates = before ++ candidate :: after ∧ candidate.toolName = name ∧
    (∃ tool, registry.get name = some tool ∧ tool.riskFloor = some floor) ∧
    ∀ other ∈ before, ¬ ∃ tool, registry.get other.toolName = some tool ∧ tool.riskFloor = some floor

theorem findFloorTrigger_first (declared : ∃ candidate ∈ candidates, floorOf registry candidate = some floor) :
    ∃ name, findFloorTrigger candidates registry floor = some name ∧ Triggers registry candidates floor name := by
  unfold findFloorTrigger
  cases search : candidates.find? fun candidate => floorOf registry candidate == some floor with
  | none =>
    obtain ⟨candidate,present,declares⟩ := declared
    have passed := List.find?_eq_none.mp search candidate present
    rw [declares] at passed
    exact absurd BEq.rfl passed
  | some candidate =>
    obtain ⟨declares,before,after,split,earlier⟩ := List.find?_eq_some_iff_append.mp search
    refine ⟨candidate.toolName,rfl,before,candidate,after,split,rfl,floorOf_declares.mp (beq_iff_eq.mp declares),?_⟩
    intro other present known
    have passed := earlier other present
    rw [floorOf_declares.mpr known] at passed
    simp at passed

structure Joins (registry : ToolRegistry) : Prop where
  append : ∀ xs ys, maxTier ((getProposalFloor xs registry).map Tier.name) ((getProposalFloor ys registry).map Tier.name) =
    .ok ((getProposalFloor (xs ++ ys) registry).map Tier.name)
  perm : ∀ xs ys, xs.Perm ys → getProposalFloor xs registry = getProposalFloor ys registry
  mono : ∀ xs ys, xs ⊆ ys → height (getProposalFloor xs registry) ≤ height (getProposalFloor ys registry)
  trigger : ∀ xs floor, getProposalFloor xs registry = some floor →
    ∃ name, findFloorTrigger xs registry floor = some name ∧ Triggers registry xs floor name

theorem proposal_floors_join (registry : ToolRegistry) : Joins registry := by
  refine ⟨fun xs ys => ?_,fun xs ys same => ?_,fun xs ys more => ?_,fun xs floor found => ?_⟩
  · rw [maxTier_raise,floor_append]
  · have equal : height (getProposalFloor xs registry) = height (getProposalFloor ys registry) := by
      rw [height_floor,height_floor,heights_perm same]
    exact equal
  · rw [height_floor,height_floor]
    exact Multiset.sup_mono (heights_subset more)
  · exact findFloorTrigger_first (floor_declared found)

end Sophia.RiskFloor
