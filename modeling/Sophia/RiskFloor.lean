import Sophia.Domain

namespace Sophia.RiskFloor

-- getattr(tool, "risk_floor", None) of a candidate's tool, none for a name that is not registered
def floorOf (registry : ToolRegistry) (candidate : CandidateAction) : Option Tier :=
  (registry.get candidate.toolName).bind (·.riskFloor)

-- One turn of the loop: a strictly higher floor replaces the highest so far.
def raiseFloor (highest floor : Option Tier) : Option Tier :=
  match floor,highest with
  | none,_ => highest
  | some floor,none => some floor
  | some floor,some known => if known < floor then some floor else some known

def getProposalFloor (candidates : List CandidateAction) (registry : ToolRegistry) : Option Tier :=
  candidates.foldl (fun highest candidate => raiseFloor highest (floorOf registry candidate)) none

def findFloorTrigger (candidates : List CandidateAction) (registry : ToolRegistry) (floor : Tier) : Option String :=
  (candidates.find? fun candidate => floorOf registry candidate == some floor).map (·.toolName)

-- The higher of two tier texts. Both are looked up only when both are there.
def maxTier : Option String → Option String → Except PyError (Option String)
  | none,b => .ok b
  | a,none => .ok a
  | some a,some b => do
    let left ← Tier.lookup a
    let right ← Tier.lookup b
    return some (if right ≤ left then a else b)

-- How high a floor is, with no floor at the bottom
def height (floor : Option Tier) : WithBot Tier := floor

theorem height_raise (highest floor : Option Tier) :
    height (raiseFloor highest floor) = max (height highest) (height floor) := by
  cases floor with
  | none => exact (max_bot_right _).symm
  | some floor => cases highest with
    | none => exact (max_bot_left _).symm
    | some known =>
      rw [raiseFloor]
      split
      · next below => exact (max_eq_right (WithBot.coe_le_coe.mpr below.le)).symm
      · next above => exact (max_eq_left (WithBot.coe_le_coe.mpr (not_lt.mp above))).symm

-- The loop computes the join of the floors, from whatever it started with.
theorem height_fold (registry : ToolRegistry) (candidates : List CandidateAction) (start : Option Tier) :
    height (candidates.foldl (fun highest candidate => raiseFloor highest (floorOf registry candidate)) start) =
      candidates.foldr (fun candidate rest => max (height (floorOf registry candidate)) rest) (height start) := by
  induction candidates generalizing start with
  | nil => rfl
  | cons candidate rest ih =>
    rw [List.foldl_cons,ih,List.foldr_cons,height_raise]
    clear ih
    induction rest with
    | nil => exact max_comm _ _
    | cons other rest ih => rw [List.foldr_cons,List.foldr_cons,ih,max_left_comm]

theorem floor_le (present : candidate ∈ candidates) :
    height (floorOf registry candidate) ≤ height (getProposalFloor candidates registry) := by
  rw [getProposalFloor,height_fold]
  induction candidates with
  | nil => cases present
  | cons other rest ih =>
    rcases List.mem_cons.mp present with rfl | later
    · exact le_max_left _ _
    · exact le_trans (ih later) (le_max_right _ _)

-- Under a floor of at most GREEN no candidate's tool declares more.
theorem floor_green (low : height (getProposalFloor candidates registry) ≤ Tier.green) (present : candidate ∈ candidates)
    (declared : floorOf registry candidate = some floor) : floor = .green := by
  have below := le_trans (floor_le present) low
  rw [declared] at below
  exact Tier.le_green.mp (WithBot.coe_le_coe.mp below)

end Sophia.RiskFloor
