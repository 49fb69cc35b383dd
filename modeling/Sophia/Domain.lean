import Sophia.Library.PyValue
import Mathlib.Data.List.AList
import Mathlib.Order.Lattice

namespace Sophia

inductive Tier where
  | green
  | yellow
  | orange
  | red
  deriving DecidableEq, Repr

namespace Tier

def rank : Tier → Nat
  | .green => 0
  | .yellow => 1
  | .orange => 2
  | .red => 3

def name : Tier → String
  | .green => "GREEN"
  | .yellow => "YELLOW"
  | .orange => "ORANGE"
  | .red => "RED"

theorem rank_injective : Function.Injective rank := by
  intro a b same
  cases a <;> cases b <;> first | rfl | cases same

instance : LinearOrder Tier := LinearOrder.lift' rank rank_injective

def tierOrder : List Tier := [.green,.yellow,.orange,.red]

-- Configuration holds tiers as text. Any other text is no tier.
def ofName? (text : String) : Option Tier := tierOrder.find? (·.name == text)

-- TIER_ORDER.index(text), and the dict lookup of risk_floor.TIER_ORDER
def index (text : String) : Except PyError Tier :=
  match ofName? text with
  | some tier => .ok tier
  | none => .error .valueError

def lookup (text : String) : Except PyError Tier :=
  match ofName? text with
  | some tier => .ok tier
  | none => .error .keyError

theorem le_iff {a b : Tier} : a ≤ b ↔ a.rank ≤ b.rank := Iff.rfl

@[simp] theorem green_le (tier : Tier) : Tier.green ≤ tier := Nat.zero_le _
@[simp] theorem le_red (tier : Tier) : tier ≤ .red := by cases tier <;> decide
@[simp] theorem le_green {tier : Tier} : tier ≤ .green ↔ tier = .green := by cases tier <;> decide
@[simp] theorem red_le {tier : Tier} : .red ≤ tier ↔ tier = .red := by cases tier <;> decide

@[simp] theorem ofName_name (tier : Tier) : ofName? tier.name = some tier := by cases tier <;> rfl

theorem name_of_ofName (known : ofName? text = some tier) : text = tier.name := by
  have found := List.find?_some known
  exact (beq_iff_eq.mp found).symm

@[simp] theorem index_name (tier : Tier) : index tier.name = .ok tier := by simp [index]
@[simp] theorem lookup_name (tier : Tier) : lookup tier.name = .ok tier := by simp [lookup]

theorem index_ok : index text = .ok tier ↔ ofName? text = some tier := by
  unfold index; split <;> simp_all

theorem lookup_ok : lookup text = .ok tier ↔ ofName? text = some tier := by
  unfold lookup; split <;> simp_all

end Tier

-- The truth test on a value of type str or None: the empty text counts as absent.
def truthyText : Option String → Option String
  | some text => if text = "" then none else some text
  | none => none

@[simp] theorem truthyText_name (tier : Tier) : truthyText (some tier.name) = some tier.name := by
  cases tier <;> rfl

@[simp] theorem truthyText_map (tier : Option Tier) : truthyText (tier.map Tier.name) = tier.map Tier.name := by
  cases tier with
  | none => rfl
  | some tier => exact truthyText_name tier

abbrev Params := AList (fun _ : String => Json)

structure CandidateAction where
  toolName : String
  parameters : Params := ∅
  reasoning : String := ""
  expectedOutcome : String := ""

structure Intent where
  actionRequested : String
  target : Option String
  parameters : Params := ∅
  requestorContext : Params := AList.singleton "role" (.str "customer")
  rawMessage : String := ""
  hatName : String := ""

structure Proposal where
  intent : Intent
  candidates : List CandidateAction := []

structure ToolResult where
  success : Bool
  data : Json
  message : String

-- What the pipeline reads of a tool. The check on subclass creation admits the four tiers
-- and None as risk_floor. What execute does is the environment's.
structure Tool where
  name : String
  required : List String := []
  authorityLevel : String := "agent"
  maxFinancialImpact : Option ℚ := none
  riskFloor : Option Tier := none
  consequenceCacheTtl : Option ℚ := none

structure ToolRegistry where
  tools : AList (fun _ : String => Tool)
  named : ∀ name tool, tools.lookup name = some tool → tool.name = name

namespace ToolRegistry

def empty : ToolRegistry := ⟨∅,by simp⟩

def register (registry : ToolRegistry) (tool : Tool) : ToolRegistry where
  tools := registry.tools.insert tool.name tool
  named := by
    intro name other found
    by_cases same : name = tool.name
    · subst same
      rw [AList.lookup_insert] at found
      cases found; rfl
    · rw [AList.lookup_insert_ne same] at found
      exact registry.named name other found

def clear (_ : ToolRegistry) : ToolRegistry := empty

def get (registry : ToolRegistry) (name : String) : Option Tool := registry.tools.lookup name

def hasTool (registry : ToolRegistry) (name : String) : Bool := (registry.get name).isSome

theorem get_register (registry : ToolRegistry) (tool : Tool) : (registry.register tool).get tool.name = some tool :=
  AList.lookup_insert _

theorem get_register_ne (registry : ToolRegistry) (tool : Tool) (other : name ≠ tool.name) :
    (registry.register tool).get name = registry.get name := AList.lookup_insert_ne other

end ToolRegistry

structure Constraints where
  escalationTriggers : List String := []
  escalationTriggerSeverity : AList (fun _ : String => String) := ∅
  communicationsPolicy : Json := .obj []

structure EvaluatorConfig where
  weightOverrides : AList (fun _ : String => ℚ) := ∅
  riskThresholds : AList (fun _ : String => ℚ) := ∅
  minTier : Option String := none

def schemaWeights : AList (fun _ : String => ℚ) :=
  [⟨"tribal",2/5⟩,⟨"domain",1/4⟩,⟨"self_interest",1/5⟩,⟨"authority",3/20⟩].toAList

def schemaThresholds : AList (fun _ : String => ℚ) :=
  [⟨"green",-1/10⟩,⟨"yellow",-2/5⟩,⟨"orange",-7/10⟩].toAList

structure HatManifest where
  name : String
  version : String := "0.1.0"
  tools : List String := []
  defaultEvaluatorWeights : AList (fun _ : String => ℚ) := schemaWeights
  riskThresholds : AList (fun _ : String => ℚ) := schemaThresholds
  placeholderPatterns : List String := []
  backends : AList (fun _ : String => Params) := ∅
  webhooks : AList (fun _ : String => Params) := ∅
  notifications : Params := ∅
  communications : Params := ∅

-- The acknowledgement keys of the raw manifest, none when the key is absent
structure AckConfig where
  financialCeiling : Option ℚ := none
  enabled : Option Json := none
  templates : AList (fun _ : String => List String) := ∅

structure Stakeholder where
  id : String
  name : String
  interests : List String := []
  harmSensitivity : String := "medium"
  weight : ℚ := 1/4

structure HatConfig where
  manifest : HatManifest
  constraints : Constraints := {}
  stakeholders : List Stakeholder := []
  evaluatorConfig : EvaluatorConfig := {}
  ack : AckConfig := {}

def HatConfig.name (hat : HatConfig) : String := hat.manifest.name

-- One turn of the conversation history; a missing role or content reads as "".
structure Turn where
  role : String
  content : String

-- What the runtime decides beyond the modelled text operations: full Unicode lowercasing,
-- str of a value, and which characters belong to a word.
structure Runtime where
  lower : String → String
  str : Json → String
  isWord : Char → Bool

-- Enough to run the model on ASCII text.
def Runtime.ascii : Runtime where
  lower text := String.ofList (text.toList.map Char.toLower)
  str
    | .str text => text
    | value => value.typeName
  isWord c := c.isAlphanum || c == '_'

end Sophia
