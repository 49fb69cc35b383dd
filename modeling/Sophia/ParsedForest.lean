import Sophia.TreeAnalysis

namespace Sophia.ParsedForest
open Consequence Forest TreeAnalysis

def listed : Json → List Json
  | .arr items => items
  | _ => []

-- The items under "children", where they are a list
def childItems : Json → List Json
  | .obj fields => ((fields.lookup "children").map listed).getD []
  | _ => []

theorem childItems_here (value : Json) (rest : List (String × Json)) :
    childItems (.obj (("children",value) :: rest)) = listed value := by
  change ((List.lookup "children" (("children",value) :: rest)).map listed).getD [] = _
  rw [List.lookup_cons_self]
  rfl

theorem childItems_later (other : key ≠ "children") (value : Json) (rest : List (String × Json)) :
    childItems (.obj ((key,value) :: rest)) = childItems (.obj rest) := by
  change ((List.lookup "children" ((key,value) :: rest)).map listed).getD [] = _
  rw [List.lookup_cons,beq_eq_false_iff_ne.mpr (Ne.symm other)]
  rfl

theorem sizeOf_lookup {fields : List (String × Json)} (found : fields.lookup key = some value) :
    sizeOf value < sizeOf fields := by
  induction fields with
  | nil => cases found
  | cons field rest ih =>
    obtain ⟨name,first⟩ := field
    rw [List.lookup_cons] at found
    rw [List.cons.sizeOf_spec]
    split at found
    · cases found
      rw [Prod.mk.sizeOf_spec]
      omega
    · have smaller := ih found
      omega

instance : Branching Json where
  children := childItems
  finite := by
    refine ⟨sizeOf,fun item => ?_⟩
    have bounded := sizes_of_items (childItems item)
    cases item with
    | obj fields =>
      cases found : fields.lookup "children" with
      | none => simp [childItems,found]
      | some value =>
        have smaller := sizeOf_lookup found
        simp only [childItems,found,Option.map_some,Option.getD_some] at bounded ⊢
        rw [Json.obj.sizeOf_spec]
        cases value with
        | arr items =>
          rw [Json.arr.sizeOf_spec] at smaller
          simp only [listed] at bounded ⊢
          omega
        | _ => simp [listed]
    | _ => simp [childItems]

-- A number of the JSON or its default, kept within the bounds
def Clamped (item : Json) (key : String) (absent lo hi x : ℚ) : Prop :=
  lo ≤ x ∧ x ≤ hi ∧ ∃ value given, item.get key (.float absent) = .ok value ∧ value.number? = some given ∧
    (lo ≤ given → given ≤ hi → x = given)

-- What a node holds of the object it was parsed from
structure Given (item : Json) (node : ConsequenceNode) : Prop where
  object : ∃ fields, item = .obj fields
  probability : Clamped item "probability" (1/2) 0 1 node.probability
  tangibility : Clamped item "tangibility" (1/2) 0 1 node.tangibility
  harmBenefit : Clamped item "harm_benefit" 0 (-1) 1 node.harmBenefit
  isTerminal : item.get "is_terminal" (.bool node.children.isEmpty) = .ok node.isTerminal
  description : item.get "description" (.str "") = .ok node.description
  stakeholdersAffected : item.get "stakeholders_affected" (.arr []) = .ok node.stakeholdersAffected
  affectedParty : item.get "affected_party" (.str "") = .ok node.affectedParty

theorem clamped_of {item : Json} (ordered : lo ≤ hi) (read : item.get key (.float absent) = .ok value)
    (kept : Json.clamp lo hi value = .ok x) : Clamped item key absent lo hi x := by
  obtain ⟨least,most⟩ := Json.clamp_bounds ordered kept
  refine ⟨least,most,value,?_⟩
  unfold Json.clamp at kept
  split at kept
  · next given number =>
    cases kept
    refine ⟨given,read,number,fun above below => ?_⟩
    rw [min_eq_right below,max_eq_right above]
  · cases kept

theorem nodeOf_given (parsed : nodeOf fresh (.obj fields) children = .ok node) :
    Given (.obj fields) node ∧ node.children = children := by
  unfold nodeOf at parsed
  obtain ⟨isTerminal,terminal,parsed⟩ := except_bind.mp parsed
  obtain ⟨description,described,parsed⟩ := except_bind.mp parsed
  obtain ⟨stakeholders,affected,parsed⟩ := except_bind.mp parsed
  obtain ⟨value,read,parsed⟩ := except_bind.mp parsed
  obtain ⟨probability,likely,parsed⟩ := except_bind.mp parsed
  obtain ⟨touch,reads,parsed⟩ := except_bind.mp parsed
  obtain ⟨tangibility,tangible,parsed⟩ := except_bind.mp parsed
  obtain ⟨harm,harms,parsed⟩ := except_bind.mp parsed
  obtain ⟨harmBenefit,harmful,parsed⟩ := except_bind.mp parsed
  obtain ⟨party,affects,parsed⟩ := except_bind.mp parsed
  cases parsed
  refine ⟨⟨⟨fields,rfl⟩,?_,?_,?_,terminal,described,affected,affects⟩,rfl⟩
  · exact clamped_of (by norm_num) read likely
  · exact clamped_of (by norm_num) reads tangible
  · exact clamped_of (by norm_num) harms harmful

theorem parseChildren_items (parsed : parseChildren ids path fields = .ok children) :
    parseItems ids path 0 (childItems (.obj fields)) = .ok children := by
  induction fields with
  | nil =>
    cases parsed
    rfl
  | cons field rest ih =>
    obtain ⟨key,value⟩ := field
    rw [parseChildren] at parsed
    split at parsed
    · next same =>
      subst same
      rw [childItems_here]
      split at parsed
      · next present =>
        cases value with
        | arr items => exact parsed
        | str text => simp_all [parseNodes,Json.truthy]
        | obj fields => simp_all [parseNodes,Json.truthy]
        | _ => cases parsed
      · next falsy =>
        cases parsed
        cases value with
        | arr items => simp_all [Json.truthy,listed,parseItems]
        | _ => rfl
    · next other =>
      rw [childItems_later other]
      exact ih parsed

-- Induction over the JSON: below an object stand its children, right of it the rest of the list.
theorem parseItems_mirror {ids : List Nat → String} (items : List Json) :
    ∀ {path index nodes}, parseItems ids path index items = .ok nodes → Mirror Given items nodes := by
  induction items using induct with
  | nil =>
    intro path index nodes parsed
    cases parsed
    exact .nil
  | cons item rest below right =>
    intro path index nodes parsed
    rw [parseItems] at parsed
    obtain ⟨node,first,parsed⟩ := except_bind.mp parsed
    obtain ⟨others,later,parsed⟩ := except_bind.mp parsed
    cases parsed
    cases item with
    | obj fields =>
      rw [parseNode] at first
      obtain ⟨children,under,first⟩ := except_bind.mp first
      obtain ⟨given,rfl⟩ := nodeOf_given first
      exact .cons given (below (parseChildren_items under)) (right later)
    | _ => cases first

-- The terminal on one side of all the others
structure Extreme (beside : ℚ → ℚ → Prop) (nodes : List ConsequenceNode) (terminal : Option ConsequenceNode) : Prop where
  absent : terminal = none ↔ ∀ node ∈ preorder nodes, flagged node = false
  extreme : ∀ node, terminal = some node → node ∈ preorder nodes ∧ flagged node = true ∧
    ∀ other ∈ preorder nodes, flagged other = true → beside node.harmBenefit other.harmBenefit

structure Measured (items : List Json) (nodes : List ConsequenceNode) (tree : ConsequenceTree) : Prop where
  rootNodes : tree.rootNodes = nodes
  totalNodes : tree.totalNodes = (preorder items).length
  worstTerminal : Extreme (· ≤ ·) nodes tree.worstTerminal
  bestTerminal : Extreme (· ≥ ·) nodes tree.bestTerminal

theorem extreme_of {pick : List ConsequenceNode → Option ConsequenceNode} {beside : ℚ → ℚ → Prop}
    (none_iff : ∀ terminals, pick terminals = none ↔ terminals = [])
    (mem : ∀ terminals node, pick terminals = some node → node ∈ terminals)
    (beyond : ∀ terminals node other, pick terminals = some node → other ∈ terminals →
      beside node.harmBenefit other.harmBenefit) (nodes : List ConsequenceNode) :
    Extreme beside nodes (pick (collectTerminals nodes)) := by
  rw [collectTerminals_preorder]
  constructor
  · rw [none_iff,List.filter_eq_nil_iff]
    simp
  · intro node found
    obtain ⟨within,here⟩ := List.mem_filter.mp (mem _ node found)
    refine ⟨within,here,fun other inside flag => ?_⟩
    exact beyond _ node other found (List.mem_filter.mpr ⟨inside,flag⟩)

theorem parsed_forest (given : parsed.get "consequences" (.arr []) = .ok (.arr items))
    (accepted : parseNodes ids [] (.arr items) = .ok nodes) : Mirror Given items nodes ∧
      ∀ hat maxDepth candidate, validateStakeholderRefs hat nodes = .ok () →
        ∃ tree, treeOf hat maxDepth candidate ids parsed = .ok tree ∧ Measured items nodes tree := by
  have mirror : Mirror Given items nodes := parseItems_mirror items accepted
  refine ⟨mirror,fun hat maxDepth candidate checked => ?_⟩
  refine ⟨_,treeOf_ok.mpr ⟨_,_,given,accepted,checked,rfl⟩,rfl,?_,?_,?_⟩
  · rw [countNodes_preorder]
    exact mirror.nodes.length_eq.symm
  · exact extreme_of (fun _ => List.argmin_eq_none) (fun _ _ => List.argmin_mem)
      (fun _ node _ found present => List.le_of_mem_argmin (f := (·.harmBenefit)) present found) nodes
  · exact extreme_of (fun _ => List.argmax_eq_none) (fun _ _ => List.argmax_mem)
      (fun _ _ _ found present => List.le_of_mem_argmax (f := (·.harmBenefit)) present found) nodes

-- A harm out of range above a child without one, and an object of defaults
def offers : List Json := [.obj [("harm_benefit",.int 7),("children",.arr [.obj []])],.obj []]

theorem offers_parsed : ∃ nodes, Mirror Given offers nodes ∧ ∃ tree,
    treeOf none 3 {toolName := "offer_free_item"} (fun _ => "node") (.obj [("consequences",.arr offers)]) = .ok tree ∧
      Measured offers nodes tree := by
  obtain ⟨mirror,measured⟩ := parsed_forest
    (show Json.get (.obj [("consequences",.arr offers)]) "consequences" (.arr []) = .ok (.arr offers) from rfl)
    (show parseNodes (fun _ => "node") [] (.arr offers) = .ok _ from rfl)
  exact ⟨_,mirror,measured none 3 {toolName := "offer_free_item"} rfl⟩

end Sophia.ParsedForest
