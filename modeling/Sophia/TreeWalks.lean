import Sophia.TreeAnalysis

namespace Sophia.TreeWalks
open Consequence Forest TreeAnalysis

-- From a root down from parent to child to a terminal node, the first on the way
def ReachesTerminal (roots path : List ConsequenceNode) : Prop :=
  ∃ before terminal, path = before ++ [terminal] ∧ flagged terminal = true ∧ (∀ node ∈ before, flagged node = false) ∧
    (∃ root ∈ roots, path.head? = some root) ∧ path.IsChain fun parent child => child ∈ parent.children

-- No node gives its children more than itself.
structure Shared (nodes : List ConsequenceNode) : Prop where
  nonneg : ∀ node ∈ preorder nodes, 0 ≤ node.probability
  roots : (nodes.map (·.probability)).sum ≤ 1
  children : ∀ node ∈ preorder nodes, (node.children.map (·.probability)).sum ≤ 1

theorem mem_routes_iff : path ∈ routes flagged roots ↔ ReachesTerminal roots path := mem_routes.trans route_iff

theorem worst_nil (tree : ConsequenceTree) : getWorstPath tree = [] ↔ routes flagged tree.rootNodes = [] := by
  rw [getWorstPath_argmin]
  cases least : (routes flagged tree.rootNodes).argmin endHarm with
  | none => simp [List.argmin_eq_none.mp least]
  | some path =>
    have some := route_nonempty (mem_routes.mp (List.argmin_mem least))
    have inhabited := List.ne_nil_of_mem (List.argmin_mem least)
    simp [some,inhabited]

theorem worst_argmin (found : getWorstPath tree ≠ []) :
    (routes flagged tree.rootNodes).argmin endHarm = some (getWorstPath tree) := by
  rw [getWorstPath_argmin] at found ⊢
  cases least : (routes flagged tree.rootNodes).argmin endHarm with
  | none => simp [least] at found
  | some path => rfl

theorem expected_within (shared : Shared tree.rootNodes)
    (between : ∀ path, ReachesTerminal tree.rootNodes path → lo ≤ endHarm path ∧ endHarm path ≤ hi) :
    min 0 lo ≤ getExpectedHarm tree ∧ getExpectedHarm tree ≤ max 0 hi := by
  rw [getExpectedHarm_total]
  refine WeightedMean.total_within ?_ ?_ ?_
  · exact fun path present => along_nonneg shared.nonneg (mem_routes.mp present)
  · exact le_trans (mass_routes shared.nonneg shared.children) shared.roots
  · exact fun path present => between path (mem_routes_iff.mp present)

theorem tree_walks_exact (tree : ConsequenceTree) :
    (∀ path, path ∈ routes flagged tree.rootNodes ↔ ReachesTerminal tree.rootNodes path) ∧
    ((routes flagged tree.rootNodes).filterMap List.getLast?).Sublist (preorder tree.rootNodes) ∧
    (getWorstPath tree = [] ↔ ∀ path, ¬ ReachesTerminal tree.rootNodes path) ∧
    (getWorstPath tree ≠ [] → ∃ before later, routes flagged tree.rootNodes = before ++ getWorstPath tree :: later ∧
      (∀ path ∈ before, endHarm (getWorstPath tree) < endHarm path) ∧
      ∀ path ∈ later, endHarm (getWorstPath tree) ≤ endHarm path) ∧
    getExpectedHarm tree =
      ((routes flagged tree.rootNodes).map fun path => endHarm path * (path.map (·.probability)).prod).sum ∧
    (Shared tree.rootNodes → ∀ lo hi,
      (∀ path, ReachesTerminal tree.rootNodes path → lo ≤ endHarm path ∧ endHarm path ≤ hi) →
        min 0 lo ≤ getExpectedHarm tree ∧ getExpectedHarm tree ≤ max 0 hi) := by
  refine ⟨fun path => mem_routes_iff,ends_sublist _ _,?_,?_,getExpectedHarm_total tree,?_⟩
  · rw [worst_nil,List.eq_nil_iff_forall_not_mem]
    simp only [mem_routes_iff]
  · exact fun found => argmin_first (worst_argmin found)
  · exact fun shared lo hi between => expected_within shared between

def outcome (description : String) (probability harmBenefit : ℚ) (isTerminal : Bool) (children : List ConsequenceNode) :
    ConsequenceNode where
  id := "node"
  description := .str description
  stakeholdersAffected := .arr []
  probability := probability
  tangibility := 1
  harmBenefit := harmBenefit
  affectedParty := .str "customer"
  isTerminal := .bool isTerminal
  children := children

def fraud : ConsequenceNode := outcome "The refund turns out to be fraud" 1 (-1) true []
def refunded : ConsequenceNode := outcome "The customer is refunded" (1/2) (1/2) true [fraud]
def lost : ConsequenceNode := outcome "The replacement is lost" (1/4) (-1/2) true []
def arrives : ConsequenceNode := outcome "The replacement arrives" (3/4) (1/4) true []
def shipped : ConsequenceNode := outcome "The replacement is shipped" (1/2) 0 false [lost,arrives]

-- The fraud lies below an ending, where no walk comes.
def replacementTree : ConsequenceTree where
  candidateAction := {toolName := "replace_item"}
  rootNodes := [shipped,refunded]
  maxDepth := 3
  totalNodes := 5
  worstTerminal := some fraud
  bestTerminal := some refunded

theorem replacement_preorder : preorder [shipped,refunded] = [shipped,lost,arrives,refunded,fraud] := by
  simp only [preorder_cons,preorder_nil,show Branching.children shipped = [lost,arrives] from rfl,
    show Branching.children lost = [] from rfl,show Branching.children arrives = [] from rfl,
    show Branching.children refunded = [fraud] from rfl,show Branching.children fraud = [] from rfl]
  rfl

theorem replacement_routes : routes flagged [shipped,refunded] = [[shipped,lost],[shipped,arrives],[refunded]] := by
  simp only [routes_cons,routes_nil,show flagged shipped = false from rfl,show flagged lost = true from rfl,
    show flagged arrives = true from rfl,show flagged refunded = true from rfl,
    show Branching.children shipped = [lost,arrives] from rfl]
  rfl

theorem replacement_expected : min 0 (-1/2) ≤ getExpectedHarm replacementTree ∧
    getExpectedHarm replacementTree ≤ max 0 (1/2) := by
  refine (tree_walks_exact replacementTree).2.2.2.2.2 ⟨?_,?_,?_⟩ (-1/2) (1/2) ?_
  · rw [replacementTree,replacement_preorder]
    decide +kernel
  · decide +kernel
  · rw [replacementTree,replacement_preorder]
    decide +kernel
  · have between : ∀ path ∈ routes flagged replacementTree.rootNodes, -1/2 ≤ endHarm path ∧ endHarm path ≤ 1/2 := by
      rw [replacementTree,replacement_routes]
      decide +kernel
    exact fun path reaches => between path (mem_routes_iff.mpr reaches)

-- The two notions of the worst outcome
def WorstAgree (tree : ConsequenceTree) : Prop :=
  (getWorstPath tree = [] ↔ tree.worstTerminal = none) ∧
  ∀ last worst, (getWorstPath tree).getLast? = some last → tree.worstTerminal = some worst →
    last.harmBenefit = worst.harmBenefit

theorem worst_terminal (built : treeOf hat maxDepth candidate ids parsed = .ok tree) :
    tree.worstTerminal = (collectTerminals tree.rootNodes).argmin (·.harmBenefit) := by
  obtain ⟨_,_,_,_,_,rfl⟩ := treeOf_ok.mp built
  rfl

theorem terminal_mem : node ∈ collectTerminals nodes ↔ node ∈ preorder nodes ∧ flagged node = true := by
  rw [collectTerminals_preorder,List.mem_filter]

theorem reached_terminal (reaches : ReachesTerminal nodes path) :
    ∃ last, path.getLast? = some last ∧ endHarm path = last.harmBenefit ∧ last ∈ collectTerminals nodes := by
  have route := mem_routes.mp (mem_routes_iff.mpr reaches)
  obtain ⟨before,last,rfl,here,_⟩ := reaches
  have within := route_nodes route (List.mem_append_right _ List.mem_cons_self)
  exact ⟨last,List.getLast?_concat,by simp [endHarm],terminal_mem.mpr ⟨within,here⟩⟩

-- A flagged node is reached, or it lies below one that is.
theorem terminal_reached (present : node ∈ collectTerminals nodes) : ∃ path last, ReachesTerminal nodes path ∧
    path.getLast? = some last ∧ (node = last ∨ node ∈ preorder last.children) := by
  obtain ⟨within,here⟩ := terminal_mem.mp present
  obtain ⟨path,last,route,ending,covered⟩ := stop_covered within here
  exact ⟨path,last,mem_routes_iff.mp (mem_routes.mpr route),ending,covered⟩

theorem worst_none (built : treeOf hat maxDepth candidate ids parsed = .ok tree) :
    getWorstPath tree = [] ↔ tree.worstTerminal = none := by
  rw [worst_nil,worst_terminal built,List.argmin_eq_none,List.eq_nil_iff_forall_not_mem,
    List.eq_nil_iff_forall_not_mem]
  simp only [mem_routes_iff]
  constructor
  · intro unreached node present
    obtain ⟨path,_,reaches,_⟩ := terminal_reached present
    exact unreached path reaches
  · intro unflagged path reaches
    obtain ⟨last,_,_,present⟩ := reached_terminal reaches
    exact unflagged last present

-- Flagged nodes below flagged ones are no worse than what the walk reaches.
def NothingHidden (nodes : List ConsequenceNode) : Prop :=
  ∀ top ∈ preorder nodes, flagged top = true → ∀ node ∈ preorder top.children, flagged node = true →
    ∃ path, ReachesTerminal nodes path ∧ endHarm path ≤ node.harmBenefit

-- The last node of the worst path is no worse than the worst terminal, and no better than any end.
theorem worst_end (found : getWorstPath tree ≠ []) : ∃ last, (getWorstPath tree).getLast? = some last ∧
    last ∈ collectTerminals tree.rootNodes ∧ ReachesTerminal tree.rootNodes (getWorstPath tree) ∧
    endHarm (getWorstPath tree) = last.harmBenefit ∧
    ∀ path, ReachesTerminal tree.rootNodes path → last.harmBenefit ≤ endHarm path := by
  have least := worst_argmin found
  have reaches := mem_routes_iff.mp (List.argmin_mem least)
  obtain ⟨last,ending,harm,present⟩ := reached_terminal reaches
  refine ⟨last,ending,present,reaches,harm,fun path other => ?_⟩
  rw [← harm]
  exact List.le_of_mem_argmin (mem_routes_iff.mpr other) least

theorem worst_agree_iff (built : treeOf hat maxDepth candidate ids parsed = .ok tree) :
    WorstAgree tree ↔ NothingHidden tree.rootNodes := by
  have worstIs := worst_terminal built
  constructor
  · rintro ⟨_,agree⟩ top within on node below here
    have present : node ∈ collectTerminals tree.rootNodes :=
      terminal_mem.mpr ⟨preorder_below within below,here⟩
    cases least : (collectTerminals tree.rootNodes).argmin (·.harmBenefit) with
    | none => simp [List.argmin_eq_none.mp least] at present
    | some worst =>
      have found : getWorstPath tree ≠ [] := by
        rw [ne_eq,worst_none built,worstIs,least]
        simp
      obtain ⟨last,ending,_,reaches,harm,_⟩ := worst_end found
      refine ⟨getWorstPath tree,reaches,?_⟩
      calc endHarm (getWorstPath tree) = last.harmBenefit := harm
        _ = worst.harmBenefit := agree last worst ending (worstIs.trans least)
        _ ≤ node.harmBenefit := List.le_of_mem_argmin present least
  · intro nothing
    refine ⟨worst_none built,fun last worst ending found => ?_⟩
    rw [worstIs] at found
    have inside := List.argmin_mem found
    obtain ⟨end',same,present,_,_,least⟩ := worst_end fun empty => by cases empty ▸ ending
    cases ending.symm.trans same
    refine le_antisymm ?_ (List.le_of_mem_argmin present found)
    obtain ⟨path,top,reaches,stops,covered⟩ := terminal_reached inside
    obtain ⟨other,ends,harm,flag⟩ := reached_terminal reaches
    cases stops.symm.trans ends
    rcases covered with rfl | below
    · exact harm ▸ least path reaches
    · obtain ⟨topWithin,topFlagged⟩ := terminal_mem.mp flag
      obtain ⟨better,arrives,lower⟩ := nothing top topWithin topFlagged worst below (terminal_mem.mp inside).2
      exact le_trans (least better arrives) lower

-- A refund flagged as an ending although fraud follows it
def refundThenFraud : Json := .obj [("consequences",.arr [.obj [("description",.str "Customer is refunded"),
  ("is_terminal",.bool true),("harm_benefit",.float (1/2)),("children",.arr [.obj [
    ("description",.str "The refund turns out to be fraud"),("harm_benefit",.float (-1))]])]])]

theorem fraud_unseen : ∃ tree, treeOf none 3 {toolName := "process_refund"} (fun _ => "node") refundThenFraud = .ok tree ∧
    ¬ WorstAgree tree := by
  refine ⟨_,rfl,fun agree => ?_⟩
  generalize built : ConsequenceTree.mk _ _ _ _ _ _ = tree at agree
  have path : ((getWorstPath tree).getLast?).map (·.harmBenefit) = some (1/2) := by rw [← built]; decide +kernel
  have worst : tree.worstTerminal.map (·.harmBenefit) = some (-1) := by rw [← built]; decide +kernel
  obtain ⟨last,ending,half⟩ := Option.map_eq_some_iff.mp path
  obtain ⟨node,found,least⟩ := Option.map_eq_some_iff.mp worst
  have same := agree.2 last node ending found
  rw [half,least] at same
  norm_num at same

-- The same fraud, as bad as a loss the walk does reach
def refundOrLoss : Json := .obj [("consequences",.arr [
  .obj [("description",.str "Customer is refunded"),("is_terminal",.bool true),("harm_benefit",.float (1/2)),
    ("children",.arr [.obj [("description",.str "The refund turns out to be fraud"),("harm_benefit",.float (-1))]])],
  .obj [("description",.str "The replacement is shipped"),("children",.arr [
    .obj [("description",.str "It arrives"),("harm_benefit",.float (1/4))],
    .obj [("description",.str "It is lost"),("harm_benefit",.float (-1))]])]])]

theorem loss_agrees : ∃ tree, treeOf none 3 {toolName := "process_refund"} (fun _ => "node") refundOrLoss = .ok tree ∧
    WorstAgree tree ∧ NothingHidden tree.rootNodes := by
  refine ⟨_,rfl,?_⟩
  have settled := worst_agree_iff
    (show treeOf none 3 {toolName := "process_refund"} (fun _ => "node") refundOrLoss = .ok _ from rfl)
  generalize built : ConsequenceTree.mk _ _ _ _ _ _ = tree at settled
  have path : ((getWorstPath tree).getLast?).map (·.harmBenefit) = some (-1) := by rw [← built]; decide +kernel
  have worst : tree.worstTerminal.map (·.harmBenefit) = some (-1) := by rw [← built]; decide +kernel
  obtain ⟨last,ending,harm⟩ := Option.map_eq_some_iff.mp path
  obtain ⟨node,found,least⟩ := Option.map_eq_some_iff.mp worst
  have agree : WorstAgree tree := by
    refine ⟨⟨fun empty => by simp [empty] at ending,fun nothing => by simp [nothing] at found⟩,?_⟩
    intro last' worst' ending' found'
    cases ending.symm.trans ending'
    cases found.symm.trans found'
    exact harm.trans least.symm
  exact ⟨agree,settled.mp agree⟩

end Sophia.TreeWalks
