import Sophia.Consequence
import Sophia.Library.Forest

namespace Sophia.TreeAnalysis
open Consequence Forest

-- The walks' shared locals. No score yet is float("inf").
structure Worst where
  path : List ConsequenceNode := []
  score : Option ℚ := none

def Worst.beatenBy (worst : Worst) (harm : ℚ) : Bool :=
  match worst.score with
  | none => true
  | some score => decide (harm < score)

-- _dfs of get_worst_path, the path so far without the node itself
mutual
def worstDfs (currentPath : List ConsequenceNode) (worst : Worst) : ConsequenceNode → Worst
  | node@{harmBenefit,children,isTerminal,..} =>
    if isTerminal.truthy then
      if worst.beatenBy harmBenefit then ⟨currentPath ++ [node],some harmBenefit⟩ else worst
    else worstDfsAll (currentPath ++ [node]) worst children
def worstDfsAll (currentPath : List ConsequenceNode) (worst : Worst) : List ConsequenceNode → Worst
  | [] => worst
  | child :: rest => worstDfsAll currentPath (worstDfs currentPath worst child) rest
end

def getWorstPath (tree : ConsequenceTree) : List ConsequenceNode := (worstDfsAll [] {} tree.rootNodes).path

-- _dfs of get_expected_harm
mutual
def harmDfs (cumulativeProb total : ℚ) : ConsequenceNode → ℚ
  | {probability,harmBenefit,children,isTerminal,..} =>
    let prob := cumulativeProb * probability
    if isTerminal.truthy then total + harmBenefit * prob
    else harmDfsAll prob total children
def harmDfsAll (cumulativeProb total : ℚ) : List ConsequenceNode → ℚ
  | [] => total
  | child :: rest => harmDfsAll cumulativeProb (harmDfs cumulativeProb total child) rest
end

def getExpectedHarm (tree : ConsequenceTree) : ℚ := harmDfsAll 1 0 tree.rootNodes

-- A tree holds plainly smaller trees.
instance : Branching ConsequenceNode where
  children := (·.children)
  finite := by
    refine ⟨sizeOf,fun node => ?_⟩
    have bounded := sizes_of_items node.children
    cases node
    simp only [ConsequenceNode.mk.sizeOf_spec] at bounded ⊢
    omega

abbrev flagged (node : ConsequenceNode) : Bool := node.isTerminal.truthy

-- The harm at the end of a path; an empty one has none.
def endHarm (path : List ConsequenceNode) : ℚ := ((path.getLast?).map (·.harmBenefit)).getD 0

def Worst.offer (worst : Worst) (path : List ConsequenceNode) : Worst :=
  if worst.beatenBy (endHarm path) then ⟨path,some (endHarm path)⟩ else worst

theorem worstDfs_eq (currentPath : List ConsequenceNode) (worst : Worst) (node : ConsequenceNode) :
    worstDfs currentPath worst node =
      if flagged node then worst.offer (currentPath ++ [node])
      else worstDfsAll (currentPath ++ [node]) worst node.children := by
  cases node
  rw [worstDfs]
  simp [Worst.offer,endHarm]

theorem harmDfs_eq (cumulativeProb total : ℚ) (node : ConsequenceNode) : harmDfs cumulativeProb total node =
    if flagged node then total + node.harmBenefit * (cumulativeProb * node.probability)
    else harmDfsAll (cumulativeProb * node.probability) total node.children := by
  cases node
  rw [harmDfs]

theorem countNodes_preorder (nodes : List ConsequenceNode) : countNodes nodes = (preorder nodes).length := by
  induction nodes using induct with
  | nil => simp [countNodes]
  | cons node rest below right =>
    obtain ⟨id,description,stakeholders,probability,tangibility,harm,party,children,terminal⟩ := node
    change countNodes children = _ at below
    rw [preorder_cons,countNodes,countNode,below,right,List.length_cons,List.length_append]
    omega

theorem collectTerminals_preorder (nodes : List ConsequenceNode) :
    collectTerminals nodes = (preorder nodes).filter flagged := by
  induction nodes using induct with
  | nil => simp [collectTerminals]
  | cons node rest below right =>
    obtain ⟨id,description,stakeholders,probability,tangibility,harm,party,children,terminal⟩ := node
    change collectTerminals children = _ at below
    rw [preorder_cons,collectTerminals,nodeTerminals,below,right,List.filter_cons,List.filter_append]
    split <;> simp

theorem worstDfsAll_routes (currentPath : List ConsequenceNode) (worst : Worst) (nodes : List ConsequenceNode) :
    worstDfsAll currentPath worst nodes =
      ((routes flagged nodes).map (currentPath ++ ·)).foldl Worst.offer worst := by
  induction nodes using induct generalizing currentPath worst with
  | nil => simp [worstDfsAll]
  | cons node rest below right =>
    rw [routes_cons,worstDfsAll,worstDfs_eq,List.map_append,List.foldl_append,right]
    congr 1
    split
    · rfl
    · refine (below _ _).trans ?_
      simp [Function.comp_def]

-- A later path replaces the best one only when it is strictly worse: the first of the least stays.
theorem offers_argmin (paths : List (List ConsequenceNode)) :
    paths.foldl Worst.offer {} = ⟨(paths.argmin endHarm).getD [],(paths.argmin endHarm).map endHarm⟩ := by
  induction paths using List.reverseRecOn with
  | nil => rfl
  | append_singleton paths path ih =>
    rw [List.foldl_append,ih,List.argmin_concat,List.foldl_cons,List.foldl_nil]
    cases paths.argmin endHarm with
    | none => rfl
    | some best =>
      simp only [Worst.offer,Worst.beatenBy,Option.map_some,decide_eq_true_eq]
      split <;> rfl

theorem getWorstPath_argmin (tree : ConsequenceTree) :
    getWorstPath tree = ((routes flagged tree.rootNodes).argmin endHarm).getD [] := by
  rw [getWorstPath,worstDfsAll_routes]
  simp [offers_argmin]

theorem endHarm_cons (node : ConsequenceNode) (some : path ≠ []) : endHarm (node :: path) = endHarm path := by
  unfold endHarm
  rw [List.getLast?_cons_of_ne_nil some]

theorem total_below (node : ConsequenceNode) (nodes : List ConsequenceNode) :
    WeightedMean.total (along (·.probability)) endHarm ((routes flagged nodes).map (node :: ·)) =
      node.probability * WeightedMean.total (along (·.probability)) endHarm (routes flagged nodes) := by
  unfold WeightedMean.total
  rw [List.map_map,← List.sum_map_mul_left]
  congr 1
  refine List.map_congr_left fun path present => ?_
  have some := route_nonempty (mem_routes.mp present)
  simp only [Function.comp_apply,endHarm_cons node some,along,List.map_cons,List.prod_cons]
  ring

theorem harmDfsAll_routes (prob total : ℚ) (nodes : List ConsequenceNode) : harmDfsAll prob total nodes =
    total + prob * WeightedMean.total (along (·.probability)) endHarm (routes flagged nodes) := by
  induction nodes using induct generalizing prob total with
  | nil => simp [harmDfsAll,WeightedMean.total]
  | cons node rest below right =>
    have split : WeightedMean.total (along (·.probability)) endHarm (routes flagged (node :: rest)) =
        WeightedMean.total (along (·.probability)) endHarm
          (if flagged node then [[node]] else (routes flagged node.children).map (node :: ·)) +
        WeightedMean.total (along (·.probability)) endHarm (routes flagged rest) := by
      rw [routes_cons]
      exact WeightedMean.total_append ..
    have here : harmDfs prob total node = total + prob * WeightedMean.total (along (·.probability)) endHarm
        (if flagged node then [[node]] else (routes flagged node.children).map (node :: ·)) := by
      cases on : flagged node with
      | true =>
        rw [harmDfs_eq,if_pos on,if_pos rfl]
        simp only [WeightedMean.total,along,endHarm,List.map_cons,List.map_nil,List.sum_cons,List.sum_nil,
          List.prod_cons,List.prod_nil,List.getLast?_singleton,Option.map_some,Option.getD_some]
        ring
      | false =>
        rw [harmDfs_eq,if_neg (by simp [on]),if_neg (by simp),total_below]
        refine (below _ _).trans ?_
        rw [mul_assoc]
        rfl
    rw [harmDfsAll,right,here,split]
    ring

theorem getExpectedHarm_total (tree : ConsequenceTree) : getExpectedHarm tree =
    WeightedMean.total (along (·.probability)) endHarm (routes flagged tree.rootNodes) := by
  rw [getExpectedHarm,harmDfsAll_routes]
  ring

end Sophia.TreeAnalysis
