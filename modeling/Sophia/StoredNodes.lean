import Sophia.Audit
import Sophia.ParsedForest
import Sophia.Library.MemoTable

namespace Sophia.StoredNodes
open Consequence Forest TreeAnalysis ParsedForest Audit

structure InRange (node : ConsequenceNode) : Prop where
  probability : 0 ≤ node.probability ∧ node.probability ≤ 1
  tangibility : 0 ≤ node.tangibility ∧ node.tangibility ≤ 1
  harmBenefit : -1 ≤ node.harmBenefit ∧ node.harmBenefit ≤ 1

-- Every field but the id and the children; those stand beside each other in a mirrored forest.
structure SameFields (a b : ConsequenceNode) : Prop where
  description : a.description = b.description
  stakeholdersAffected : a.stakeholdersAffected = b.stakeholdersAffected
  probability : a.probability = b.probability
  tangibility : a.tangibility = b.tangibility
  harmBenefit : a.harmBenefit = b.harmBenefit
  affectedParty : a.affectedParty = b.affectedParty
  isTerminal : a.isTerminal = b.isTerminal

theorem clamp_float (least : lo ≤ x) (most : x ≤ hi) : Json.clamp lo hi (.float x) = .ok x := by
  change Except.ok (max lo (min hi x)) = _
  rw [min_eq_right most,max_eq_right least]

-- Every field is read under the name it was written under.
theorem nodeOf_dict (inRange : InRange node) (fields : List (String × Json)) (dict : nodeToDict node = .obj fields)
    (fresh : String) (children : List ConsequenceNode) :
    nodeOf fresh (.obj fields) children = .ok {node with id := fresh,children := children} := by
  obtain ⟨id,description,stakeholders,probability,tangibility,harm,party,below,terminal⟩ := node
  rw [nodeToDict] at dict
  cases dict
  have likely := clamp_float inRange.probability.1 inRange.probability.2
  have tangible := clamp_float inRange.tangibility.1 inRange.tangibility.2
  have harms := clamp_float inRange.harmBenefit.1 inRange.harmBenefit.2
  simp only [nodeOf,Json.get,List.lookup_cons,String.reduceBEq,Option.getD_some,bind,Except.bind,likely,tangible,harms,pure,
    Except.pure]

theorem parseChildren_dict (ids : List Nat → String) (path : List Nat) (fields : List (String × Json))
    (dict : nodeToDict node = .obj fields) :
    parseChildren ids path fields = parseItems ids path 0 (nodesToDict node.children) := by
  obtain ⟨id,description,stakeholders,probability,tangibility,harm,party,below,terminal⟩ := node
  rw [nodeToDict] at dict
  cases dict
  simp only [parseChildren,String.reduceEq,if_false,if_true,Json.truthy,parseNodes]
  cases below with
  | nil => rfl
  | cons => simp [nodesToDict]

-- Induction over the forest: a dict keeps the fields of its node, its children those of the children.
theorem parseItems_dicts (ids : List Nat → String) (nodes : List ConsequenceNode) : ∀ path index,
    (∀ node ∈ preorder nodes, InRange node) →
      ∃ parsed, parseItems ids path index (nodesToDict nodes) = .ok parsed ∧ Mirror SameFields nodes parsed := by
  induction nodes using induct with
  | nil =>
    intro path index _
    exact ⟨[],by rw [nodesToDict,parseItems],.nil⟩
  | cons node rest below right =>
    intro path index inRange
    rw [preorder_cons] at inRange
    obtain ⟨here,deeper⟩ := List.forall_mem_cons.mp inRange
    obtain ⟨inside,beside⟩ := List.forall_mem_append.mp deeper
    obtain ⟨children,under,same⟩ := below (path ++ [index]) 0 inside
    obtain ⟨others,later,alike⟩ := right path (index + 1) beside
    obtain ⟨fields,dict⟩ : ∃ fields, nodeToDict node = .obj fields := by
      cases node
      exact ⟨_,by rw [nodeToDict]⟩
    refine ⟨{node with id := ids (path ++ [index]),children := children} :: others,?_,?_⟩
    · have first : parseNode ids (path ++ [index]) (nodeToDict node) =
          .ok {node with id := ids (path ++ [index]),children := children} := by
        rw [dict,parseNode,parseChildren_dict _ _ _ dict]
        exact except_bind.mpr ⟨children,under,nodeOf_dict here _ dict _ _⟩
      rw [nodesToDict,parseItems]
      exact except_bind.mpr ⟨_,first,except_bind.mpr ⟨_,later,rfl⟩⟩
    · exact .cons ⟨rfl,rfl,rfl,rfl,rfl,rfl,rfl⟩ same alike

-- What was parsed is within the bounds, so it can be stored and read again.
theorem parsed_inRange {ids : List Nat → String} (parsed : parseNodes ids path (.arr items) = .ok nodes) :
    ∀ node ∈ preorder nodes, InRange node := by
  rw [parseNodes] at parsed
  have mirror := (parseItems_mirror items parsed).nodes
  intro node present
  obtain ⟨item,_,given⟩ := MemoTable.forall₂_mem mirror present
  exact ⟨⟨given.probability.1,given.probability.2.1⟩,⟨given.tangibility.1,given.tangibility.2.1⟩,
    ⟨given.harmBenefit.1,given.harmBenefit.2.1⟩⟩

theorem stored_nodes (ids again : List Nat → String) :
    (∀ nodes : List ConsequenceNode, (∀ node ∈ preorder nodes, InRange node) →
      ∃ parsed, parseNodes ids [] (.arr (nodesToDict nodes)) = .ok parsed ∧ Mirror SameFields nodes parsed) ∧
    ∀ items nodes, parseNodes ids [] (.arr items) = .ok nodes →
      ∃ parsed, parseNodes again [] (.arr (nodesToDict nodes)) = .ok parsed ∧ Mirror SameFields nodes parsed := by
  refine ⟨fun nodes inRange => ?_,fun items nodes accepted => ?_⟩
  · rw [parseNodes]
    exact parseItems_dicts ids nodes [] 0 inRange
  · rw [parseNodes]
    exact parseItems_dicts again nodes [] 0 (parsed_inRange accepted)

-- A harm out of range above a child without one: the stored forest holds the clamped number.
theorem stored_nodes_offers : ∃ nodes parsed, parseNodes (fun _ => "first") [] (.arr offers) = .ok nodes ∧
    parseNodes (fun _ => "second") [] (.arr (nodesToDict nodes)) = .ok parsed ∧ Mirror SameFields nodes parsed := by
  obtain ⟨parsed,again,same⟩ := (stored_nodes (fun _ => "first") fun _ => "second").2 offers _ rfl
  exact ⟨_,parsed,rfl,again,same⟩

end Sophia.StoredNodes
