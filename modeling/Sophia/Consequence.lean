import Sophia.Domain
import Mathlib.Data.List.MinMax

namespace Sophia.Consequence
open Json

structure SituationCandidate where
  actionRequested : String
  parameters : Params
  reasoning : String := "Evaluating the consequences of the user's request if fulfilled"
  expectedOutcome : String := "The user's requested action is executed as asked"

def SituationCandidate.fromIntent (intent : Intent) : SituationCandidate :=
  {actionRequested := intent.actionRequested,parameters := intent.parameters}

-- Texts and flags are whatever the JSON held; only the three numbers are clamped.
structure ConsequenceNode where
  id : String
  description : Json
  stakeholdersAffected : Json
  probability : ℚ
  tangibility : ℚ
  harmBenefit : ℚ
  affectedParty : Json
  children : List ConsequenceNode := []
  isTerminal : Json := .bool false

structure ConsequenceTree where
  candidateAction : CandidateAction
  rootNodes : List ConsequenceNode
  maxDepth : Int
  totalNodes : Nat
  worstTerminal : Option ConsequenceNode
  bestTerminal : Option ConsequenceNode

-- One object of the list, its children already parsed. The fresh id is the caller's.
def nodeOf (id : String) (item : Json) (children : List ConsequenceNode) : Except PyError ConsequenceNode := do
  let isTerminal ← item.get "is_terminal" (.bool children.isEmpty)
  let description ← item.get "description" (.str "")
  let stakeholdersAffected ← item.get "stakeholders_affected" (.arr [])
  let probability ← clamp 0 1 (← item.get "probability" (.float (1/2)))
  let tangibility ← clamp 0 1 (← item.get "tangibility" (.float (1/2)))
  let harmBenefit ← clamp (-1) 1 (← item.get "harm_benefit" (.float 0))
  let affectedParty ← item.get "affected_party" (.str "")
  return {id,description,stakeholdersAffected,probability,tangibility,harmBenefit,affectedParty,children,isTerminal}

-- _parse_nodes. The recursion descends through the fields of an object to its children;
-- ids are drawn by the position of the node. A nonempty string or object is iterated
-- too, and its first item has no get.
mutual
def parseNodes (ids : List Nat → String) (path : List Nat) : Json → Except PyError (List ConsequenceNode)
  | .arr items => parseItems ids path 0 items
  | .str text => if text = "" then .ok [] else .error .attributeError
  | .obj fields => if fields.isEmpty then .ok [] else .error .attributeError
  | _ => .error .typeError
def parseItems (ids : List Nat → String) (path : List Nat) (index : Nat) :
    List Json → Except PyError (List ConsequenceNode)
  | [] => .ok []
  | item :: rest => do
    let node ← parseNode ids (path ++ [index]) item
    let nodes ← parseItems ids path (index + 1) rest
    return node :: nodes
def parseNode (ids : List Nat → String) (path : List Nat) : Json → Except PyError ConsequenceNode
  | .obj fields => do
    let children ← parseChildren ids path fields
    nodeOf (ids path) (.obj fields) children
  | _ => .error .attributeError
def parseChildren (ids : List Nat → String) (path : List Nat) :
    List (String × Json) → Except PyError (List ConsequenceNode)
  | [] => .ok []
  | (key,value) :: rest =>
    if key = "children" then
      if value.truthy then parseNodes ids path value else .ok []
    else parseChildren ids path rest
end

mutual
def countNodes : List ConsequenceNode → Nat
  | [] => 0
  | node :: rest => countNode node + countNodes rest
def countNode : ConsequenceNode → Nat
  | {children,..} => 1 + countNodes children
end

mutual
def collectTerminals : List ConsequenceNode → List ConsequenceNode
  | [] => []
  | node :: rest => nodeTerminals node ++ collectTerminals rest
def nodeTerminals : ConsequenceNode → List ConsequenceNode
  | node@{children,isTerminal,..} => (if isTerminal.truthy then [node] else []) ++ collectTerminals children
end

-- ref in valid_ids, a set of strings: a list or an object cannot be hashed.
def refKnown (validIds : List String) : Json → Except PyError Bool
  | .arr _ => .error .typeError
  | .obj _ => .error .typeError
  | ref => .ok (validIds.any fun id => isStr id ref)

-- description[:60], read for the warning
def describable : Json → Except PyError Unit
  | .str _ => .ok ()
  | .arr _ => .ok ()
  | _ => .error .typeError

def checkRefs (validIds : List String) (description : Json) : List Json → Except PyError Unit
  | [] => .ok ()
  | ref :: rest => do
    if ← refKnown validIds ref then pure () else describable description
    checkRefs validIds description rest

-- _validate_refs_recursive only logs, but on malformed fields its reads raise.
mutual
def validateRefs (validIds : List String) : List ConsequenceNode → Except PyError Unit
  | [] => .ok ()
  | node :: rest => do
    validateRef validIds node
    validateRefs validIds rest
def validateRef (validIds : List String) : ConsequenceNode → Except PyError Unit
  | {description,stakeholdersAffected,affectedParty,children,..} => do
    checkRefs validIds description (← iterate stakeholdersAffected)
    if affectedParty.truthy then
      if ← refKnown validIds affectedParty then pure () else describable description
    validateRefs validIds children
end

def validateStakeholderRefs (hat : Option HatConfig) (nodes : List ConsequenceNode) : Except PyError Unit :=
  match hat with
  | none => .ok ()
  | some hat => validateRefs (hat.stakeholders.map (·.id)) nodes

-- What _generate and analyze_situation do with the LLM's JSON
def treeOf (hat : Option HatConfig) (maxDepth : Int) (candidate : CandidateAction)
    (ids : List Nat → String) (parsed : Json) : Except PyError ConsequenceTree := do
  let rootNodes ← parseNodes ids [] (← parsed.get "consequences" (.arr []))
  validateStakeholderRefs hat rootNodes
  let terminals := collectTerminals rootNodes
  return {
    candidateAction := candidate
    rootNodes := rootNodes
    maxDepth := maxDepth
    totalNodes := countNodes rootNodes
    worstTerminal := terminals.argmin (·.harmBenefit)
    bestTerminal := terminals.argmax (·.harmBenefit)}

-- dataclasses.replace(tree, candidate_action=candidate)
def rebindCandidate (tree : ConsequenceTree) (candidate : CandidateAction) : ConsequenceTree :=
  {tree with candidateAction := candidate}

theorem treeOf_ok : treeOf hat maxDepth candidate ids parsed = .ok tree ↔
    ∃ data nodes, parsed.get "consequences" (.arr []) = .ok data ∧ parseNodes ids [] data = .ok nodes ∧
      validateStakeholderRefs hat nodes = .ok () ∧
      tree = ⟨candidate,nodes,maxDepth,countNodes nodes,(collectTerminals nodes).argmin (·.harmBenefit),
        (collectTerminals nodes).argmax (·.harmBenefit)⟩ := by
  unfold treeOf
  constructor
  · intro built
    obtain ⟨data,given,built⟩ := except_bind.mp built
    obtain ⟨nodes,accepted,built⟩ := except_bind.mp built
    obtain ⟨_,checked,built⟩ := except_bind.mp built
    cases built
    exact ⟨data,nodes,given,accepted,checked,rfl⟩
  · rintro ⟨data,nodes,given,accepted,checked,rfl⟩
    rw [given]
    change parseNodes ids [] data >>= _ = _
    rw [accepted]
    change validateStakeholderRefs hat nodes >>= _ = _
    rw [checked]
    rfl

theorem treeOf_candidate (built : treeOf hat maxDepth candidate ids parsed = .ok tree) :
    tree.candidateAction = candidate := by
  obtain ⟨_,_,_,_,_,rfl⟩ := treeOf_ok.mp built
  rfl

end Sophia.Consequence
