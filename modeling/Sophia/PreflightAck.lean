import Sophia.ParameterGate

namespace Sophia.PreflightAck
open PyText ParameterGate

def coreDefaultAck : String := "One moment while I look into that."

-- What a placeholder leaves: the value as text, or nothing when it is missing or blank
def slotValue (runtime : Runtime) (parameters : Params) (key : String) : List Char :=
  match parameters.lookup key with
  | none => []
  | some .null => []
  | some value => if strip (runtime.str value) = "" then [] else (runtime.str value).toList

def openBrace : Char := Char.ofNat 123
def closeBrace : Char := Char.ofNat 125

-- The substitution of \w+ in braces. The pending word is kept in reverse after an opening
-- brace, and put back when it turns out not to be a placeholder.
def fillSlots (runtime : Runtime) (parameters : Params) : Option (List Char) → List Char → List Char
  | none,[] => []
  | some word,[] => openBrace :: word.reverse
  | none,c :: rest =>
    if c = openBrace then fillSlots runtime parameters (some []) rest
    else c :: fillSlots runtime parameters none rest
  | some word,c :: rest =>
    if runtime.isWord c then fillSlots runtime parameters (some (c :: word)) rest
    else if c = closeBrace ∧ word ≠ [] then
      slotValue runtime parameters (String.ofList word.reverse) ++ fillSlots runtime parameters none rest
    else if c = openBrace then openBrace :: word.reverse ++ fillSlots runtime parameters (some []) rest
    else openBrace :: word.reverse ++ c :: fillSlots runtime parameters none rest

def collapseSpaces (afterSpace : Bool) : List Char → List Char
  | [] => []
  | c :: rest =>
    if c = ' ' then if afterSpace then collapseSpaces true rest else ' ' :: collapseSpaces true rest
    else c :: collapseSpaces false rest

def orphanWords : List String := ["for","of","on","to","the","a","an","order","your"]

def followedBy (marks : List Char) (text : List Char) : Bool :=
  match text.dropWhile isSpace with
  | [] => false
  | c :: _ => marks.contains c

-- How many characters go: an orphaned word and the spaces between it and the punctuation
def orphanLength (text : List Char) : Nat :=
  match orphanWords.find? fun word => word.toList.isPrefixOf text &&
      ((text.drop word.length).head?.map isSpace == some true) && followedBy ['.','!','?'] (text.drop word.length) with
  | none => 0
  | some word => word.length + ((text.drop word.length).takeWhile isSpace).length

-- A match starts at a word boundary; what it covers is skipped.
def dropOrphans (runtime : Runtime) (afterWord : Bool) : Nat → List Char → List Char
  | _,[] => []
  | skip + 1,_ :: rest => dropOrphans runtime false skip rest
  | 0,c :: rest =>
    match if afterWord then 0 else orphanLength (c :: rest) with
    | 0 => c :: dropOrphans runtime (runtime.isWord c) 0 rest
    | length + 1 => dropOrphans runtime false length rest

def trimPunctuation : List Char → List Char
  | [] => []
  | c :: rest =>
    if isSpace c && followedBy ['.','!','?',','] rest then trimPunctuation rest else c :: trimPunctuation rest

def slotFill (runtime : Runtime) (template : String) (parameters : Params) : String :=
  strip (String.ofList (trimPunctuation (dropOrphans runtime false 0
    (collapseSpaces false (fillSlots runtime parameters none template.toList)))))

-- templates[action], else templates["_default"], else nothing
def templateList (templates : AList (fun _ : String => List String)) (action : String) : List String :=
  match templates.lookup action with
  | some list => list
  | none => (templates.lookup "_default").getD []

-- random.choice draws a position; the draw is the environment's.
def chooseTemplate (draw : Nat) (list : List String) : String :=
  (list[draw % list.length]?).getD coreDefaultAck

def maybeGenerateAck (runtime : Runtime) (draw : Nat) (intent : Intent) (candidates : List CandidateAction)
    (registry : ToolRegistry) (hat : Option HatConfig) : Option String := do
  let top ← candidates.find? (!isConverse ·)
  let tool ← registry.get top.toolName
  let ack := (hat.map (·.ack)).getD {}
  if tool.authorityLevel ≠ "agent" then none
  else if (tool.maxFinancialImpact.any fun impact => ack.financialCeiling.getD 0 < impact) then none
  else if !(ack.enabled.getD (.bool true)).truthy then none
  else some (slotFill runtime (chooseTemplate draw (templateList ack.templates intent.actionRequested)) intent.parameters)

example : slotFill Runtime.ascii "Looking up order \x7border_id\x7d for you." ∅ = "Looking up order for you." := by decide
example : slotFill Runtime.ascii "Refund for the \x7bitem\x7d." ∅ = "Refund for." := by decide

end Sophia.PreflightAck
