import Sophia.Memory
import Sophia.Library.TracedRun
import Sophia.Library.KeyedLog

namespace Sophia.Memory
open TracedRun

-- One call of extract_and_store: what the LLM's answer parsed to, or what was raised on the way,
-- and the draws of uuid4 and the clock. Record i of its kind draws hex i.
structure Extraction where
  answer : Except PyError Json
  conversationId : Option String := none
  hatConfig : Option HatConfig := none
  conversationHex : String := "0"
  episodeHex : String := "0"
  episodeClock : Int := 0
  entityHex : Nat → String
  entityClock : Nat → Int := fun _ => 0
  relationshipHex : Nat → String

-- The records in the order in which they are stored and logged
inductive Stored where
  | episode (episode : Episode)
  | entity (entity : Entity)
  | relationship (relationship : Relationship)

abbrev ExtractionRun := Run PyError MockMemoryProvider Stored

-- Every record of the extractor has an id, so that the provider draws none.
def record (memory : MockMemoryProvider) : Stored → MockMemoryProvider
  | .episode episode => storeEpisode "" memory episode
  | .entity entity => storeEntity "" memory entity
  | .relationship relationship => storeRelationship "" memory relationship

def keep (stored : Stored) : ExtractionRun Unit := do
  change fun memory => record memory stored
  emit stored

section
variable (call : Extraction)

-- parsed.get(key, []), iterated
def listOf (parsed : Json) (key : String) : Except PyError (List Json) := do
  (← parsed.get key (.arr [])).iterate

def episodeOf (parsed : Json) : Except PyError Episode := do
  let epData ← parsed.get "episode" (.obj [])
  let entityNames ← (← listOf parsed "entities").mapM fun e => e.get "name" (.str "")
  let participants ← epData.get "participants" (.arr [])
  let summary ← epData.get "summary" (.str "")
  let actionsTaken ← epData.get "actions_taken" (.arr [])
  let outcome ← epData.get "outcome" (.str "")
  return {
    id := "ep_" ++ call.episodeHex
    timestamp := .aware call.episodeClock
    conversationId := (truthyText call.conversationId).getD call.conversationHex
    participants, summary, actionsTaken, outcome
    entitiesReferenced := entityNames
    hatName := (call.hatConfig.map (·.name)).getD "none"}

def entityFrom (index : Nat) (entData : Json) : Except PyError Entity := do
  let entityType ← entData.get "entity_type" (.str "")
  let name ← entData.get "name" (.str "")
  let attributes ← entData.get "attributes" (.obj [])
  return {id := "ent_" ++ call.entityHex index, entityType, name, attributes, lastSeen := .aware (call.entityClock index)}

def relationshipFrom (index : Nat) (relData : Json) : Except PyError Relationship := do
  let fromEntity ← relData.get "from_entity" (.str "")
  let relation ← relData.get "relation" (.str "")
  let toEntity ← relData.get "to_entity" (.str "")
  let metadata ← relData.get "metadata" (.obj [])
  return {id := "rel_" ++ call.relationshipHex index, fromEntity, relation, toEntity, metadata}

-- The two loops: an item that cannot be read ends them.
def storeEach (make : Nat → Json → Except PyError Stored) : Nat → List Json → ExtractionRun Unit
  | _,[] => pure ()
  | index,item :: rest => do
    let stored ← lift (make index item)
    keep stored
    storeEach make (index + 1) rest

def storeEntities : List Json → ExtractionRun Unit :=
  storeEach (fun index item => (entityFrom call index item).map .entity) 0

def storeRelationships : List Json → ExtractionRun Unit :=
  storeEach (fun index item => (relationshipFrom call index item).map .relationship) 0

def extractAndStore : ExtractionRun Episode := do
  let parsed ← lift call.answer
  let episode ← lift (episodeOf call parsed)
  keep (.episode episode)
  storeEntities call (← lift (listOf parsed "entities"))
  storeRelationships call (← lift (listOf parsed "relationships"))
  return episode

end

-- What stays of a call, whether it returned or raised; _persist_memory absorbs the exception.
def persist (memory : MockMemoryProvider) (call : Extraction) : MockMemoryProvider := (extractAndStore call memory).state

end Sophia.Memory
