import Sophia.Domain
import Sophia.Library.PyDict
import Sophia.Library.PyTime

namespace Sophia.Memory
open PyText

-- The fields hold whatever they were given; nothing checks their types.
structure Entity where
  id : String := ""
  entityType : Json := .str ""
  name : Json := .str ""
  attributes : Json := .obj []
  lastSeen : Moment := epoch

structure Episode where
  id : String := ""
  timestamp : Moment
  conversationId : String := ""
  participants : Json := .arr []
  summary : Json := .str ""
  actionsTaken : Json := .arr []
  outcome : Json := .str ""
  entitiesReferenced : List Json := []
  hatName : String := ""

structure Relationship where
  id : String := ""
  fromEntity : Json := .str ""
  relation : Json := .str ""
  toEntity : Json := .str ""
  metadata : Json := .obj []

structure MockMemoryProvider where
  episodes : PyDict String Episode := .empty
  entities : PyDict String Entity := .empty
  relationships : PyDict String Relationship := .empty

-- A record without an id gets the given one.
def storeEpisode (fresh : String) (memory : MockMemoryProvider) (episode : Episode) : MockMemoryProvider :=
  let stored := if episode.id = "" then {episode with id := fresh} else episode
  {memory with episodes := memory.episodes.set stored.id stored}

def storeEntity (fresh : String) (memory : MockMemoryProvider) (entity : Entity) : MockMemoryProvider :=
  let stored := if entity.id = "" then {entity with id := fresh} else entity
  {memory with entities := memory.entities.set stored.id stored}

def storeRelationship (fresh : String) (memory : MockMemoryProvider) (relationship : Relationship) : MockMemoryProvider :=
  let stored := if relationship.id = "" then {relationship with id := fresh} else relationship
  {memory with relationships := memory.relationships.set stored.id stored}

def getEntity (memory : MockMemoryProvider) (entityId : String) : Option Entity := memory.entities.get entityId

-- The latest first. Moments with and without a time zone cannot be compared.
def sortLatest (episodes : List Episode) : Except PyError (List Episode) :=
  if episodes.all (·.timestamp.isNaive) || episodes.all (!·.timestamp.isNaive) then
    .ok (episodes.mergeSort fun a b => decide (b.timestamp.micros ≤ a.timestamp.micros))
  else .error .typeError

-- The source does not look at the type of the entity, and compares its id with the names.
def recallByEntity (memory : MockMemoryProvider) (entityId : Json) (limit : Nat) : Except PyError (List Episode) := do
  let results ← sortLatest (memory.episodes.values.filter fun episode => episode.entitiesReferenced.any (·.equals entityId))
  return results.take limit

def getRelationships (memory : MockMemoryProvider) (entityId : String) : List Relationship :=
  memory.relationships.values.filter fun rel => rel.fromEntity.isStr entityId || rel.toEntity.isStr entityId

section
variable (runtime : Runtime)

def textMatches (query text : String) : Bool := hasSubstring (runtime.lower query) (runtime.lower text)

-- ent.name.lower(), and ent.attributes.values() only where the name does not match
def entityMatches (query : String) (entity : Entity) : Except PyError Bool :=
  match entity.name with
  | .str name =>
    if textMatches runtime query name then .ok true
    else match entity.attributes with
      | .obj fields => .ok (fields.any fun entry => textMatches runtime query (runtime.str entry.2))
      | _ => .error .attributeError
  | _ => .error .attributeError

def searchEntities (memory : MockMemoryProvider) (query : String) (limit : Nat) : Except PyError (List Entity) := do
  let results ← memory.entities.values.filterM (entityMatches runtime query)
  return results.take limit

structure Recalled where
  entities : List Entity := []
  episodes : List Episode := []
  relationships : List Relationship := []

-- What was gathered before an exception stays in the context.
def gather (memory : MockMemoryProvider) : List Entity → Recalled → Recalled
  | [],context => context
  | entity :: rest,context => match recallByEntity memory entity.name 3 with
    | .error _ => context
    | .ok episodes => gather memory rest {context with
        episodes := context.episodes ++ episodes
        relationships := context.relationships ++ getRelationships memory entity.id}

-- AgentLoop._recall_memory: a search that raises leaves the context empty.
def recallMemory (memory : MockMemoryProvider) (message : String) : Recalled :=
  match searchEntities runtime memory message 5 with
  | .error _ => {}
  | .ok entities => gather memory (entities.take 3) {entities}

end

end Sophia.Memory
