import Sophia.MemoryExtractor
import Sophia.Library.StepRun

namespace Sophia.Memory
open TracedRun StepRun KeyedLog

-- The items up to the first one that cannot be read
def made (make : Nat → Json → Except PyError Stored) : Nat → List Json → List Stored
  | _,[] => []
  | index,item :: rest => match make index item with
    | .ok stored => stored :: made make (index + 1) rest
    | .error _ => []

def madeFrom (make : Nat → Json → Except PyError Stored) (listed : Except PyError (List Json)) : List Stored :=
  match listed with
  | .ok items => made make 0 items
  | .error _ => []

-- What a call stores, told from its JSON and its draws alone
def stores (call : Extraction) : List Stored :=
  match call.answer with
  | .error _ => []
  | .ok parsed => match episodeOf call parsed with
    | .error _ => []
    | .ok episode => .episode episode ::
      (madeFrom (fun index item => (entityFrom call index item).map .entity) (listOf parsed "entities") ++
        madeFrom (fun index item => (relationshipFrom call index item).map .relationship) (listOf parsed "relationships"))

section
variable {call : Extraction} {make : Nat → Json → Except PyError Stored}

theorem keep_run (stored : Stored) (memory : MockMemoryProvider) :
    keep stored memory = ⟨.ok (),record memory stored,[stored]⟩ := by
  unfold keep
  rw [change_bind]
  rfl

theorem storeEach_replays (make : Nat → Json → Except PyError Stored) (index : Nat) (items : List Json) :
    Replays record (storeEach make index items) := by
  induction items generalizing index with
  | nil => exact .pure ()
  | cons item rest ih =>
    refine .bind (.lift _) fun stored => .bind (fun memory => ?_) fun _ => ih (index + 1)
    rw [keep_run]
    rfl

theorem extract_replays (call : Extraction) : Replays record (extractAndStore call) := by
  refine .bind (.lift _) fun parsed => .bind (.lift _) fun episode => .bind (fun memory => ?_) fun _ => ?_
  · rw [keep_run]
    rfl
  · refine .bind (.lift _) fun entities => .bind (storeEach_replays _ _ _) fun _ => ?_
    exact .bind (.lift _) fun relationships => .bind (storeEach_replays _ _ _) fun _ => .pure episode

theorem keep_leaves (stored : Stored) : Leaves (keep stored) [stored] := fun memory => by rw [keep_run]
theorem keep_returns (stored : Stored) (memory : MockMemoryProvider) : (keep stored memory).value = .ok () := by rw [keep_run]

theorem storeEach_leaves (make : Nat → Json → Except PyError Stored) (index : Nat) (items : List Json) :
    Leaves (storeEach make index items) (made make index items) := by
  induction items generalizing index with
  | nil => exact .pure ()
  | cons item rest ih =>
    unfold storeEach made
    cases make index item with
    | error e => exact .raises e
    | ok stored => exact .known ((keep_leaves stored).bind (keep_returns stored) (ih (index + 1)))

theorem storeEach_returns (each : ∀ index, ∀ item ∈ items, ∃ stored, make index item = .ok stored) (index : Nat)
    (memory : MockMemoryProvider) : (storeEach make index items memory).value = .ok () := by
  induction items generalizing index memory with
  | nil => rfl
  | cons item rest ih =>
    obtain ⟨stored,read⟩ := each index item List.mem_cons_self
    unfold storeEach
    rw [read,lift_bind_ok,bind_ok (keep_returns stored memory)]
    exact ih (fun index other present => each index other (List.mem_cons_of_mem _ present)) _ _

-- The names were read first: every item of the list is an object.
theorem entities_readable (built : episodeOf call parsed = .ok episode) :
    ∃ items, listOf parsed "entities" = .ok items ∧
      ∀ index, ∀ item ∈ items, ∃ stored, (entityFrom call index item).map Stored.entity = .ok stored := by
  unfold episodeOf at built
  obtain ⟨_,_,built⟩ := except_bind.mp built
  obtain ⟨items,listed,built⟩ := except_bind.mp built
  obtain ⟨names,named,_⟩ := except_bind.mp built
  refine ⟨items,listed,fun index item present => ?_⟩
  obtain ⟨name,read⟩ := mapM_returns.mp ⟨names,named⟩ item present
  cases item with
  | obj fields => exact ⟨_,rfl⟩
  | _ => cases read

theorem extract_leaves (call : Extraction) : Leaves (extractAndStore call) (stores call) := by
  unfold extractAndStore stores
  cases call.answer with
  | error e => exact .raises e
  | ok parsed =>
    refine .known ?_
    dsimp only
    cases built : episodeOf call parsed with
    | error e => exact .raises e
    | ok episode =>
      obtain ⟨items,listed,each⟩ := entities_readable built
      rw [listed]
      refine .known (.bind (keep_leaves _) (keep_returns _) (.known ?_))
      refine .bind (storeEach_leaves _ 0 items) (storeEach_returns each 0) ?_
      cases listOf parsed "relationships" with
      | error e => exact .raises e
      | ok others => exact .known ((storeEach_leaves _ 0 others).last fun _ => .pure episode)

end

-- All that is stored over a run of calls, in order
def log (memory : MockMemoryProvider) : List Extraction → List Stored
  | [] => []
  | call :: rest => (extractAndStore call memory).trace ++ log (persist memory call) rest

theorem log_stores (memory : MockMemoryProvider) (history : List Extraction) : log memory history = history.flatMap stores := by
  induction history generalizing memory with
  | nil => rfl
  | cons call rest ih => rw [log,extract_leaves call memory,ih,List.flatMap_cons]

theorem after_log (memory : MockMemoryProvider) (history : List Extraction) :
    after persist memory history = (log memory history).foldl record memory := by
  induction history generalizing memory with
  | nil => rfl
  | cons call rest ih =>
    rw [after_cons,ih,log,List.foldl_append,← extract_replays call memory]
    rfl

def entityWrite : Stored → Option (String × Entity)
  | .entity entity => some (entity.id,entity)
  | _ => none

def relationshipWrite : Stored → Option (String × Relationship)
  | .relationship relationship => some (relationship.id,relationship)
  | _ => none

theorem entities_after (events : List Stored) (memory : MockMemoryProvider) :
    (events.foldl record memory).entities = store memory.entities (events.filterMap entityWrite) := by
  refine store_view MockMemoryProvider.entities (fun memory stored => ?_) events memory
  cases stored with
  | entity entity =>
    cases entity
    simp only [record,storeEntity,entityWrite]
    split <;> simp_all
  | _ => rfl

theorem relationships_after (events : List Stored) (memory : MockMemoryProvider) :
    (events.foldl record memory).relationships = store memory.relationships (events.filterMap relationshipWrite) := by
  refine store_view MockMemoryProvider.relationships (fun memory stored => ?_) events memory
  cases stored with
  | relationship rel =>
    cases rel
    simp only [record,storeRelationship,relationshipWrite]
    split <;> simp_all
  | _ => rfl

-- An object of the list of relationships that gives the entity's name at one of its ends
def Linked (call : Extraction) (entity : Entity) (rel : Relationship) : Prop :=
  ∃ parsed items index fields, call.answer = .ok parsed ∧ listOf parsed "relationships" = .ok items ∧
    items[index]? = some (.obj fields) ∧ relationshipFrom call index (.obj fields) = .ok rel ∧
    ((∃ name, fields.lookup "from_entity" = some name ∧ name.equals entity.name = true) ∨
      ∃ name, fields.lookup "to_entity" = some name ∧ name.equals entity.name = true)

-- After the run every relationship is among those of the entity stored for a name it gives.
def Recallable (memory : MockMemoryProvider) (history : List Extraction) : Prop :=
  ∀ earlier call later, history = earlier ++ call :: later → ∀ entity rel,
    .entity entity ∈ (extractAndStore call (after persist memory earlier)).trace → Linked call entity rel →
      rel ∈ getRelationships (after persist memory history) entity.id

theorem mem_getRelationships (memory : MockMemoryProvider) (history : List Extraction) :
    rel ∈ getRelationships (after persist memory history) name ↔ (rel.fromEntity = .str name ∨ rel.toEntity = .str name) ∧
      ∃ key, Standing memory.relationships ((history.flatMap stores).filterMap relationshipWrite) key rel := by
  unfold getRelationships
  rw [List.mem_filter,Bool.or_eq_true,Json.isStr_iff,Json.isStr_iff,PyDict.mem_values,after_log,relationships_after,log_stores,
    and_comm]
  simp only [get_store]

-- The relationship gives the drawn id itself, and it was stored and is not overwritten.
theorem recallable_iff (memory : MockMemoryProvider) (history : List Extraction) : Recallable memory history ↔
    ∀ call ∈ history, ∀ entity rel, .entity entity ∈ stores call → Linked call entity rel →
      (rel.fromEntity = .str entity.id ∨ rel.toEntity = .str entity.id) ∧
      ∃ key, Standing memory.relationships ((history.flatMap stores).filterMap relationshipWrite) key rel := by
  constructor
  · intro recallable call present entity rel stored linked
    obtain ⟨earlier,later,split⟩ := List.append_of_mem present
    rw [← mem_getRelationships]
    refine recallable earlier call later split entity rel ?_ linked
    rw [extract_leaves]
    exact stored
  · intro reached earlier call later split entity rel stored linked
    rw [extract_leaves] at stored
    exact (mem_getRelationships memory history).mpr (reached call (by simp [split]) entity rel stored linked)

def aliceOwns : Extraction where
  answer := .ok (.obj [("episode",.obj [("summary",.str "Alice asked about her order")]),
    ("entities",.arr [.obj [("entity_type",.str "person"),("name",.str "Alice")],
      .obj [("entity_type",.str "order"),("name",.str "ORD-12345")]]),
    ("relationships",.arr [.obj [("from_entity",.str "Alice"),("relation",.str "owns"),("to_entity",.str "ORD-12345")]])])
  entityHex i := if i = 0 then "5f1c2a90" else "b7e04d13"
  relationshipHex _ := "9ad3c671"

theorem alice_forgets_order : ¬ Recallable {} [aliceOwns] := by
  intro recallable
  have found := recallable [] aliceOwns [] rfl _ _ (by
    rw [extract_leaves]
    exact List.mem_cons_of_mem _ List.mem_cons_self) ⟨_,_,0,_,rfl,rfl,rfl,rfl,.inl ⟨_,rfl,rfl⟩⟩
  rcases ((mem_getRelationships _ _).mp found).1 with same | same
  · exact absurd (Json.str.inj same) (by decide)
  · exact absurd (Json.str.inj same) (by decide)

-- One entity for each type and name: equal values, compared either way round
def SameThing (a b : Entity) : Prop :=
  (a.entityType.equals b.entityType = true ∧ b.entityType.equals a.entityType = true) ∧
    a.name.equals b.name = true ∧ b.name.equals a.name = true

def OnePerThing (history : List Extraction) : Prop :=
  ∀ earlier later, log {} history = earlier ++ later → OneEach SameThing (earlier.foldl record {}).entities

-- Only a record that draws the id of an earlier one takes its place.
theorem one_per_thing_iff (history : List Extraction) :
    OnePerThing history ↔ Merged SameThing ((history.flatMap stores).filterMap entityWrite) := by
  have symm : ∀ a b, SameThing a b → SameThing b a := fun a b same => ⟨same.1.symm,same.2.symm⟩
  rw [← oneEach_throughout symm]
  unfold OnePerThing
  rw [log_stores]
  constructor
  · intro always earlier later split
    obtain ⟨before,rest,parts,rfl,rfl⟩ := List.filterMap_eq_append_iff.mp split
    rw [← entities_after before {}]
    exact always before rest parts
  · intro always earlier later split
    rw [entities_after]
    exact always _ (later.filterMap entityWrite) (by rw [split,List.filterMap_append])

-- The same customer mentioned in two conversations
def aliceMentioned (drawn : String) : Extraction where
  answer := .ok (.obj [("entities",.arr [.obj [("entity_type",.str "person"),("name",.str "Alice")]])])
  entityHex _ := drawn
  relationshipHex _ := "9ad3c671"

theorem alice_stored_twice : ¬ OnePerThing [aliceMentioned "5f1c2a90",aliceMentioned "b7e04d13"] := by
  intro once
  have last := once (log {} [aliceMentioned "5f1c2a90",aliceMentioned "b7e04d13"]) [] (List.append_nil _).symm
  have same := last "ent_5f1c2a90" "ent_b7e04d13" _ _ rfl rfl ⟨⟨rfl,rfl⟩,rfl,rfl⟩
  revert same
  decide

end Sophia.Memory
