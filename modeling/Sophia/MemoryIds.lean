import Sophia.WebhookActions

namespace Sophia.Webhooks
open TracedRun Json PyText Sophia.Memory

-- The kind under which a topic's resource is kept. A refund is kept as an order.
def kind (topic : String) : String := if topic = "refunds/create" then "order" else rstripChar 's' (before '/' topic)

def payloadId (payload : List (String × Json)) : Json := (payload.lookup "id").getD (.str "")

-- Two deliveries of different resources
def Differ (topic other : String) (payload second : List (String × Json)) : Prop :=
  before '/' topic ≠ before '/' other ∨ payloadId payload ≠ payloadId second

-- A colon in one kind can stand for the one that separates it from the id.
def Runs (one other : String × String) : Prop := ∃ middle, one.1 = other.1 ++ ":" ++ middle ∧ other.2 = middle ++ ":" ++ one.2

def Alike (one other : String × String) : Prop := one = other ∨ Runs one other ∨ Runs other one

def kept (runtime : Runtime) (topic : String) (payload : List (String × Json)) : String × String :=
  (kind topic,runtime.str (payloadId payload))

section
variable {runtime : Runtime} {calendar : Calendar}

theorem joined_toList (a b : String) : (a ++ ":" ++ b).toList = a.toList ++ ':' :: b.toList := by
  simp [String.toList_append]

theorem joined_runs {a b x y : String} : Runs (a,x) (b,y) ↔
    ∃ m, a.toList = b.toList ++ ':' :: m ∧ y.toList = m ++ ':' :: x.toList := by
  unfold Runs
  constructor
  · rintro ⟨middle,one,other⟩
    exact ⟨middle.toList,by rw [← joined_toList,← one],by rw [← joined_toList,← other]⟩
  · rintro ⟨m,one,other⟩
    refine ⟨String.ofList m,String.toList_injective ?_,String.toList_injective ?_⟩
    · rw [joined_toList,String.toList_ofList,one]
    · rw [joined_toList,String.toList_ofList,other]

theorem joined_alike (one other : String × String) :
    one.1 ++ ":" ++ one.2 = other.1 ++ ":" ++ other.2 ↔ Alike one other := by
  obtain ⟨a,x⟩ := one
  obtain ⟨b,y⟩ := other
  unfold Alike
  rw [← String.toList_inj,joined_toList,joined_toList,separated_append,joined_runs,joined_runs,Prod.mk.injEq,
    String.toList_inj,String.toList_inj]

theorem typesOf_kind (topic : String) : (typesOf topic).2 = kind topic := by
  by_cases listed : topic ∈ shopifyTopicMap.map Prod.fst
  · simp only [shopifyTopicMap,List.map_cons,List.map_nil,List.mem_cons,List.not_mem_nil,or_false] at listed
    rcases listed with rfl | rfl | rfl | rfl | rfl | rfl <;> decide +kernel
  · have missing : shopifyTopicMap.lookup topic = none := by
      rw [List.lookup_eq_none_iff]
      intro entry member
      simpa using fun same : topic = entry.1 => listed (List.mem_map.mpr ⟨entry,member,same.symm⟩)
    have other : topic ≠ "refunds/create" := by
      rintro rfl
      simp [shopifyTopicMap] at listed
    simp [typesOf,kind,missing,other]

theorem memoryId_kept (topic : String) (payload : List (String × Json)) (clock : Int) :
    memoryId (normalize runtime calendar clock topic payload) =
      "shopify:" ++ ((kept runtime topic payload).1 ++ ":" ++ (kept runtime topic payload).2) := by
  unfold memoryId normalize kept payloadId
  dsimp only
  rw [typesOf_kind]
  simp [String.append_assoc]

theorem memoryId_alike (topic other : String) (payload second : List (String × Json)) (clock later : Int) :
    memoryId (normalize runtime calendar clock topic payload) = memoryId (normalize runtime calendar later other second) ↔
      Alike (kept runtime topic payload) (kept runtime other second) := by
  rw [memoryId_kept,memoryId_kept,← joined_alike]
  constructor
  · intro same
    have texts := congrArg String.toList same
    rw [String.toList_append,String.toList_append (s := "shopify:")] at texts
    exact String.toList_injective (List.append_cancel_left texts)
  · exact fun same => congrArg _ same

theorem memoryId_nonempty (event : SophiaEvent) : memoryId event ≠ "" := by
  intro empty
  have texts := congrArg String.toList empty
  simp [memoryId,String.toList_append] at texts

theorem stored_get (fresh : String) (memory : MockMemoryProvider) (event : SophiaEvent) (clock : Int) (id : String) :
    getEntity (storeEntity fresh memory (entityOf event clock)) id =
      if id = memoryId event then some (entityOf event clock) else getEntity memory id := by
  have named : (entityOf event clock).id ≠ "" := memoryId_nonempty event
  unfold getEntity storeEntity
  simp only [if_neg named,PyDict.get_set]
  rfl

end

-- The memory after an event was handled
def update (fresh : String) (action : Json) (clock : Int) (memory : MockMemoryProvider) (event : SophiaEvent) :
    MockMemoryProvider :=
  (handleMemoryUpdate {memory := some (mockProvider fresh)} {action,event} clock {memory}).state.memory

-- The ids differ, and storing the second event leaves what was stored of the first.
def Apart (one other : SophiaEvent) : Prop :=
  memoryId one ≠ memoryId other ∧ ∀ fresh action memory clock later,
    getEntity (update fresh action later (update fresh action clock memory one) other) (memoryId one) =
      some (entityOf one clock)

theorem apart_iff (one other : SophiaEvent) : Apart one other ↔ memoryId one ≠ memoryId other := by
  constructor
  · exact And.left
  · intro apart
    refine ⟨apart,fun fresh action memory clock later => ?_⟩
    have second : update fresh action later (update fresh action clock memory one) other =
        storeEntity fresh (storeEntity fresh memory (entityOf one clock)) (entityOf other later) := rfl
    rw [second,stored_get,if_neg apart,stored_get,if_pos rfl]

theorem memory_ids_apart (runtime : Runtime) (calendar : Calendar) (topic other : String)
    (payload second : List (String × Json)) (clock later : Int) :
    (Differ topic other payload second →
      Apart (normalize runtime calendar clock topic payload) (normalize runtime calendar later other second)) ↔
    (Differ topic other payload second → ¬ Alike (kept runtime topic payload) (kept runtime other second)) := by
  rw [apart_iff,Ne,memoryId_alike]

def shopRuntime : Runtime := {Runtime.ascii with str := fun
  | .int n => toString n
  | value => Runtime.ascii.str value}

-- A refund has an id of its own. Stored as an order, it takes the place of the order with that id.
theorem refund_replaces_order : Differ "orders/paid" "refunds/create" [("id",.int 1001)] [("id",.int 1001)] ∧
    ¬ Apart (normalize shopRuntime ⟨fun _ => none⟩ 0 "orders/paid" [("id",.int 1001)])
      (normalize shopRuntime ⟨fun _ => none⟩ 1 "refunds/create" [("id",.int 1001)]) := by
  constructor
  · exact .inl (by decide +kernel)
  · rw [apart_iff,Ne,not_not]
    decide +kernel

end Sophia.Webhooks
