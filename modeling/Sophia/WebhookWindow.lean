import Sophia.Redelivery

namespace Sophia.Webhooks
open TracedRun Json DedupWindow

def freshRouter (config : AList fun _ : String => Params) : Router := {webhooksConfig := config}

-- The branch of route that drops a duplicate
def Ignored (router : Router) (arrival : Arrival) : Prop :=
  duplicate dedupWindow router.seen (dedupKey arrival.event) arrival.now = true

instance (router : Router) (arrival : Arrival) : Decidable (Ignored router arrival) :=
  inferInstanceAs (Decidable (_ = true))

-- The calls of a run that were not ignored, the latest first
def note (run : Router × Log DedupKey) (arrival : Arrival) : Router × Log DedupKey :=
  (arrive run.1 arrival,if Ignored run.1 arrival then run.2 else arrival.offered :: run.2)

def lastAccepted (config : AList fun _ : String => Params) (arrivals : List Arrival) (key : DedupKey) : Option Int :=
  (arrivals.foldl note (freshRouter config,[])).2.lookup key

def sameKey (arrival other : Arrival) : Bool := dedupKey other.event = dedupKey arrival.event

-- A message that is no text is not interpolated.
def MessageReadable (message : Json) : Prop :=
  message.truthy = true → match message with
    | .str _ => True
    | .arr items => items.any (isStr "\x7bentity_id\x7d") = false
    | .obj fields => fields.any (·.1 == "\x7bentity_id\x7d") = false
    | _ => False

-- The shape that route reads: a topic without entry, or an entry with its message
def EntryReadable : Json → Prop
  | .null => True
  | .obj fields => MessageReadable ((fields.lookup "synthetic_message").getD .null)
  | _ => False

def Readable (config : AList fun _ : String => Params) (event : SophiaEvent) (topic : String) : Prop :=
  ∃ entries, (((config.lookup event.source).getD ∅).lookup "events").getD (.obj []) = .obj entries ∧
    EntryReadable ((entries.lookup topic).getD .null)

section
variable {config : AList fun _ : String => Params} {event : SophiaEvent} {arrival : Arrival} {arrivals : List Arrival}

theorem interpolate_readable (entityId : String) (message : Json) :
    (∃ shown, interpolate entityId message = .ok shown) ↔ MessageReadable message := by
  unfold interpolate MessageReadable
  by_cases given : message.truthy = true
  · simp only [given,forall_const]
    cases message with
    | str text => cases named : PyText.hasSubstring "\x7bentity_id\x7d" text <;> simp [contains,named,bind,Except.bind]
    | arr items => cases named : items.any (isStr "\x7bentity_id\x7d") <;> simp [contains,named,bind,Except.bind]
    | obj fields => cases named : fields.any (·.1 == "\x7bentity_id\x7d") <;> simp [contains,named,bind,Except.bind]
    | _ => simp [contains,bind,Except.bind]
  · simp [given]

theorem configuredAction_readable (known : event.source ∈ config) :
    (∃ action, configuredAction config event topic = .ok (some action)) ↔ Readable config event topic := by
  unfold configuredAction Readable
  cases events : ((((config.lookup event.source).getD ∅).lookup "events").getD (.obj [])) with
  | obj entries =>
    simp only [events,Json.get,bind,Except.bind,Json.obj.injEq,exists_eq_left']
    cases (entries.lookup topic).getD .null with
    | null => simp [EntryReadable,known]
    | obj fields =>
      rw [EntryReadable,← interpolate_readable event.entityId]
      cases shown : interpolate event.entityId ((fields.lookup "synthetic_message").getD .null) <;>
        simp [shown,pure,Except.pure]
    | _ => simp [EntryReadable]
  | _ => simp [events,Json.get,bind,Except.bind]

-- A configured source is not passed over, so what cannot be read raises.
theorem configuredAction_raises (known : event.source ∈ config) (unreadable : ¬ Readable config event topic) :
    ∃ e, configuredAction config event topic = .error e := by
  rw [← configuredAction_readable known] at unreadable
  cases answered : configuredAction config event topic with
  | error e => exact ⟨e,rfl⟩
  | ok result =>
    cases result with
    | none => exact absurd known (configuredAction_none.mp answered)
    | some action => exact absurd ⟨action,answered⟩ unreadable

theorem routed (config : AList fun _ : String => Params) (arrivals : List Arrival)
    (fresh : ¬ Ignored (arrivals.foldl arrive (freshRouter config)) arrival) :
    (route arrival.event arrival.topic arrival.now (arrivals.foldl arrive (freshRouter config))).value =
      configuredAction config arrival.event arrival.topic := by
  have accepted : duplicate dedupWindow (arrivals.foldl arrive (freshRouter config)).seen (dedupKey arrival.event)
      arrival.now ≠ true := fresh
  rw [route_run,if_neg accepted,replay_config]
  rfl

theorem note_accepted {run : Router × Log DedupKey} (fresh : ¬ Ignored run.1 arrival) :
    note run arrival = (arrive run.1 arrival,arrival.offered :: run.2) := by simp [note,fresh]

theorem note_router (arrivals : List Arrival) (run : Router × Log DedupKey) :
    (arrivals.foldl note run).1 = arrivals.foldl arrive run.1 := by
  induction arrivals generalizing run with
  | nil => rfl
  | cons arrival rest ih => exact ih _

-- The history of the calls is that of the window memory, offered their keys.
theorem note_history (arrivals : List Arrival) (run : Router × Log DedupKey) :
    ((arrivals.foldl note run).1.seen,(arrivals.foldl note run).2) =
      (arrivals.map Arrival.offered).foldl (register dedupWindow) (run.1.seen,run.2) := by
  induction arrivals generalizing run with
  | nil => rfl
  | cons arrival rest ih =>
    simp only [List.foldl_cons,List.map_cons,ih,note,arrive_seen]
    rfl

theorem earliest (ordered : (arrivals ++ [arrival]).Pairwise fun a b => a.now ≤ b.now) :
    ∃ start, start ≤ arrival.now ∧ ∀ other ∈ arrivals, start ≤ other.now := by
  obtain ⟨before,_,past⟩ := List.pairwise_append.mp ordered
  cases arrivals with
  | nil => exact ⟨arrival.now,Int.le_refl _,by simp⟩
  | cons first rest =>
    refine ⟨first.now,past first (List.mem_cons_self ..) arrival (List.mem_singleton_self _),?_⟩
    rw [List.forall_mem_cons]
    exact ⟨Int.le_refl _,(List.pairwise_cons.mp before).1⟩

-- The router's table and the history of its calls, at the time of the next call
theorem noted_tracks (config : AList fun _ : String => Params)
    (ordered : (arrivals ++ [arrival]).Pairwise fun a b => a.now ≤ b.now) : Tracks dedupWindow
    ((arrivals.foldl arrive (freshRouter config)).seen,(arrivals.foldl note (freshRouter config,[])).2) arrival.now := by
  obtain ⟨start,begun,first⟩ := earliest ordered
  obtain ⟨before,_,past⟩ := List.pairwise_append.mp ordered
  rw [← note_router arrivals (freshRouter config,[]),note_history]
  refine tracks_run (by decide) (tracks_fresh start) _ (List.pairwise_map.mpr before) ?_ ?_ begun
  · exact List.forall_mem_map.mpr first
  · exact List.forall_mem_map.mpr fun other member => past other member arrival (List.mem_singleton_self _)

theorem noted_own (config : AList fun _ : String => Params)
    (ordered : (arrivals ++ [arrival]).Pairwise fun a b => a.now ≤ b.now) :
    lastAccepted config arrivals (dedupKey arrival.event) =
      lastAccepted config (arrivals.filter (sameKey arrival)) (dedupKey arrival.event) := by
  obtain ⟨start,begun,first⟩ := earliest ordered
  have history (calls : List Arrival) := congrArg Prod.snd (note_history calls (freshRouter config,[]))
  have offered : (arrivals.filter (sameKey arrival)).map Arrival.offered =
      (arrivals.map Arrival.offered).filter (·.1 = dedupKey arrival.event) := by
    rw [List.filter_map]
    rfl
  unfold lastAccepted
  rw [history,history,offered]
  refine register_own (by decide) (tracks_fresh start) (tracks_fresh start) rfl _ ?_ (List.forall_mem_map.mpr first)
  exact List.pairwise_map.mpr (List.pairwise_append.mp ordered).1

end

-- One call of route after any run of them on a fresh router
structure WindowExact (config : AList fun _ : String => Params) (arrivals : List Arrival) (arrival : Arrival) : Prop where
  ignored : Ignored (arrivals.foldl arrive (freshRouter config)) arrival ↔
    ∃ t, lastAccepted config arrivals (dedupKey arrival.event) = some t ∧ arrival.now - t < dedupWindow
  dropped : Ignored (arrivals.foldl arrive (freshRouter config)) arrival →
    route arrival.event arrival.topic arrival.now (arrivals.foldl arrive (freshRouter config)) =
      ⟨.ok none,arrivals.foldl arrive (freshRouter config),[]⟩
  own : Ignored (arrivals.foldl arrive (freshRouter config)) arrival ↔
    Ignored ((arrivals.filter (sameKey arrival)).foldl arrive (freshRouter config)) arrival
  acts : ¬ Ignored (arrivals.foldl arrive (freshRouter config)) arrival → arrival.event.source ∈ config →
    ((∃ action, (route arrival.event arrival.topic arrival.now (arrivals.foldl arrive (freshRouter config))).value =
      .ok (some action)) ↔ Readable config arrival.event arrival.topic)
  raises : ¬ Ignored (arrivals.foldl arrive (freshRouter config)) arrival → arrival.event.source ∈ config →
    ¬ Readable config arrival.event arrival.topic →
    ∃ e, (route arrival.event arrival.topic arrival.now (arrivals.foldl arrive (freshRouter config))).value = .error e
  seen : ¬ Ignored (arrivals.foldl arrive (freshRouter config)) arrival → ∀ key,
    ((arrivals ++ [arrival]).foldl arrive (freshRouter config)).seen key =
      (lastAccepted config (arrivals ++ [arrival]) key).filter (recent dedupWindow arrival.now)

theorem window_exact (config : AList fun _ : String => Params) (arrivals : List Arrival) (arrival : Arrival)
    (ordered : (arrivals ++ [arrival]).Pairwise fun a b => a.now ≤ b.now) : WindowExact config arrivals arrival := by
  have tracks := noted_tracks config ordered
  have exact_ := tracks.duplicate (dedupKey arrival.event)
  have answered (fresh : ¬ Ignored (arrivals.foldl arrive (freshRouter config)) arrival) := routed config arrivals fresh
  refine ⟨exact_,fun again => ?_,?_,fun fresh known => ?_,fun fresh known unreadable => ?_,fun fresh key => ?_⟩
  · rw [route_run]
    exact if_pos again
  · have sub : (arrivals.filter (sameKey arrival) ++ [arrival]).Sublist (arrivals ++ [arrival]) :=
      List.Sublist.append List.filter_sublist (List.Sublist.refl _)
    have alone := (noted_tracks config (ordered.sublist sub)).duplicate (dedupKey arrival.event)
    have same := noted_own config ordered
    unfold lastAccepted at same
    unfold Ignored
    rw [exact_,alone,same]
  · rw [answered fresh]
    exact configuredAction_readable known
  · rw [answered fresh]
    exact configuredAction_raises known unreadable
  · have accepted : ¬ Ignored (arrivals.foldl note (freshRouter config,[])).1 arrival := by
      rw [note_router]
      exact fresh
    unfold lastAccepted
    rw [List.foldl_append,List.foldl_append,List.foldl_cons,List.foldl_cons,List.foldl_nil,List.foldl_nil,
      note_accepted accepted,arrive_seen]
    exact (congrFun (if_neg fresh) key).trans (tracks.accept (by decide) (dedupKey arrival.event) key)

-- Five minutes to the microsecond after it was accepted, an event is accepted again.
theorem window_exact_boundary : Ignored (arrive (freshRouter shopRouter.webhooksConfig) (delivered dated 0))
      ⟨(delivered dated 0).event,"orders/paid",dedupWindow - 1⟩ ∧
    ¬ Ignored (arrive (freshRouter shopRouter.webhooksConfig) (delivered dated 0))
      ⟨(delivered dated 0).event,"orders/paid",dedupWindow⟩ := by
  have calls (now : Int) (forward : 0 ≤ now) := window_exact shopRouter.webhooksConfig [delivered dated 0]
    ⟨(delivered dated 0).event,"orders/paid",now⟩ (by simpa [delivered,delivery] using forward)
  refine ⟨(calls (dedupWindow - 1) (by decide)).ignored.mpr ⟨0,rfl,by decide⟩,fun again => ?_⟩
  obtain ⟨t,logged,young⟩ := (calls dedupWindow (by decide)).ignored.mp again
  cases logged
  exact absurd young (by decide)

-- An entry that names its action as a text
def terseConfig : AList fun _ : String => Params :=
  AList.singleton "shopify" (AList.singleton "events" (.obj [("orders/paid",.str "memory_update")]))

theorem unreadable_event : ¬ Ignored (freshRouter terseConfig) (delivered dated 0) ∧
    (delivered dated 0).event.source ∈ terseConfig ∧ ¬ ∃ action,
      (route (delivered dated 0).event "orders/paid" 0 (freshRouter terseConfig)).value = .ok (some action) := by
  refine ⟨by decide,by decide,?_⟩
  rintro ⟨action,acted⟩
  cases acted

end Sophia.Webhooks
