import Sophia.Webhooks

namespace Sophia.Webhooks
open TracedRun Json DedupWindow

section
variable {router : Router} {arrival : Arrival} {runtime : Runtime} {calendar : Calendar}

theorem route_run (event : SophiaEvent) (topic : String) (now : Int) (router : Router) : route event topic now router =
    if duplicate dedupWindow router.seen (dedupKey event) now then ⟨.ok none,router,[]⟩
    else ⟨configuredAction router.webhooksConfig event topic,
      {router with seen := accept dedupWindow router.seen (dedupKey event) now},[]⟩ := by
  unfold route
  rw [read_bind]
  by_cases again : duplicate dedupWindow router.seen (dedupKey event) now = true
  · rw [if_pos again]
    exact congrFun (if_pos again) router
  · rw [if_neg again]
    exact (congrFun (if_neg again) router).trans (change_bind _)

def Arrival.offered (arrival : Arrival) : DedupKey × Int := (dedupKey arrival.event,arrival.now)

-- The router's table is the window memory, offered the keys of the arrivals.
theorem arrive_seen (router : Router) (arrival : Arrival) :
    (arrive router arrival).seen = offer dedupWindow router.seen arrival.offered := by
  unfold arrive offer
  rw [route_run]
  by_cases again : duplicate dedupWindow router.seen (dedupKey arrival.event) arrival.now = true
  · rw [if_pos again]
    exact (if_pos again).symm
  · rw [if_neg again]
    exact (if_neg again).symm

theorem arrive_config (router : Router) (arrival : Arrival) : (arrive router arrival).webhooksConfig = router.webhooksConfig := by
  unfold arrive
  rw [route_run]
  split <;> rfl

theorem replay_seen (arrivals : List Arrival) (router : Router) : (arrivals.foldl arrive router).seen =
    (arrivals.map Arrival.offered).foldl (offer dedupWindow) router.seen := by
  induction arrivals generalizing router with
  | nil => rfl
  | cons arrival rest ih => rw [List.foldl_cons,ih,arrive_seen,List.map_cons,List.foldl_cons]

theorem replay_config (arrivals : List Arrival) (router : Router) :
    (arrivals.foldl arrive router).webhooksConfig = router.webhooksConfig := by
  induction arrivals generalizing router with
  | nil => rfl
  | cons arrival rest ih => rw [List.foldl_cons,ih,arrive_config]

-- Apart from duplicates, only the events of a source without configuration are dropped.
theorem configuredAction_none {config : AList fun _ : String => Params} {event : SophiaEvent} :
    configuredAction config event topic = .ok none ↔ event.source ∉ config := by
  unfold configuredAction
  constructor
  · intro dropped known
    obtain ⟨eventConfig,_,chosen⟩ := except_bind.mp dropped
    cases eventConfig with
    | null =>
      dsimp only at chosen
      rw [if_pos known] at chosen
      cases chosen
    | _ =>
      obtain ⟨action,_,chosen⟩ := except_bind.mp chosen
      obtain ⟨message,_,chosen⟩ := except_bind.mp chosen
      obtain ⟨synthetic,_,chosen⟩ := except_bind.mp chosen
      cases chosen
  · intro unknown
    have absent : config.lookup event.source = none := AList.lookup_eq_none.mpr unknown
    rw [absent]
    exact congrArg Except.ok (if_neg unknown)

theorem route_none (event : SophiaEvent) (topic : String) (now : Int) (router : Router) :
    (route event topic now router).value = .ok none ↔
      duplicate dedupWindow router.seen (dedupKey event) now = true ∨ event.source ∉ router.webhooksConfig := by
  rw [route_run]
  by_cases again : duplicate dedupWindow router.seen (dedupKey event) now = true
  · simp [again]
  · rw [if_neg again,configuredAction_none]
    simp [again]

-- The deliveries from the first on, in the order of the clock, the last less than the window before the second
structure Between (arrivals : List Arrival) (second : Arrival) : Prop where
  ordered : arrivals.Pairwise fun a b => a.now ≤ b.now
  past : ∀ arrival ∈ arrivals, arrival.now ≤ second.now
  close : ∀ arrival ∈ arrivals, second.now - arrival.now < dedupWindow

theorem redelivery (runtime : Runtime) (calendar : Calendar) (topic : String) (payload : List (String × Json))
    (first second : Clocks) (others : List Arrival) (router : Router)
    (between : Between (delivery runtime calendar topic payload first :: others)
      (delivery runtime calendar topic payload second)) :
    (route (delivery runtime calendar topic payload second).event topic second.routed
      ((delivery runtime calendar topic payload first :: others).foldl arrive router)).value = .ok none ↔
      ("shopify" ∉ router.webhooksConfig ∨ Remembered dedupWindow router.seen
        ((delivery runtime calendar topic payload first :: others).map Arrival.offered)
        (dedupKey (delivery runtime calendar topic payload second).event) second.routed) := by
  rw [route_none,replay_config,replay_seen,or_comm]
  apply or_congr Iff.rfl
  apply duplicate_iff (by decide)
  · exact List.pairwise_map.mpr between.ordered
  · intro offered member
    obtain ⟨arrival,present,rfl⟩ := List.mem_map.mp member
    exact between.past arrival present
  · intro offered member
    obtain ⟨arrival,present,rfl⟩ := List.mem_map.mp member
    exact between.close arrival present

end

def marchCalendar : Calendar where
  fromisoformat text := if text = "2025-03-01T12:00:00+00:00" then some (.aware 1740830400000000) else none

def shopRouter : Router where
  webhooksConfig := AList.singleton "shopify" (AList.singleton "events" (.obj []))

def dated : List (String × Json) := [("id",.int 7),("updated_at",.str "2025-03-01T12:00:00Z")]
def undated : List (String × Json) := [("id",.int 7),("updated_at",.null)]

-- Two deliveries, a minute apart
def delivered (payload : List (String × Json)) (minute : Int) : Arrival :=
  delivery .ascii marchCalendar "orders/paid" payload ⟨60000000 * minute,60000000 * minute⟩

theorem minute_between (payload : List (String × Json)) : Between [delivered payload 0] (delivered payload 1) where
  ordered := List.pairwise_singleton _ _
  past arrival member := by
    rw [List.mem_singleton.mp member]
    exact (by decide : (60000000 * 0 : Int) ≤ 60000000 * 1)
  close arrival member := by
    rw [List.mem_singleton.mp member]
    exact (by decide : (60000000 * 1 - 60000000 * 0 : Int) < dedupWindow)

theorem redelivery_dated :
    (route (delivered dated 1).event "orders/paid" 60000000 (arrive shopRouter (delivered dated 0))).value = .ok none := by
  refine (redelivery .ascii marchCalendar "orders/paid" dated ⟨0,0⟩ ⟨60000000,60000000⟩ [] shopRouter
    (minute_between dated)).mpr (.inr (.inr ⟨(delivered dated 0).offered,List.mem_singleton_self _,rfl,fun p seen => ?_⟩))
  cases seen

theorem redelivery_undated : Between [delivered undated 0] (delivered undated 1) ∧
    (route (delivered undated 1).event "orders/paid" 60000000 (arrive shopRouter (delivered undated 0))).value ≠ .ok none :=
  ⟨minute_between undated,fun dropped => (nomatch dropped)⟩

end Sophia.Webhooks
