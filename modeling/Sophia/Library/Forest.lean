import Sophia.Library.WeightedMean
import Mathlib.Algebra.BigOperators.Ring.List
import Mathlib.Algebra.Order.BigOperators.GroupWithZero.List
import Mathlib.Data.List.Chain
import Mathlib.Data.List.MinMax

namespace Sophia.Forest

-- A type of trees: what stands directly below a node is together smaller than the node.
class Branching (α : Type) where
  children : α → List α
  finite : ∃ size : α → Nat, ∀ a, ((children a).map fun child => size child + 1).sum ≤ size a

open Branching

theorem sizes_of_items [SizeOf α] (items : List α) : (items.map fun item => sizeOf item + 1).sum < sizeOf items := by
  induction items with
  | nil => simp
  | cons item rest ih =>
    rw [List.map_cons,List.sum_cons,List.cons.sizeOf_spec]
    omega

section
variable {α : Type} [Branching α]

noncomputable def bulk (forest : List α) : Nat := (forest.map fun a => (@finite α _).choose a + 1).sum

theorem bulk_children (a : α) (rest : List α) : bulk (children a) < bulk (a :: rest) := by
  have bounded := (@finite α _).choose_spec a
  unfold bulk
  rw [List.map_cons,List.sum_cons]
  omega

theorem bulk_rest (a : α) (rest : List α) : bulk rest < bulk (a :: rest) := by
  unfold bulk
  rw [List.map_cons,List.sum_cons]
  omega

-- Depth and siblings at once: a node is reached after what is below it and what is right of it.
theorem induct {P : List α → Prop} (nil : P [])
    (cons : ∀ a rest, P (children a) → P rest → P (a :: rest)) : ∀ forest, P forest
  | [] => nil
  | a :: rest => cons a rest (induct nil cons (children a)) (induct nil cons rest)
termination_by forest => bulk forest
decreasing_by
  · exact bulk_children a rest
  · exact bulk_rest a rest

-- Every node at any depth, parents before their children
def preorder : List α → List α
  | [] => []
  | a :: rest => a :: (preorder (children a) ++ preorder rest)
termination_by forest => bulk forest
decreasing_by
  · exact bulk_children a rest
  · exact bulk_rest a rest

-- Depth first, the paths from a root down to the first node at which to stop
def routes (stop : α → Bool) : List α → List (List α)
  | [] => []
  | a :: rest => (if stop a then [[a]] else (routes stop (children a)).map (a :: ·)) ++ routes stop rest
termination_by forest => bulk forest
decreasing_by
  · exact bulk_children a rest
  · exact bulk_rest a rest

-- A path that steps from parent to child, stops where it should and nowhere before
inductive Route (stop : α → Bool) : List α → List α → Prop where
  | stops : a ∈ forest → stop a = true → Route stop forest [a]
  | descends : a ∈ forest → stop a = false → Route stop (children a) path → Route stop forest (a :: path)

end

variable {α : Type} [Branching α] {stop : α → Bool} {forest path : List α}

@[simp] theorem preorder_nil : preorder ([] : List α) = [] := by rw [preorder]
@[simp] theorem preorder_cons (a : α) (rest : List α) :
    preorder (a :: rest) = a :: (preorder (children a) ++ preorder rest) := by rw [preorder]
@[simp] theorem routes_nil : routes stop ([] : List α) = [] := by rw [routes]
@[simp] theorem routes_cons (a : α) (rest : List α) : routes stop (a :: rest) =
    (if stop a then [[a]] else (routes stop (children a)).map (a :: ·)) ++ routes stop rest := by rw [routes]

theorem root_mem (present : a ∈ forest) : a ∈ preorder forest := by
  induction forest with
  | nil => cases present
  | cons first rest ih =>
    rw [preorder_cons]
    rcases List.mem_cons.mp present with rfl | later
    · exact List.mem_cons_self
    · exact List.mem_cons_of_mem _ (List.mem_append_right _ (ih later))

theorem preorder_below (present : a ∈ preorder forest) : preorder (children a) ⊆ preorder forest := by
  induction forest using induct with
  | nil => simp at present
  | cons first rest below right =>
    rw [preorder_cons] at present ⊢
    intro child under
    rcases List.mem_cons.mp present with rfl | deeper
    · exact List.mem_cons_of_mem _ (List.mem_append_left _ under)
    · rcases List.mem_append.mp deeper with inside | beside
      · exact List.mem_cons_of_mem _ (List.mem_append_left _ (below inside under))
      · exact List.mem_cons_of_mem _ (List.mem_append_right _ (right beside under))

theorem Route.widen (within : forest ⊆ wider) (route : Route stop forest path) : Route stop wider path := by
  cases route with
  | stops present here => exact .stops (within present) here
  | descends present on below => exact .descends (within present) on below

theorem mem_routes : path ∈ routes stop forest ↔ Route stop forest path := by
  constructor
  · induction forest using induct generalizing path with
    | nil => simp
    | cons a rest below right =>
      intro present
      rw [routes_cons] at present
      rcases List.mem_append.mp present with inside | beside
      · cases here : stop a with
        | true =>
          rw [if_pos here] at inside
          cases List.mem_singleton.mp inside
          exact .stops List.mem_cons_self here
        | false =>
          rw [if_neg (by simp [here])] at inside
          obtain ⟨tail,under,rfl⟩ := List.mem_map.mp inside
          exact .descends List.mem_cons_self here (below under)
      · exact (right beside).widen (List.subset_cons_self _ _)
  · induction forest using induct generalizing path with
    | nil =>
      intro route
      cases route with
      | stops present => cases present
      | descends present => cases present
    | cons a rest below right =>
      intro route
      rw [routes_cons,List.mem_append]
      cases route with
      | stops present here =>
        rcases List.mem_cons.mp present with rfl | later
        · exact .inl (by simp [here])
        · exact .inr (right (.stops later here))
      | @descends top _ tail present on under =>
        rcases List.mem_cons.mp present with rfl | later
        · refine .inl ?_
          rw [if_neg (by simp [on])]
          exact List.mem_map_of_mem (below under)
        · exact .inr (right (.descends later on under))

-- The same path without the recursion
theorem route_iff : Route stop forest path ↔ ∃ before last, path = before ++ [last] ∧ stop last = true ∧
    (∀ a ∈ before, stop a = false) ∧ (∃ root ∈ forest, path.head? = some root) ∧
    path.IsChain fun parent child => child ∈ children parent := by
  constructor
  · intro route
    induction route with
    | @stops _ a present here => exact ⟨[],a,rfl,here,by simp,⟨a,present,rfl⟩,List.isChain_singleton a⟩
    | @descends _ a path present on _ ih =>
      obtain ⟨before,last,rfl,here,quiet,⟨root,under,first⟩,chain⟩ := ih
      refine ⟨a :: before,last,rfl,here,?_,⟨a,present,rfl⟩,?_⟩
      · exact List.forall_mem_cons.mpr ⟨on,quiet⟩
      · refine List.isChain_cons.mpr ⟨fun child head => ?_,chain⟩
        rw [first] at head
        cases head
        exact under
  · rintro ⟨before,last,rfl,here,quiet,⟨root,present,first⟩,chain⟩
    induction before generalizing forest root with
    | nil => cases first; exact .stops present here
    | cons a before ih =>
      cases first
      obtain ⟨on,quiet⟩ := List.forall_mem_cons.mp quiet
      obtain ⟨step,chain⟩ := List.isChain_cons.mp chain
      cases tail : (before ++ [last]).head? with
      | none => simp at tail
      | some child => exact .descends present on (ih quiet chain child (step child tail) tail)

theorem route_nonempty (route : Route stop forest path) : path ≠ [] := by
  cases route <;> simp

theorem route_nodes (route : Route stop forest path) : path ⊆ preorder forest := by
  induction route with
  | stops present _ => exact List.cons_subset.mpr ⟨root_mem present,List.nil_subset _⟩
  | descends present _ _ ih =>
    exact List.cons_subset.mpr ⟨root_mem present,fun a under => preorder_below (root_mem present) (ih under)⟩

-- The routes come in the order in which a walk from parents to children meets their ends.
theorem ends_sublist (stop : α → Bool) (forest : List α) :
    ((routes stop forest).filterMap List.getLast?).Sublist (preorder forest) := by
  induction forest using induct with
  | nil => simp
  | cons first rest below right =>
    rw [routes_cons,preorder_cons,List.filterMap_append]
    split
    · exact List.Sublist.cons_cons first (List.Sublist.trans right (List.sublist_append_right _ _))
    · have same : ((routes stop (children first)).map (first :: ·)).filterMap List.getLast? =
          (routes stop (children first)).filterMap List.getLast? := by
        rw [List.filterMap_map]
        refine List.filterMap_congr fun path present => ?_
        exact List.getLast?_cons_of_ne_nil (route_nonempty (mem_routes.mp present))
      rw [same]
      exact List.Sublist.cons first (List.Sublist.append below right)

-- Every node at which to stop ends a route or lies below the end of one.
theorem stop_covered (present : a ∈ preorder forest) (here : stop a = true) :
    ∃ path last, Route stop forest path ∧ path.getLast? = some last ∧ (a = last ∨ a ∈ preorder (children last)) := by
  induction forest using induct with
  | nil => simp at present
  | cons first rest below right =>
    rw [preorder_cons] at present
    rcases List.mem_cons.mp present with rfl | deeper
    · exact ⟨[a],a,.stops List.mem_cons_self here,rfl,.inl rfl⟩
    · rcases List.mem_append.mp deeper with inside | beside
      · cases on : stop first with
        | true => exact ⟨[first],first,.stops List.mem_cons_self on,rfl,.inr inside⟩
        | false =>
          obtain ⟨path,last,route,ending,covered⟩ := below inside
          refine ⟨first :: path,last,.descends List.mem_cons_self on route,?_,covered⟩
          rw [List.getLast?_cons,ending]
          rfl
      · obtain ⟨path,last,route,ending,covered⟩ := right beside
        exact ⟨path,last,route.widen (List.subset_cons_self _ _),ending,covered⟩

-- Two forests of one shape, their nodes related one by one
inductive Mirror {α β : Type} [Branching α] [Branching β] (R : α → β → Prop) : List α → List β → Prop where
  | nil : Mirror R [] []
  | cons : R a b → Mirror R (children a) (children b) → Mirror R as bs → Mirror R (a :: as) (b :: bs)

theorem Mirror.nodes {β : Type} [Branching β] {R : α → β → Prop} {as : List α} {bs : List β} (mirror : Mirror R as bs) :
    List.Forall₂ R (preorder as) (preorder bs) := by
  induction mirror with
  | nil => simp
  | cons related _ _ below right =>
    rw [preorder_cons,preorder_cons]
    exact .cons related (List.rel_append below right)

section
variable {K : Type} [Field K] [LinearOrder K] [IsStrictOrderedRing K] {p : α → K}

-- How much a path weighs when its nodes are taken one after the other
def along (p : α → K) (path : List α) : K := (path.map p).prod

theorem along_nonneg (nonneg : ∀ a ∈ preorder forest, 0 ≤ p a) (route : Route stop forest path) : 0 ≤ along p path := by
  apply List.prod_nonneg
  intro _ present
  obtain ⟨a,on,rfl⟩ := List.mem_map.mp present
  exact nonneg a (route_nodes route on)

-- Children that share at most the whole of their parent leave the routes at most what the roots have.
theorem mass_routes (nonneg : ∀ a ∈ preorder forest, 0 ≤ p a)
    (shared : ∀ a ∈ preorder forest, ((children a).map p).sum ≤ 1) :
    WeightedMean.mass (along p) (routes stop forest) ≤ (forest.map p).sum := by
  induction forest using induct with
  | nil => simp [WeightedMean.mass]
  | cons first rest below right =>
    rw [preorder_cons] at nonneg shared
    obtain ⟨positive,deeper⟩ := List.forall_mem_cons.mp nonneg
    obtain ⟨bounded,lower⟩ := List.forall_mem_cons.mp shared
    obtain ⟨inside,beside⟩ := List.forall_mem_append.mp deeper
    obtain ⟨within,next⟩ := List.forall_mem_append.mp lower
    have later := right beside next
    have under : WeightedMean.mass (along p) (routes stop (children first)) ≤ 1 := le_trans (below inside within) bounded
    have here : WeightedMean.mass (along p) (if stop first then [[first]]
        else (routes stop (children first)).map (first :: ·)) ≤ p first := by
      split
      · simp [WeightedMean.mass,along]
      · have scaled : WeightedMean.mass (along p) ((routes stop (children first)).map (first :: ·)) =
            p first * WeightedMean.mass (along p) (routes stop (children first)) := by
          simp only [WeightedMean.mass,along,List.map_map,Function.comp_def,List.map_cons,List.prod_cons]
          exact List.sum_map_mul_left _ _ _
        rw [scaled]
        exact mul_le_of_le_one_right positive under
    rw [routes_cons,List.map_cons,List.sum_cons]
    unfold WeightedMean.mass at here later ⊢
    rw [List.map_append,List.sum_append]
    exact add_le_add here later

end

-- The first of the least
theorem argmin_first {K β : Type} [LinearOrder K] {f : β → K} {xs : List β} {m : β} (least : xs.argmin f = some m) :
    ∃ before later, xs = before ++ m :: later ∧ (∀ x ∈ before, f m < f x) ∧ ∀ x ∈ later, f m ≤ f x := by
  induction xs generalizing m with
  | nil => cases least
  | cons x rest ih =>
    rw [List.argmin_cons] at least
    cases tail : rest.argmin f with
    | none =>
      rw [tail] at least
      cases least
      exact ⟨[],rest,rfl,by simp,by simp [List.argmin_eq_none.mp tail]⟩
    | some c =>
      rw [tail] at least
      dsimp only at least
      obtain ⟨before,later,rfl,greater,atLeast⟩ := ih tail
      split at least
      · next lower =>
        cases least
        exact ⟨x :: before,later,rfl,List.forall_mem_cons.mpr ⟨lower,greater⟩,atLeast⟩
      · next upper =>
        cases least
        refine ⟨[],_,rfl,by simp,fun y present => ?_⟩
        exact le_trans (not_lt.mp upper) (List.le_of_mem_argmin present tail)

end Sophia.Forest
