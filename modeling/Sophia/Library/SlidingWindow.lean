import Mathlib.Algebra.Order.Group.Basic
import Mathlib.Data.List.Basic
import Mathlib.Data.List.Induction

namespace Sophia.SlidingWindow

-- At most so many admissions within any span
section
variable {K : Type} [AddCommGroup K] [LinearOrder K]

-- The times of the last span before now
def within (span now : K) (times : List K) : List K := times.filter (now - span < ·)

def letThrough (span : K) (limit : Int) (kept : List K) (now : K) : List K :=
  if limit ≤ (within span now kept).length then kept else kept ++ [now]

-- The admitted ones of a sequence of requests
def admitted (span : K) (limit : Int) (times : List K) : List K := times.foldl (letThrough span limit) []

-- The times that lie in one window of that length
def inside (span start : K) (times : List K) : List K := times.filter fun t => start < t ∧ t ≤ start + span

variable {span now : K} {limit : Int} {times : List K}

theorem within_inside (reached : ∀ t ∈ times, t ≤ now) : within span now times = inside span (now - span) times := by
  refine List.filter_congr fun t present => ?_
  simp [reached t present]

theorem admitted_last (times : List K) (now : K) :
    admitted span limit (times ++ [now]) = letThrough span limit (admitted span limit times) now := List.foldl_append

-- A request that was rejected leaves no trace.
theorem admitted_rejected (full : limit ≤ (within span now (admitted span limit times)).length) (later : List K) :
    admitted span limit (times ++ now :: later) = admitted span limit (times ++ later) := by
  unfold admitted at full ⊢
  rw [List.foldl_append,List.foldl_append,List.foldl_cons]
  congr 1
  exact if_pos full

theorem admitted_subset (times : List K) : admitted span limit times ⊆ times := by
  induction times using List.reverseRecOn with
  | nil => exact List.Subset.refl _
  | append_singleton times now ih =>
    intro t present
    rw [admitted_last] at present
    unfold letThrough at present
    split at present
    · exact List.mem_append_left _ (ih present)
    · rcases List.mem_append.mp present with earlier | last
      · exact List.mem_append_left _ (ih earlier)
      · exact List.mem_append_right _ last

end

variable {K : Type} [AddCommGroup K] [LinearOrder K] [IsOrderedAddMonoid K] {span now : K} {limit : Int} {times : List K}

-- Looking back from later on, what was forgotten in between is not missed.
theorem within_within (order : now ≤ later) (times : List K) :
    within span later (within span now times) = within span later times := by
  unfold within
  rw [List.filter_filter]
  refine List.filter_congr fun t _ => ?_
  have nearer : now - span ≤ later - span := sub_le_sub_right order span
  by_cases recent : later - span < t
  · simp [recent,lt_of_le_of_lt nearer recent]
  · simp [recent]

-- A window that reaches up to now holds no more than the last span before now.
theorem inside_within (reaches : now ≤ start + span) (times : List K) :
    (inside span start times).length ≤ (within span now times).length := by
  refine List.Sublist.length_le ?_
  refine List.monotone_filter_right times fun t held => ?_
  have after := (of_decide_eq_true held).1
  exact decide_eq_true (lt_of_le_of_lt (sub_le_iff_le_add.mpr reaches) after)

theorem window_bound (span : K) (limit : Int) (ordered : times.Pairwise (· ≤ ·)) (start : K) :
    (inside span start (admitted span limit times)).length ≤ limit.toNat := by
  induction times using List.reverseRecOn with
  | nil => exact Nat.zero_le _
  | append_singleton times now ih =>
    have bound := ih (List.pairwise_append.mp ordered).1
    rw [admitted_last]
    unfold letThrough
    split
    · exact bound
    · next room =>
      unfold inside at bound ⊢
      rw [List.filter_append,List.length_append]
      by_cases here : start < now ∧ now ≤ start + span
      · have before : (inside span start (admitted span limit times)).length ≤
            (within span now (admitted span limit times)).length := inside_within here.2 _
        unfold inside at before
        have last : ([now].filter fun t => start < t ∧ t ≤ start + span) = [now] := by simp [here]
        rw [last,List.length_singleton]
        omega
      · simpa [here] using bound

-- What is rejected finds the last span exactly full.
theorem rejected_full (ordered : (times ++ [now]).Pairwise (· ≤ ·)) (positive : 1 ≤ limit) :
    limit ≤ (within span now (admitted span limit times)).length ↔
      ((inside span (now - span) (admitted span limit times)).length : Int) = limit := by
  obtain ⟨earlier,_,reached⟩ := List.pairwise_append.mp ordered
  rw [within_inside fun t present => reached t (admitted_subset times present) now List.mem_cons_self]
  have bound := window_bound span limit earlier (now - span)
  omega

end Sophia.SlidingWindow
