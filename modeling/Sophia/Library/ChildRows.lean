import Mathlib.Data.List.Nodup

namespace Sophia.ChildRows

-- A table whose rows name the parent they belong to, filled parent by parent
variable {κ π ρ : Type} [DecidableEq κ] {key : π → κ} {foreign : ρ → κ} {rows : π → List ρ} {parents : List π} {k : κ} {p : π}

theorem filter_absent (owned : ∀ p, ∀ r ∈ rows p, foreign r = key p) (absent : k ∉ parents.map key) :
    (parents.flatMap rows).filter (fun r => foreign r = k) = [] := by
  rw [List.filter_eq_nil_iff]
  intro r present same
  obtain ⟨q,listed,own⟩ := List.mem_flatMap.mp present
  rw [decide_eq_true_eq,owned q r own] at same
  exact absent (same ▸ List.mem_map_of_mem listed)

-- The rows that name a parent are the ones it was filled with.
theorem filter_own (owned : ∀ p, ∀ r ∈ rows p, foreign r = key p) (distinct : (parents.map key).Nodup) (present : p ∈ parents) :
    (parents.flatMap rows).filter (fun r => foreign r = key p) = rows p := by
  induction parents with
  | nil => cases present
  | cons first rest ih =>
    obtain ⟨fresh,distinct⟩ := List.nodup_cons.mp distinct
    rw [List.flatMap_cons,List.filter_append]
    by_cases same : key first = key p
    · have own : p = first := by
        rcases List.mem_cons.mp present with here | later
        · exact here
        · exact absurd (List.mem_map_of_mem later) (same ▸ fresh)
      subst own
      rw [filter_absent owned fresh,List.append_nil,List.filter_eq_self]
      exact fun r listed => by simpa using owned p r listed
    · have later : p ∈ rest := (List.mem_cons.mp present).resolve_left fun here => same (congrArg key here.symm)
      have none_ : (rows first).filter (fun r => foreign r = key p) = [] := by
        rw [List.filter_eq_nil_iff]
        exact fun r listed => by simpa [owned first r listed] using same
      rw [none_,List.nil_append,ih distinct later]

theorem find_own (distinct : (parents.map key).Nodup) (present : p ∈ parents) :
    parents.find? (fun q => key q = key p) = some p := by
  induction parents with
  | nil => cases present
  | cons first rest ih =>
    obtain ⟨fresh,distinct⟩ := List.nodup_cons.mp distinct
    rcases List.mem_cons.mp present with here | later
    · rw [← here]
      simp
    · have other : key first ≠ key p := fun same => fresh (same ▸ List.mem_map_of_mem later)
      rw [List.find?_cons_of_neg (by simpa using other)]
      exact ih distinct later

end Sophia.ChildRows
