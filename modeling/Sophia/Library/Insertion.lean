import Mathlib.Data.List.Basic

namespace Sophia.Insertion

-- The right list is the left one with elements of one kind inserted anywhere.
inductive Inserted {α : Type} (p : α → Prop) : List α → List α → Prop where
  | nil : Inserted p [] []
  | keep : Inserted p l l' → Inserted p (a :: l) (a :: l')
  | insert : p a → Inserted p l l' → Inserted p l (a :: l')

variable {α : Type} {p : α → Prop} {q r : α → Bool} {l l' : List α}

theorem Inserted.filter (inserted : Inserted p l l') (outside : ∀ a, p a → q a = false) : l'.filter q = l.filter q := by
  induction inserted with
  | nil => rfl
  | keep _ ih => rw [List.filter_cons,List.filter_cons,ih]
  | insert new _ ih => rw [List.filter_cons,outside _ new,ih]; rfl

theorem Inserted.any_mono (inserted : Inserted p l l') (some_ : l.any q = true) : l'.any q = true := by
  induction inserted with
  | nil => exact some_
  | keep _ ih =>
    rw [List.any_cons,Bool.or_eq_true] at some_ ⊢
    exact some_.imp_right ih
  | insert new _ ih => rw [List.any_cons,ih some_,Bool.or_true]

theorem Inserted.eq_or_some (inserted : Inserted p l l') : l' = l ∨ ∃ a ∈ l', p a := by
  induction inserted with
  | nil => exact .inl rfl
  | keep _ ih =>
    rcases ih with same | ⟨a,present,new⟩
    · exact .inl (by rw [same])
    · exact .inr ⟨a,List.mem_cons_of_mem _ present,new⟩
  | insert new _ _ => exact .inr ⟨_,List.mem_cons_self,new⟩

theorem length_filter_or (disjoint : ∀ a, q a = true → r a = false) (l : List α) :
    (l.filter fun a => q a || r a).length = (l.filter q).length + (l.filter r).length := by
  induction l with
  | nil => rfl
  | cons a l ih =>
    rw [List.filter_cons,List.filter_cons,List.filter_cons]
    cases first : q a with
    | true =>
      rw [disjoint a first]
      simp only [Bool.true_or,if_true,List.length_cons,Bool.false_eq_true,if_false,ih]
      omega
    | false =>
      cases r a with
      | true => simp only [Bool.or_true,if_true,List.length_cons,Bool.false_eq_true,if_false,ih]; omega
      | false => simpa using ih

-- Two buckets in sequence are the list without the rest exactly when no element of the second
-- bucket stands before one of the first.
theorem buckets_eq (disjoint : ∀ a, q a = true → r a = false) (l : List α) :
    l.filter q ++ l.filter r = l.filter (fun a => q a || r a) ↔ l.Pairwise fun a b => r a = true → q b = false := by
  induction l with
  | nil => exact ⟨fun _ => List.Pairwise.nil,fun _ => rfl⟩
  | cons a l ih =>
    rw [List.pairwise_cons,List.filter_cons,List.filter_cons,List.filter_cons]
    cases first : q a with
    | true =>
      rw [disjoint a first]
      simp only [Bool.true_or,if_true,Bool.false_eq_true,if_false,List.cons_append,List.cons.injEq,true_and,ih]
      exact ⟨fun later => ⟨fun _ _ impossible => (nomatch impossible),later⟩,fun both => both.2⟩
    | false =>
      cases second : r a with
      | false =>
        simp only [Bool.or_false,Bool.false_eq_true,if_false,ih]
        exact ⟨fun later => ⟨fun _ _ impossible => (nomatch impossible),later⟩,fun both => both.2⟩
      | true =>
        simp only [Bool.or_true,if_true,Bool.false_eq_true,if_false,forall_const]
        constructor
        · intro same
          cases bucket : l.filter q with
          | nil =>
            rw [bucket] at same ih
            have none := List.filter_eq_nil_iff.mp bucket
            exact ⟨fun b present => Bool.eq_false_iff.mpr (none b present),ih.mp (List.cons.inj same).2⟩
          | cons b rest =>
            rw [bucket] at same
            have member : b ∈ l.filter q := by rw [bucket]; exact List.mem_cons_self
            rw [(List.cons.inj same).1,List.mem_filter,first] at member
            exact nomatch member.2
        · intro both
          have bucket : l.filter q = [] :=
            List.filter_eq_nil_iff.mpr fun b present => Bool.eq_false_iff.mp (both.1 b present)
          have later := ih.mpr both.2
          rw [bucket] at later ⊢
          exact congrArg (a :: ·) later

theorem buckets_sublist (disjoint : ∀ a, q a = true → r a = false) (l : List α) :
    (l.filter q ++ l.filter r).Sublist l ↔ l.Pairwise fun a b => r a = true → q b = false := by
  rw [← buckets_eq disjoint]
  constructor
  · intro sublist
    have whole : (l.filter q ++ l.filter r).filter (fun a => q a || r a) = l.filter q ++ l.filter r := by
      rw [List.filter_eq_self]
      intro a present
      rcases List.mem_append.mp present with first | second
      · rw [(List.mem_filter.mp first).2,Bool.true_or]
      · rw [(List.mem_filter.mp second).2,Bool.or_true]
    have kept := sublist.filter fun a => q a || r a
    rw [whole] at kept
    apply kept.eq_of_length
    rw [List.length_append,length_filter_or disjoint]
  · intro same
    rw [same]
    exact List.filter_sublist

end Sophia.Insertion
