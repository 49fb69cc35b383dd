import Mathlib.Data.List.Nodup
import Mathlib.Data.List.Lookmap

namespace Sophia

-- A dict: its keys are distinct, a new key comes last and a known one keeps its place.
structure PyDict (κ α : Type) where
  entries : List (κ × α)
  distinct : (entries.map Prod.fst).Nodup

namespace PyDict

variable {κ α : Type} [DecidableEq κ]

def setEntry (key : κ) (value : α) : List (κ × α) → List (κ × α)
  | [] => [(key,value)]
  | entry :: rest => if entry.1 = key then (key,value) :: rest else entry :: setEntry key value rest

theorem setEntry_keys (key : κ) (value : α) (entries : List (κ × α)) : (setEntry key value entries).map Prod.fst =
    if key ∈ entries.map Prod.fst then entries.map Prod.fst else entries.map Prod.fst ++ [key] := by
  induction entries with
  | nil => simp [setEntry]
  | cons entry rest ih =>
    by_cases same : entry.1 = key
    · simp [setEntry,same]
    · have apart : key ≠ entry.1 := fun equal => same equal.symm
      by_cases known : key ∈ rest.map Prod.fst <;> simp_all [setEntry]

theorem setEntry_distinct {entries : List (κ × α)} (distinct : (entries.map Prod.fst).Nodup) :
    ((setEntry key value entries).map Prod.fst).Nodup := by
  rw [setEntry_keys]
  split
  · exact distinct
  · next fresh => exact List.nodup_append'.mpr ⟨distinct,List.nodup_singleton _,by simpa using fresh⟩

def empty : PyDict κ α := ⟨[],List.nodup_nil⟩

def set (d : PyDict κ α) (key : κ) (value : α) : PyDict κ α :=
  ⟨setEntry key value d.entries,setEntry_distinct d.distinct⟩

def get (d : PyDict κ α) (key : κ) : Option α := d.entries.lookup key

def values (d : PyDict κ α) : List α := d.entries.map Prod.snd

-- { key: value for key, value in d.items() if keep key }
def filterKeys (keep : κ → Bool) (d : PyDict κ α) : PyDict κ α :=
  ⟨d.entries.filter (keep ·.1),(List.Sublist.map _ List.filter_sublist).nodup d.distinct⟩

-- The literal { key: value, ... }
def ofList (entries : List (κ × α)) : PyDict κ α := entries.foldl (fun d entry => d.set entry.1 entry.2) empty

variable {d : PyDict κ α} {key other : κ} {value : α}

@[simp] theorem get_set_same : (d.set key value).get key = some value := by
  unfold set get
  dsimp only
  induction d.entries with
  | nil => simp [setEntry]
  | cons entry rest ih =>
    obtain ⟨first,kept⟩ := entry
    by_cases same : first = key
    · simp [setEntry,same]
    · have apart : (key == first) = false := by simpa using fun equal : key = first => same equal.symm
      simpa [setEntry,same,List.lookup_cons,apart] using ih

theorem get_set_other (apart : other ≠ key) : (d.set key value).get other = d.get other := by
  have differs : (other == key) = false := by simpa using apart
  unfold set get
  dsimp only
  induction d.entries with
  | nil => simp [setEntry,List.lookup_cons,differs]
  | cons entry rest ih =>
    obtain ⟨first,kept⟩ := entry
    by_cases same : first = key
    · simp [setEntry,same,List.lookup_cons,differs]
    · simp only [setEntry,if_neg same,List.lookup_cons,ih]

theorem get_set : (d.set key value).get other = if other = key then some value else d.get other := by
  by_cases same : other = key
  · simp [same]
  · simp [same,get_set_other]

theorem get_set_cases (found : (d.set key value).get other = some kept) :
    (other = key ∧ kept = value) ∨ d.get other = some kept := by
  rw [get_set] at found
  split at found
  · next same =>
    cases found
    exact .inl ⟨same,rfl⟩
  · exact .inr found

theorem get_apart (known : d.get key = some value) (absent : d.get other = none) : key ≠ other := by
  rintro rfl
  rw [absent] at known
  cases known

theorem mem_entries : (key,value) ∈ d.entries ↔ d.get key = some value := by
  obtain ⟨entries,distinct⟩ := d
  unfold get
  dsimp only
  induction entries with
  | nil => simp
  | cons entry rest ih =>
    obtain ⟨fresh,later⟩ := List.nodup_cons.mp distinct
    obtain ⟨first,kept⟩ := entry
    by_cases same : key = first
    · subst same
      have absent : (key,value) ∉ rest := fun inRest => fresh (List.mem_map.mpr ⟨_,inRest,rfl⟩)
      simp [absent,eq_comm]
    · have differs : (key == first) = false := by simpa using same
      simp [List.lookup_cons,differs,same,ih later]

theorem mem_values : value ∈ d.values ↔ ∃ key, d.get key = some value := by
  unfold values
  constructor
  · intro present
    obtain ⟨entry,found,rfl⟩ := List.mem_map.mp present
    exact ⟨entry.1,mem_entries.mp found⟩
  · rintro ⟨key,found⟩
    exact List.mem_map.mpr ⟨_,mem_entries.mpr found,rfl⟩

theorem get_filterKeys {keep : κ → Bool} : (d.filterKeys keep).get key = if keep key then d.get key else none := by
  unfold filterKeys get
  dsimp only
  induction d.entries with
  | nil => simp
  | cons entry rest ih =>
    obtain ⟨first,kept⟩ := entry
    by_cases same : key = first
    · subst same
      by_cases keeps : keep key = true
      · simp [keeps]
      · simpa only [List.filter_cons_of_neg (p := fun entry => keep entry.1) (a := (key,kept)) keeps,if_neg keeps] using ih
    · have differs : (key == first) = false := by simpa using same
      by_cases keeps : keep first = true <;> simp [keeps,List.lookup_cons,differs,ih]

theorem get_foldl {entries : List (κ × α)}
    (found : (entries.foldl (fun d entry => d.set entry.1 entry.2) d).get key = some value) :
    (key,value) ∈ entries ∨ d.get key = some value := by
  induction entries generalizing d with
  | nil => exact .inr found
  | cons entry rest ih =>
    rcases ih found with later | here
    · exact .inl (List.mem_cons_of_mem _ later)
    · rcases get_set_cases here with ⟨rfl,rfl⟩ | before
      · exact .inl (List.mem_cons_self ..)
      · exact .inr before

theorem setEntry_fresh {entries : List (κ × α)} (fresh : key ∉ entries.map Prod.fst) :
    setEntry key value entries = entries ++ [(key,value)] := by
  induction entries with
  | nil => rfl
  | cons entry rest ih =>
    rw [List.map_cons,List.mem_cons,not_or] at fresh
    rw [setEntry,if_neg (Ne.symm fresh.1),ih fresh.2]
    rfl

-- A literal without a key twice keeps its entries.
theorem ofList_entries {entries : List (κ × α)} (distinct : (entries.map Prod.fst).Nodup) :
    (ofList entries).entries = entries := by
  have aux : ∀ d : PyDict κ α, ((d.entries ++ entries).map Prod.fst).Nodup →
      (entries.foldl (fun d entry => d.set entry.1 entry.2) d).entries = d.entries ++ entries := by
    clear distinct
    induction entries with
    | nil => exact fun d _ => (List.append_nil _).symm
    | cons entry rest ih =>
      intro d distinct
      have fresh : entry.1 ∉ d.entries.map Prod.fst := by
        rw [List.map_append,List.nodup_append] at distinct
        exact fun known => distinct.2.2 _ known _ List.mem_cons_self rfl
      have added : (d.set entry.1 entry.2).entries = d.entries ++ [entry] := setEntry_fresh fresh
      rw [List.foldl_cons,ih _ (by rwa [added,List.append_assoc]),added,List.append_assoc]
      rfl
  exact aux empty distinct

theorem mem_ofList {entries : List (κ × α)} (found : (ofList entries).get key = some value) : (key,value) ∈ entries := by
  rcases get_foldl found with listed | none_
  · exact listed
  · cases none_

-- Association lists in one strict order of their keys agree when their lookups do.
theorem ordered_ext {r : κ → κ → Prop} (asymm : ∀ a b, r a b → ¬ r b a) {xs ys : List (κ × α)}
    (left : xs.Pairwise fun a b => r a.1 b.1) (right : ys.Pairwise fun a b => r a.1 b.1)
    (same : ∀ key, xs.lookup key = ys.lookup key) : xs = ys := by
  have distinct {zs : List (κ × α)} (ordered : zs.Pairwise fun a b => r a.1 b.1) : (zs.map Prod.fst).Nodup := by
    refine List.pairwise_map.mpr (ordered.imp ?_)
    intro a b before equal
    rw [equal] at before
    exact asymm _ _ before before
  have member {zs : List (κ × α)} (ordered : zs.Pairwise fun a b => r a.1 b.1) (entry : κ × α) :
      entry ∈ zs ↔ zs.lookup entry.1 = some entry.2 := mem_entries (d := ⟨zs,distinct ordered⟩)
  have perm : xs.Perm ys := (List.perm_ext_iff_of_nodup (distinct left).of_map (distinct right).of_map).mpr fun entry => by
    rw [member left,member right,same]
  exact perm.eq_of_pairwise (fun _ _ _ _ before behind => absurd behind (asymm _ _ before)) left right

end PyDict
end Sophia
