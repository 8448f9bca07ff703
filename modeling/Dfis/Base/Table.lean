import Mathlib.Algebra.BigOperators.Group.Multiset.Basic
import Mathlib.Algebra.Order.BigOperators.Group.Multiset
import Mathlib.Data.Finmap

/-! Finite maps with the operations of a C++ map, and the total of a weight
over all entries. -/

namespace Dfis.Base

/-- A finite map with values of one type. -/
abbrev Table (K V : Type) : Type := Finmap fun _ : K => V

namespace Table

variable {K V G : Type} [DecidableEq K]

/-- `table[key]`: a missing entry comes into being with the default value. -/
def subscript [Inhabited V] (table : Table K V) (key : K) : Table K V × V :=
  match table.lookup key with
  | some value => (table, value)
  | none => (table.insert key default, default)

/-- `table.emplace(key, value)`: an entry that is there already stays. -/
def emplace (table : Table K V) (key : K) (value : V) : Table K V :=
  match table.lookup key with
  | some _ => table
  | none => table.insert key value

theorem subscript_found [Inhabited V] {table : Table K V} (found : table.lookup key = some value) :
    table.subscript key = (table, value) := by
  simp only [subscript, found]

theorem lookup_subscript [Inhabited V] (table : Table K V) (key other : K) :
    (table.subscript key).1.lookup other =
      if other = key then some (table.subscript key).2 else table.lookup other := by
  by_cases same : other = key
  · subst same
    cases found : table.lookup other with
    | some value => simp [subscript, found]
    | none => simp [subscript, found]
  · cases found : table.lookup key with
    | some value => simp [subscript, found, same]
    | none => simp [subscript, found, same, Finmap.lookup_insert_of_ne]

theorem subscript_value [Inhabited V] (table : Table K V) (key : K) :
    (table.subscript key).2 = (table.lookup key).getD default := by
  cases found : table.lookup key with
  | some value => simp [subscript, found]
  | none => simp [subscript, found]

theorem emplace_found {table : Table K V} (found : table.lookup key = some old) (value : V) :
    table.emplace key value = table := by
  simp only [emplace, found]

theorem emplace_new {table : Table K V} (missing : table.lookup key = none) (value : V) :
    table.emplace key value = table.insert key value := by
  simp only [emplace, missing]

theorem lookup_insert (table : Table K V) (key other : K) (value : V) :
    (table.insert key value).lookup other = if other = key then some value else table.lookup other := by
  by_cases same : other = key
  · subst same
    simp
  · simp [same, Finmap.lookup_insert_of_ne]

theorem lookup_emplace (table : Table K V) (key other : K) (value : V) :
    (table.emplace key value).lookup other =
      if other = key then some ((table.lookup key).getD value) else table.lookup other := by
  cases found : table.lookup key with
  | some old =>
    rw [emplace_found found]
    by_cases same : other = key
    · subst same
      simp [found]
    · simp [same]
  | none => simp [emplace_new found, lookup_insert]

/-- Emplacing adds nothing just where there is an entry. -/
theorem emplace_eq_self_iff (table : Table K V) (key : K) (value : V) :
    table.emplace key value = table ↔ ∃ old, table.lookup key = some old := by
  constructor
  · intro same
    have there := congrArg (Finmap.lookup key) same
    rw [lookup_emplace, if_pos rfl] at there
    exact ⟨_, there.symm⟩
  · rintro ⟨old, found⟩
    exact emplace_found found value

private theorem insert_self {table : Table K V} (found : table.lookup key = some value) :
    table.insert key value = table := by
  apply Finmap.ext_lookup
  intro other
  by_cases same : other = key
  · subst same
    simp [found]
  · simp [same, Finmap.lookup_insert_of_ne]

theorem insert_eq_self_iff (table : Table K V) (key : K) (value : V) :
    table.insert key value = table ↔ table.lookup key = some value := by
  constructor
  · intro same
    rw [← same, lookup_insert, if_pos rfl]
  · exact insert_self

theorem subscript_eq_self_iff [Inhabited V] (table : Table K V) (key : K) :
    (table.subscript key).1 = table ↔ ∃ old, table.lookup key = some old := by
  constructor
  · intro same
    have there := lookup_subscript table key key
    rw [same, if_pos rfl] at there
    exact ⟨_, there⟩
  · rintro ⟨old, found⟩
    rw [subscript_found found]

section Total

/-- The sum of the entries' weights. -/
def total [AddCommMonoid G] (table : Table K V) (weight : V → G) : G :=
  (table.entries.map fun entry => weight entry.2).sum

omit [DecidableEq K] in
@[simp] theorem total_empty [AddCommMonoid G] (weight : V → G) : total (∅ : Table K V) weight = 0 := by
  rfl

theorem total_insert_new [AddCommMonoid G] {table : Table K V} {key : K}
    (missing : table.lookup key = none) (value : V) (weight : V → G) :
    total (table.insert key value) weight = weight value + total table weight := by
  have absent : key ∉ table := Finmap.lookup_eq_none.mp missing
  simp [total, Finmap.entries_insert_of_notMem absent]

private theorem insert_erase (table : Table K V) (key : K) (value : V) :
    (table.erase key).insert key value = table.insert key value := by
  apply Finmap.ext_lookup
  intro other
  by_cases same : other = key
  · subst same
    simp
  · simp [same, Finmap.lookup_insert_of_ne, Finmap.lookup_erase_ne]

/-- A replaced entry trades its old weight for the new one, without subtraction. -/
theorem total_replace [AddCommMonoid G] {table : Table K V} (found : table.lookup key = some old)
    (value : V) (weight : V → G) :
    total (table.insert key value) weight + weight old = total table weight + weight value := by
  have gone : (table.erase key).lookup key = none := Finmap.lookup_erase key table
  have before : total table weight = weight old + total (table.erase key) weight := by
    rw [← total_insert_new gone old weight, insert_erase, insert_self found]
  have after : total (table.insert key value) weight = weight value + total (table.erase key) weight := by
    rw [← total_insert_new gone value weight, insert_erase]
  rw [after, before, add_assoc, add_comm, add_comm (total _ _) (weight old)]

theorem total_insert [AddCommGroup G] {table : Table K V} (found : table.lookup key = some old)
    (value : V) (weight : V → G) :
    total (table.insert key value) weight = total table weight + (weight value - weight old) := by
  have gone : (table.erase key).lookup key = none := Finmap.lookup_erase key table
  have before : total table weight = weight old + total (table.erase key) weight := by
    rw [← total_insert_new gone old weight, insert_erase, insert_self found]
  have after : total (table.insert key value) weight = weight value + total (table.erase key) weight := by
    rw [← total_insert_new gone value weight, insert_erase]
  rw [after, before, add_comm (weight old), add_add_sub_cancel, add_comm]

theorem le_total [AddCommMonoid G] [PartialOrder G] [IsOrderedAddMonoid G] {table : Table K V}
    {weight : V → G} (found : table.lookup key = some value)
    (nonneg : ∀ other entry, table.lookup other = some entry → 0 ≤ weight entry) :
    weight value ≤ total table weight := by
  apply Multiset.single_le_sum
  · intro part member
    obtain ⟨entry, own, rfl⟩ := Multiset.mem_map.mp member
    exact nonneg entry.1 entry.2 (Finmap.lookup_eq_some_iff.mpr own)
  · exact Multiset.mem_map.mpr ⟨⟨key, value⟩, Finmap.lookup_eq_some_iff.mp found, rfl⟩

theorem total_nonneg [AddCommMonoid G] [PartialOrder G] [IsOrderedAddMonoid G] {table : Table K V}
    {weight : V → G} (nonneg : ∀ key entry, table.lookup key = some entry → 0 ≤ weight entry) :
    0 ≤ total table weight := by
  apply Multiset.sum_nonneg
  intro part member
  obtain ⟨entry, own, rfl⟩ := Multiset.mem_map.mp member
  exact nonneg entry.1 entry.2 (Finmap.lookup_eq_some_iff.mpr own)

theorem total_eq_zero [AddCommMonoid G] {table : Table K V} {weight : V → G}
    (none : ∀ key entry, table.lookup key = some entry → weight entry = 0) :
    total table weight = 0 := by
  apply Multiset.sum_eq_zero
  intro part member
  obtain ⟨entry, own, rfl⟩ := Multiset.mem_map.mp member
  exact none entry.1 entry.2 (Finmap.lookup_eq_some_iff.mpr own)

end Total

end Table

end Dfis.Base
