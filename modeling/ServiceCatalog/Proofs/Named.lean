import Mathlib.Data.List.Nodup

/-!
# Lists of named values

Under a name of which there is only one, the value with that name is found, wherever it stands in the list.
-/

namespace ServiceCatalog

variable {α : Type} {items items' : List (String × α)} {name : String} {a : α}

theorem lookup_eq_none_iff : items.lookup name = none ↔ name ∉ items.map Prod.fst := by
  rw [List.lookup_eq_none_iff, List.mem_map, not_exists]
  refine forall_congr' fun p => ?_
  rw [bne_iff_ne, not_and, ne_comm, ne_eq]

theorem mem_of_lookup (h : items.lookup name = some a) : (name, a) ∈ items := by
  obtain ⟨before, behind, rfl, -⟩ := List.lookup_eq_some_iff.mp h
  exact List.mem_append_right before List.mem_cons_self

theorem lookup_eq_some_iff (h : (items.map Prod.fst).Nodup) : items.lookup name = some a ↔ (name, a) ∈ items := by
  refine ⟨mem_of_lookup, fun hmem => ?_⟩
  obtain ⟨before, behind, rfl⟩ := List.append_of_mem hmem
  rw [List.map_append, List.map_cons, List.nodup_middle, List.nodup_cons, List.mem_append, not_or] at h
  rw [List.lookup_append, lookup_eq_none_iff.mpr h.1.1, Option.none_or, List.lookup_cons_self]

/-- The order of the list does not matter. -/
theorem lookup_eq_of_perm (hperm : items.Perm items') (h : (items.map Prod.fst).Nodup) :
    items.lookup name = items'.lookup name := by
  have h' : (items'.map Prod.fst).Nodup := (hperm.map Prod.fst).nodup_iff.mp h
  refine Option.ext fun a => ?_
  rw [lookup_eq_some_iff h, lookup_eq_some_iff h', hperm.mem_iff]

end ServiceCatalog
