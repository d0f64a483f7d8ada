import Mathlib.Data.List.Induction
import ServiceCatalog.Proofs.Json.Written

/-!
# The general form of a value

In general form an object has the fields it had, in the order of their keys. None gets lost unless its key is repeated,
and none is new. So whatever holds of all parts of a value holds of all parts of its general form.
-/

namespace ServiceCatalog.Json

theorem sortedItems_eq_map (items : List Json) : sortedItems items = items.map sorted := by
  induction items with
  | nil => rfl
  | cons item rest ih => rw [sortedItems, ih, List.map_cons]

theorem sortedFields_eq_map (fields : List Field) : sortedFields fields = fields.map fun f => (f.1, f.2.sorted) := by
  induction fields with
  | nil => rfl
  | cons field rest ih => rw [sortedFields, ih, List.map_cons]

/-! ## The order of fields -/

theorem mem_of_mem_putField {field f : Field} {fields : List Field} (h : f ∈ putField field fields) :
    f = field ∨ f ∈ fields := by
  induction fields with
  | nil => exact .inl (List.mem_singleton.mp h)
  | cons first rest ih =>
    unfold putField at h
    split at h
    · exact (List.mem_cons.mp h).imp_right (List.mem_cons_of_mem _)
    · split at h
      · exact List.mem_cons.mp h
      · obtain rfl | h := List.mem_cons.mp h
        · exact .inr List.mem_cons_self
        · exact (ih h).imp_right (List.mem_cons_of_mem _)

private theorem mem_of_mem_foldl_putField {f : Field} {fields placed : List Field}
    (h : f ∈ fields.foldl (fun sorted g => putField g sorted) placed) : f ∈ fields ∨ f ∈ placed := by
  induction fields generalizing placed with
  | nil => exact .inr h
  | cons first rest ih =>
    obtain hrest | hplaced := ih h
    · exact .inl (List.mem_cons_of_mem _ hrest)
    · obtain rfl | hplaced := mem_of_mem_putField hplaced
      · exact .inl List.mem_cons_self
      · exact .inr hplaced

theorem mem_of_mem_orderFields {f : Field} {fields : List Field} (h : f ∈ orderFields fields) : f ∈ fields :=
  (mem_of_mem_foldl_putField h).resolve_right List.not_mem_nil

theorem putField_perm {field : Field} {fields : List Field} (h : field.1 ∉ fields.map Prod.fst) :
    (putField field fields).Perm (field :: fields) := by
  induction fields with
  | nil => exact .refl _
  | cons first rest ih =>
    rw [List.map_cons, List.mem_cons, not_or] at h
    unfold putField
    rw [if_neg h.1]
    split
    · exact .refl _
    · exact ((ih h.2).cons first).trans (.swap field first rest)

private theorem foldl_putField_perm {fields placed : List Field} (h : ((fields ++ placed).map Prod.fst).Nodup) :
    (fields.foldl (fun sorted g => putField g sorted) placed).Perm (fields ++ placed) := by
  induction fields generalizing placed with
  | nil => exact .refl _
  | cons first rest ih =>
    have hnew : first.1 ∉ placed.map Prod.fst := by
      rw [List.cons_append, List.map_cons, List.nodup_cons, List.map_append, List.mem_append, not_or] at h
      exact h.1.2
    have hmoved : (rest ++ putField first placed).Perm (first :: rest ++ placed) :=
      ((putField_perm hnew).append_left rest).trans List.perm_middle
    exact (ih ((hmoved.map Prod.fst).nodup_iff.mpr h)).trans hmoved

/-- If no key is repeated all fields stay. -/
theorem orderFields_perm {fields : List Field} (h : (fields.map Prod.fst).Nodup) :
    (orderFields fields).Perm fields := by
  have hall : ((fields ++ []).map Prod.fst).Nodup := by rwa [List.append_nil]
  have hperm := foldl_putField_perm hall
  rwa [List.append_nil] at hperm

/-! ## Values of keys -/

theorem lookup?_concat (key : String) (fields : List Field) (f : Field) :
    lookup? key (fields ++ [f]) = if f.1 = key then some f.2 else lookup? key fields := by
  simp [lookup?, List.foldl_append]

/-- A field in front has a say only if there is no other with its key. -/
theorem lookup?_cons (key : String) (f : Field) (fields : List Field) :
    lookup? key (f :: fields) = (lookup? key fields).or (if f.1 = key then some f.2 else none) := by
  induction fields using List.reverseRecOn with
  | nil => simp [lookup?]
  | append_singleton fields last ih =>
    rw [← List.cons_append, lookup?_concat, lookup?_concat, ih]
    split <;> rfl

theorem mem_of_lookup? {key : String} {fields : List Field} {value : Json} (h : lookup? key fields = some value) :
    (key, value) ∈ fields := by
  induction fields using List.reverseRecOn with
  | nil => cases h
  | append_singleton fields last ih =>
    rw [lookup?_concat] at h
    split at h
    · rename_i hkey
      subst hkey
      cases h
      exact List.mem_append_right _ List.mem_cons_self
    · exact List.mem_append_left _ (ih h)

theorem lookup?_sortedFields (key : String) (fields : List Field) :
    lookup? key (sortedFields fields) = (lookup? key fields).map sorted := by
  rw [sortedFields_eq_map]
  induction fields using List.reverseRecOn with
  | nil => rfl
  | append_singleton fields last ih =>
    rw [List.map_append, List.map_singleton, lookup?_concat, lookup?_concat, ih]
    split <;> rfl

/-- Fields in the order of their keys, none of which is repeated. -/
def Ascending (fields : List Field) : Prop := fields.Pairwise fun f g => f.1 < g.1

theorem Ascending.putField {fields : List Field} (h : Ascending fields) (field : Field) :
    Ascending (putField field fields) := by
  induction fields with
  | nil => exact List.pairwise_singleton _ _
  | cons first rest ih =>
    obtain ⟨hfirst, hrest⟩ := List.pairwise_cons.mp h
    unfold Json.putField
    split
    · rename_i hsame
      exact List.pairwise_cons.mpr ⟨fun g hg => hsame ▸ hfirst g hg, hrest⟩
    · rename_i hne
      split
      · rename_i hlt
        refine List.pairwise_cons.mpr ⟨fun g hg => ?_, h⟩
        obtain rfl | hg := List.mem_cons.mp hg
        · exact hlt
        · exact String.lt_trans hlt (hfirst g hg)
      · rename_i hge
        refine List.pairwise_cons.mpr ⟨fun g hg => ?_, ih hrest⟩
        obtain rfl | hg := mem_of_mem_putField hg
        · exact Std.lt_of_le_of_ne (String.not_lt.mp hge) (Ne.symm hne)
        · exact hfirst g hg

theorem lookup?_eq_none_of_ne {key : String} {fields : List Field} (h : ∀ f ∈ fields, f.1 ≠ key) :
    lookup? key fields = none := by
  cases hlookup : lookup? key fields with
  | none => rfl
  | some value => exact absurd rfl (h _ (mem_of_lookup? hlookup))

theorem lookup?_putField {fields : List Field} (h : Ascending fields) (key : String) (field : Field) :
    lookup? key (putField field fields) = if field.1 = key then some field.2 else lookup? key fields := by
  induction fields with
  | nil => rfl
  | cons first rest ih =>
    obtain ⟨hfirst, hrest⟩ := List.pairwise_cons.mp h
    have hbehind : lookup? first.1 rest = none :=
      lookup?_eq_none_of_ne fun g hg hsame => String.lt_irrefl _ (hsame ▸ hfirst g hg)
    unfold putField
    split
    · rename_i hsame
      rw [lookup?_cons, lookup?_cons, hsame]
      split
      · rename_i hkey
        rw [← hkey, hbehind, Option.none_or]
      · rfl
    · split
      · rename_i hlt
        rw [lookup?_cons]
        split
        · rename_i hkey
          subst hkey
          rw [lookup?_eq_none_of_ne, Option.none_or]
          intro g hg hsame
          obtain rfl | hg := List.mem_cons.mp hg
          · exact String.lt_irrefl _ (hsame ▸ hlt)
          · exact String.lt_irrefl _ (hsame ▸ String.lt_trans hlt (hfirst g hg))
        · exact Option.or_none
      · rw [lookup?_cons, lookup?_cons, ih hrest]
        split <;> rfl

/-- Ordering fields keeps the value of every key. -/
theorem lookup?_orderFields (key : String) (fields : List Field) :
    lookup? key (orderFields fields) = lookup? key fields := by
  have hall : Ascending (orderFields fields) ∧ lookup? key (orderFields fields) = lookup? key fields := by
    induction fields using List.reverseRecOn with
    | nil => exact ⟨List.Pairwise.nil, rfl⟩
    | append_singleton fields last ih =>
      obtain ⟨hascending, hlookup⟩ := ih
      have horder : orderFields (fields ++ [last]) = putField last (orderFields fields) := by
        simp [orderFields, List.foldl_append]
      rw [horder]
      exact ⟨hascending.putField last, by rw [lookup?_putField hascending, lookup?_concat, hlookup]⟩
  exact hall.2

/-- The value of a key in general form is that of the key in general form. -/
theorem get?_sorted (key : String) (fields : List Field) :
    (sorted (.object fields)).get? key = (lookup? key fields).map sorted := by
  rw [sorted, get?, lookup?_orderFields, lookup?_sortedFields]

theorem text?_sorted (value : Json) : value.sorted.text? = value.text? := by
  cases value <;> simp [sorted, text?]

/-! ## Parts of a value in general form -/

theorem exactItems_iff {items : List Json} : exactItems items ↔ ∀ v ∈ items, v.exact := by
  induction items with
  | nil => simp [exactItems]
  | cons item rest ih => simp [exactItems, ih]

theorem exactFields_iff {fields : List Field} : exactFields fields ↔ ∀ f ∈ fields, f.2.exact := by
  induction fields with
  | nil => simp [exactFields]
  | cons field rest ih => simp [exactFields, ih]

theorem depthOfItems_le_iff {items : List Json} {n : Nat} : depthOfItems items ≤ n ↔ ∀ v ∈ items, v.depth ≤ n := by
  induction items with
  | nil => simp [depthOfItems]
  | cons item rest ih => rw [depthOfItems, Nat.max_le, ih, List.forall_mem_cons]

theorem depthOfFields_le_iff {fields : List Field} {n : Nat} :
    depthOfFields fields ≤ n ↔ ∀ f ∈ fields, f.2.depth ≤ n := by
  induction fields with
  | nil => simp [depthOfFields]
  | cons field rest ih => rw [depthOfFields, Nat.max_le, ih, List.forall_mem_cons]

mutual

theorem exact_sorted : ∀ v : Json, v.exact → v.sorted.exact
  | .null, h => h
  | .bool _, h => h
  | .number _, h => h
  | .string _, h => h
  | .unreadable, h => h
  | .array items, h => exactItems_sortedItems items h
  | .object fields, h => by
    have hfields := exactFields_iff.mp (exactFields_sortedFields fields h)
    exact exactFields_iff.mpr fun f hf => hfields f (mem_of_mem_orderFields hf)

theorem exactItems_sortedItems : ∀ items : List Json, exactItems items → exactItems (sortedItems items)
  | [], h => h
  | item :: rest, h => ⟨exact_sorted item h.1, exactItems_sortedItems rest h.2⟩

theorem exactFields_sortedFields : ∀ fields : List Field, exactFields fields → exactFields (sortedFields fields)
  | [], h => h
  | (_, value) :: rest, h => ⟨exact_sorted value h.1, exactFields_sortedFields rest h.2⟩

end

mutual

theorem depth_sorted_le : ∀ v : Json, v.sorted.depth ≤ v.depth
  | .null => .refl
  | .bool _ => .refl
  | .number _ => .refl
  | .string _ => .refl
  | .unreadable => .refl
  | .array items => by
    have hitems := depthOfItems_sortedItems_le items
    simp only [sorted, depth]
    omega
  | .object fields => by
    have hfields := depthOfFields_sortedFields_le fields
    have hordered : depthOfFields (orderFields (sortedFields fields)) ≤ depthOfFields fields :=
      depthOfFields_le_iff.mpr fun f hf => depthOfFields_le_iff.mp hfields f (mem_of_mem_orderFields hf)
    simp only [sorted, depth]
    omega

theorem depthOfItems_sortedItems_le : ∀ items : List Json, depthOfItems (sortedItems items) ≤ depthOfItems items
  | [] => .refl
  | item :: rest => by
    have hitem := depth_sorted_le item
    have hrest := depthOfItems_sortedItems_le rest
    simp only [sortedItems, depthOfItems]
    omega

theorem depthOfFields_sortedFields_le :
    ∀ fields : List Field, depthOfFields (sortedFields fields) ≤ depthOfFields fields
  | [] => .refl
  | (_, value) :: rest => by
    have hvalue := depth_sorted_le value
    have hrest := depthOfFields_sortedFields_le rest
    simp only [sortedFields, depthOfFields]
    omega

end

end ServiceCatalog.Json
