import ServiceCatalog.Json.Record
import ServiceCatalog.Proofs.Json.Reader
import ServiceCatalog.Proofs.Json.Sorted

/-!
# Values kept in JSON

The fields of a record are found in any order, so a record is read from a value and from its general form alike. A type
whose values are read back from their JSON form is kept by the texts of that form.
-/

namespace ServiceCatalog.Json

open ServiceCatalog.Text

/-! ## Fields in any order -/

theorem valuesOf_sortedFields (key : String) (fields : List Field) :
    valuesOf key (sortedFields fields) = (valuesOf key fields).map sorted := by
  simp only [valuesOf, sortedFields_eq_map, List.filterMap_map, List.map_filterMap]
  congr 1
  funext f
  by_cases hkey : f.1 = key <;> simp [hkey]

theorem single?_sortedFields (key : String) (fields : List Field) :
    single? key (sortedFields fields) = (single? key fields).map (Option.map sorted) := by
  unfold single?
  rw [valuesOf_sortedFields]
  rcases valuesOf key fields with _ | ⟨v, _ | ⟨w, rest⟩⟩ <;> rfl

theorem single?_of_perm {fields others : List Field} (h : fields.Perm others) (key : String) :
    single? key fields = single? key others := by
  have hvalues : (valuesOf key fields).Perm (valuesOf key others) := h.filterMap _
  unfold single?
  rcases hfields : valuesOf key fields with _ | ⟨v, _ | ⟨w, rest⟩⟩
  · rw [hfields] at hvalues
    rw [List.nil_perm.mp hvalues]
  · rw [hfields] at hvalues
    rw [List.singleton_perm.mp hvalues]
  · have hlength := hvalues.length_eq
    rw [hfields] at hlength
    rcases hothers : valuesOf key others with _ | ⟨v', _ | ⟨w', rest'⟩⟩
    · simp [hothers] at hlength
    · simp [hothers] at hlength
    · rfl

theorem text?_eq_some_iff {value : Json} {s : String} : text? value = some s ↔ value = .string s := by
  cases value <;> simp [text?]

theorem valuesOf_of_single? {key : String} {fields : List Field} {value : Json}
    (h : single? key fields = some (some value)) : valuesOf key fields = [value] := by
  unfold single? at h
  rcases hvalues : valuesOf key fields with _ | ⟨v, _ | ⟨w, rest⟩⟩ <;> simp_all

/-! ## Values read one by one -/

theorem mapM_eq_some_iff {α β : Type} {f : α → Option β} {as : List α} {bs : List β} :
    as.mapM f = some bs ↔ as.map f = bs.map some := by
  induction as generalizing bs with
  | nil => cases bs <;> simp
  | cons a as ih =>
    rw [List.mapM_cons, List.map_cons]
    cases hfirst : f a with
    | none => cases bs <;> simp
    | some b => cases bs <;> simp [Option.bind_eq_some_iff, ih, and_comm]

/-- All values can be read if each of them can. -/
theorem exists_mapM_iff {α β : Type} {f : α → Option β} {as : List α} :
    (∃ bs, as.mapM f = some bs) ↔ ∀ a ∈ as, f a ≠ none := by
  induction as with
  | nil => simp
  | cons a as ih =>
    rw [List.mapM_cons, List.forall_mem_cons, ← ih]
    cases hfirst : f a with
    | none => simp
    | some b => simp [Option.bind_eq_some_iff]

private theorem mapM_map {α β γ : Type} (f : α → Option β) (g : β → γ) (as : List α) :
    (as.mapM fun a => (f a).map g) = (as.mapM f).map (List.map g) := by
  induction as with
  | nil => rfl
  | cons a as ih =>
    rw [List.mapM_cons, List.mapM_cons, ih]
    cases f a <;> cases as.mapM f <;> rfl

/-- The fields of a record are the same in general form, but for the general form of their own values. -/
theorem record?_sorted {fields : List Field} (h : (fields.map Prod.fst).Nodup) (names : List String) :
    record? names (sorted (.object fields)) = (record? names (.object fields)).map (List.map (Option.map sorted)) := by
  have hkeys : ((sortedFields fields).map Prod.fst).Nodup := by
    rw [sortedFields_eq_map, List.map_map]
    exact h
  have hsingle (name : String) :
      single? name (orderFields (sortedFields fields)) = (single? name fields).map (Option.map sorted) := by
    rw [single?_of_perm (orderFields_perm hkeys), single?_sortedFields]
  simp only [sorted, record?, hsingle]
  exact mapM_map _ _ names

/-! ## One field of a value -/

/-- A value is an object with one field of a key, which has this value. -/
def Holds (key : String) (value : Json) : Json → Prop
  | .object fields => valuesOf key fields = [value]
  | _ => False

/-- Two objects have each one field of a key, with one value. -/
def SameUnder (key : String) (v w : Json) : Prop := ∃ value, Holds key value v ∧ Holds key value w

/-! ## Values that are read back -/

/-- A text is read as a value, and so are the octets of the text. -/
def ReadAs {α : Type} (ofJson? : Json → Option α) (text : String) (value : α) : Prop :=
  (read? text).bind ofJson? = some value ∧ (readOctets? (Utf8.encode text)).bind ofJson? = some value

theorem readAs_of_read? {α : Type} {ofJson? : Json → Option α} {text : String} {document : Json} {value : α}
    (hread : read? text = some document) (hvalue : ofJson? document = some value) : ReadAs ofJson? text value := by
  rw [ReadAs, readOctets?_encode, hread]
  exact ⟨hvalue, hvalue⟩

/-- A type whose values are read back from their JSON form, which has no more than so many containers inside each
other. -/
structure ReadsBack {α : Type} (levels : Nat) (toJson : α → Json) (ofJson? : Json → Option α) : Prop where
  exact (a : α) : (toJson a).exact
  depth (a : α) : (toJson a).depth ≤ levels
  read (a : α) : ofJson? (toJson a) = some a

namespace ReadsBack

variable {α : Type} {levels : Nat} {toJson : α → Json} {ofJson? : Json → Option α}

theorem compact (h : ReadsBack levels toJson ofJson?) (hlevels : levels ≤ greatestDepth) (a : α) :
    ReadAs ofJson? (toJson a).compact a :=
  readAs_of_read? (read?_compact (h.exact a) ((h.depth a).trans hlevels)) (h.read a)

theorem spread (h : ReadsBack levels toJson ofJson?) (hlevels : levels ≤ greatestDepth) (a : α) :
    ReadAs ofJson? ((toJson a).spread ++ "\n") a :=
  readAs_of_read? (read?_spread (h.exact a) ((h.depth a).trans hlevels)) (h.read a)

theorem injective (h : ReadsBack levels toJson ofJson?) : Function.Injective toJson := by
  intro a b heq
  have ha := h.read a
  rw [heq, h.read b] at ha
  exact (Option.some.inj ha).symm

/-- If the general form is read back too, so is a text of it. -/
theorem sorted (h : ReadsBack levels toJson ofJson?) (hread : ∀ a, ofJson? (toJson a).sorted = some a) :
    ReadsBack levels (fun a => (toJson a).sorted) ofJson? where
  exact a := exact_sorted _ (h.exact a)
  depth a := (depth_sorted_le _).trans (h.depth a)
  read := hread

/-- Lists of values that are read back are read back. -/
theorem list (h : ReadsBack levels toJson ofJson?) :
    ReadsBack (1 + levels) (fun as : List α => .array (as.map toJson)) (list? ofJson?) where
  exact as := exactItems_iff.mpr fun v hv => by
    obtain ⟨a, -, rfl⟩ := List.mem_map.mp hv
    exact h.exact a
  depth as := by
    refine Nat.add_le_add_left (depthOfItems_le_iff.mpr fun v hv => ?_) 1
    obtain ⟨a, -, rfl⟩ := List.mem_map.mp hv
    exact h.depth a
  read as := by
    induction as with
    | nil => rfl
    | cons a as ih =>
      simp only [list?, List.map_cons, List.mapM_cons] at ih ⊢
      rw [h.read a, ih]
      rfl

end ReadsBack

end ServiceCatalog.Json
