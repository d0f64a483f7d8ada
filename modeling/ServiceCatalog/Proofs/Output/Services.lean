import ServiceCatalog.Output.Format
import ServiceCatalog.Proofs.Json.Sorted

/-!
# The table of services

The services of a listing have a row each, and a column for every attribute that the first of them has. An attribute
of another service is in its row if the first service has it too. If not, it has no column: the listing is printed as if
no service had it.
-/

namespace ServiceCatalog

theorem Json.isSome_lookup?_iff {key : String} {fields : List Field} :
    (lookup? key fields).isSome = true ↔ key ∈ fields.map Prod.fst := by
  induction fields with
  | nil => simp [lookup?]
  | cons f rest ih =>
    rw [lookup?_cons, Option.isSome_or, Bool.or_eq_true, ih, List.map_cons, List.mem_cons, or_comm]
    split
    · rename_i hkey
      simp [hkey]
    · rename_i hkey
      simp [Ne.symm hkey]

namespace Service.Attributes

/-- The value of an attribute, in general form. -/
def value? (a : Attributes) (key : String) : Option Json := a.toJson.sorted.get? key

/-- Those attributes that another service has as well. -/
def within (other a : Attributes) : Attributes := ⟨a.fields.filter fun f => (other.value? f.1).isSome⟩

theorem value?_eq (a : Attributes) (key : String) : a.value? key = (Json.lookup? key a.fields).map Json.sorted :=
  Json.get?_sorted key a.fields

theorem value?_within {other a : Attributes} {key : String} (h : (other.value? key).isSome = true) :
    (other.within a).value? key = a.value? key := by
  rw [value?_eq, value?_eq, within]
  congr 1
  induction a.fields with
  | nil => rfl
  | cons f rest ih =>
    rw [Json.lookup?_cons, List.filter_cons]
    split
    · rw [Json.lookup?_cons, ih]
    · rename_i hnot
      have hkey : f.1 ≠ key := by
        rintro rfl
        exact hnot h
      rw [ih, if_neg hkey, Option.or_none]

end Service.Attributes

namespace Output

open Json Service

variable {first : Attributes} {rest : List Attributes}

/-- The keys of the attributes of a service, in their order. -/
def columns (first : Attributes) : List String := (orderFields (sortedFields first.fields)).map Prod.fst

/-- The table of a listing. A service that lacks an attribute has the cell of a null in its place. -/
def servicesTable (first : Attributes) (rest : List Attributes) : Table :=
  ⟨columns first, (first :: rest).map fun a => (columns first).map fun key => cell ((a.value? key).getD .null)⟩

theorem sorted_toJson (a : Attributes) : a.toJson.sorted = .object (orderFields (sortedFields a.fields)) := by
  rw [Attributes.toJson, sorted]

theorem mem_columns_iff {key : String} : key ∈ columns first ↔ (first.value? key).isSome = true := by
  rw [Attributes.value?, sorted_toJson, get?, columns, isSome_lookup?_iff]

theorem tabular_services (first : Attributes) (rest : List Attributes) :
    tabular (payload (.services (first :: rest))) = (servicesTable first rest).draw := by
  have hpayload : payload (.services (first :: rest)) =
      .array (first.toJson.sorted :: rest.map fun a => a.toJson.sorted) := by
    rw [payload, sorted, sortedItems_eq_map, List.map_map]
    rfl
  have hfields : fields? ∘ (fun a : Attributes => a.toJson.sorted) =
      some ∘ fun a => orderFields (sortedFields a.fields) := by
    funext a
    rw [Function.comp_apply, sorted_toJson]
    rfl
  have hrows : (((first :: rest).map fun a => a.toJson.sorted).filterMap fields?).map (objectRow (columns first)) =
      (first :: rest).map fun a => (columns first).map fun key => cell ((a.value? key).getD .null) := by
    rw [List.filterMap_map, hfields, List.filterMap_eq_map, List.map_map]
    refine List.map_congr_left fun a _ => ?_
    simp only [Function.comp_apply, objectRow, Attributes.value?, sorted_toJson, get?]
  rw [hpayload]
  change (listTable first.toJson.sorted ((first :: rest).map fun a => a.toJson.sorted)).draw = _
  rw [sorted_toJson, listTable]
  exact congrArg (fun rows => Table.draw ⟨columns first, rows⟩) hrows

/-- A cell of a table. -/
def cellAt? (t : Table) (row column : Nat) : Option String := t.rows[row]?.bind fun cells => cells[column]?

/-- A table shows a text under a heading in a row. -/
def ShowsUnder (t : Table) (row : Nat) (heading text : String) : Prop :=
  ∃ column, t.header[column]? = some heading ∧ cellAt? t row column = some text

/-- A table shows services with all their attributes. -/
structure ShowsServices (t : Table) (services : List Attributes) : Prop where
  /-- There is a row for each service. -/
  rows : t.rows.length = services.length
  /-- Every attribute of a service is shown under its key. -/
  shown : ∀ i a key value, services[i]? = some a → a.value? key = some value → ShowsUnder t i key (cell value)
  /-- Under the key of an attribute that a service lacks, there is a dash. -/
  lacking : ∀ i a key column, services[i]? = some a → a.value? key = none → t.header[column]? = some key →
    cellAt? t i column = some "-"

theorem cellAt?_servicesTable {i column : Nat} {a : Attributes} {key : String} (ha : (first :: rest)[i]? = some a)
    (hkey : (servicesTable first rest).header[column]? = some key) :
    cellAt? (servicesTable first rest) i column = some (cell ((a.value? key).getD .null)) := by
  have hcolumn : (columns first)[column]? = some key := hkey
  rw [cellAt?, servicesTable, List.getElem?_map, ha, Option.map_some, Option.bind_some, List.getElem?_map, hcolumn,
    Option.map_some]

/-- An attribute is shown just if the first service has it as well. -/
theorem showsUnder_servicesTable_iff {i : Nat} {a : Attributes} {key : String} {value : Json}
    (ha : (first :: rest)[i]? = some a) (hvalue : a.value? key = some value) :
    ShowsUnder (servicesTable first rest) i key (cell value) ↔ (first.value? key).isSome = true := by
  rw [← mem_columns_iff]
  constructor
  · rintro ⟨column, hcolumn, -⟩
    exact List.mem_of_getElem? hcolumn
  · intro hkey
    obtain ⟨column, hcolumn⟩ := List.mem_iff_getElem?.mp hkey
    refine ⟨column, hcolumn, ?_⟩
    rw [cellAt?_servicesTable ha hcolumn, hvalue, Option.getD_some]

theorem showsServices_servicesTable_iff (first : Attributes) (rest : List Attributes) :
    ShowsServices (servicesTable first rest) (first :: rest) ↔
      ∀ a ∈ rest, ∀ key, (a.value? key).isSome = true → (first.value? key).isSome = true := by
  constructor
  · intro hshows a ha key hkey
    obtain ⟨value, hvalue⟩ := Option.isSome_iff_exists.mp hkey
    obtain ⟨i, hi⟩ := List.mem_iff_getElem?.mp (List.mem_cons_of_mem first ha)
    exact (showsUnder_servicesTable_iff hi hvalue).mp (hshows.shown i a key value hi hvalue)
  · intro hall
    refine ⟨List.length_map _, fun i a key value ha hvalue => ?_, fun i a key column ha hnone hcolumn => ?_⟩
    · refine (showsUnder_servicesTable_iff ha hvalue).mpr ?_
      obtain rfl | hrest := List.mem_cons.mp (List.mem_of_getElem? ha)
      · exact Option.isSome_of_eq_some hvalue
      · exact hall a hrest key (Option.isSome_of_eq_some hvalue)
    · rw [cellAt?_servicesTable ha hcolumn, hnone]
      rfl

/-- The table is the same without the attributes that the first service does not have. -/
theorem servicesTable_within (first : Attributes) (rest : List Attributes) :
    servicesTable first (rest.map first.within) = servicesTable first rest := by
  rw [servicesTable, servicesTable, List.map_cons, List.map_cons, List.map_map]
  refine congrArg (fun rows => Table.mk (columns first) (_ :: rows)) ?_
  refine List.map_congr_left fun a _ => List.map_congr_left fun key hkey => ?_
  rw [Attributes.value?_within (mem_columns_iff.mp hkey)]

/-- For every first service and every list of others, the listing of them all is printed as a table of one row for each
service in order. Under the key of an attribute that a service lacks, its row has a dash. An attribute that it has is
shown in its row exactly if the first service has one with the same key. So the table shows all services with all their
attributes exactly if no other service has an attribute that the first one lacks. Nothing at all tells of such an
attribute: without any of them, the same is printed. -/
theorem print_services_shows_iff (first : Attributes) (rest : List Attributes) :
    print .table (.services (first :: rest)) = (servicesTable first rest).draw ++ "\n" ∧
    print .auto (.services (first :: rest)) =
      s!"List {rest.length + 1} services:\n" ++ ((servicesTable first rest).draw ++ "\n") ∧
    (servicesTable first rest).rows.length = (first :: rest).length ∧
    (∀ i a key, (first :: rest)[i]? = some a →
      (a.value? key = none → ∀ column, (servicesTable first rest).header[column]? = some key →
        cellAt? (servicesTable first rest) i column = some "-") ∧
      ∀ value, a.value? key = some value →
        (ShowsUnder (servicesTable first rest) i key (cell value) ↔ (first.value? key).isSome = true)) ∧
    (ShowsServices (servicesTable first rest) (first :: rest) ↔
      ∀ a ∈ rest, ∀ key, (a.value? key).isSome = true → (first.value? key).isSome = true) ∧
    ∀ format, format = .table ∨ format = .auto →
      print format (.services (first :: rest)) = print format (.services (first :: rest.map first.within)) := by
  have htable (others : List Attributes) :
      print .table (.services (first :: others)) = (servicesTable first others).draw ++ "\n" := by
    simp only [print, printValue, tabular_services]
  have hauto (others : List Attributes) : print .auto (.services (first :: others)) =
      s!"List {others.length + 1} services:\n" ++ ((servicesTable first others).draw ++ "\n") := by
    simp only [print, message?, printListing, printValue, tabular_services, List.length_cons]
  refine ⟨htable rest, hauto rest, List.length_map _, fun i a key ha => ⟨fun hnone column hcolumn => ?_, ?_⟩,
    showsServices_servicesTable_iff first rest, ?_⟩
  · rw [cellAt?_servicesTable ha hcolumn, hnone]
    rfl
  · exact fun value hvalue => showsUnder_servicesTable_iff ha hvalue
  · rintro format (rfl | rfl)
    · rw [htable, htable, servicesTable_within]
    · rw [hauto, hauto, servicesTable_within, List.length_map]

/-- The status of a second service is lost, because the first one has none. -/
theorem not_showsServices_of_new_attribute :
    let first : Attributes := ⟨[("service_name", .string "svcA")]⟩
    let second : Attributes := ⟨[("service_name", .string "svcB"), ("service_status", .string "ACTIVE")]⟩
    ¬ ShowsServices (servicesTable first [second]) [first, second] ∧
      ∀ format, format = .table ∨ format = .auto → print format (.services [first, second]) =
        print format (.services [first, ⟨[("service_name", .string "svcB")]⟩]) := by
  intro first second
  obtain ⟨-, -, -, -, hiff, hsame⟩ := print_services_shows_iff first [second]
  refine ⟨fun hshows => ?_, hsame⟩
  have hstatus : (second.value? "service_status").isSome = true := by decide
  have hnone : (first.value? "service_status").isSome = false := by decide
  rw [hiff.mp hshows second List.mem_cons_self _ hstatus] at hnone
  cases hnone

end Output

end ServiceCatalog
