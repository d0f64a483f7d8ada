import ServiceCatalog.Output.Format
import ServiceCatalog.Proofs.Json.Reader
import ServiceCatalog.Proofs.Output.Payload
import ServiceCatalog.Proofs.Yaml.Block

/-!
# The volumes of a printed deletion

What a reader of a printed deletion learns about the volumes it left, format by format.
-/

namespace ServiceCatalog.Output

open Json Yaml

/-- Whether texts can be found in another one after the other. -/
def FoundIn : List String → List Char → Prop
  | [], _ => True
  | s :: rest, text => ∃ front back, text = front ++ s.toList ++ back ∧ FoundIn rest back

/-- Whether volumes can be read in what is printed: as literal text by people, and as the values of the document by
machines. -/
def Shows (format : Format) (volumeIds : List String) (out : String) : Prop :=
  match format with
  | .auto => FoundIn volumeIds out.toList
  | .table => FoundIn volumeIds out.toList
  | .json => ∃ document, Json.read? out = some document ∧ document.get? "volume_ids" = some (strings volumeIds)
  | .yaml => ∃ document, Yaml.read? out = some document ∧ document.get? "volume_ids" = some (strings volumeIds)

theorem FoundIn.append_left {volumeIds : List String} {text : List Char} (h : FoundIn volumeIds text)
    (front : List Char) :
    FoundIn volumeIds (front ++ text) := by
  cases volumeIds with
  | nil => trivial
  | cons s rest =>
    obtain ⟨before, back, rfl, hback⟩ := h
    exact ⟨front ++ before, back, by simp, hback⟩

theorem FoundIn.mem {volumeIds : List String} {text : List Char} (h : FoundIn volumeIds text) {id : String}
    (hid : id ∈ volumeIds) {c : Char} (hc : c ∈ id.toList) : c ∈ text := by
  induction volumeIds generalizing text with
  | nil => simp at hid
  | cons s rest ih =>
    obtain ⟨front, back, rfl, hback⟩ := h
    obtain rfl | hid := List.mem_cons.mp hid
    · simp [hc]
    · simp [ih hback hid]

/-- Texts that are joined, each behind a separator, are found. -/
theorem foundIn_flatMap (separator : List Char) (volumeIds : List String) (back : List Char) :
    FoundIn volumeIds (volumeIds.flatMap (fun s => separator ++ s.toList) ++ back) := by
  induction volumeIds with
  | nil => trivial
  | cons s rest ih => exact ⟨separator, _, by simp, ih⟩

/-- The message of a deletion names every volume. -/
theorem shows_auto (d : Deletion) : Shows .auto d.volumeIds (print .auto (.deleted d)) := by
  obtain ⟨service, volumeIds⟩ := d
  cases volumeIds with
  | nil => trivial
  | cons s rest =>
    have hfound := foundIn_flatMap ['\n', ' ', ' '] (s :: rest) ['\n']
    have hprint : (print .auto (.deleted ⟨service, s :: rest⟩)).toList =
        s!"Service {service.name} deleted, please manually delete the volumes:".toList ++
          ((s :: rest).flatMap (fun id => ['\n', ' ', ' '] ++ id.toList) ++ ['\n']) := by
      simp [print, message?, deletionMessage, String.toList_join, List.flatMap_map]
    rw [Shows, hprint]
    exact hfound.append_left _

/-- The JSON document of a deletion lists the volumes. -/
theorem shows_json (d : Deletion) : Shows .json d.volumeIds (print .json (.deleted d)) := by
  refine ⟨payload (.deleted d), read?_spread ?_ ?_, by rw [payload_deleted]; rfl⟩
  · rw [payload_deleted]
    exact ⟨⟨trivial, trivial, trivial, trivial⟩, exactItems_strings d.volumeIds, trivial⟩
  · rw [payload_deleted]
    simp [depth, depthOfFields, strings, depthOfItems_strings, greatestDepth]

private theorem plainKey {key : String} (h : key ∈ ["service", "cluster", "region", "service_name", "volume_ids"]) :
    PlainKey key := by
  have hall : ∀ key ∈ ["service", "cluster", "region", "service_name", "volume_ids"], PlainKey key := by decide
  exact hall key h

/-- The fields that name a service. -/
private def identityFields (service : Service.Identity) : List (String × String) :=
  [("cluster", service.cluster), ("region", service.region), ("service_name", service.name)]

private def identityObject (service : Service.Identity) : Json :=
  .object ((identityFields service).map fun f => (f.1, .string f.2))

private theorem valueFrom?_identity (service : Service.Identity) {fuel : Nat} (hfuel : 4 < fuel) {next : List Char}
    (hnext : Outdented 2 next) :
    Yaml.valueFrom? 0 (fuel + 1) (closed (writeValue (.afterKey 0) (identityObject service)) ++ next) =
      some (identityObject service, next) := by
  have hkeys : ∀ f ∈ identityFields service, PlainKey f.1 := by
    intro f hf
    refine plainKey ?_
    obtain rfl | rfl | rfl : f = _ ∨ f = _ ∨ f = _ := by simpa [identityFields] using hf
    · simp
    · simp
    · simp
  have hfields := fieldsFrom?_linesOf 2 fuel (identityFields service) hkeys (by simpa [identityFields] using hfuel) hnext
  exact valueFrom?_mapping (plainKey (by decide : "cluster" ∈ _)) _ _ hfields

/-- The last field of a deletion is read back, but for a line end taken by the last volume. -/
private theorem fieldsFrom?_volumes (volumeIds : List String) {fuel : Nat} (hfuel : volumeIds.length < fuel) :
    ∃ rest, rest.all isBreak = true ∧
      Yaml.fieldsFrom? 0 (fuel + 2) ("volume_ids".toList ++ ':' ::
        (closed (writeValue (.afterKey 0) (strings volumeIds)) ++ ['\n'])) =
          some ([("volume_ids", strings (withLastLineEnd volumeIds))], rest) := by
  obtain ⟨rest, hrest, hvolumes⟩ := valueFrom?_strings 0 fuel volumeIds hfuel
  have hfield := fieldsFrom?_field (plainKey (by decide : "volume_ids" ∈ _)) hvolumes
  rw [fieldsFrom?_of_breaks 0 fuel hrest] at hfield
  exact ⟨rest, hrest, hfield⟩

/-- What a deletion is printed as in YAML. -/
private theorem toList_print_yaml (d : Deletion) : (print .yaml (.deleted d)).toList =
    "service".toList ++ ':' :: (closed (writeValue (.afterKey 0) (identityObject d.service)) ++
      ("volume_ids".toList ++ ':' :: (closed (writeValue (.afterKey 0) (strings d.volumeIds)) ++ ['\n']))) := by
  have hlast (v : Json) : linesOf 0 (writeFields 0 [("volume_ids", v)]) =
      "volume_ids".toList ++ ':' :: closed (writeValue (.afterKey 0) v) := by
    rw [linesOf_writeFields (plainKey (by decide)), show linesOf 0 (writeFields 0 []) = [] from rfl, List.append_nil]
    rfl
  simp only [print, printValue, payload_deleted, String.toList_append, toList_document]
  rw [linesOf_writeFields (plainKey (by decide)), hlast]
  simp [identityObject, identityFields]

/-- The YAML document of a deletion is read back, but for a line end taken by the last volume. -/
theorem read?_print_yaml (d : Deletion) : Yaml.read? (print .yaml (.deleted d)) =
    some (.object [("service", .object [("cluster", .string d.service.cluster), ("region", .string d.service.region),
      ("service_name", .string d.service.name)]), ("volume_ids", strings (withLastLineEnd d.volumeIds))]) := by
  have hlength : d.volumeIds.length + 8 ≤ (print .yaml (.deleted d)).toList.length := by
    have hvolumes := length_le_closed_strings 0 d.volumeIds
    rw [toList_print_yaml]
    simp only [List.length_append, List.length_cons, List.length_nil, show "service".toList.length = 7 from rfl]
    omega
  obtain ⟨fuel, hfuel⟩ : ∃ fuel, 2 * (print .yaml (.deleted d)).toList.length + 1 = fuel + 3 :=
    ⟨2 * (print .yaml (.deleted d)).toList.length - 2, by omega⟩
  obtain ⟨rest, hrest, hlast⟩ := fieldsFrom?_volumes d.volumeIds (by omega : d.volumeIds.length < fuel)
  have hnext : Outdented 2 ("volume_ids".toList ++ ':' ::
      (closed (writeValue (.afterKey 0) (strings d.volumeIds)) ++ ['\n'])) :=
    .inr ⟨0, 'v', _, by decide, rfl, by decide, by decide⟩
  have hservice := valueFrom?_identity d.service (by omega : 4 < fuel + 1) hnext
  have hall := fieldsFrom?_field (plainKey (by decide : "service" ∈ _)) hservice
  rw [hlast, List.replicate_zero, List.nil_append, ← toList_print_yaml, ← hfuel] at hall
  have hblank : (rest.all fun c => c = ' ' || isBreak c) = true := by
    rw [List.all_eq_true] at hrest ⊢
    intro c hc
    simp [hrest c hc]
  unfold Yaml.read?
  simp only [hall, Option.map_some, Option.bind_some, hblank, if_true]
  rfl

/-- A further line end behind texts changes nothing unless the last of them takes it. -/
theorem withLastLineEnd_eq_self_iff (volumeIds : List String) :
    withLastLineEnd volumeIds = volumeIds ↔ ∀ last, volumeIds.getLast? = some last → takesLineEnds last = false := by
  have hlonger (s : String) : s ++ "\n" ≠ s := by
    intro heq
    have hlength := congrArg (fun t => t.toList.length) heq
    simp at hlength
  induction volumeIds with
  | nil => simp [withLastLineEnd]
  | cons s rest ih =>
    cases rest with
    | nil => cases htakes : takesLineEnds s <;> simp [withLastLineEnd, withLineEnd, htakes, hlonger]
    | cons next rest => simpa [withLastLineEnd, List.getLast?_cons_cons] using ih

theorem strings_injective : Function.Injective strings := by
  intro values others h
  have hmap : values.map Json.string = others.map Json.string := by simpa [strings] using h
  exact List.map_injective_iff.mpr (fun _ _ => Json.string.inj) hmap

/-- The YAML document of a deletion lists the volumes unless the last one takes the line end behind the document. -/
theorem shows_yaml_iff (d : Deletion) : Shows .yaml d.volumeIds (print .yaml (.deleted d)) ↔
    ∀ last, d.volumeIds.getLast? = some last → takesLineEnds last = false := by
  rw [← withLastLineEnd_eq_self_iff, Shows, read?_print_yaml]
  constructor
  · rintro ⟨document, hread, hids⟩
    rw [← Option.some.inj hread] at hids
    exact strings_injective (Option.some.inj hids)
  · intro h
    exact ⟨_, rfl, by rw [h]; rfl⟩

/-- The table that a deletion is printed as, which has the number of the volumes only. -/
def countTable (number : Nat) : Table :=
  ⟨["Key", "Value"], [["service", "\x7b3 fields\x7d"], ["volume_ids", s!"[{number} items]"]]⟩

/-- Deletions that left equally many volumes are the same table. -/
theorem print_table_deleted (d : Deletion) :
    print .table (.deleted d) = (countTable d.volumeIds.length).draw ++ "\n" := by
  have hservice : cell (.object [("cluster", .string d.service.cluster), ("region", .string d.service.region),
      ("service_name", .string d.service.name)]) = "\x7b3 fields\x7d" := by
    have hthree : "\x7b" ++ s!"{3} fields" ++ "\x7d" = "\x7b3 fields\x7d" := by decide
    exact hthree
  have hvolumes : cell (strings d.volumeIds) = s!"[{d.volumeIds.length} items]" := by
    simp [cell, strings]
  simp only [print, printValue, payload_deleted, tabular, objectTable, List.map_cons, List.map_nil, hservice, hvolumes]
  rfl

/-- What the volumes of a deletion have to be like for a format to show them. -/
def Keeps (format : Format) (volumeIds : List String) : Prop :=
  match format with
  | .auto => True
  | .json => True
  | .yaml => ∀ last, volumeIds.getLast? = some last → takesLineEnds last = false
  | .table => FoundIn volumeIds ((countTable volumeIds.length).draw ++ "\n").toList

/-- A table loses the volumes if there is any character in them that a table of their number does not have. -/
theorem not_keeps_table {volumeIds : List String} {id : String} (hid : id ∈ volumeIds) {c : Char} (hc : c ∈ id.toList)
    (htable : c ∉ ((countTable volumeIds.length).draw ++ "\n").toList) : ¬ Keeps .table volumeIds :=
  fun h => htable (h.mem hid hc)

/-- A printed deletion shows the volumes exactly if its format keeps them. -/
theorem shows_deleted_iff (format : Format) (d : Deletion) :
    Shows format d.volumeIds (print format (.deleted d)) ↔ Keeps format d.volumeIds := by
  cases format with
  | auto => exact iff_of_true (shows_auto d) trivial
  | json => exact iff_of_true (shows_json d) trivial
  | yaml => exact shows_yaml_iff d
  | table => rw [Shows, print_table_deleted]; rfl

end ServiceCatalog.Output
