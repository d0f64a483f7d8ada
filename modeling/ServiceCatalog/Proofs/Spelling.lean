import ServiceCatalog.Invocation
import ServiceCatalog.Proofs.Named
import ServiceCatalog.Proofs.Text.Blank
import ServiceCatalog.Proofs.Text.Lowercase

/-!
# How operations and kinds are spelled

An operation is named by one of its spellings, letter for letter, and a kind of service by one of its own in any case of
the ASCII letters. Blank characters may stand around the name. Every other text is refused, whatever its characters.
-/

namespace ServiceCatalog

open Text Service

/-- The ways to write an operation. -/
def Operation.spellings : Operation → List String
  | create => ["create", "create-service"]
  | checkInit => ["check-init", "check-service-init"]
  | delete => ["delete", "delete-service"]
  | list => ["list", "list-services"]
  | get => ["get", "get-service"]
  | listMembers => ["list-members"]
  | getConfig => ["get-config"]

/-- The ways to write a kind of service, but for the case of their letters. -/
def Service.Kind.spellings : Kind → List String
  | documentStore => ["document-store", "mongodb"]
  | relationalStore => ["relational-store", "postgresql", "postgres"]
  | generic => ["generic"]

/-- A text names an operation. -/
def Operation.IsNamedBy (operation : Operation) (text : String) : Prop :=
  ∃ name ∈ operation.spellings, IsPadded name.toList text

/-- A text names a kind of service: it has one of the names of the kind in it, with the letters of ASCII in any case. -/
def Service.Kind.IsNamedBy (kind : Kind) (text : String) : Prop :=
  ∃ name ∈ kind.spellings, ∃ word, word.map Char.toLower = name.toList ∧ IsPadded word text

namespace Operation

theorem mem_names_iff {name : String} {operation : Operation} :
    (name, operation) ∈ names ↔ name ∈ operation.spellings := by
  cases operation <;> simp [names, all, aliases, Operation.name, spellings]

theorem nodup_map_fst_names : (names.map Prod.fst).Nodup := by
  decide

theorem isBlank_of_mem_spellings {operation : Operation} {name : String} (h : name ∈ operation.spellings) :
    ∀ c ∈ name.toList, isBlank c = false := by
  have hall : ∀ p ∈ names, (p.1.toList.all fun c => !isBlank c) = true := by decide
  simpa using hall _ (mem_names_iff.mpr h)

theorem ofText?_eq_some_iff {text : String} {operation : Operation} :
    ofText? text = some operation ↔ operation.IsNamedBy text := by
  rw [ofText?, lookup_eq_some_iff nodup_map_fst_names, mem_names_iff]
  constructor
  · intro h
    refine ⟨_, h, (trimChars_eq_iff_isPadded (isBlank_of_mem_spellings h)).mp ?_⟩
    rw [trim, String.toList_ofList]
  · rintro ⟨name, hname, hpadded⟩
    have htrim := (trimChars_eq_iff_isPadded (isBlank_of_mem_spellings hname)).mpr hpadded
    rwa [trim, htrim, String.ofList_toList]

theorem read_eq_ok_iff {text : String} {operation : Operation} :
    read text = .ok operation ↔ operation.IsNamedBy text := by
  rw [← ofText?_eq_some_iff, read]
  cases ofText? text <;> simp

theorem valid_read_of_not_isNamedBy {text : String} (h : ∀ operation : Operation, ¬ operation.IsNamedBy text) :
    Invocation.valid (read text) = .error (.validation (.unknownOperation (trim text))) := by
  have hnone : ofText? text = none :=
    Option.eq_none_iff_forall_ne_some.mpr fun operation hread => h operation (ofText?_eq_some_iff.mp hread)
  rw [read, hnone]
  rfl

end Operation

namespace Service.Kind

theorem mem_names_iff {name : String} {kind : Kind} : (name, kind) ∈ names ↔ name ∈ kind.spellings := by
  cases kind <;> simp [names, all, Kind.name, spellings]

theorem nodup_map_fst_names : (names.map Prod.fst).Nodup := by
  decide

/-- No name has a k, which is the one letter that a character above ASCII is lowered to. -/
theorem isPlain_of_mem_spellings {kind : Kind} {name : String} (h : name ∈ kind.spellings) :
    ∀ c ∈ name.toList, Utf8.isPlain c = true ∧ c ≠ 'k' := by
  have hall : ∀ p ∈ names, (p.1.toList.all fun c => Utf8.isPlain c && c != 'k') = true := by decide
  simpa using hall _ (mem_names_iff.mpr h)

theorem isBlank_of_map_toLower {kind : Kind} {name : String} (h : name ∈ kind.spellings) {word : List Char}
    (hword : word.map Char.toLower = name.toList) : ∀ c ∈ word, isBlank c = false := by
  have hall : ∀ p ∈ names, (p.1.toList.all fun c => !isBlank c) = true := by decide
  have hname : ∀ c ∈ name.toList, isBlank c = false := by simpa using hall _ (mem_names_iff.mpr h)
  intro c hc
  rw [← isBlank_toLower]
  exact hname _ (hword ▸ List.mem_map_of_mem hc)

theorem ofText?_eq_some_iff {text : String} {kind : Kind} : ofText? text = some kind ↔ kind.IsNamedBy text := by
  rw [ofText?, lookup_eq_some_iff nodup_map_fst_names, mem_names_iff]
  have hlower : normalize text = String.ofList (lowerChars (trimChars text.toList)) := by
    rw [normalize, lower, trim, String.toList_ofList]
  constructor
  · intro h
    have hname : lowerChars (trimChars text.toList) = (normalize text).toList := by rw [hlower, String.toList_ofList]
    have hword := (lowerChars_eq_iff (isPlain_of_mem_spellings h)).mp hname
    exact ⟨_, h, _, hword, (trimChars_eq_iff_isPadded (isBlank_of_map_toLower h hword)).mp rfl⟩
  · rintro ⟨name, hname, word, hword, hpadded⟩
    have htrim := (trimChars_eq_iff_isPadded (isBlank_of_map_toLower hname hword)).mpr hpadded
    rw [← htrim] at hword
    rwa [hlower, (lowerChars_eq_iff (isPlain_of_mem_spellings hname)).mpr hword, String.ofList_toList]

theorem read_eq_ok_iff {text : String} {kind : Kind} : read text = .ok kind ↔ kind.IsNamedBy text := by
  rw [← ofText?_eq_some_iff, read]
  cases ofText? text <;> simp

theorem valid_read_of_not_isNamedBy {text : String} (h : ∀ kind : Kind, ¬ kind.IsNamedBy text) :
    Invocation.valid (read text) = .error (.validation (.unknownKind (lower (trim text)))) := by
  have hnone : ofText? text = none :=
    Option.eq_none_iff_forall_ne_some.mpr fun kind hread => h kind (ofText?_eq_some_iff.mp hread)
  rw [read, hnone]
  rfl

theorem not_isNamedBy_of_ge {text : String} {c : Char} (hc : c ∈ trimChars text.toList) (h : 0x80 ≤ c.toNat)
    (kind : Kind) : ¬ kind.IsNamedBy text := by
  rintro ⟨name, hname, word, hword, hpadded⟩
  rw [(trimChars_eq_iff_isPadded (isBlank_of_map_toLower hname hword)).mpr hpadded] at hc
  have hplain := (isPlain_of_mem_spellings hname _ (hword ▸ List.mem_map_of_mem hc)).1
  rw [Utf8.toLower_of_ge h] at hplain
  simp only [Utf8.isPlain, Bool.and_eq_true, decide_eq_true_eq] at hplain
  omega

end Service.Kind

/-- Every text is read as the operation that it names, and refused as an unknown operation if it names none. It is read
as the kind of service that it names, and refused as an unknown kind if it names none. It does not name any kind if there
is a character above ASCII between the blank ones at its ends, whatever that is lowered to. -/
theorem read_iff_isNamedBy (text : String) :
    (∀ operation, Operation.read text = .ok operation ↔ operation.IsNamedBy text) ∧
    ((∀ operation : Operation, ¬ operation.IsNamedBy text) →
      Invocation.valid (Operation.read text) = .error (.validation (.unknownOperation (trim text)))) ∧
    (∀ kind, Kind.read text = .ok kind ↔ kind.IsNamedBy text) ∧
    ((∀ kind : Kind, ¬ kind.IsNamedBy text) →
      Invocation.valid (Kind.read text) = .error (.validation (.unknownKind (lower (trim text))))) ∧
    ∀ c ∈ trimChars text.toList, 0x80 ≤ c.toNat → ∀ kind : Kind, ¬ kind.IsNamedBy text := by
  exact ⟨fun _ => Operation.read_eq_ok_iff, Operation.valid_read_of_not_isNamedBy, fun _ => Kind.read_eq_ok_iff,
    Kind.valid_read_of_not_isNamedBy, fun c hc h => Kind.not_isNamedBy_of_ge hc h⟩

end ServiceCatalog
