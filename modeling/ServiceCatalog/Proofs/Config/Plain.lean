import ServiceCatalog.Proofs.Config.Variables
import ServiceCatalog.Proofs.Text.Encoding

/-!
# The values that enter a configuration as they are

The values of variables are put into a configuration file before it is read. Plain values enter the configuration as
they are, whatever file refers to them. For every other value there is a file that is read with something else in its
place, or not at all.
-/

namespace ServiceCatalog.Config

open Text Text.Expansion Toml

/-! ## Texts of a configuration -/

section Texts

variable {fields : Fields} {s : String}

theorem textAt_of_optional_text {o : Option Value} (h : optional text o = .ok (some s)) :
    ∃ v place, o = some v ∧ TextAt place s v := by
  cases o with
  | none => cases h
  | some v =>
    obtain ⟨t, ht, heq⟩ := map_eq_ok_iff.mp h
    cases heq
    cases v with
    | text place t =>
      cases ht
      exact ⟨_, place, rfl, .text⟩
    | _ => cases ht

theorem Profile.textIn_of_region {profile : Profile} (h : Profile.ofFields fields = .ok profile)
    (hregion : profile.region = some s) : ∃ place, TextIn place s fields := by
  obtain ⟨_, -, h⟩ := bind_eq_ok_iff.mp h
  obtain ⟨_, -, h⟩ := bind_eq_ok_iff.mp h
  obtain ⟨_, -, h⟩ := bind_eq_ok_iff.mp h
  obtain ⟨_, -, h⟩ := bind_eq_ok_iff.mp h
  obtain ⟨region, htext, h⟩ := bind_eq_ok_iff.mp h
  obtain ⟨_, -, h⟩ := bind_eq_ok_iff.mp h
  obtain ⟨_, -, h⟩ := bind_eq_ok_iff.mp h
  obtain ⟨_, -, h⟩ := bind_eq_ok_iff.mp h
  obtain ⟨_, -, h⟩ := bind_eq_ok_iff.mp h
  obtain ⟨_, -, h⟩ := bind_eq_ok_iff.mp h
  cases h
  obtain rfl : region = some s := hregion
  obtain ⟨v, place, hlookup, hat⟩ := textAt_of_optional_text htext
  exact ⟨place, textIn_of_lookup hlookup hat⟩

theorem Profile.textAt_of_region {v : Value} {profile : Profile} (h : Profile.ofValue v = .ok profile)
    (hregion : profile.region = some s) : ∃ place, TextAt place s v := by
  cases v with
  | table inside origin fields =>
    obtain ⟨place, hin⟩ := Profile.textIn_of_region h hregion
    exact ⟨place, textAt_table_iff.mpr hin⟩
  | array inside ofTables items =>
    rw [Profile.ofValue] at h
    split_ifs at h
    · obtain ⟨place, ⟨name, item⟩, hmem, hat⟩ := Profile.textIn_of_region h hregion
      exact ⟨place, .item (List.of_mem_zip hmem).2 hat⟩
    · cases h
  | _ => cases h

/-- The region of a profile is a text of the file. -/
theorem textIn_of_region {config : Config} {name : String} {profile : Profile} (h : ofFields fields = .ok config)
    (hprofile : (name, profile) ∈ config.profiles) (hregion : profile.region = some s) :
    ∃ place, TextIn place s fields := by
  obtain ⟨defaultProfile, -, h⟩ := bind_eq_ok_iff.mp h
  obtain ⟨profiles, hprofiles, heq⟩ := bind_eq_ok_iff.mp h
  cases heq
  cases hlookup : fields.lookup "profiles" with
  | none =>
    rw [hlookup] at hprofiles
    cases hprofiles
    cases hprofile
  | some v =>
    rw [hlookup] at hprofiles
    obtain ⟨found, hfound, rfl⟩ := map_eq_ok_iff.mp hprofiles
    cases v with
    | table inside origin tables =>
      obtain ⟨⟨key, v⟩, hmem, hread⟩ := mem_of_mapM hfound hprofile
      obtain ⟨profile', hread, heq⟩ := map_eq_ok_iff.mp hread
      cases heq
      obtain ⟨place, hat⟩ := Profile.textAt_of_region hread hregion
      exact ⟨place, textIn_of_lookup hlookup (.field ((List.mergeSort_perm _ _).mem_iff.mp hmem) hat)⟩
    | _ => cases hfound

end Texts

/-! ## A file with one text -/

/-- The front of a configuration file with one profile. -/
def regionFront : List Char := "[profiles.p]\nregion = ".toList

/-- A configuration file with one profile, whose region stands between quotes. -/
def regionFile (s : List Char) : List Char := regionFront ++ '"' :: (s ++ ['"', '\n'])

/-- The keys of the header in the file. -/
def regionHeader (outer inner : Nat) : List Key := [⟨outer, "profiles"⟩, ⟨inner, "p"⟩]

/-- The tables of the file around some fields. -/
def regionTables (outer inner : Nat) (fields : Fields) : Fields :=
  [("profiles", .table outer .implied [("p", .table inner .header fields)])]

section RegionFile

variable {s : List Char}

theorem regionHeader_reads (cs : List Char) :
    ∃ outer inner, ReadsLine {} (regionFront ++ cs)
      ⟨regionTables outer inner [], regionHeader outer inner⟩ ("region = ".toList ++ cs) := by
  have hlast : ∃ inner, ReadsKey ("p]\nregion = ".toList ++ cs) [] ⟨inner, "p"⟩ (']' :: ("\nregion = ".toList ++ cs)) :=
    ⟨_, @ReadsKey.last _ ("]\nregion = ".toList ++ cs) _ rfl nofun⟩
  obtain ⟨inner, hlast⟩ := hlast
  have hkey : ∃ outer, ReadsKey ("profiles.p]\nregion = ".toList ++ cs) [⟨outer, "profiles"⟩] ⟨inner, "p"⟩
      (']' :: ("\nregion = ".toList ++ cs)) :=
    ⟨_, @ReadsKey.part _ (".p]\nregion = ".toList ++ cs) _ _ _ _ _ rfl rfl hlast⟩
  obtain ⟨outer, hkey⟩ := hkey
  have hopen : ("profiles.p]\nregion = ".toList ++ cs).head? ≠ some '[' := nofun
  exact ⟨outer, inner, .header hopen hkey rfl rfl⟩

theorem regionField_reads (h : ∀ c ∈ s, isPlain c = true) (outer inner : Nat) :
    ReadsLine ⟨regionTables outer inner [], regionHeader outer inner⟩ ("region = ".toList ++ '"' :: (s ++ ['"', '\n']))
      ⟨regionTables outer inner [("region", .text (s.length + 3) (String.ofList s))], regionHeader outer inner⟩ [] := by
  have hkey : ∃ place, ReadsKey ("region = ".toList ++ '"' :: (s ++ ['"', '\n'])) [] ⟨place, "region"⟩
      ('=' :: ' ' :: '"' :: (s ++ ['"', '\n'])) :=
    ⟨_, @ReadsKey.last _ (" = ".toList ++ '"' :: (s ++ ['"', '\n'])) _ rfl nofun⟩
  obtain ⟨place, hkey⟩ := hkey
  have hquoted : quotedText? ('"' :: (s ++ ['"', '\n'])) = some (.ok (s, ['\n'])) :=
    quotedText?_of_isPlain h fun _ => nofun
  have hvalue := @ReadsValue.text greatestDepth _ _ _ hquoted
  rw [List.length_cons, List.length_append] at hvalue
  exact .field nofun (.mk hkey hvalue) rfl rfl

theorem withoutMark_regionFile (s : List Char) : withoutMark (String.ofList (regionFile s)) = regionFile s := by
  rw [withoutMark, String.toList_ofList]
  rfl

theorem parse_regionFile (h : ∀ c ∈ s, isPlain c = true) :
    ∃ outer inner, Toml.parse (String.ofList (regionFile s)) =
      .ok (regionTables outer inner [("region", .text (s.length + 3) (String.ofList s))]) := by
  obtain ⟨outer, inner, hheader⟩ := regionHeader_reads ('"' :: (s ++ ['"', '\n']))
  refine ⟨outer, inner, Toml.parse_eq_ok_iff.mpr ?_⟩
  rw [withoutMark_regionFile]
  have hfirst : skipVoid false (regionFile s) = .ok (regionFile s) := rfl
  have hsecond : skipVoid false ("region = ".toList ++ '"' :: (s ++ ['"', '\n'])) =
      .ok ("region = ".toList ++ '"' :: (s ++ ['"', '\n'])) := rfl
  exact .line hfirst nofun hheader (.line hsecond nofun (regionField_reads h outer inner) (.done rfl))

theorem suffix_of_quotedText {start t tail : List Char} (hstart : start <:+ regionFile s)
    (hread : quotedText? start = some (.ok (t, tail))) : start <:+ '"' :: (s ++ ['"', '\n']) := by
  cases start with
  | nil => exact List.nil_suffix
  | cons c rest =>
    have hquote : c = '"' ∨ c = '\'' := by
      rw [quotedText?.eq_def] at hread
      split at hread <;> simp_all
    obtain rfl | rfl := hquote
    · exact suffix_of_suffix_append hstart (by decide)
    · exact suffix_of_suffix_append hstart (by decide)

/-- No text of the file is what stands between its quotes but one that is read from the first of them to the second. -/
theorem isPlain_of_textIn {fields : Fields} {place : Nat} (h : Toml.parse (String.ofList (regionFile s)) = .ok fields)
    (hin : TextIn place (String.ofList s) fields) : ∀ c ∈ s, isPlain c = true := by
  have hdocument := Toml.parse_eq_ok_iff.mp h
  rw [withoutMark_regionFile] at hdocument
  obtain hnone | ⟨start, t, tail, hstart, -, -, hread, ht⟩ := hdocument.readAt hin
  · exact absurd hnone not_textIn_nil
  obtain rfl : s = t := String.ofList_injective ht
  have hquoted := suffix_of_quotedText hstart hread
  have hlength := quotedText?_length hread
  have hbound := hquoted.length_le
  rw [List.length_cons, List.length_append, List.length_cons, List.length_singleton] at hbound
  -- The line end of the file stands behind the last quote.
  have htail : tail ≠ [] := by
    rintro rfl
    obtain ⟨quote, front, hquote, -, rfl, -⟩ := quotedText?_closes hread
    obtain ⟨before, hbefore⟩ := hquoted
    have hsplit : (before ++ front) ++ [quote] = '"' :: (s ++ ['"']) ++ ['\n'] := by simpa using hbefore
    obtain rfl := List.singleton_inj.mp (List.append_inj_right' hsplit rfl)
    obtain hquote | hquote := hquote <;> cases hquote
  have hone := List.length_pos_iff.mpr htail
  have hwhole : start = '"' :: (s ++ ['"', '\n']) := hquoted.eq_of_length (by simp; omega)
  subst hwhole
  have hend : tail = ['\n'] := by
    have hsuffix : ['\n'] <:+ '"' :: (s ++ ['"', '\n']) := ⟨'"' :: (s ++ ['"']), by simp⟩
    exact ((List.suffix_of_suffix_length_le (quotedText?_suffix hread) hsuffix (by simp; omega)).eq_of_length
      (by simp; omega))
  subst hend
  exact (quotedText?_quoted_iff.mp hread).1

end RegionFile

/-! ## Loading -/

/-- A configuration file that can be read as it is, and in which every dollar sign begins a reference that is a text. -/
structure Refers (files : Files) (path file : String) (fields : Fields) (config : Config) : Prop where
  read : ∃ octets, files.read path = .ok octets ∧ Utf8.strict? octets = some file
  parsed : Toml.parse file = .ok fields
  config : ofFields fields = .ok config
  onlyRefers : OnlyRefers file fields

section RegionReference

variable {env : Environment} {name value : String}

/-- The file whose region is a reference. -/
def referenceFile (name : String) : String := String.ofList (regionFile (written name).toList)

/-- The fields of the file whose region is a reference. -/
def referenceFields (outer inner : Nat) (name : String) : Fields :=
  regionTables outer inner [("region", .text ((written name).toList.length + 3) (written name))]

/-- A configuration with one profile of which only the region is known. -/
def regionConfig (region : String) : Config := ⟨none, [("p", { region := some region })]⟩

theorem toList_referenceFile (name : String) :
    (referenceFile name).toList =
      (regionFront ++ ['"']) ++ '$' :: '\x7b' :: (name.toList ++ '\x7d' :: ['"', '\n']) := by
  rw [referenceFile, String.toList_ofList, regionFile, toList_written]
  simp only [List.append_assoc, List.cons_append, List.nil_append]

theorem dollar_not_mem_front : '$' ∉ regionFront ++ ['"'] := by decide

theorem expandKnown_referenceFile (hname : isVariableName name.toList = true) (hvalue : env.get? name = some value) :
    expandKnown env.get? (referenceFile name) = String.ofList (regionFile value.toList) := by
  have hback : replaceKnown env.get? (pieces ['"', '\n']) = ['"', '\n'] := by
    simp [pieces_cons, pieces, replaceKnown]
  rw [expandKnown, toList_referenceFile, replaceKnown_append _ dollar_not_mem_front, replaceKnown_reference hname,
    hvalue, hback, Option.getD_some, regionFile, List.append_assoc, List.singleton_append]

theorem tail_of_dollar (hname : isVariableName name.toList = true) {tail : List Char}
    (h : '$' :: tail <:+ (referenceFile name).toList) : tail = '\x7b' :: (name.toList ++ '\x7d' :: ['"', '\n']) := by
  rw [toList_referenceFile] at h
  obtain heq | htail := List.suffix_cons_iff.mp (suffix_of_suffix_append h dollar_not_mem_front)
  · exact (List.cons.inj heq).2
  · have hmem := htail.subset List.mem_cons_self
    have hname : '$' ∉ name.toList := fun hc => by cases (isVariableName_iff.mp hname).1 _ hc
    simp [hname] at hmem

theorem variableAt?_referenceFile (hname : isVariableName name.toList = true) :
    variableAt? (referenceFile name) ((written name).toList.length + 3) = some name := by
  have hsuffix : '"' :: '$' :: '\x7b' :: (name.toList ++ '\x7d' :: '"' :: ['\n']) <:+ (referenceFile name).toList :=
    ⟨regionFront, by rw [toList_referenceFile, List.append_assoc, List.singleton_append]⟩
  have hlength : (written name).toList.length + 3 =
      ('"' :: '$' :: '\x7b' :: (name.toList ++ '\x7d' :: '"' :: ['\n'])).length := by
    simp [toList_written]
  rw [hlength, variableAt?_of_suffix hsuffix]
  exact reference?_eq_some_iff.mpr ⟨['\n'], rfl, hname⟩

theorem eq_of_variableAt? (hname : isVariableName name.toList = true) {place : Nat} {other : String}
    (h : variableAt? (referenceFile name) place = some other) : other = name := by
  obtain ⟨tail, htail, hother⟩ := reference?_eq_some_iff.mp h
  have hsuffix := List.drop_suffix ((referenceFile name).toList.length - place) (referenceFile name).toList
  rw [htail] at hsuffix
  have hsame := tail_of_dollar hname (suffix_of_cons_suffix hsuffix)
  have hcut := cutAtFirst?_eq_some_iff.mpr
    ⟨(List.cons.inj hsame).2.symm, not_mem_of_isVariableChar (isVariableName_iff.mp hother).1⟩
  have hcut' := cutAtFirst?_eq_some_iff.mpr
    ⟨(rfl : name.toList ++ '\x7d' :: ['"', '\n'] = _), not_mem_of_isVariableChar (isVariableName_iff.mp hname).1⟩
  exact String.toList_inj.mp (Prod.mk.inj (Option.some.inj (hcut.symm.trans hcut'))).1

theorem ordered_singleton (f : String × Value) : ordered [f] = [f] := List.mergeSort_singleton f

theorem ofFields_regionTables (outer inner place : Nat) (s : String) :
    ofFields (regionTables outer inner [("region", .text place s)]) = .ok (regionConfig s) := by
  have hprofiles : profilesOf (.table outer .implied [("p", .table inner .header [("region", .text place s)])]) =
      .ok [("p", { region := some s })] := by
    rw [profilesOf, ordered_singleton]
    rfl
  exact bind_eq_ok_iff.mpr ⟨none, rfl, bind_eq_ok_iff.mpr ⟨_, map_eq_ok_iff.mpr ⟨_, hprofiles, rfl⟩, rfl⟩⟩

theorem onlyRefers_referenceFile (hname : isVariableName name.toList = true) (outer inner : Nat) :
    OnlyRefers (referenceFile name) (referenceFields outer inner name) := by
  intro tail htail
  obtain rfl := tail_of_dollar hname htail
  have hplace : ('\x7b' :: (name.toList ++ '\x7d' :: ['"', '\n'])).length + 2 = (written name).toList.length + 3 := by
    simp [toList_written]
  rw [hplace, variableAt?_referenceFile hname]
  refine ⟨rfl, written name, ?_⟩
  simp [referenceFields, regionTables, TextIn, TextAt.text]

theorem refers_referenceFile (hname : isVariableName name.toList = true) :
    ∃ outer inner, Refers ⟨fun _ => .ok (Utf8.encode (referenceFile name))⟩ "" (referenceFile name)
      (referenceFields outer inner name) (regionConfig (written name)) := by
  obtain ⟨outer, inner, hparsed⟩ := parse_regionFile (isPlain_of_written hname)
  rw [String.ofList_toList] at hparsed
  exact ⟨outer, inner, ⟨_, rfl, Utf8.strict?_encode _⟩, hparsed, ofFields_regionTables _ _ _ _,
    onlyRefers_referenceFile hname _ _⟩

/-- With the value of the variable the region is this value. -/
theorem withVariables_referenceFile (hname : isVariableName name.toList = true) (hvalue : env.get? name = some value)
    (outer inner : Nat) :
    withVariables env (referenceFile name) (referenceFields outer inner name) (regionConfig (written name)) =
      regionConfig value := by
  have hregion : textWith env (referenceFile name) (some (.text ((written name).toList.length + 3) (written name)))
      (some (written name)) = some value := by
    rw [textWith, Option.bind_some, Value.place, filling, variableAt?_referenceFile hname, Option.map_some, hvalue]
    rfl
  have hprofiles : writtenProfiles ((referenceFields outer inner name).lookup "profiles") =
      [("p", .table inner .header [("region", .text ((written name).toList.length + 3) (written name))])] :=
    ordered_singleton _
  rw [withVariables, hprofiles]
  exact congrArg (fun region => ({ profiles := [("p", { region })] } : Config)) hregion

end RegionReference

theorem parse_eq_ok_iff {env : Environment} {file : String} {config : Config} :
    parse env file = .ok config ↔
      ∃ fields, Toml.parse (expandKnown env.get? file) = .ok fields ∧ ofFields fields = .ok config := by
  have hbind : (Toml.parse (expandKnown env.get? file)).bind ofFields = .ok config ↔
      ∃ fields, Toml.parse (expandKnown env.get? file) = .ok fields ∧ ofFields fields = .ok config := bind_eq_ok_iff
  rw [parse, ← hbind]
  cases (Toml.parse (expandKnown env.get? file)).bind ofFields <;> simp

/-- All files that refer to variables of some names have the values of these in their texts, and are otherwise as they
would be without expansion, just if the values are plain. -/
theorem load_withVariables_iff (env : Environment) (names : Set String) :
    (∀ files path file fields config, Refers files path file fields config →
        (∀ place name, variableAt? file place = some name → name ∈ names) →
        load env files path = .ok (withVariables env file fields config)) ↔
      ∀ name ∈ names, isVariableName name.toList = true →
        ∀ value, env.get? name = some value → ∀ c ∈ value.toList, isPlain c = true := by
  constructor
  · intro h name hmem hname value hvalue
    obtain ⟨outer, inner, hrefers⟩ := refers_referenceFile hname
    have hload := h _ _ _ _ _ hrefers fun _ _ hat => eq_of_variableAt? hname hat ▸ hmem
    rw [load_eq_parse rfl (Utf8.strict?_encode _)] at hload
    obtain ⟨fields, hfields, hconfig⟩ := parse_eq_ok_iff.mp hload
    rw [expandKnown_referenceFile hname hvalue] at hfields
    rw [withVariables_referenceFile hname hvalue] at hconfig
    obtain ⟨place, hin⟩ := textIn_of_region hconfig (List.mem_singleton_self _) rfl
    rw [← String.ofList_toList (s := value)] at hin
    exact isPlain_of_textIn hfields hin
  · intro hplain files path file fields config hrefers hnames
    obtain ⟨octets, hread, hfile⟩ := hrefers.read
    rw [load_eq_parse hread hfile]
    refine parse_of_references hrefers.parsed hrefers.config hrefers.onlyRefers fun place name value hat hvalue => ?_
    obtain ⟨tail, -, hname⟩ := reference?_eq_some_iff.mp hat
    exact hplain name (hnames place name hat) hname value hvalue

theorem not_load_withVariables_of_quote :
    ¬∀ files path file fields config, Refers files path file fields config →
      load ⟨[("VAR", "a\"b")]⟩ files path = .ok (withVariables ⟨[("VAR", "a\"b")]⟩ file fields config) := by
  intro h
  have hplain := (load_withVariables_iff ⟨[("VAR", "a\"b")]⟩ Set.univ).mp
    fun files path file fields config hrefers _ => h files path file fields config hrefers
  have hquote : isPlain '"' = true := hplain "VAR" trivial (by decide) "a\"b" rfl '"' (by decide)
  cases hquote

end ServiceCatalog.Config
