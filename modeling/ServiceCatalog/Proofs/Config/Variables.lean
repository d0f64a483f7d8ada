import ServiceCatalog.Config.Load
import ServiceCatalog.Proofs.Config.References
import ServiceCatalog.Proofs.Toml.Substitution

/-!
# A configuration with the values of variables

A configuration file may refer to variables in its texts. As long as their values are plain they enter the configuration
as they are, and change nothing else.
-/

namespace ServiceCatalog.Config

open Text Toml

/-! ## Values in the place of references -/

/-- A text that is configured, or what is put in for the reference to a variable that it is written as. -/
def textWith (env : Environment) (file : String) (written : Option Value) (configured : Option String) :
    Option String :=
  (written.bind fun v => filling env file v.place).or configured

/-- The settings of a profile as they are written, in a table or in a list. -/
def writtenSettings : Value → Fields
  | .table _ _ fields => fields
  | .array _ _ items => settings.zip items
  | _ => []

/-- The profiles as they are written, in the order of their names. -/
def writtenProfiles : Option Value → Fields
  | some (.table _ _ profiles) => ordered profiles
  | _ => []

/-- A profile with the values of variables in its texts. -/
def Profile.withVariables (env : Environment) (file : String) (written : Fields) (profile : Profile) : Profile :=
  { profile with
    serverUrl := textWith env file (written.lookup "server_url") profile.serverUrl
    region := textWith env file (written.lookup "region") profile.region
    cluster := textWith env file (written.lookup "cluster") profile.cluster
    caFile := textWith env file (written.lookup "ca_file") profile.caFile
    certFile := textWith env file (written.lookup "cert_file") profile.certFile
    keyFile := textWith env file (written.lookup "key_file") profile.keyFile }

/-- Profiles with the values of variables in their texts. -/
def profilesWith (env : Environment) (file : String) : Fields → List (String × Profile) → List (String × Profile)
  | written :: more, profile :: rest =>
    (profile.1, profile.2.withVariables env file (writtenSettings written.2)) :: profilesWith env file more rest
  | _, _ => []

/-- A configuration with the values of variables in its texts. -/
def withVariables (env : Environment) (file : String) (fields : Fields) (config : Config) : Config where
  defaultProfile := textWith env file (fields.lookup "default_profile") config.defaultProfile
  profiles := profilesWith env file (writtenProfiles (fields.lookup "profiles")) config.profiles

theorem profilesWith_nil (env : Environment) (file : String) (written : Fields) :
    profilesWith env file written [] = [] := by
  cases written <;> rfl

/-! ## Reading filled fields -/

section Filled

variable {env : Environment} {file : String} {fields fields' : Fields}

theorem optional_text_filled {o o' : Option Value} {t : Option String} (h : optional text o = .ok t)
    (ho : Option.Rel (Filled (filling env file)) o o') : optional text o' = .ok (textWith env file o t) := by
  cases ho with
  | none =>
    cases h
    rfl
  | some hv =>
    cases hv with
    | @text place place' s =>
      cases h
      rw [optional, text, textWith, Option.bind_some, Value.place]
      cases filling env file place <;> rfl
    | _ => cases h

theorem optional_truth_filled {o o' : Option Value} {t : Option Bool} (h : optional truth o = .ok t)
    (ho : Option.Rel (Filled (filling env file)) o o') : optional truth o' = .ok t := by
  cases ho with
  | none => exact h
  | some hv =>
    cases hv with
    | truth => exact h
    | _ => cases h

theorem optional_seconds_filled {o o' : Option Value} {t : Option UInt64} (h : optional seconds o = .ok t)
    (ho : Option.Rel (Filled (filling env file)) o o') : optional seconds o' = .ok t := by
  cases ho with
  | none => exact h
  | some hv =>
    cases hv with
    | @integer place place' n =>
      rw [optional, seconds] at h ⊢
      split_ifs at h ⊢
      · exact h
      · cases h
    | _ => cases h

theorem Profile.ofFields_filled {profile : Profile} (h : Profile.ofFields fields = .ok profile)
    (hfields : FilledFields (filling env file) fields fields') :
    Profile.ofFields fields' = .ok (profile.withVariables env file fields) := by
  obtain ⟨caFile, hca, h⟩ := bind_eq_ok_iff.mp h
  obtain ⟨certFile, hcert, h⟩ := bind_eq_ok_iff.mp h
  obtain ⟨cluster, hcluster, h⟩ := bind_eq_ok_iff.mp h
  obtain ⟨keyFile, hkey, h⟩ := bind_eq_ok_iff.mp h
  obtain ⟨region, hregion, h⟩ := bind_eq_ok_iff.mp h
  obtain ⟨requestTimeout, hrequest, h⟩ := bind_eq_ok_iff.mp h
  obtain ⟨serverUrl, hserver, h⟩ := bind_eq_ok_iff.mp h
  obtain ⟨tlsEnabled, htls, h⟩ := bind_eq_ok_iff.mp h
  obtain ⟨waitInterval, hinterval, h⟩ := bind_eq_ok_iff.mp h
  obtain ⟨waitTimeout, htimeout, h⟩ := bind_eq_ok_iff.mp h
  cases h
  rw [Profile.ofFields, optional_text_filled hca (hfields.lookup _), optional_text_filled hcert (hfields.lookup _),
    optional_text_filled hcluster (hfields.lookup _), optional_text_filled hkey (hfields.lookup _),
    optional_text_filled hregion (hfields.lookup _), optional_seconds_filled hrequest (hfields.lookup _),
    optional_text_filled hserver (hfields.lookup _), optional_truth_filled htls (hfields.lookup _),
    optional_seconds_filled hinterval (hfields.lookup _), optional_seconds_filled htimeout (hfields.lookup _)]
  rfl

theorem FilledFields.settings {items items' : List Value} (h : List.Forall₂ (Filled (filling env file)) items items')
    (names : List String) : FilledFields (filling env file) (names.zip items) (names.zip items') := by
  induction h generalizing names with
  | nil => simp [FilledFields]
  | cons hitem _ ih =>
    cases names with
    | nil => exact .nil
    | cons name names => exact .cons ⟨hitem⟩ (ih names)

theorem Profile.ofValue_filled {v v' : Value} {profile : Profile} (h : Profile.ofValue v = .ok profile)
    (hv : Filled (filling env file) v v') :
    Profile.ofValue v' = .ok (profile.withVariables env file (writtenSettings v)) := by
  cases hv with
  | table hfields => exact Profile.ofFields_filled h hfields
  | array hitems =>
    rw [Profile.ofValue] at h ⊢
    rw [← hitems.length_eq]
    split_ifs at h ⊢ with hlength
    · exact Profile.ofFields_filled h (FilledFields.settings hitems _)
    · cases h
  | _ => cases h

theorem FilledFields.ordered (h : FilledFields (filling env file) fields fields') :
    FilledFields (filling env file) (ordered fields) (ordered fields') := by
  obtain ⟨hlength, hpairs⟩ := List.forall₂_iff_zip.mp h
  -- The fields and the filled ones are sorted together, which sorts both as they have the same names.
  let pairs := fields.zip fields'
  have hnames (a : (String × Value) × (String × Value)) (ha : a ∈ pairs) : a.2.1 = a.1.1 := by
    obtain ⟨f, f'⟩ := a
    cases hpairs ha
    rfl
  have hleft : pairs.map Prod.fst = fields := List.map_fst_zip hlength.le
  have hright : pairs.map Prod.snd = fields' := List.map_snd_zip hlength.ge
  let sorted := pairs.mergeSort fun a b => a.1.1 ≤ b.1.1
  have hsortedLeft : sorted.map Prod.fst = Toml.ordered fields := by
    rw [Toml.ordered, ← hleft]
    exact List.map_mergeSort fun a _ b _ => rfl
  have hsortedRight : sorted.map Prod.snd = Toml.ordered fields' := by
    rw [Toml.ordered, ← hright]
    exact List.map_mergeSort fun a ha b hb => by rw [hnames a ha, hnames b hb]
  rw [← hsortedLeft, ← hsortedRight, FilledFields, List.forall₂_map_left_iff, List.forall₂_map_right_iff,
    List.forall₂_same]
  exact fun a ha => hpairs ((List.mergeSort_perm pairs _).mem_iff.mp ha)

theorem profiles_filled {profiles : List (String × Profile)}
    (h : (fields.mapM fun f => (Profile.ofValue f.2).map fun profile => (f.1, profile)) = .ok profiles)
    (hfields : FilledFields (filling env file) fields fields') :
    (fields'.mapM fun f => (Profile.ofValue f.2).map fun profile => (f.1, profile)) =
      .ok (profilesWith env file fields profiles) := by
  induction hfields generalizing profiles with
  | nil =>
    cases h
    rfl
  | cons hfield _ ih =>
    rw [List.mapM_cons] at h ⊢
    obtain ⟨_, hfirst, h⟩ := bind_eq_ok_iff.mp h
    obtain ⟨rest, hrest, heq⟩ := bind_eq_ok_iff.mp h
    obtain ⟨profile, hprofile, rfl⟩ := map_eq_ok_iff.mp hfirst
    cases heq
    obtain ⟨hv⟩ := hfield
    exact bind_eq_ok_iff.mpr ⟨_, map_eq_ok_iff.mpr ⟨_, Profile.ofValue_filled hprofile hv, rfl⟩,
      bind_eq_ok_iff.mpr ⟨_, ih hrest, rfl⟩⟩

theorem optional_profiles_filled {o o' : Option Value} {profiles : Option (List (String × Profile))}
    (h : optional profilesOf o = .ok profiles) (ho : Option.Rel (Filled (filling env file)) o o') :
    optional profilesOf o' = .ok (profiles.map (profilesWith env file (writtenProfiles o))) := by
  cases ho with
  | none =>
    cases h
    rfl
  | some hv =>
    obtain ⟨found, hfound, rfl⟩ := map_eq_ok_iff.mp h
    cases hv with
    | table htables => exact map_eq_ok_iff.mpr ⟨_, profiles_filled hfound (FilledFields.ordered htables), rfl⟩
    | _ => cases hfound

theorem ofFields_filled {config : Config} (h : ofFields fields = .ok config)
    (hfields : FilledFields (filling env file) fields fields') :
    ofFields fields' = .ok (withVariables env file fields config) := by
  obtain ⟨defaultProfile, hdefault, h⟩ := bind_eq_ok_iff.mp h
  obtain ⟨profiles, hprofiles, heq⟩ := bind_eq_ok_iff.mp h
  cases heq
  rw [ofFields, optional_text_filled hdefault (hfields.lookup _),
    optional_profiles_filled hprofiles (hfields.lookup _)]
  cases profiles with
  | none =>
    rw [withVariables, Option.getD_none, profilesWith_nil]
    rfl
  | some profiles => rfl

end Filled

/-! ## Loading a configuration -/

section Load

variable {env : Environment} {files : Files} {path file : String} {octets : List UInt8} {fields : Fields}
  {config : Config}

/-- In a configuration file every dollar sign begins a reference that is a text of the file. -/
def OnlyRefers (file : String) (fields : Fields) : Prop :=
  ∀ tail, '$' :: tail <:+ file.toList → (variableAt? file (tail.length + 2)).isSome = true ∧
    BeginsIn (tail.length + 2) fields

theorem parse_of_references (hfields : Toml.parse file = .ok fields) (hconfig : ofFields fields = .ok config)
    (hrefers : OnlyRefers file fields)
    (hplain : ∀ place name value, variableAt? file place = some name → env.get? name = some value →
      ∀ c ∈ value.toList, isPlain c = true) :
    parse env file = .ok (withVariables env file fields config) := by
  have hexpanded := expanded_of_references (fun tail htail => (hrefers tail htail).1) hplain
  obtain ⟨fields', hfields', hfilled⟩ := parse_expanded hfields hexpanded fun tail htail => (hrefers tail htail).2
  rw [String.ofList_toList] at hfields'
  have hconfig' := ofFields_filled hconfig hfilled
  rw [parse, hfields']
  dsimp only [Except.bind]
  rw [hconfig']

theorem load_eq_parse (hread : files.read path = .ok octets) (hfile : Utf8.strict? octets = some file) :
    load env files path = parse env file := by
  have hexists : files.exists? path = true := by rw [Files.exists?, hread]
  rw [load, if_pos hexists, hread]
  dsimp only
  rw [hfile]

end Load

end ServiceCatalog.Config
