import ServiceCatalog.Program
import ServiceCatalog.Proofs.Config.Order

/-!
# The profile of a run

A profile is chosen by its name, or as the only one. The choice depends neither on the order of the profiles nor on what
is in the others, and what a run is to do depends on the chosen one only.
-/

namespace ServiceCatalog

namespace Config

/-- How a profile is chosen: by a name, which is the explicit one or else the default, or for want of a name as the only
profile there is. -/
inductive Selects (config : Config) (explicit : Option String) : Except Error (Option Profile) → Prop
  | named {name : String} {profile : Profile} : explicit.or config.defaultProfile = some name →
    (name, profile) ∈ config.profiles → Selects config explicit (.ok (some profile))
  | unknown {name : String} : explicit.or config.defaultProfile = some name →
    (∀ profile, (name, profile) ∉ config.profiles) → Selects config explicit (.error (.profileNotFound name))
  | only {name : String} {profile : Profile} : explicit = none → config.defaultProfile = none →
    (∀ p, p ∈ config.profiles ↔ p = (name, profile)) → Selects config explicit (.ok (some profile))
  | nothing : explicit = none → config.defaultProfile = none → (∀ p, ¬∀ p', p' ∈ config.profiles ↔ p' = p) →
    Selects config explicit (.ok none)

section Resolve

variable {config : Config} {explicit : Option String}

theorem resolve_of_lookup_some {name : String} {profile : Profile}
    (hname : explicit.or config.defaultProfile = some name) (hlookup : config.profiles.lookup name = some profile) :
    config.resolve explicit = .ok (some profile) := by
  rw [resolve, hname]
  dsimp only
  rw [hlookup]

theorem resolve_of_lookup_none {name : String} (hname : explicit.or config.defaultProfile = some name)
    (hlookup : config.profiles.lookup name = none) : config.resolve explicit = .error (.profileNotFound name) := by
  rw [resolve, hname]
  dsimp only
  rw [hlookup]

theorem resolve_of_only {p : String × Profile} (hname : explicit.or config.defaultProfile = none)
    (hprofiles : config.profiles = [p]) : config.resolve explicit = .ok (some p.2) := by
  rw [resolve, hname, hprofiles]

theorem resolve_of_not_only (hname : explicit.or config.defaultProfile = none)
    (hprofiles : ∀ p, config.profiles ≠ [p]) : config.resolve explicit = .ok none := by
  rw [resolve, hname]
  dsimp only
  split
  · rename_i hsingle
    exact absurd hsingle (hprofiles _)
  · rfl

theorem only_iff (h : config.NamesDistinct) {p : String × Profile} :
    (∀ p', p' ∈ config.profiles ↔ p' = p) ↔ config.profiles = [p] := by
  constructor
  · intro honly
    refine List.perm_singleton.mp ((List.perm_ext_iff_of_nodup h.of_map (List.nodup_singleton p)).mpr fun p' => ?_)
    rw [honly, List.mem_singleton]
  · intro hprofiles p'
    rw [hprofiles, List.mem_singleton]

/-- What is resolved is what is chosen. -/
theorem resolve_eq_iff (h : config.NamesDistinct) {r : Except Error (Option Profile)} :
    config.resolve explicit = r ↔ config.Selects explicit r := by
  constructor
  · rintro rfl
    cases hname : explicit.or config.defaultProfile with
    | some name =>
      cases hlookup : config.profiles.lookup name with
      | some profile =>
        rw [resolve_of_lookup_some hname hlookup]
        exact .named hname (mem_of_lookup hlookup)
      | none =>
        rw [resolve_of_lookup_none hname hlookup]
        exact .unknown hname fun profile hmem => lookup_eq_none_iff.mp hlookup (List.mem_map_of_mem hmem)
    | none =>
      obtain ⟨hexplicit, hdefault⟩ := Option.or_eq_none_iff.mp hname
      by_cases hprofiles : ∃ p, config.profiles = [p]
      · obtain ⟨p, hprofiles⟩ := hprofiles
        rw [resolve_of_only hname hprofiles]
        exact .only hexplicit hdefault ((only_iff h).mpr hprofiles)
      · rw [not_exists] at hprofiles
        rw [resolve_of_not_only hname hprofiles]
        exact .nothing hexplicit hdefault fun p honly => hprofiles p ((only_iff h).mp honly)
  · intro hr
    cases hr with
    | named hname hmem => exact resolve_of_lookup_some hname ((lookup_eq_some_iff h).mpr hmem)
    | @unknown name hname hmem =>
      refine resolve_of_lookup_none hname (lookup_eq_none_iff.mpr fun hnames => ?_)
      obtain ⟨⟨_, profile⟩, hp, rfl⟩ := List.mem_map.mp hnames
      exact hmem profile hp
    | only hexplicit hdefault honly =>
      exact resolve_of_only (Option.or_eq_none_iff.mpr ⟨hexplicit, hdefault⟩) ((only_iff h).mp honly)
    | nothing hexplicit hdefault hnone =>
      exact resolve_of_not_only (Option.or_eq_none_iff.mpr ⟨hexplicit, hdefault⟩) fun p hprofiles =>
        hnone p ((only_iff h).mpr hprofiles)

/-- The choice only depends on which profiles there are. -/
theorem Selects.of_perm {config' : Config} {r : Except Error (Option Profile)} (h : config.Selects explicit r)
    (hdefault : config'.defaultProfile = config.defaultProfile) (hperm : config.profiles.Perm config'.profiles) :
    config'.Selects explicit r := by
  cases h with
  | named hname hmem => exact .named (hdefault ▸ hname) (hperm.mem_iff.mp hmem)
  | unknown hname hmem => exact .unknown (hdefault ▸ hname) fun profile => by rw [← hperm.mem_iff]; exact hmem profile
  | only hexplicit hnone honly =>
    exact .only hexplicit (hdefault.trans hnone) fun p => by rw [← hperm.mem_iff]; exact honly p
  | nothing hexplicit hnone hmany =>
    refine .nothing hexplicit (hdefault.trans hnone) fun p => ?_
    simp only [← hperm.mem_iff]
    exact hmany p

end Resolve

end Config

namespace Program

open Config

/-- What a run is to do, once its configuration and the profile in it are known. -/
theorem invocation_of_resolve {env : Environment} {files : Files} {o : CommandLine.Options} {config : Config}
    {profile : Option Profile} (hconfig : loadFrom env files o.configFile = .ok config)
    (hprofile : config.resolve o.profile = .ok profile) :
    invocation env files o = (Invocation.ofArguments env (o.arguments profile)).mapError Failure.ofServiceError := by
  rw [invocation, chosenProfile, hconfig]
  dsimp only [Except.bind]
  rw [hprofile]
  rfl

end Program

namespace Config

/-! ## A file with two profiles -/

section RegionSections

open Text Toml

/-- The section of a configuration file with a profile of which only the region is given. -/
def regionSection (name region : List Char) : List Char :=
  '[' :: ("profiles.".toList ++ (name ++ (']' :: ("\nregion = \"".toList ++ (region ++ ['"', '\n'])))))

/-- A configuration file with two such sections. -/
def regionSections (name region other place : List Char) : String :=
  String.ofList (regionSection name region ++ regionSection other place)

variable {name region other place cs : List Char} {lines : List Line}

theorem simpleKey_bare (hname : ∀ c ∈ name, isKeyChar c = true) (hne : name ≠ []) :
    simpleKey (skipSpace (name ++ ']' :: cs)) = .ok (⟨(name ++ ']' :: cs).length, String.ofList name⟩, ']' :: cs) := by
  obtain ⟨first, rest, rfl⟩ := List.exists_cons_of_ne_nil hne
  have hother (c : Char) (hc : isKeyChar c = false) : first ≠ c := by
    rintro rfl
    rw [hname first List.mem_cons_self] at hc
    cases hc
  have hspace : isSpace first = false := by
    simp [isSpace, hother ' ' (by decide), hother '\t' (by decide)]
  have hskip : skipSpace (first :: rest ++ ']' :: cs) = first :: rest ++ ']' :: cs :=
    List.dropWhile_cons_of_neg (by simp [hspace])
  have htake : (first :: rest ++ ']' :: cs).takeWhile isKeyChar = first :: rest := by
    rw [List.takeWhile_append_of_pos hname, List.takeWhile_cons_of_neg (by decide), List.append_nil]
  have hdrop : (first :: rest ++ ']' :: cs).dropWhile isKeyChar = ']' :: cs := by
    rw [List.dropWhile_append_of_pos hname, List.dropWhile_cons_of_neg (by decide)]
  have hplain (c : Char) (hc : isKeyChar c = false) : (first :: rest ++ ']' :: cs).head? ≠ some c := by
    simpa using hother c hc
  rw [hskip, simpleKey_plain (hplain _ (by decide)) (hplain _ (by decide)), htake, hdrop]
  rfl

/-- A section of this form is read as its header and the one field below. -/
theorem consistsOf_regionSection (hname : ∀ c ∈ name, isKeyChar c = true) (hne : name ≠ [])
    (hregion : ∀ c ∈ region, isPlain c = true) (hcs : ConsistsOf cs lines) :
    ∃ a b c d, ConsistsOf (regionSection name region ++ cs)
      (.header [⟨a, "profiles"⟩] ⟨b, String.ofList name⟩ :: .field [] ⟨c, "region"⟩ (.text d (String.ofList region)) ::
        lines) := by
  let value := region ++ '"' :: '\n' :: cs
  let behind := ']' :: ("\nregion = \"".toList ++ value)
  have hlast : ∃ b, ReadsKey (name ++ behind) [] ⟨b, String.ofList name⟩ behind :=
    ⟨_, @ReadsKey.last _ behind _ (simpleKey_bare hname hne) nofun⟩
  obtain ⟨b, hlast⟩ := hlast
  have hkey : ∃ a, ReadsKey ("profiles.".toList ++ (name ++ behind)) [⟨a, "profiles"⟩] ⟨b, String.ofList name⟩ behind :=
    ⟨_, @ReadsKey.part _ ('.' :: (name ++ behind)) _ _ _ _ _ rfl rfl hlast⟩
  obtain ⟨a, hkey⟩ := hkey
  have hheader : LineAt ('[' :: ("profiles.".toList ++ (name ++ behind)))
      (.header [⟨a, "profiles"⟩] ⟨b, String.ofList name⟩) ("region = \"".toList ++ value) := .header nofun hkey rfl
  have hregionKey : ∃ c, ReadsKey ("region = \"".toList ++ value) [] ⟨c, "region"⟩ ('=' :: ' ' :: '"' :: value) :=
    ⟨_, @ReadsKey.last _ (" = \"".toList ++ value) _ rfl nofun⟩
  obtain ⟨c, hregionKey⟩ := hregionKey
  have hquoted : quotedText? ('"' :: value) = some (.ok (region, '\n' :: cs)) :=
    quotedText?_of_isPlain hregion fun _ => nofun
  have hfield : LineAt ("region = \"".toList ++ value)
      (.field [] ⟨c, "region"⟩ (.text ('"' :: value).length (String.ofList region))) cs :=
    .field nofun (.mk hregionKey (.text hquoted)) rfl
  have htext : regionSection name region ++ cs = '[' :: ("profiles.".toList ++ (name ++ behind)) := by
    simp only [regionSection, List.cons_append, List.append_assoc, List.nil_append, behind, value]
  rw [htext]
  exact ⟨a, b, c, _, .line rfl nofun hheader (.line rfl nofun hfield hcs)⟩

theorem consistsOf_regionSections (hname : ∀ c ∈ name, isKeyChar c = true) (hother : ∀ c ∈ other, isKeyChar c = true)
    (hnil : name ≠ []) (hnil' : other ≠ []) (hregion : ∀ c ∈ region, isPlain c = true)
    (hplace : ∀ c ∈ place, isPlain c = true) :
    ∃ a b c d a' b' c' d', ConsistsOf (withoutMark (regionSections name region other place))
      [.header [⟨a, "profiles"⟩] ⟨b, String.ofList name⟩, .field [] ⟨c, "region"⟩ (.text d (String.ofList region)),
        .header [⟨a', "profiles"⟩] ⟨b', String.ofList other⟩,
        .field [] ⟨c', "region"⟩ (.text d' (String.ofList place))] := by
  have hend : ConsistsOf [] [] := .done rfl
  obtain ⟨a', b', c', d', hsecond⟩ := consistsOf_regionSection hother hnil' hplace hend
  obtain ⟨a, b, c, d, hfirst⟩ := consistsOf_regionSection hname hnil hregion hsecond
  refine ⟨a, b, c, d, a', b', c', d', ?_⟩
  rw [List.append_nil] at hfirst
  rw [withoutMark, regionSections, String.toList_ofList]
  exact hfirst

theorem isSection_region (a b c d : Nat) (name region : String) :
    IsSection ["profiles", name] [.header [⟨a, "profiles"⟩] ⟨b, name⟩, .field [] ⟨c, "region"⟩ (.text d region)] where
  headed := ⟨_, _, rfl, rfl⟩
  inside := by
    intro l hl keys hkeys
    obtain rfl | hl := List.mem_cons.mp hl
    · cases hkeys
      exact List.prefix_refl _
    · obtain rfl := List.mem_singleton.mp hl
      cases hkeys

/-- Two sections of this form can stand in either order. -/
theorem sameButOrder_regionSections (hne : String.ofList name ≠ String.ofList other)
    (hname : ∀ c ∈ name, isKeyChar c = true) (hother : ∀ c ∈ other, isKeyChar c = true) (hnil : name ≠ [])
    (hnil' : other ≠ []) (hregion : ∀ c ∈ region, isPlain c = true) (hplace : ∀ c ∈ place, isPlain c = true) :
    SameButOrder (regionSections name region other place) (regionSections other place name region) := by
  obtain ⟨a, b, c, d, a', b', c', d', hlines⟩ := consistsOf_regionSections hname hother hnil hnil' hregion hplace
  obtain ⟨e, f, g, h, e', f', g', h', hlines'⟩ := consistsOf_regionSections hother hname hnil' hnil hplace hregion
  have hmoved := @SectionsMoved.swap ["profiles"] _ _ [] _ _ [] hne (isSection_region a b c d _ (String.ofList region))
    (isSection_region a' b' c' d' _ (String.ofList place)) nofun
  refine ⟨_, _, _, hlines, hmoved, ?_, hlines'⟩
  exact .cons (.header rfl rfl) (.cons (.field rfl rfl .text)
    (.cons (.header rfl rfl) (.cons (.field rfl rfl .text) .nil)))

end RegionSections

/-! ## The choice in a run -/

/-- For every explicit name: among profiles of different names, in whatever order they are stored, the profile is
chosen as it should be, and whatever is loaded has profiles of different names. Files whose sections stand in another
order, or the fields in their tables, hold the same configuration. Two runs with the same chosen profile have the same
arguments and are to do the same, whatever else is in their configurations. -/
theorem resolve_selects (explicit : Option String) :
    (∀ config : Config, config.NamesDistinct → ∀ r, config.resolve explicit = r ↔ config.Selects explicit r) ∧
    (∀ config config' : Config, config.NamesDistinct → config'.defaultProfile = config.defaultProfile →
      config.profiles.Perm config'.profiles → config'.resolve explicit = config.resolve explicit) ∧
    (∀ env files named config, loadFrom env files named = .ok config → config.NamesDistinct) ∧
    (∀ env files files' path path' octets octets' file file', files.read path = .ok octets →
      Text.Utf8.strict? octets = some file → files'.read path' = .ok octets' → Text.Utf8.strict? octets' = some file' →
      Toml.SameButOrder (Text.Expansion.expandKnown env.get? file) (Text.Expansion.expandKnown env.get? file') →
      ∀ config, load env files path = .ok config ↔ load env files' path' = .ok config) ∧
    ∀ env files files' (o : CommandLine.Options) config config' profile, o.profile = explicit →
      loadFrom env files o.configFile = .ok config → loadFrom env files' o.configFile = .ok config' →
      config.resolve explicit = .ok profile → config'.resolve explicit = .ok profile →
      Program.invocation env files o =
        (Invocation.ofArguments env (o.arguments profile)).mapError Failure.ofServiceError ∧
      Program.invocation env files' o = Program.invocation env files o := by
  refine ⟨fun config h r => resolve_eq_iff h, fun config config' h hdefault hperm => ?_,
    fun env files named config h => namesDistinct_loadFrom h, ?_, ?_⟩
  · have h' : config'.NamesDistinct := (hperm.map Prod.fst).nodup_iff.mp h
    exact (resolve_eq_iff h').mpr (((resolve_eq_iff h).mp rfl).of_perm hdefault hperm)
  · intro env files files' path path' octets octets' file file' hread hfile hread' hfile' hsame config
    exact load_eq_ok_iff_of_sameButOrder hread hfile hread' hfile' hsame
  · rintro env files files' o config config' profile rfl hconfig hconfig' hprofile hprofile'
    have hrun := Program.invocation_of_resolve hconfig hprofile
    exact ⟨hrun, (Program.invocation_of_resolve hconfig' hprofile').trans hrun.symm⟩

/-- Of two profiles the second is chosen by its name, and it makes no difference which of the two stands first. -/
theorem resolve_selects_second :
    (∀ config,
      load ⟨[]⟩ ⟨fun _ => .ok (Text.Utf8.encode (regionSections ['a'] ['x'] ['b'] ['y']))⟩ "" = .ok config ↔
        load ⟨[]⟩ ⟨fun _ => .ok (Text.Utf8.encode (regionSections ['b'] ['y'] ['a'] ['x']))⟩ "" = .ok config) ∧
    resolve ⟨none, [("a", { region := some "x" }), ("b", { region := some "y" })]⟩ (some "b") =
      .ok (some { region := some "y" }) := by
  obtain ⟨hselects, -, -, hload, -⟩ := resolve_selects (some "b")
  have hdistinct : NamesDistinct ⟨none, [("a", { region := some "x" }), ("b", { region := some "y" })]⟩ := by
    unfold NamesDistinct
    decide
  refine ⟨hload _ _ _ _ _ _ _ _ _ rfl (Text.Utf8.strict?_encode _) rfl (Text.Utf8.strict?_encode _) ?_,
    (hselects _ hdistinct _).mpr (.named rfl (by decide))⟩
  have hplain : ∀ file ∈ [regionSections ['a'] ['x'] ['b'] ['y'], regionSections ['b'] ['y'] ['a'] ['x']],
      Text.Expansion.expandKnown (Environment.get? ⟨[]⟩) file = file := by decide +kernel
  rw [hplain _ (by decide), hplain _ (by decide)]
  exact sameButOrder_regionSections (by decide) (List.forall_mem_singleton.mpr rfl) (List.forall_mem_singleton.mpr rfl)
    nofun nofun (List.forall_mem_singleton.mpr rfl) (List.forall_mem_singleton.mpr rfl)

end Config

end ServiceCatalog
