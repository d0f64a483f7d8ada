import ServiceCatalog.Proofs.CommandLine.Layers

/-!
# Precedence of layers

A setting comes from the command line, or else from its variable if it has one, or else from the chosen profile, or else
it has its standard value. So a setting of the profile has an effect on one argument only, and none where the command
line or the environment gives it.
-/

namespace ServiceCatalog.CommandLine

open Text Config

/-- A part of the options that one setting alone fills. -/
inductive Part where
  | password
  | region
  | cluster
  | serverUrl
  | caFile
  | certFile
  | keyFile
  | requestTimeout
  | waitInterval
  | waitTimeout

/-- The number of seconds that a text gives. -/
def seconds? (text : String) : Option UInt64 := (word64? text).map .ofNat

namespace Part

/-- What stands in a part. -/
def Content : Part → Type
  | requestTimeout | waitInterval | waitTimeout => UInt64
  | _ => String

def get : (part : Part) → Options → Option part.Content
  | password => Options.password
  | region => Options.region
  | cluster => Options.cluster
  | serverUrl => Options.serverUrl
  | caFile => Options.caFile
  | certFile => Options.certFile
  | keyFile => Options.keyFile
  | requestTimeout => Options.requestTimeout
  | waitInterval => Options.waitInterval
  | waitTimeout => Options.waitTimeout

/-- How the text of the setting is read. -/
def read : (part : Part) → String → Option part.Content
  | password | region | cluster | serverUrl | caFile | certFile | keyFile => some
  | requestTimeout | waitInterval | waitTimeout => seconds?

/-- The name of the setting. -/
def name : Part → String
  | password => "passwd"
  | region => "region"
  | cluster => "cluster"
  | serverUrl => "server-url"
  | caFile => "ca-file"
  | certFile => "cert-file"
  | keyFile => "key-file"
  | requestTimeout => "request-timeout"
  | waitInterval => "wait-interval"
  | waitTimeout => "wait-timeout"

/-- The variable of the setting. -/
def variableName : Part → Option String
  | password => some "CATALOGCTL_ADMIN_PASSWORD"
  | region => some "CATALOGCTL_REGION"
  | cluster => some "CATALOGCTL_CLUSTER"
  | serverUrl => some "CATALOGCTL_SERVER_URL"
  | _ => none

/-- Whether options differ from others by what a text is read as, if a part belongs to the name, and neither in that
part otherwise nor in whether TLS is enabled. -/
def Filled (part : Part) (own text : String) (o o' : Options) : Prop :=
  o'.tlsEnabled = o.tlsEnabled ∧
    if own = part.name then (part.read text).isSome = true ∧ part.get o' = part.read text else part.get o' = part.get o

variable {part : Part} {own text : String} {o o' : Options}

theorem filled_text {changed : Options} (hput : (.ok changed : Except Refusal Options) = .ok o')
    (h : part.Filled own text o changed) : part.Filled own text o o' := by
  cases hput
  exact h

theorem filled_number {put : Int64 → Options → Options} (hput : (numberSetting own put).put text o = .ok o')
    (h : ∀ n, part.Filled own text o (put n o)) : part.Filled own text o o' := by
  simp only [numberSetting] at hput
  split at hput
  · cases hput
    exact h _
  · cases hput

theorem filled_seconds {put : UInt64 → Options → Options} (hput : (secondsSetting own put).put text o = .ok o')
    (h : ∀ n, seconds? text = some n → part.Filled own text o (put n o)) : part.Filled own text o o' := by
  simp only [secondsSetting] at hput
  split at hput
  · rename_i n hn
    cases hput
    exact h (.ofNat n) (by simp [seconds?, hn])
  · cases hput

theorem filled_output (hput : outputSetting.put text o = .ok o') : part.Filled outputSetting.name text o o' := by
  simp only [outputSetting] at hput
  split at hput
  · cases hput
    cases part <;> exact ⟨rfl, rfl⟩
  · cases hput

/-- A setting fills the part that has its name, and no other. -/
theorem filled_of_put (part : Part) :
    ∀ s ∈ settings, ∀ text o o', s.put text o = .ok o' → part.Filled s.name text o o' := by
  unfold settings
  repeat' refine List.forall_mem_cons.mpr ⟨fun text o o' hput => ?_, ?_⟩
  all_goals first
    | exact List.forall_mem_nil _
    | refine filled_text hput ?_
      cases part <;> first | exact ⟨rfl, rfl⟩ | exact ⟨rfl, rfl, rfl⟩
    | refine filled_number hput fun n => ?_
      cases part <;> exact ⟨rfl, rfl⟩
    | refine filled_seconds hput fun n hn => ?_
      cases part <;> first | exact ⟨rfl, rfl⟩ | exact ⟨rfl, Option.isSome_iff_exists.mpr ⟨n, hn⟩, hn.symm⟩
    | exact filled_output hput

theorem tracks (part : Part) : Tracks part.get fun item => (item.valueFor? part.name).map part.read where
  put s hs text o o' hput := by
    have hfilled := (filled_of_put part s hs text o o' hput).2
    by_cases hname : s.name = part.name
    · rw [if_pos hname] at hfilled
      rw [← hname, Item.valueFor?_self]
      exact hfilled.2
    · rw [if_neg hname] at hfilled
      rw [Item.valueFor?_of_ne hname]
      exact hfilled
  change f hf change hsets o := by
    simp only [flags, List.mem_cons, List.not_mem_nil, or_false] at hf
    obtain rfl | rfl | rfl | rfl | rfl := hf <;> cases hsets <;> cases part <;> rfl
  count f hf hcounts o n := by cases part <;> rfl

theorem exists_setting (part : Part) :
    ∃ s ∈ settings, s.name = part.name ∧ s.variableName = part.variableName := by
  cases part <;> decide

variable {env : Environment} {words : List String} {items : List Item}

/-- A part is filled from the words, or else from the environment. -/
theorem get_of_parse (part : Part) (hwrites : Writes words items) (h : parse env words = .ok o) :
    part.get o = ((valueOf? part.name items).or (part.variableName.bind env.get?)).bind part.read := by
  obtain ⟨s, hs, hname, hvariable⟩ := part.exists_setting
  rw [← hvariable]
  exact part.tracks.get_of_parse (by cases part <;> rfl) hs hname hwrites h

/-- What the words give to a part can be read. -/
theorem isSome_of_parse (part : Part) (hwrites : Writes words items) (h : parse env words = .ok o)
    (hvalue : valueOf? part.name items = some text) : (part.read text).isSome = true := by
  obtain ⟨s, hmem, hname⟩ := mem_of_valueOf? hvalue
  obtain ⟨before, after, hput⟩ := (given_of_parse hwrites h).2 s text hmem
  have hfilled := (part.filled_of_put s (known_of_writes hwrites _ hmem) text before after hput).2
  rw [if_pos hname] at hfilled
  exact hfilled.1

/-- A part is filled if the words or the environment give it something. -/
theorem exists_content_of_parse (part : Part) (hwrites : Writes words items) (h : parse env words = .ok o)
    (hgiven : valueOf? part.name items ≠ none ∨ part.variableName.bind env.get? ≠ none) :
    ∃ content, part.get o = some content := by
  rw [← Option.isSome_iff_exists, part.get_of_parse hwrites h]
  cases hvalue : valueOf? part.name items with
  | some text => exact part.isSome_of_parse hwrites h hvalue
  | none =>
    obtain ⟨text, htext⟩ := Option.ne_none_iff_exists'.mp (hgiven.resolve_left (absurd hvalue))
    rw [htext]
    cases part <;> first | rfl | cases htext

end Part

theorem tracks_tlsEnabled :
    Tracks (·.tlsEnabled) fun item => if item.raises "tls-enabled" then some true else none where
  put s hs text o o' hput := (Part.filled_of_put .region s hs text o o' hput).1
  change f hf change hsets o := by
    simp only [flags, List.mem_cons, List.not_mem_nil, or_false] at hf
    obtain rfl | rfl | rfl | rfl | rfl := hf <;> cases hsets <;> rfl
  count f hf hcounts o n := by
    simp only [flags, List.mem_cons, List.not_mem_nil, or_false] at hf
    obtain rfl | rfl | rfl | rfl | rfl := hf <;> cases hcounts
    rfl

/-! ## Where arguments come from -/

/-- Arguments whose settings come from the first layer that gives them. -/
structure Layered (env : Environment) (items : List Item) (chosen : Option Profile) (args : Arguments) : Prop where
  region : args.region = ((valueOf? "region" items).or (env.get? "CATALOGCTL_REGION")).or (chosen.bind (·.region))
  cluster : args.cluster =
    (((valueOf? "cluster" items).or (env.get? "CATALOGCTL_CLUSTER")).or (chosen.bind (·.cluster))).getD "default"
  serverUrl : args.serverUrl =
    ((valueOf? "server-url" items).or (env.get? "CATALOGCTL_SERVER_URL")).or (chosen.bind (·.serverUrl))
  ca : args.tls.ca = (valueOf? "ca-file" items).or (chosen.bind (·.caFile))
  cert : args.tls.cert = (valueOf? "cert-file" items).or (chosen.bind (·.certFile))
  key : args.tls.key = (valueOf? "key-file" items).or (chosen.bind (·.keyFile))
  tlsEnabled : args.tls.enabled = true ↔ raises "tls-enabled" items = true ∨ chosen.bind (·.tlsEnabled) = some true
  requestTimeout : args.requestTimeout =
    .ofSeconds ((((valueOf? "request-timeout" items).bind seconds?).or (chosen.bind (·.requestTimeout))).getD 30)
  waitInterval : args.waitInterval =
    .ofSeconds ((((valueOf? "wait-interval" items).bind seconds?).or (chosen.bind (·.waitInterval))).getD 10)
  waitTimeout : args.waitTimeout =
    .ofSeconds ((((valueOf? "wait-timeout" items).bind seconds?).or (chosen.bind (·.waitTimeout))).getD 600)
  /-- A number of seconds that is given is one that can be read. -/
  readable : ∀ name ∈ ["request-timeout", "wait-interval", "wait-timeout"], ∀ text, valueOf? name items = some text →
    (seconds? text).isSome = true
  password : args.password = (valueOf? "passwd" items).or (env.get? "CATALOGCTL_ADMIN_PASSWORD")

/-- A setting of a profile. -/
inductive ProfileSetting where
  | serverUrl
  | region
  | cluster
  | tlsEnabled
  | caFile
  | certFile
  | keyFile
  | waitTimeout
  | waitInterval
  | requestTimeout

namespace ProfileSetting

/-- A profile with one setting taken from another. -/
def replaced (p : Profile) (other : Profile) : ProfileSetting → Profile
  | serverUrl => { p with serverUrl := other.serverUrl }
  | region => { p with region := other.region }
  | cluster => { p with cluster := other.cluster }
  | tlsEnabled => { p with tlsEnabled := other.tlsEnabled }
  | caFile => { p with caFile := other.caFile }
  | certFile => { p with certFile := other.certFile }
  | keyFile => { p with keyFile := other.keyFile }
  | waitTimeout => { p with waitTimeout := other.waitTimeout }
  | waitInterval => { p with waitInterval := other.waitInterval }
  | requestTimeout => { p with requestTimeout := other.requestTimeout }

/-- Arguments with the one that belongs to a setting of the profile taken from others. -/
def replacedArgument (args : Arguments) (other : Arguments) : ProfileSetting → Arguments
  | serverUrl => { args with serverUrl := other.serverUrl }
  | region => { args with region := other.region }
  | cluster => { args with cluster := other.cluster }
  | tlsEnabled => { args with tls := { args.tls with enabled := other.tls.enabled } }
  | caFile => { args with tls := { args.tls with ca := other.tls.ca } }
  | certFile => { args with tls := { args.tls with cert := other.tls.cert } }
  | keyFile => { args with tls := { args.tls with key := other.tls.key } }
  | waitTimeout => { args with waitTimeout := other.waitTimeout }
  | waitInterval => { args with waitInterval := other.waitInterval }
  | requestTimeout => { args with requestTimeout := other.requestTimeout }

/-- Whether the words or the environment give a setting of the profile. -/
def IsGiven (env : Environment) (items : List Item) : ProfileSetting → Prop
  | serverUrl => valueOf? "server-url" items ≠ none ∨ env.get? "CATALOGCTL_SERVER_URL" ≠ none
  | region => valueOf? "region" items ≠ none ∨ env.get? "CATALOGCTL_REGION" ≠ none
  | cluster => valueOf? "cluster" items ≠ none ∨ env.get? "CATALOGCTL_CLUSTER" ≠ none
  | tlsEnabled => raises "tls-enabled" items = true
  | caFile => valueOf? "ca-file" items ≠ none
  | certFile => valueOf? "cert-file" items ≠ none
  | keyFile => valueOf? "key-file" items ≠ none
  | waitTimeout => valueOf? "wait-timeout" items ≠ none
  | waitInterval => valueOf? "wait-interval" items ≠ none
  | requestTimeout => valueOf? "request-timeout" items ≠ none

/-- A setting of the profile has an effect on the argument that belongs to it, and on no other. -/
theorem arguments_replaced (o : Options) (p other : Profile) (setting : ProfileSetting) :
    o.arguments (some (setting.replaced p other)) =
      setting.replacedArgument (o.arguments (some p)) (o.arguments (some other)) := by
  cases setting <;> rfl

end ProfileSetting

variable {env : Environment} {words : List String} {items : List Item} {o : Options}

theorem layered_of_parse (hwrites : Writes words items) (h : parse env words = .ok o) (chosen : Option Profile) :
    Layered env items chosen (o.arguments chosen) := by
  have hprofile {β : Type} (field : Profile → Option β) (hempty : field {} = none) :
      field (chosen.getD {}) = chosen.bind field := by
    cases chosen with
    | none => exact hempty
    | some p => rfl
  have hread {β : Type} {x : Option β} {name : String} {read : String → Option β}
      (hx : x = ((valueOf? name items).or none).bind read) : x = (valueOf? name items).bind read := by
    rw [hx, Option.or_none]
  have hpart (part : Part) := part.get_of_parse hwrites h
  constructor
  case region =>
    exact congrArg₂ Option.or ((hpart .region).trans (Option.bind_fun_some _)) (hprofile (·.region) rfl)
  case cluster =>
    exact congrArg (Option.getD · "default")
      (congrArg₂ Option.or ((hpart .cluster).trans (Option.bind_fun_some _)) (hprofile (·.cluster) rfl))
  case serverUrl =>
    exact congrArg₂ Option.or ((hpart .serverUrl).trans (Option.bind_fun_some _)) (hprofile (·.serverUrl) rfl)
  case ca =>
    exact congrArg₂ Option.or ((hread (hpart .caFile)).trans (Option.bind_fun_some _)) (hprofile (·.caFile) rfl)
  case cert =>
    exact congrArg₂ Option.or ((hread (hpart .certFile)).trans (Option.bind_fun_some _)) (hprofile (·.certFile) rfl)
  case key =>
    exact congrArg₂ Option.or ((hread (hpart .keyFile)).trans (Option.bind_fun_some _)) (hprofile (·.keyFile) rfl)
  case tlsEnabled =>
    have hraised : o.tlsEnabled = raises "tls-enabled" items := tracks_tlsEnabled.raised_of_parse rfl hwrites h
    rw [← hraised, ← hprofile (·.tlsEnabled) rfl]
    cases htls : (chosen.getD {}).tlsEnabled <;> simp [Options.arguments, htls]
  case requestTimeout =>
    exact congrArg (fun value => Duration.ofSeconds (Option.getD value 30))
      (congrArg₂ Option.or (hread (hpart .requestTimeout)) (hprofile (·.requestTimeout) rfl))
  case waitInterval =>
    exact congrArg (fun value => Duration.ofSeconds (Option.getD value 10))
      (congrArg₂ Option.or (hread (hpart .waitInterval)) (hprofile (·.waitInterval) rfl))
  case waitTimeout =>
    exact congrArg (fun value => Duration.ofSeconds (Option.getD value 600))
      (congrArg₂ Option.or (hread (hpart .waitTimeout)) (hprofile (·.waitTimeout) rfl))
  case readable =>
    simp only [List.forall_mem_cons]
    exact ⟨fun text => Part.requestTimeout.isSome_of_parse hwrites h,
      fun text => Part.waitInterval.isSome_of_parse hwrites h, fun text => Part.waitTimeout.isSome_of_parse hwrites h,
      List.forall_mem_nil _⟩
  case password => exact (hpart .password).trans (Option.bind_fun_some _)

/-- A setting of the profile has no effect if the words or the environment give it. -/
theorem arguments_eq_of_isGiven (hwrites : Writes words items) (h : parse env words = .ok o) {setting : ProfileSetting}
    (hgiven : setting.IsGiven env items) (p other : Profile) :
    o.arguments (some (setting.replaced p other)) = o.arguments (some p) := by
  have hpart (part : Part) := part.exists_content_of_parse hwrites h
  cases setting with
  | serverUrl =>
    obtain ⟨url, hurl⟩ : ∃ url, o.serverUrl = some url := hpart .serverUrl hgiven
    simp [Options.arguments, ProfileSetting.replaced, hurl]
  | region =>
    obtain ⟨region, hregion⟩ : ∃ region, o.region = some region := hpart .region hgiven
    simp [Options.arguments, ProfileSetting.replaced, hregion]
  | cluster =>
    obtain ⟨cluster, hcluster⟩ : ∃ cluster, o.cluster = some cluster := hpart .cluster hgiven
    simp [Options.arguments, ProfileSetting.replaced, hcluster]
  | tlsEnabled =>
    have hraised : o.tlsEnabled = true := (tracks_tlsEnabled.raised_of_parse rfl hwrites h).trans hgiven
    simp [Options.arguments, ProfileSetting.replaced, hraised]
  | caFile =>
    obtain ⟨path, hpath⟩ : ∃ path, o.caFile = some path := hpart .caFile (Or.inl hgiven)
    simp [Options.arguments, ProfileSetting.replaced, hpath]
  | certFile =>
    obtain ⟨path, hpath⟩ : ∃ path, o.certFile = some path := hpart .certFile (Or.inl hgiven)
    simp [Options.arguments, ProfileSetting.replaced, hpath]
  | keyFile =>
    obtain ⟨path, hpath⟩ : ∃ path, o.keyFile = some path := hpart .keyFile (Or.inl hgiven)
    simp [Options.arguments, ProfileSetting.replaced, hpath]
  | waitTimeout =>
    obtain ⟨n, hn⟩ : ∃ n, o.waitTimeout = some n := hpart .waitTimeout (Or.inl hgiven)
    simp [Options.arguments, ProfileSetting.replaced, hn, layeredSeconds]
  | waitInterval =>
    obtain ⟨n, hn⟩ : ∃ n, o.waitInterval = some n := hpart .waitInterval (Or.inl hgiven)
    simp [Options.arguments, ProfileSetting.replaced, hn, layeredSeconds]
  | requestTimeout =>
    obtain ⟨n, hn⟩ : ∃ n, o.requestTimeout = some n := hpart .requestTimeout (Or.inl hgiven)
    simp [Options.arguments, ProfileSetting.replaced, hn, layeredSeconds]

/-- The words of a run write options in one way or another, and none of these gives a setting a value twice. However
they are written, each argument that a profile can give comes from the words, or else from its variable if it has one,
or else from the chosen profile, or else has its standard value, and so does the password, which no profile gives. A
setting of the profile has an effect on the argument that belongs to it only, and on none if the words or the
environment give it. -/
theorem arguments_layered (h : parse env words = .ok o) :
    (∃ items, Writes words items) ∧ ∀ items, Writes words items →
      (∀ name, (items.filterMap (Item.valueFor? name)).length ≤ 1) ∧
      (∀ chosen, Layered env items chosen (o.arguments chosen)) ∧
      ∀ (setting : ProfileSetting) (p other : Profile),
        o.arguments (some (setting.replaced p other)) =
          setting.replacedArgument (o.arguments (some p)) (o.arguments (some other)) ∧
        (setting.IsGiven env items → o.arguments (some (setting.replaced p other)) = o.arguments (some p)) := by
  obtain ⟨p, hp, -⟩ := bind_eq_ok_iff.mp h
  refine ⟨continues_of_readWords hp, fun items hwrites => ⟨(given_of_parse hwrites h).1,
    layered_of_parse hwrites h, fun setting p other => ⟨setting.arguments_replaced o p other, fun hgiven => ?_⟩⟩⟩
  exact arguments_eq_of_isGiven hwrites h hgiven p other

/-- A run takes the region from its words, the cluster from its variable and the time for a request from the profile. -/
theorem layered_of_words_variable_profile :
    ∃ o s, s ∈ settings ∧
      parse ⟨[("CATALOGCTL_REGION", "eu"), ("CATALOGCTL_CLUSTER", "beta")]⟩ ["--op=get_cluster", "--region", "us"] =
        .ok o ∧
      Writes ["--op=get_cluster", "--region", "us"] [.value operationSetting "get_cluster", .value s "us"] ∧
      (o.arguments (some { region := some "ap", requestTimeout := some 7 })).region = some "us" ∧
      (o.arguments (some { cluster := some "gamma", requestTimeout := some 7 })).cluster = "beta" ∧
      (o.arguments (some { region := some "ap", requestTimeout := some 7 })).requestTimeout = .ofSeconds 7 := by
  have hparse : parse ⟨[("CATALOGCTL_REGION", "eu"), ("CATALOGCTL_CLUSTER", "beta")]⟩
      ["--op=get_cluster", "--region", "us"] =
        .ok { operation := "get_cluster", region := some "us", cluster := some "beta" } := by
    decide
  obtain ⟨s, hs, hname⟩ : ∃ s ∈ settings, s.name = "region" := by decide
  have hwrites : Writes ["--op=get_cluster", "--region", "us"]
      [.value operationSetting "get_cluster", .value s "us"] := by
    have hop : "--op=get_cluster" = "--" ++ operationSetting.name ++ "=" ++ "get_cluster" := by decide
    have hregion : "--region" = "--" ++ s.name := by
      rw [hname]
      decide
    have hoperation : operationSetting ∈ settings := by simp [settings]
    rw [hop, hregion]
    exact .joined hoperation (.spaced hs (Or.inl (by decide)) .nil)
  obtain ⟨-, hlayered, -⟩ := (arguments_layered hparse).2 _ hwrites
  refine ⟨_, s, hs, hparse, hwrites, ?_, ?_, ?_⟩
  · rw [(hlayered _).region]
    simp [valueOf?, Item.valueFor?, hname, operationSetting, textSetting]
  · rw [(hlayered _).cluster]
    simp [valueOf?, Item.valueFor?, hname, operationSetting, textSetting, Environment.get?, List.lookup_cons]
  · rw [(hlayered _).requestTimeout]
    simp [valueOf?, Item.valueFor?, hname, operationSetting, textSetting]

end ServiceCatalog.CommandLine
