import ServiceCatalog.CommandLine.Parser
import ServiceCatalog.Proofs.Padding

/-!
# Blank options

The layers of a setting are told apart by whether a value is there, while the checks of the arguments count a blank
value as none. A blank option therefore hides what lies beneath it without taking its place.
-/

namespace ServiceCatalog

open Text Config Connection

/-! ## What an error tells -/

/-- What an error tells about the arguments, where something is missing or the address is none. -/
def Arguments.Tells (args : Arguments) : ServiceError → Prop
  | .validation .noRegion => given? args.region = none
  | .validation .noCluster => isBlankText args.cluster = true
  | .configuration (.incompleteTls enabled ca cert key) =>
    enabled = args.tls.enabled ∧ ca = given? args.tls.ca ∧ cert = given? args.tls.cert ∧ key = given? args.tls.key
  | .configuration (.badUrl text _) => text = Endpoint.text args.serverUrl args.cluster (.secured args.tls.enabled)
  | _ => True

/-- The rules for what an operation needs are about neither region nor cluster. -/
theorem Arguments.not_reports_of_mem_fieldRules {args : Arguments} {rule : Rule Violation}
    (hrule : rule ∈ args.fieldRules) : ¬ rule.Reports .noRegion ∧ ¬ rule.Reports .noCluster := by
  have hreported {holds : Prop} {violation : Violation} (hother : violation ≠ .noRegion ∧ violation ≠ .noCluster)
      (heq : rule = .reported holds violation) : ¬ rule.Reports .noRegion ∧ ¬ rule.Reports .noCluster := by
    subst heq
    exact ⟨hother.1.symm, hother.2.symm⟩
  have hkind (heq : rule = args.kindRule) : ¬ rule.Reports .noRegion ∧ ¬ rule.Reports .noCluster := by
    subst heq
    constructor <;>
    · rintro ⟨_, -, hviolation⟩
      cases hviolation
  unfold fieldRules at hrule
  split at hrule
  · simp only [orderRules, Service.Resources.rules, List.cons_append, List.nil_append, List.mem_cons, List.not_mem_nil,
      or_false] at hrule
    obtain h | h | h | h | h | h | h | h := hrule
    · exact hreported (by simp) h
    · exact hkind h
    · exact hreported (by simp) h
    · exact hreported (by simp) h
    · exact hreported (by simp) h
    · exact hreported (by simp) h
    · exact hreported (by simp) h
    · subst h
      constructor <;>
      · rintro ⟨_, _, -, -, hviolation⟩
        cases hviolation
  · exact hkind (List.mem_singleton.mp hrule)
  · exact hreported (by simp) (List.mem_singleton.mp hrule)
  · cases hrule

theorem Arguments.tells_of_reports {env : Environment} {args : Arguments} {rule : Rule ServiceError} {e : ServiceError}
    (hrule : rule ∈ args.rules env) (hbroken : ¬ rule.Holds) (hreports : rule.Reports e) : args.Tells e := by
  have hfield (hmem : rule ∈ args.fieldRules.map (Rule.mapError ServiceError.validation)) : args.Tells e := by
    obtain ⟨own, hown, rfl⟩ := List.mem_map.mp hmem
    obtain ⟨violation, hviolation, rfl⟩ := hreports
    have hnot := not_reports_of_mem_fieldRules hown
    cases violation <;> first | exact True.intro | exact absurd hviolation hnot.1 | exact absurd hviolation hnot.2
  have hpath {path : Option String} (heq : rule = (pathRule env args.tls.enabled path).mapError .configuration) :
      args.Tells e := by
    subst heq
    obtain ⟨_, ⟨_, _, -, -, rfl⟩, rfl⟩ := hreports
    exact True.intro
  simp only [rules, TlsOptions.rules, List.mem_append, List.mem_cons, List.not_mem_nil, or_false,
    List.map_cons, List.map_nil] at hrule
  obtain (((h | h | h | h) | (h | h | h | h)) | (h | h | h)) | h := hrule
  · subst h
    cases hreports
    exact True.intro
  · subst h
    cases hreports
    exact True.intro
  · subst h
    cases hreports
    exact Option.not_isSome_iff_eq_none.mp hbroken
  · subst h
    cases hreports
    exact Eq.mp (Bool.not_eq_false _) hbroken
  · subst h
    rw [Rule.mapError_reported] at hreports
    cases hreports
    exact ⟨rfl, rfl, rfl, rfl⟩
  · exact hpath h
  · exact hpath h
  · exact hpath h
  · subst h
    cases hreports
    exact True.intro
  · subst h
    obtain ⟨_, ⟨_, -, rfl⟩, rfl⟩ := hreports
    rfl
  · subst h
    cases hreports
    exact True.intro
  · exact hfield h

theorem Invocation.tells_of_error {env : Environment} {args : Arguments} {e : ServiceError}
    (h : ofArguments env args = .error e) : args.Tells e := by
  obtain ⟨earlier, rule, later, hrules, -, hbroken, hreports⟩ := (decides_ofArguments env args).firstBroken _ h
  have hmem : rule ∈ args.rules env := by simp [hrules]
  exact Arguments.tells_of_reports hmem hbroken hreports

namespace CommandLine

/-- A text that the options or else the profile give, or else has a standard value. -/
inductive LayeredText where
  | region
  | cluster
  | serverUrl
  | caFile
  | certFile
  | keyFile

namespace LayeredText

/-- What the options say. -/
def option (o : Options) : LayeredText → Option String
  | region => o.region
  | cluster => o.cluster
  | serverUrl => o.serverUrl
  | caFile => o.caFile
  | certFile => o.certFile
  | keyFile => o.keyFile

/-- What counts where the options say nothing. -/
def beneath (chosen : Option Profile) : LayeredText → Option String
  | region => (chosen.getD {}).region
  | cluster => some ((chosen.getD {}).cluster.getD "default")
  | serverUrl => (chosen.getD {}).serverUrl
  | caFile => (chosen.getD {}).caFile
  | certFile => (chosen.getD {}).certFile
  | keyFile => (chosen.getD {}).keyFile

end LayeredText

/-- A value, or none if it is blank and to be left out. -/
def unlessBlank (leaveOut : Bool) (value : Option String) : Option String :=
  if leaveOut = true ∧ value.any isBlankText = true then none else value

/-- Whether a value is blank and to be left out, and the one beneath it is not blank. -/
def Hidden (leaveOut : Bool) (value beneath : Option String) : Prop :=
  leaveOut = true ∧ (∃ blank, value = some blank ∧ isBlankText blank = true) ∧
    ∃ text, beneath = some text ∧ isBlankText text = false

theorem given?_eq_none_of_blank {text : String} (h : isBlankText text = true) : given? (some text) = none := by
  simp [given?, h]

theorem given?_of_hidden {leaveOut : Bool} {value beneath : Option String} (h : Hidden leaveOut value beneath) :
    given? (value.or beneath) = none ∧ (given? ((unlessBlank leaveOut value).or beneath)).isSome = true := by
  obtain ⟨rfl, ⟨blank, rfl, hblank⟩, text, rfl, htext⟩ := h
  simp [unlessBlank, given?, hblank, htext]

theorem given?_of_not_hidden {leaveOut : Bool} {value beneath : Option String} (h : ¬ Hidden leaveOut value beneath) :
    given? ((unlessBlank leaveOut value).or beneath) = given? (value.or beneath) := by
  unfold unlessBlank
  split
  · rename_i hblank
    cases value with
    | none => rfl
    | some text =>
      have hnone : given? beneath = none := by
        cases beneath with
        | none => rfl
        | some other =>
          by_contra hother
          refine h ⟨hblank.1, ⟨text, rfl, by simpa using hblank.2⟩, other, rfl, ?_⟩
          simpa using mt given?_eq_none_of_blank hother
      rw [Option.none_or, Option.some_or, hnone, given?_eq_none_of_blank (by simpa using hblank.2)]
  · rfl

namespace Options

/-- The same options without some of the texts, where these are blank. -/
def withoutBlanks (o : Options) (leaveOut : LayeredText → Bool) : Options :=
  { o with
    region := unlessBlank (leaveOut .region) o.region
    cluster := unlessBlank (leaveOut .cluster) o.cluster
    serverUrl := unlessBlank (leaveOut .serverUrl) o.serverUrl
    caFile := unlessBlank (leaveOut .caFile) o.caFile
    certFile := unlessBlank (leaveOut .certFile) o.certFile
    keyFile := unlessBlank (leaveOut .keyFile) o.keyFile }

/-- A text of the options is blank and to be left out, and hides one that is not blank. -/
def Hides (o : Options) (leaveOut : LayeredText → Bool) (chosen : Option Profile) (t : LayeredText) : Prop :=
  Hidden (leaveOut t) (t.option o) (t.beneath chosen)

/-- The invocation that options make with the chosen profile. -/
def invocation (env : Environment) (chosen : Option Profile) (o : Options) : Except ServiceError Invocation :=
  Invocation.ofArguments env (o.arguments chosen)

end Options

variable {env : Environment} {chosen : Option Profile} {o : Options} {leaveOut : LayeredText → Bool}

/-- Options with and without their blank texts lead to the same address. -/
def SameAddress (o : Options) (leaveOut : LayeredText → Bool) (chosen : Option Profile) : Prop :=
  let address (args : Arguments) := Endpoint.text args.serverUrl args.cluster (.secured args.tls.enabled)
  address ((o.withoutBlanks leaveOut).arguments chosen) = address (o.arguments chosen) ∨
    ∃ url, Url.parse (address (o.arguments chosen)) = .ok url ∧
      Url.parse (address ((o.withoutBlanks leaveOut).arguments chosen)) = .ok url

/-- What blank options hide is not missed: where one hides a region, a cluster or a file, no result says that such a
thing is missing, and where one hides an address, the same address is used or none is needed. -/
structure Harmless (o : Options) (leaveOut : LayeredText → Bool) (chosen : Option Profile)
    (before after : Except ServiceError Invocation) : Prop where
  region : o.Hides leaveOut chosen .region → before ≠ .error (.validation .noRegion)
  cluster : o.Hides leaveOut chosen .cluster → before ≠ .error (.validation .noCluster)
  files : o.Hides leaveOut chosen .caFile ∨ o.Hides leaveOut chosen .certFile ∨ o.Hides leaveOut chosen .keyFile →
    ∀ enabled ca cert key, before ≠ .error (.configuration (.incompleteTls enabled ca cert key)) ∧
      after ≠ .error (.configuration (.incompleteTls enabled ca cert key))
  address : o.Hides leaveOut chosen .serverUrl → SameAddress o leaveOut chosen ∨
    (∃ e, before = .error e) ∧ ∀ text cause, before ≠ .error (.configuration (.badUrl text cause)) ∧
      after ≠ .error (.configuration (.badUrl text cause))

/-! ## What is seen without the blanks -/

theorem region_of_not_hides (h : ¬ o.Hides leaveOut chosen .region) :
    given? ((o.withoutBlanks leaveOut).arguments chosen).region = given? (o.arguments chosen).region :=
  given?_of_not_hidden h

theorem serverUrl_of_not_hides (h : ¬ o.Hides leaveOut chosen .serverUrl) :
    given? ((o.withoutBlanks leaveOut).arguments chosen).serverUrl = given? (o.arguments chosen).serverUrl :=
  given?_of_not_hidden h

theorem cluster_of_hides (h : o.Hides leaveOut chosen .cluster) :
    isBlankText (o.arguments chosen).cluster = true ∧
      isBlankText ((o.withoutBlanks leaveOut).arguments chosen).cluster = false := by
  obtain ⟨hleaveOut, ⟨blank, hcluster, hblank⟩, text, htext, hnamed⟩ := h
  obtain rfl := Option.some.inj htext
  have hcluster : o.cluster = some blank := hcluster
  simp [Options.arguments, Options.withoutBlanks, unlessBlank, hcluster, hblank, hleaveOut, hnamed]

/-- A cluster that hides none is the same without blank options, or there is none in either way. -/
theorem cluster_of_not_hides (h : ¬ o.Hides leaveOut chosen .cluster) :
    ((o.withoutBlanks leaveOut).arguments chosen).cluster = (o.arguments chosen).cluster ∨
      isBlankText (o.arguments chosen).cluster = true ∧
        isBlankText ((o.withoutBlanks leaveOut).arguments chosen).cluster = true := by
  cases hcluster : o.cluster with
  | none =>
    left
    simp [Options.arguments, Options.withoutBlanks, unlessBlank, hcluster]
  | some text =>
    by_cases hblank : leaveOut .cluster = true ∧ isBlankText text = true
    · right
      have hbeneath : isBlankText ((chosen.getD {}).cluster.getD "default") = true := by
        by_contra hnamed
        exact h ⟨hblank.1, ⟨text, hcluster, hblank.2⟩, _, rfl, by simpa using hnamed⟩
      simp [Options.arguments, Options.withoutBlanks, unlessBlank, hcluster, hblank, hbeneath]
    · left
      simp [Options.arguments, Options.withoutBlanks, unlessBlank, hcluster, hblank]

/-- Without blank options the files are found in the same way, if none is hidden or nothing is missing in either way. -/
theorem resolve_withoutBlanks (env : Environment)
    (h : o.Hides leaveOut chosen .caFile ∨ o.Hides leaveOut chosen .certFile ∨ o.Hides leaveOut chosen .keyFile →
      (o.arguments chosen).tls.Complete ∧ ((o.withoutBlanks leaveOut).arguments chosen).tls.Complete) :
    ((o.withoutBlanks leaveOut).arguments chosen).tls.resolve env = (o.arguments chosen).tls.resolve env := by
  by_cases hhides :
    o.Hides leaveOut chosen .caFile ∨ o.Hides leaveOut chosen .certFile ∨ o.Hides leaveOut chosen .keyFile
  · obtain ⟨hbefore, hafter⟩ := h hhides
    -- Before, a file is missing; after, one is there. So before there is none and after there are all.
    have hmissing : (o.arguments chosen).tls.filesGiven ≠ 3 := by
      rw [ne_eq, TlsOptions.filesGiven_eq_three_iff]
      rintro ⟨ca, cert, key, hca, hcert, hkey⟩
      obtain hhides | hhides | hhides := hhides
      · exact absurd ((given?_of_hidden hhides).1.symm.trans hca) nofun
      · exact absurd ((given?_of_hidden hhides).1.symm.trans hcert) nofun
      · exact absurd ((given?_of_hidden hhides).1.symm.trans hkey) nofun
    have hthere : ((o.withoutBlanks leaveOut).arguments chosen).tls.filesGiven ≠ 0 := by
      rw [ne_eq, TlsOptions.filesGiven_eq_zero_iff]
      rintro ⟨hca, hcert, hkey⟩
      obtain hhides | hhides | hhides := hhides
      · exact absurd (hca ▸ (given?_of_hidden hhides).2) nofun
      · exact absurd (hcert ▸ (given?_of_hidden hhides).2) nofun
      · exact absurd (hkey ▸ (given?_of_hidden hhides).2) nofun
    obtain ⟨hnone, hoff⟩ := hbefore.resolve_right hmissing
    have hall := hafter.resolve_left fun hnone => hthere hnone.1
    obtain ⟨hca, hcert, hkey⟩ := TlsOptions.filesGiven_eq_zero_iff.mp hnone
    obtain ⟨ca, cert, key, hcaGiven, hcertGiven, hkeyGiven⟩ := TlsOptions.filesGiven_eq_three_iff.mp hall
    have hoffAfter : ((o.withoutBlanks leaveOut).arguments chosen).tls.enabled = false := hoff
    have hbefore : (o.arguments chosen).tls.resolve env = .ok none := by
      simp [TlsOptions.resolve, hca, hcert, hkey, hoff]
    rw [hbefore, TlsOptions.resolve_of_all hcaGiven hcertGiven hkeyGiven, hoffAfter]
    rfl
  · simp only [not_or] at hhides
    have hca : given? ((o.withoutBlanks leaveOut).arguments chosen).tls.ca = given? (o.arguments chosen).tls.ca :=
      given?_of_not_hidden hhides.1
    have hcert : given? ((o.withoutBlanks leaveOut).arguments chosen).tls.cert = given? (o.arguments chosen).tls.cert :=
      given?_of_not_hidden hhides.2.1
    have hkey : given? ((o.withoutBlanks leaveOut).arguments chosen).tls.key = given? (o.arguments chosen).tls.key :=
      given?_of_not_hidden hhides.2.2
    simp only [TlsOptions.resolve, hca, hcert, hkey]
    rfl

theorem resolve_of_sameAddress (h : SameAddress o leaveOut chosen)
    (hcluster : ((o.withoutBlanks leaveOut).arguments chosen).cluster = (o.arguments chosen).cluster)
    {tls : Option TlsFiles} (hsecured : tls.isSome = (o.arguments chosen).tls.enabled) (timeout : Duration) :
    Settings.resolve ((o.withoutBlanks leaveOut).arguments chosen).serverUrl (o.arguments chosen).cluster tls timeout =
      Settings.resolve (o.arguments chosen).serverUrl (o.arguments chosen).cluster tls timeout := by
  unfold SameAddress at h
  dsimp only at h
  rw [hcluster] at h
  unfold Settings.resolve
  rw [hsecured]
  obtain htext | ⟨url, hbefore, hafter⟩ := h
  · have htext : Endpoint.text ((o.withoutBlanks leaveOut).arguments chosen).serverUrl (o.arguments chosen).cluster
        (.secured (o.arguments chosen).tls.enabled) =
          Endpoint.text (o.arguments chosen).serverUrl (o.arguments chosen).cluster
            (.secured (o.arguments chosen).tls.enabled) := htext
    rw [htext]
  · have hafter : Url.parse (Endpoint.text ((o.withoutBlanks leaveOut).arguments chosen).serverUrl
        (o.arguments chosen).cluster (.secured (o.arguments chosen).tls.enabled)) = .ok url := hafter
    simp only [hbefore, hafter]

theorem harmless_of_eq (h : (o.withoutBlanks leaveOut).invocation env chosen = o.invocation env chosen) :
    Harmless o leaveOut chosen (o.invocation env chosen) ((o.withoutBlanks leaveOut).invocation env chosen) := by
  have hboth {e : ServiceError} (he : o.invocation env chosen = .error e) :
      (o.arguments chosen).Tells e ∧ ((o.withoutBlanks leaveOut).arguments chosen).Tells e :=
    ⟨Invocation.tells_of_error he, Invocation.tells_of_error (h.trans he)⟩
  rw [h]
  constructor
  case region =>
    intro hhides hmissing
    have hnone : given? ((o.withoutBlanks leaveOut).arguments chosen).region = none := (hboth hmissing).2
    exact absurd (hnone ▸ (given?_of_hidden hhides).2) nofun
  case cluster =>
    intro hhides hmissing
    exact absurd ((cluster_of_hides hhides).2.symm.trans (hboth hmissing).2) nofun
  case files =>
    intro hhides enabled ca cert key
    refine and_self_iff.mpr fun hmissing => ?_
    obtain ⟨⟨-, hca, hcert, hkey⟩, -, hcaAfter, hcertAfter, hkeyAfter⟩ := hboth hmissing
    have hseen {leaveOut : Bool} {value beneath : Option String} (hhidden : Hidden leaveOut value beneath) :
        given? (value.or beneath) ≠ given? ((unlessBlank leaveOut value).or beneath) := by
      obtain ⟨hnone, hsome⟩ := given?_of_hidden hhidden
      rw [hnone]
      exact fun heq => absurd (heq ▸ hsome) nofun
    obtain hhides | hhides | hhides := hhides
    · exact hseen hhides (hca.symm.trans hcaAfter)
    · exact hseen hhides (hcert.symm.trans hcertAfter)
    · exact hseen hhides (hkey.symm.trans hkeyAfter)
  case address =>
    intro hhides
    cases hbefore : o.invocation env chosen with
    | ok invocation =>
      obtain ⟨_, _, tls, -, -, -, -, htls, -, hconnection, -, -⟩ := Invocation.ofArguments_eq_ok_iff.mp hbefore
      obtain ⟨_, _, tlsAfter, -, -, -, -, htlsAfter, -, hconnectionAfter, -, -⟩ :=
        Invocation.ofArguments_eq_ok_iff.mp (h.trans hbefore)
      obtain ⟨url, hurl, hsettings⟩ := Settings.resolve_eq_ok_iff.mp hconnection
      obtain ⟨urlAfter, hurlAfter, hsettingsAfter⟩ := Settings.resolve_eq_ok_iff.mp hconnectionAfter
      rw [TlsOptions.isSome_of_resolve htls] at hurl
      rw [TlsOptions.isSome_of_resolve htlsAfter] at hurlAfter
      obtain rfl : url = urlAfter := congrArg Settings.server (hsettings.trans hsettingsAfter.symm)
      exact Or.inl (Or.inr ⟨url, hurl, hurlAfter⟩)
    | error e =>
      by_cases hurl : ∃ text cause, e = .configuration (.badUrl text cause)
      · obtain ⟨text, cause, rfl⟩ := hurl
        obtain ⟨htext, htextAfter⟩ := hboth hbefore
        exact Or.inl (Or.inl (htextAfter.symm.trans htext))
      · refine Or.inr ⟨⟨e, rfl⟩, fun text cause => and_self_iff.mpr fun heq => hurl ⟨text, cause, ?_⟩⟩
        exact Except.error.inj heq

theorem blankCluster_of_harmless {x after : Except ServiceError Invocation}
    (h : Harmless o leaveOut chosen
      (Invocation.require (!isBlankText (o.arguments chosen).cluster) .noCluster >>= fun _ => x) after) :
    isBlankText ((o.withoutBlanks leaveOut).arguments chosen).cluster = isBlankText (o.arguments chosen).cluster := by
  by_cases hhides : o.Hides leaveOut chosen .cluster
  · refine absurd ?_ (h.cluster hhides)
    rw [(cluster_of_hides hhides).1]
    rfl
  · obtain hsame | ⟨hbefore, hafter⟩ := cluster_of_not_hides hhides
    · rw [hsame]
    · rw [hbefore, hafter]

theorem cluster_of_not_blank (h : isBlankText (o.arguments chosen).cluster = false) :
    ((o.withoutBlanks leaveOut).arguments chosen).cluster = (o.arguments chosen).cluster := by
  by_cases hhides : o.Hides leaveOut chosen .cluster
  · exact absurd ((cluster_of_hides hhides).1.symm.trans h) nofun
  · exact (cluster_of_not_hides hhides).resolve_right fun hboth => absurd (hboth.1.symm.trans h) nofun

theorem command_withoutBlanks (operation : Operation) (region : String)
    (hcluster : ((o.withoutBlanks leaveOut).arguments chosen).cluster = (o.arguments chosen).cluster) :
    ((o.withoutBlanks leaveOut).arguments chosen).command operation region =
      (o.arguments chosen).command operation region := by
  have hothers : ((o.withoutBlanks leaveOut).arguments chosen).command operation region =
      ((o.arguments chosen).withCluster ((o.withoutBlanks leaveOut).arguments chosen).cluster).command
        operation region := by
    cases operation <;> rfl
  rw [hothers, hcluster]
  rfl

/-- The steps after the address go the same way if no hidden address is missed. -/
theorem connected_of_harmless {tls : Option TlsFiles} (hsecured : tls.isSome = (o.arguments chosen).tls.enabled)
    (hcluster : ((o.withoutBlanks leaveOut).arguments chosen).cluster = (o.arguments chosen).cluster)
    {timeout : Duration} {operation : Operation} {region : String} :
    let finish (connection : Settings) : Except ServiceError Invocation :=
      Invocation.waitBudget (o.arguments chosen) >>= fun wait =>
        Invocation.valid ((o.arguments chosen).command operation region) >>= fun command =>
          pure ⟨command, connection, wait⟩
    let connect (args : Arguments) : Except ServiceError Invocation :=
      Invocation.configured (Settings.resolve args.serverUrl (o.arguments chosen).cluster tls timeout) >>= finish
    Harmless o leaveOut chosen (connect (o.arguments chosen)) (connect ((o.withoutBlanks leaveOut).arguments chosen)) →
      connect (o.arguments chosen) = connect ((o.withoutBlanks leaveOut).arguments chosen) := by
  intro finish connect h
  dsimp only [connect] at h ⊢
  by_cases hhides : o.Hides leaveOut chosen .serverUrl
  · obtain hsame | ⟨⟨e, he⟩, hurl⟩ := h.address hhides
    · rw [resolve_of_sameAddress hsame hcluster hsecured]
    · -- Both addresses are good ones, and what is wrong after them does not depend on them.
      cases hbefore : Settings.resolve (o.arguments chosen).serverUrl (o.arguments chosen).cluster tls timeout with
      | error fault =>
        obtain ⟨cause, rfl⟩ := Settings.resolve_eq_error hbefore
        rw [hbefore] at hurl
        exact absurd rfl (hurl _ _).1
      | ok before =>
        cases hafter : Settings.resolve ((o.withoutBlanks leaveOut).arguments chosen).serverUrl
            (o.arguments chosen).cluster tls timeout with
        | error fault =>
          obtain ⟨cause, rfl⟩ := Settings.resolve_eq_error hafter
          rw [hafter] at hurl
          exact absurd rfl (hurl _ _).2
        | ok after =>
          rw [hbefore] at he
          have hlater : finish before = .error e := he
          exact he.trans (Invocation.later_steps_of_error hlater (o.arguments chosen).cluster after).symm
  · simp only [Settings.resolve, Endpoint.text, serverUrl_of_not_hides hhides]

theorem eq_of_harmless
    (h : Harmless o leaveOut chosen (o.invocation env chosen) ((o.withoutBlanks leaveOut).invocation env chosen)) :
    o.invocation env chosen = (o.withoutBlanks leaveOut).invocation env chosen := by
  -- Step by step, what is missed cannot be what the step asks for.
  have hstep {α : Type} {x : Except ServiceError α} {f g : α → Except ServiceError Invocation}
      (h : Harmless o leaveOut chosen (x >>= f) (x >>= g))
      (hnext : ∀ a, x = .ok a → Harmless o leaveOut chosen (f a) (g a) → f a = g a) : (x >>= f) = x >>= g := by
    cases x with
    | error e => rfl
    | ok a => exact hnext a rfl h
  unfold Options.invocation Invocation.ofArguments at h ⊢
  refine hstep h fun operation hoperation h => ?_
  refine hstep h fun _ hservice h => ?_
  have hregion : Invocation.region ((o.withoutBlanks leaveOut).arguments chosen) =
      Invocation.region (o.arguments chosen) := by
    unfold Invocation.region
    rw [region_of_not_hides]
    intro hhides
    apply h.region hhides
    have hnone : given? (o.arguments chosen).region = none := (given?_of_hidden hhides).1
    unfold Invocation.region
    rw [hnone]
    rfl
  rw [hregion] at h ⊢
  refine hstep h fun region _ h => ?_
  rw [blankCluster_of_harmless h] at h ⊢
  refine hstep h fun _ hnamed h => ?_
  have hcluster : ((o.withoutBlanks leaveOut).arguments chosen).cluster = (o.arguments chosen).cluster :=
    cluster_of_not_blank (by simpa using Invocation.require_eq_ok_iff.mp hnamed)
  have htls : ((o.withoutBlanks leaveOut).arguments chosen).tls.resolve env = (o.arguments chosen).tls.resolve env := by
    refine resolve_withoutBlanks env fun hhides => ⟨?_, ?_⟩
    · by_contra hincomplete
      rw [TlsOptions.resolve_of_not_complete hincomplete] at h
      exact (h.files hhides _ _ _ _).1 rfl
    · by_contra hincomplete
      rw [TlsOptions.resolve_of_not_complete hincomplete] at h
      exact (h.files hhides _ _ _ _).2 rfl
  rw [htls] at h ⊢
  refine hstep h fun tls hresolved h => ?_
  refine hstep h fun _ _ h => ?_
  have hsecured := TlsOptions.isSome_of_resolve (mapError_eq_ok_iff.mp hresolved)
  rw [command_withoutBlanks operation region hcluster, hcluster] at h ⊢
  exact connected_of_harmless hsecured hcluster h

/-- Leaving out blank options changes nothing exactly if what they hide is not missed. -/
theorem invocation_withoutBlanks_iff (env : Environment) (chosen : Option Profile) (o : Options)
    (leaveOut : LayeredText → Bool) :
    (o.withoutBlanks leaveOut).invocation env chosen = o.invocation env chosen ↔
      Harmless o leaveOut chosen (o.invocation env chosen) ((o.withoutBlanks leaveOut).invocation env chosen) :=
  ⟨harmless_of_eq, fun h => (eq_of_harmless h).symm⟩

/-- A blank region on the command line is reported as missing, although the profile has one. -/
theorem not_invocation_withoutBlanks_of_blank_region :
    let o : Options := { operation := "list", region := some " " }
    let chosen : Option Profile := some { region := some "us-west-1" }
    parse ⟨[]⟩ ["--op=list", "--region= "] = .ok o ∧ o.invocation ⟨[]⟩ chosen = .error (.validation .noRegion) ∧
      ((o.withoutBlanks fun _ => true).invocation ⟨[]⟩ chosen).map (·.command) =
        .ok (.list ⟨"us-west-1", "default", ""⟩) ∧
      (o.withoutBlanks fun _ => true).invocation ⟨[]⟩ chosen ≠ o.invocation ⟨[]⟩ chosen := by
  intro o chosen
  have hrefused : o.invocation ⟨[]⟩ chosen = .error (.validation .noRegion) := by
    have hcommand : (o.invocation ⟨[]⟩ chosen).map (·.command) = .error (.validation .noRegion) := by decide
    exact map_eq_error_iff.mp hcommand
  refine ⟨by decide, hrefused, by decide, ?_⟩
  rw [ne_eq, invocation_withoutBlanks_iff]
  intro hharmless
  exact hharmless.region ⟨rfl, ⟨" ", rfl, by decide⟩, "us-west-1", rfl, by decide⟩ hrefused

end CommandLine

end ServiceCatalog
