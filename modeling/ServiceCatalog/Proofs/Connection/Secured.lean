import ServiceCatalog.CommandLine.Options
import ServiceCatalog.Proofs.Connection.Tls
import ServiceCatalog.Proofs.Invocation

/-!
# Secured connections

Whether a connection is secured is decided by the switch alone: the files are then there and the address has the scheme
for them, whatever scheme it was given with. Files that are given in part make no connection.
-/

namespace ServiceCatalog

open Text

/-- An address that begins with a scheme is read as one with that scheme. -/
theorem Url.parse_of_scheme (scheme : Scheme) (rest : List Char) :
    parse (String.ofList (scheme.name.toList ++ "://".toList ++ rest)) =
      readAfterSlashes scheme ((withoutLineEnds rest).dropWhile isSlash) := by
  unfold parse
  rw [String.toList_ofList]
  cases scheme with
  | http => rfl
  | https => rfl

theorem Url.scheme_of_readAfterSlashes {scheme : Scheme} {cs : List Char} {url : Url}
    (h : readAfterSlashes scheme cs = .ok url) : url.scheme = scheme := by
  unfold readAfterSlashes at h
  obtain ⟨host, -, h⟩ := bind_eq_ok_iff.mp h
  obtain ⟨port, -, h⟩ := bind_eq_ok_iff.mp h
  cases h
  rfl

namespace Endpoint

theorem ofGiven_eq (raw : String) (scheme : Url.Scheme) :
    ∃ rest, ofGiven raw scheme = String.ofList (scheme.name.toList ++ "://".toList ++ rest) := by
  unfold ofGiven withSlash
  split
  · exact ⟨_, rfl⟩
  · exact ⟨withoutScheme (trimChars raw.toList) ++ ['/'], by simp⟩

theorem ofCluster_eq (cluster : String) (scheme : Url.Scheme) :
    ∃ rest, ofCluster cluster scheme = String.ofList (scheme.name.toList ++ "://".toList ++ rest) := by
  refine ⟨("catalog-manageserver." ++ cluster ++ "-catalog.local:" ++ managementPort ++ "/").toList, ?_⟩
  apply String.toList_inj.mp
  simp [ofCluster]

/-- The address that is used begins with the scheme that is called for. -/
theorem text_eq (given : Option String) (cluster : String) (scheme : Url.Scheme) :
    ∃ rest, text given cluster scheme = String.ofList (scheme.name.toList ++ "://".toList ++ rest) := by
  unfold text
  cases given? given with
  | none => exact ofCluster_eq cluster scheme
  | some raw => exact ofGiven_eq raw scheme

end Endpoint

namespace Connection

/-- Settings are made exactly for an address that can be read. -/
theorem Settings.resolve_eq_ok_iff {given : Option String} {cluster : String} {tls : Option TlsFiles}
    {requestTimeout : Duration} {settings : Settings} :
    Settings.resolve given cluster tls requestTimeout = .ok settings ↔
      ∃ server, Url.parse (Endpoint.text given cluster (.secured tls.isSome)) = .ok server ∧
        ⟨server, tls, requestTimeout⟩ = settings := by
  unfold Settings.resolve
  dsimp only
  cases Url.parse (Endpoint.text given cluster (.secured tls.isSome)) with
  | ok server => simp
  | error cause => simp

theorem Settings.of_resolve {given : Option String} {cluster : String} {tls : Option TlsFiles}
    {requestTimeout : Duration} {settings : Settings}
    (h : Settings.resolve given cluster tls requestTimeout = .ok settings) :
    settings.tls = tls ∧ settings.server.scheme = .secured tls.isSome := by
  obtain ⟨rest, htext⟩ := Endpoint.text_eq given cluster (.secured tls.isSome)
  unfold Settings.resolve at h
  dsimp only at h
  rw [htext, Url.parse_of_scheme] at h
  split at h
  · rename_i server hserver
    cases h
    exact ⟨rfl, Url.scheme_of_readAfterSlashes hserver⟩
  · cases h

end Connection

namespace CommandLine

/-- The switch is on if an option or the chosen profile says so. -/
theorem Options.enabled_arguments_iff (o : Options) (profile : Option Config.Profile) :
    (o.arguments profile).tls.enabled = true ↔
      o.tlsEnabled = true ∨ ∃ p, profile = some p ∧ p.tlsEnabled = some true := by
  unfold arguments
  cases profile with
  | none => simp
  | some p => cases htls : p.tlsEnabled <;> simp [htls]

/-- A path is taken from an option, or else from the chosen profile. -/
theorem Options.files_arguments (o : Options) (profile : Option Config.Profile) :
    (o.arguments profile).tls.ca = o.caFile.or (profile.bind (·.caFile)) ∧
      (o.arguments profile).tls.cert = o.certFile.or (profile.bind (·.certFile)) ∧
      (o.arguments profile).tls.key = o.keyFile.or (profile.bind (·.keyFile)) := by
  cases profile <;> exact ⟨rfl, rfl, rfl⟩

end CommandLine

namespace Invocation

open CommandLine Connection

variable {env : Environment} {args : Arguments}

/-- Arguments that make an invocation leave nothing out, and their switch says whether the connection is secured. -/
theorem connection_of_ofArguments {invocation : Invocation} (h : ofArguments env args = .ok invocation) :
    args.tls.Complete ∧
      invocation.connection.tls.isSome = args.tls.enabled ∧
      invocation.connection.server.scheme = .secured args.tls.enabled ∧
      (args.tls.enabled = true → ∃ files, invocation.connection.tls = some files ∧
        LeadsTo env args.tls.ca files.ca ∧ LeadsTo env args.tls.cert files.cert ∧ LeadsTo env args.tls.key files.key) := by
  obtain ⟨operation, regionText, tls, -, -, -, -, htls, -, hconnection, -⟩ := ofArguments_eq_ok_iff.mp h
  obtain ⟨hcomplete, -, hon⟩ := TlsOptions.of_resolve htls
  obtain ⟨hsame, hscheme⟩ := Settings.of_resolve hconnection
  have hsome : tls.isSome = args.tls.enabled := TlsOptions.isSome_of_resolve htls
  rw [hsame, hscheme, hsome]
  exact ⟨hcomplete, rfl, rfl, hon⟩

/-- If the checks before it pass, files that are missing are reported as a fault of the configuration. -/
theorem ofArguments_of_not_complete {operation : Operation}
    (hoperation : Operation.ofText? args.operation = some operation)
    (hservice : operation.needsService = true → (given? args.service).isSome = true)
    (hregion : (given? args.region).isSome = true) (hcluster : isBlankText args.cluster = false)
    (hfiles : ¬ args.tls.Complete) :
    ofArguments env args = .error (.configuration
      (.incompleteTls args.tls.enabled (given? args.tls.ca) (given? args.tls.cert) (given? args.tls.key))) := by
  have hread : Operation.read args.operation = .ok operation := by
    unfold Operation.read
    rw [hoperation]
  have hneeded : require (!operation.needsService || (given? args.service).isSome) .noService = .ok () := by
    rw [require_eq_ok_iff]
    cases hneeds : operation.needsService with
    | false => rfl
    | true => exact hservice hneeds
  have hnamed : require (!isBlankText args.cluster) .noCluster = .ok () := by
    rw [require_eq_ok_iff, hcluster]
    rfl
  obtain ⟨regionText, hregionText⟩ := Option.isSome_iff_exists.mp hregion
  unfold ofArguments
  simp only [hread, valid, configured, Except.mapError, bind, Except.bind, hneeded, region_eq_ok_iff.mpr hregionText,
    hnamed, TlsOptions.resolve_of_not_complete hfiles]

/-- Whatever options and profile say, a connection is secured exactly if one of them turns transport security on: then
the three files are where the given paths lead to, and the address is one of HTTPS; otherwise there are no files, and
the address is one of HTTP, however it was given. If only some of the files are given, or none although transport
security is on, there is no invocation, and that is reported as a fault of the configuration unless a check before it
fails. -/
theorem ofArguments_secured (env : Environment) (o : Options) (profile : Option Config.Profile) :
    let args := o.arguments profile
    let enabled : Prop := o.tlsEnabled = true ∨ ∃ p, profile = some p ∧ p.tlsEnabled = some true
    let ca := o.caFile.or (profile.bind (·.caFile))
    let cert := o.certFile.or (profile.bind (·.certFile))
    let key := o.keyFile.or (profile.bind (·.keyFile))
    let given := ([ca, cert, key].filterMap given?).length
    (∀ invocation, ofArguments env args = .ok invocation →
      (enabled ↔ invocation.connection.tls.isSome = true) ∧
      (enabled ↔ invocation.connection.server.scheme = .https) ∧
      (¬ enabled ↔ invocation.connection.server.scheme = .http) ∧
      (enabled → ∃ files, invocation.connection.tls = some files ∧
        LeadsTo env ca files.ca ∧ LeadsTo env cert files.cert ∧ LeadsTo env key files.key)) ∧
    (given = 1 ∨ given = 2 ∨ given = 0 ∧ enabled →
      (∃ e, ofArguments env args = .error e) ∧
      (∀ operation, Operation.ofText? args.operation = some operation →
        (operation.needsService = true → (given? args.service).isSome = true) →
        (given? args.region).isSome = true → isBlankText args.cluster = false →
        ofArguments env args = .error (.configuration
          (.incompleteTls args.tls.enabled (given? ca) (given? cert) (given? key))))) := by
  intro args enabled ca cert key given
  have henabled : args.tls.enabled = true ↔ enabled := o.enabled_arguments_iff profile
  obtain ⟨hca, hcert, hkey⟩ : args.tls.ca = ca ∧ args.tls.cert = cert ∧ args.tls.key = key := o.files_arguments profile
  have hgiven : args.tls.filesGiven = given := by
    unfold TlsOptions.filesGiven
    rw [hca, hcert, hkey]
  constructor
  · intro invocation hinvocation
    obtain ⟨-, hsome, hscheme, hfiles⟩ := connection_of_ofArguments hinvocation
    rw [hca, hcert, hkey] at hfiles
    rw [hsome, hscheme, ← henabled]
    refine ⟨Iff.rfl, ?_, ?_, hfiles⟩
    · cases args.tls.enabled <;> simp [Url.Scheme.secured]
    · cases args.tls.enabled <;> simp [Url.Scheme.secured]
  · intro hmissing
    have hincomplete : ¬ args.tls.Complete := by
      unfold TlsOptions.Complete
      rw [hgiven]
      rintro (⟨hnone, hoff⟩ | hall)
      · obtain hone | htwo | ⟨-, hon⟩ := hmissing
        · omega
        · omega
        · rw [henabled.mpr hon] at hoff
          cases hoff
      · omega
    constructor
    · cases hresult : ofArguments env args with
      | error e => exact ⟨e, rfl⟩
      | ok invocation => exact absurd (connection_of_ofArguments hresult).1 hincomplete
    · intro operation hoperation hservice hregion hcluster
      rw [← hca, ← hcert, ← hkey]
      exact ofArguments_of_not_complete hoperation hservice hregion hcluster hincomplete

/-- A profile turns transport security on and names an address of HTTP: the address that is used is one of HTTPS. Without
the key that an option adds, there is no invocation. -/
theorem ofArguments_secured_by_profile :
    let env : Environment := ⟨[("HOME", "/home/ops"), ("TLS", "/etc/tls")]⟩
    let o : Options := { operation := "list", region := some "us-west-1", keyFile := some "key.pem" }
    let profile : Config.Profile :=
      { serverUrl := some "HTTP://manage.example:27040", tlsEnabled := some true, caFile := some " ~/ca.pem ",
        certFile := some "$TLS/cert.pem" }
    (∃ invocation, ofArguments env (o.arguments (some profile)) = .ok invocation ∧
      invocation.connection.server.scheme = .https ∧
      invocation.connection.tls = some ⟨"/home/ops/ca.pem", "/etc/tls/cert.pem", "key.pem"⟩) ∧
    ofArguments env ({ o with keyFile := some " \t" }.arguments (some profile)) =
      .error (.configuration (.incompleteTls true (some "~/ca.pem") (some "$TLS/cert.pem") none)) := by
  intro env o profile
  have hsuccess : (ofArguments env (o.arguments (some profile))).map (·.connection.tls) =
      .ok (some ⟨"/home/ops/ca.pem", "/etc/tls/cert.pem", "key.pem"⟩) := by decide +kernel
  obtain ⟨invocation, hinvocation, htls⟩ := map_eq_ok_iff.mp hsuccess
  have hon : o.tlsEnabled = true ∨ ∃ p, some profile = some p ∧ p.tlsEnabled = some true := Or.inr ⟨profile, rfl, rfl⟩
  obtain ⟨-, hscheme, -⟩ := (ofArguments_secured env o (some profile)).1 invocation hinvocation
  obtain ⟨-, hreported⟩ :=
    (ofArguments_secured env { o with keyFile := some " \t" } (some profile)).2 (Or.inr (Or.inl (by decide)))
  refine ⟨⟨invocation, hinvocation, hscheme.mp hon, htls⟩, ?_⟩
  exact hreported .list (by decide) (by decide) (by decide) (by decide)

end Invocation

end ServiceCatalog
