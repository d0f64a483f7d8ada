import ServiceCatalog.Proofs.Connection.ClusterAddress
import ServiceCatalog.Proofs.Rules

/-!
# Blank characters around arguments

Blank characters around an argument do not count, except around the cluster: its name is checked without them and used
with them. They are seen wherever the arguments make an invocation, and wherever the address made from the name is
reported.
-/

namespace ServiceCatalog

open Request Service Text

/-- The same files, with nothing blank around their paths. -/
def Connection.TlsOptions.trimmed (options : TlsOptions) : TlsOptions :=
  { options with ca := options.ca.map trim, cert := options.cert.map trim, key := options.key.map trim }

@[simp] theorem Connection.TlsOptions.resolve_trimmed (options : TlsOptions) (env : Environment) :
    options.trimmed.resolve env = options.resolve env := by
  simp only [resolve, trimmed, given?_map_trim]
  rfl

@[simp] theorem Operation.read_trim (text : String) : Operation.read (trim text) = Operation.read text := by
  simp only [read, ofText?, trim_trim]

@[simp] theorem Connection.Settings.resolve_map_trim (given : Option String) (cluster : String)
    (tls : Option TlsFiles) (requestTimeout : Duration) :
    resolve (given.map trim) cluster tls requestTimeout = resolve given cluster tls requestTimeout := by
  simp only [resolve, Endpoint.text, given?_map_trim]

namespace Arguments

/-- The same arguments, with nothing blank around any text. -/
def trimmed (args : Arguments) : Arguments :=
  { args with
    operation := trim args.operation
    kind := args.kind.map trim
    region := args.region.map trim
    cluster := trim args.cluster
    service := args.service.map trim
    namesStart := args.namesStart.map trim
    admin := args.admin.map trim
    password := args.password.map trim
    replicationUser := args.replicationUser.map trim
    replicationPassword := args.replicationPassword.map trim
    serviceUuid := args.serviceUuid.map trim
    fileId := args.fileId.map trim
    serverUrl := args.serverUrl.map trim
    tls := args.tls.trimmed }

/-- The same arguments for another cluster. -/
def withCluster (args : Arguments) (cluster : String) : Arguments := { args with cluster }

theorem command_trimmed (args : Arguments) (operation : Operation) (region : String) :
    args.trimmed.command operation region = (args.withCluster (trim args.cluster)).command operation region := by
  cases operation <;>
    simp only [command, createRequest, checkRequest, configFileRequest, createOrder, identity, adminUser, adminPassword,
      replication, resources, trimmed, withCluster, given?_map_trim]

end Arguments

/-! ## What depends on the cluster -/

/-- The cluster that a command is about. -/
def Command.cluster : Command → String
  | create request => request.spec.service.cluster
  | checkInit request => request.service.cluster
  | delete service => service.cluster
  | list request => request.cluster
  | get service => service.cluster
  | listMembers service => service.cluster
  | getConfig request => request.cluster

theorem CreateOrder.service_sound (order : CreateOrder) : order.sound.spec.service = order.service := by
  unfold CreateOrder.sound
  cases order.kind <;> rfl

/-- Whether an order breaks a rule, and which, does not depend on the service. -/
theorem CreateOrder.request_withService (order : CreateOrder) (service : Identity) :
    ({ order with service }.request).map (fun _ => ()) = order.request.map fun _ => () := by
  have hsame : { order with service }.replicas ≤ 0 ∨ { order with service }.volumeSizeGb ≤ 0 ↔
      order.replicas ≤ 0 ∨ order.volumeSizeGb ≤ 0 := Iff.rfl
  unfold CreateOrder.request
  by_cases hsize : order.replicas ≤ 0 ∨ order.volumeSizeGb ≤ 0
  · rw [if_pos hsize, if_pos (hsame.mpr hsize)]
    rfl
  rw [if_neg hsize, if_neg (mt hsame.mp hsize)]
  refine map_bind_congr fun _ _ => ?_
  cases hkind : order.kind <;> cases hreplication : order.replication <;> rfl

namespace Arguments

variable {args : Arguments} {operation : Operation} {region : String}

theorem cluster_of_command {command : Command} (h : args.command operation region = .ok command) :
    command.cluster = args.cluster := by
  unfold Arguments.command at h
  cases operation with
  | create =>
    obtain ⟨r, hr, rfl⟩ := map_eq_ok_iff.mp h
    unfold createRequest at hr
    split at hr
    · cases hr
    · obtain ⟨kind, -, hrequest⟩ := bind_eq_ok_iff.mp hr
      obtain ⟨-, -, -, -, rfl⟩ := CreateOrder.request_eq_ok_iff.mp hrequest
      exact congrArg Identity.cluster (CreateOrder.service_sound _)
  | checkInit =>
    obtain ⟨r, hr, rfl⟩ := map_eq_ok_iff.mp h
    unfold checkRequest at hr
    split at hr <;> obtain ⟨kind, -, hrequest⟩ := bind_eq_ok_iff.mp hr <;> cases hrequest <;> rfl
  | getConfig =>
    obtain ⟨r, hr, rfl⟩ := map_eq_ok_iff.mp h
    unfold configFileRequest at hr
    split at hr
    · cases hr
      rfl
    · cases hr
  | delete => cases h; rfl
  | list => cases h; rfl
  | get => cases h; rfl
  | listMembers => cases h; rfl

/-- Whether there is a command, and what rule is broken otherwise, does not depend on the cluster. -/
theorem command_withCluster (args : Arguments) (operation : Operation) (region cluster : String) :
    ((args.withCluster cluster).command operation region).map (fun _ => ()) =
      (args.command operation region).map fun _ => () := by
  have hkind : (args.withCluster cluster).kind = args.kind := rfl
  cases operation with
  | create =>
    refine map_map_congr id ?_ fun _ => rfl
    unfold createRequest
    rw [hkind]
    cases given? args.kind with
    | none => rfl
    | some text => exact map_bind_congr fun kind _ => CreateOrder.request_withService (args.createOrder kind region) _
  | checkInit =>
    refine map_map_congr id ?_ fun _ => rfl
    unfold checkRequest
    rw [hkind]
    cases given? args.kind with
    | none => rfl
    | some text => exact map_bind_congr fun kind _ => rfl
  | getConfig =>
    refine map_map_congr id ?_ fun _ => rfl
    unfold configFileRequest
    have huuid : (args.withCluster cluster).serviceUuid = args.serviceUuid := rfl
    have hid : (args.withCluster cluster).fileId = args.fileId := rfl
    rw [huuid, hid]
    cases given? args.serviceUuid <;> cases given? args.fileId <;> rfl
  | delete => rfl
  | list => rfl
  | get => rfl
  | listMembers => rfl

theorem command_withCluster_of_error {violation : Violation} (h : args.command operation region = .error violation)
    (cluster : String) : (args.withCluster cluster).command operation region = .error violation := by
  have hsame := command_withCluster args operation region cluster
  rw [h] at hsame
  cases hother : (args.withCluster cluster).command operation region with
  | ok command =>
    rw [hother] at hsame
    cases hsame
  | error other =>
    rw [hother] at hsame
    exact congrArg Except.error (Except.error.inj hsame)

end Arguments

namespace Connection

/-- Settings fail to be made only for an address that cannot be read. -/
theorem Settings.resolve_eq_error {given : Option String} {cluster : String} {tls : Option TlsFiles}
    {requestTimeout : Duration} {fault : Fault} (h : resolve given cluster tls requestTimeout = .error fault) :
    ∃ cause, fault = .badUrl (Endpoint.text given cluster (.secured tls.isSome)) cause := by
  unfold resolve at h
  dsimp only at h
  split at h
  · cases h
  · rename_i cause _
    cases h
    exact ⟨cause, rfl⟩

/-- Where the name of the cluster with blank characters around it makes settings, so does the name without them. -/
theorem Settings.exists_resolve_trim {given : Option String} (hgiven : given? given = none) {cluster : String}
    {tls : Option TlsFiles} {requestTimeout : Duration} {settings : Settings}
    (h : resolve given cluster tls requestTimeout = .ok settings) :
    ∃ settings, resolve given (trim cluster) tls requestTimeout = .ok settings := by
  obtain ⟨url, hurl, -⟩ := resolve_eq_ok_iff.mp h
  simp only [Endpoint.text, hgiven] at hurl
  obtain ⟨other, hother⟩ := Endpoint.exists_parse_ofCluster_trim hurl
  have hserver : Url.parse (Endpoint.text given (trim cluster) (.secured tls.isSome)) = .ok other := by
    simpa only [Endpoint.text, hgiven] using hother
  exact ⟨_, resolve_eq_ok_iff.mpr ⟨other, hserver, rfl⟩⟩

/-- An address that is given makes the cluster irrelevant. -/
theorem Settings.resolve_of_given {given : Option String} (h : given? given ≠ none) (cluster other : String)
    (tls : Option TlsFiles) (requestTimeout : Duration) :
    resolve given cluster tls requestTimeout = resolve given other tls requestTimeout := by
  obtain ⟨raw, hraw⟩ := Option.ne_none_iff_exists'.mp h
  simp only [resolve, Endpoint.text, hraw]

end Connection

namespace Invocation

variable {env : Environment} {args : Arguments}

theorem ofArguments_trimmed (env : Environment) (args : Arguments) :
    ofArguments env args.trimmed = ofArguments env (args.withCluster (trim args.cluster)) := by
  simp only [ofArguments, args.command_trimmed]
  simp only [Arguments.trimmed, Arguments.withCluster, Operation.read_trim, region, waitBudget, given?_map_trim,
    Connection.TlsOptions.resolve_trimmed, Connection.Settings.resolve_map_trim]
  rfl

theorem cluster_of_ofArguments {invocation : Invocation} (h : ofArguments env args = .ok invocation) :
    invocation.command.cluster = args.cluster := by
  obtain ⟨_, _, _, -, -, -, -, -, -, -, -, hcommand⟩ := ofArguments_eq_ok_iff.mp h
  exact Arguments.cluster_of_command hcommand

/-- The steps that come after the address fail in the same way for every cluster. -/
theorem later_steps_of_error {operation : Operation} {regionText : String} {e : ServiceError}
    {first : Connection.Settings}
    (h : (waitBudget args >>= fun wait => valid (args.command operation regionText) >>= fun command =>
      pure (Invocation.mk command first wait)) = .error e) (cluster : String) (second : Connection.Settings) :
    (waitBudget args >>= fun wait => valid ((args.withCluster cluster).command operation regionText) >>= fun command =>
      pure (Invocation.mk command second wait)) = .error e := by
  refine bind_eq_error_of h fun wait _ h => ?_
  obtain hfailed | ⟨_, -, hpure⟩ := bind_eq_error_iff.mp h
  · obtain ⟨violation, hviolation, rfl⟩ := mapError_eq_error_iff.mp hfailed
    have hother := Arguments.command_withCluster_of_error hviolation cluster
    exact bind_eq_error_iff.mpr (Or.inl (mapError_eq_error_iff.mpr ⟨violation, hother, rfl⟩))
  · cases hpure

/-- An error of the arguments stays the same without the blank characters around the cluster, unless it says that the
address made from the cluster is none. -/
theorem ofArguments_withCluster_of_error {e : ServiceError} (h : ofArguments env args = .error e)
    (hurl : given? args.serverUrl = none → ∀ text cause, e ≠ .configuration (.badUrl text cause)) :
    ofArguments env (args.withCluster (trim args.cluster)) = .error e := by
  have hnamed : isBlankText (args.withCluster (trim args.cluster)).cluster = isBlankText args.cluster :=
    isBlankText_trim _
  unfold ofArguments at h ⊢
  rw [hnamed]
  -- In front of the address, the cluster is only asked whether it is blank.
  refine bind_eq_error_of h fun operation _ h => ?_
  refine bind_eq_error_of h fun _ _ h => ?_
  refine bind_eq_error_of h fun regionText _ h => ?_
  refine bind_eq_error_of h fun _ _ h => ?_
  refine bind_eq_error_of h fun tls _ h => ?_
  refine bind_eq_error_of h fun _ _ h => ?_
  cases hgiven : given? args.serverUrl with
  | some raw =>
    have hsame : Connection.Settings.resolve (args.withCluster (trim args.cluster)).serverUrl
        (args.withCluster (trim args.cluster)).cluster tls (args.withCluster (trim args.cluster)).requestTimeout =
        Connection.Settings.resolve args.serverUrl args.cluster tls args.requestTimeout :=
      Connection.Settings.resolve_of_given (by simp [Arguments.withCluster, hgiven]) _ _ _ _
    rw [hsame]
    exact bind_eq_error_of h fun connection _ h => later_steps_of_error h _ _
  | none =>
    obtain hfailed | ⟨connection, hconnection, h⟩ := bind_eq_error_iff.mp h
    · obtain ⟨fault, hfault, rfl⟩ := mapError_eq_error_iff.mp hfailed
      obtain ⟨cause, rfl⟩ := Connection.Settings.resolve_eq_error hfault
      exact absurd rfl (hurl hgiven _ _)
    · obtain ⟨other, hother⟩ := Connection.Settings.exists_resolve_trim hgiven (mapError_eq_ok_iff.mp hconnection)
      exact bind_eq_error_iff.mpr (Or.inr ⟨other, mapError_eq_ok_iff.mpr hother, later_steps_of_error h _ _⟩)

/-- Only the rule for the address reports an address. -/
theorem text_of_reports {rule : Rule ServiceError} {text : String} {cause : Url.Error} (hrule : rule ∈ args.rules env)
    (hreports : rule.Reports (.configuration (.badUrl text cause))) :
    text = Endpoint.text args.serverUrl args.cluster (.secured args.tls.enabled) := by
  have hvalidation {holds : Prop} {violation : Violation} (heq : rule = .reported holds (.validation violation)) :
      False := by
    subst heq
    cases hreports
  have hpath {path : Option String}
      (heq : (Connection.pathRule env args.tls.enabled path).mapError .configuration = rule) : False := by
    subst heq
    obtain ⟨_, ⟨_, _, -, -, rfl⟩, hfault⟩ := hreports
    cases hfault
  simp only [Arguments.rules, Connection.TlsOptions.rules, List.mem_append, List.mem_cons, List.not_mem_nil, or_false,
    List.map_cons, List.map_nil] at hrule
  obtain (((hfirst | hfirst | hfirst | hfirst) | (hmissing | hca | hcert | hkey)) | (htime | haddress | hinterval)) |
    hfield := hrule
  · exact (hvalidation hfirst).elim
  · exact (hvalidation hfirst).elim
  · exact (hvalidation hfirst).elim
  · exact (hvalidation hfirst).elim
  · subst hmissing
    rw [Rule.mapError_reported] at hreports
    cases hreports
  · exact (hpath hca.symm).elim
  · exact (hpath hcert.symm).elim
  · exact (hpath hkey.symm).elim
  · exact (hvalidation htime).elim
  · subst haddress
    obtain ⟨_, ⟨_, -, rfl⟩, hfault⟩ := hreports
    cases hfault
    rfl
  · exact (hvalidation hinterval).elim
  · obtain ⟨_, -, rfl⟩ := List.mem_map.mp hfield
    obtain ⟨_, -, hviolation⟩ := hreports
    cases hviolation

/-- An address that is reported is the one that the arguments make. -/
theorem text_of_badUrl {text : String} {cause : Url.Error}
    (h : ofArguments env args = .error (.configuration (.badUrl text cause))) :
    text = Endpoint.text args.serverUrl args.cluster (.secured args.tls.enabled) := by
  obtain ⟨earlier, rule, later, hrules, -, -, hreports⟩ := (decides_ofArguments env args).firstBroken _ h
  have hmem : rule ∈ args.rules env := by simp [hrules]
  exact text_of_reports hmem hreports

/-- Blank characters around an argument other than the cluster do not count. Those around the cluster count exactly where
the arguments make an invocation, which is then about a cluster of another name, and where the address made from the
cluster is reported as none. -/
theorem ofArguments_trimmed_iff (env : Environment) (args : Arguments) :
    ofArguments env args.trimmed = ofArguments env (args.withCluster (trim args.cluster)) ∧
    (ofArguments env args.trimmed = ofArguments env args ↔
      trim args.cluster = args.cluster ∨
      ∃ e, ofArguments env args = .error e ∧
        (given? args.serverUrl = none → ∀ text cause, e ≠ .configuration (.badUrl text cause))) := by
  refine ⟨ofArguments_trimmed env args, ?_⟩
  rw [ofArguments_trimmed]
  constructor
  · intro hsame
    cases hresult : ofArguments env args with
    | ok invocation =>
      rw [hresult] at hsame
      exact Or.inl ((cluster_of_ofArguments hsame).symm.trans (cluster_of_ofArguments hresult))
    | error e =>
      by_cases hcluster : trim args.cluster = args.cluster
      · exact Or.inl hcluster
      refine Or.inr ⟨e, rfl, ?_⟩
      rintro hgiven text cause rfl
      rw [hresult] at hsame
      have htext : Endpoint.text args.serverUrl (trim args.cluster) (.secured args.tls.enabled) =
          Endpoint.text args.serverUrl args.cluster (.secured args.tls.enabled) :=
        (text_of_badUrl hsame).symm.trans (text_of_badUrl hresult)
      simp only [Endpoint.text, hgiven] at htext
      exact absurd (Endpoint.ofCluster_injective htext) hcluster
  · rintro (hcluster | ⟨e, he, hurl⟩)
    · rw [hcluster]
      rfl
    · rw [he]
      exact ofArguments_withCluster_of_error he hurl

/-- A request for the services of a cluster goes out with the blank characters around its name. -/
theorem not_ofArguments_trimmed_of_padded_cluster :
    let args : Arguments :=
      { operation := "list", region := some "us-west-1", cluster := " prod ", serverUrl := some "manage.example" }
    (∃ invocation, ofArguments ⟨[]⟩ args = .ok invocation ∧ invocation.command = .list ⟨"us-west-1", " prod ", ""⟩) ∧
      ofArguments ⟨[]⟩ args.trimmed ≠ ofArguments ⟨[]⟩ args := by
  intro args
  have hcommand : (ofArguments ⟨[]⟩ args).map (·.command) = .ok (.list ⟨"us-west-1", " prod ", ""⟩) := by
    decide
  obtain ⟨invocation, hinvocation, hlist⟩ := map_eq_ok_iff.mp hcommand
  refine ⟨⟨invocation, hinvocation, hlist⟩, ?_⟩
  rw [ne_eq, (ofArguments_trimmed_iff ⟨[]⟩ args).2]
  rintro (hcluster | ⟨e, he, -⟩)
  · revert hcluster
    decide
  · rw [hinvocation] at he
    cases he

end Invocation

end ServiceCatalog
