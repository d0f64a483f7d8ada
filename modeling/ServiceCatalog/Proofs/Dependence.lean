import ServiceCatalog.Proofs.Rules

/-!
# What an operation depends on

Where an operation takes place and how it is connected matters to all operations alike. Of everything else an operation
reads only some arguments, and reads texts without the blank characters around them: arguments that agree on these make
the same invocation or break the same rule.
-/

namespace ServiceCatalog

open Request Service Text

/-! ## Agreement -/

namespace Arguments

/-- The kind of service that is named, if it is one. -/
def namedKind? (args : Arguments) : Option Kind := (given? args.kind).bind Kind.ofText?

/-- Arguments for the same operation in the same place with the same connection. How often and how long to ask whether
a service is initialized counts only if that is waited for. -/
structure SameSetting (a b : Arguments) : Prop where
  operation : a.operation = b.operation
  region : a.region = b.region
  cluster : a.cluster = b.cluster
  tls : a.tls = b.tls
  serverUrl : a.serverUrl = b.serverUrl
  requestTimeout : a.requestTimeout = b.requestTimeout
  wait : a.wait = b.wait
  waitInterval : a.wait = true → a.waitInterval = b.waitInterval
  waitTimeout : a.wait = true → a.waitTimeout = b.waitTimeout

/-- Arguments for the same kind of service with the same administrator, whose name counts unless the service is a
relational store. -/
structure SameAccount (a b : Arguments) : Prop where
  kind : given? a.kind = given? b.kind
  password : given? a.password = given? b.password
  admin : a.namedKind? ≠ some .relationalStore → given? a.admin = given? b.admin

/-- Arguments for the same new service. A limit that is not given is the reservation. -/
structure SameOrder (a b : Arguments) : Prop extends SameAccount a b where
  replicationUser : given? a.replicationUser = given? b.replicationUser
  replicationPassword : given? a.replicationPassword = given? b.replicationPassword
  replicas : a.replicas = b.replicas
  volumeSizeGb : a.volumeSizeGb = b.volumeSizeGb
  cpuUnits : a.cpuUnits = b.cpuUnits
  memoryMb : a.memoryMb = b.memoryMb
  maxCpuUnits : a.maxCpuUnits.getD a.cpuUnits = b.maxCpuUnits.getD b.cpuUnits
  maxMemoryMb : a.maxMemoryMb.getD a.memoryMb = b.maxMemoryMb.getD b.memoryMb

/-- Arguments that agree on what an operation reads of its own. -/
def AgreeFor (a b : Arguments) : Operation → Prop
  | .create => given? a.service = given? b.service ∧ SameOrder a b
  | .checkInit => given? a.service = given? b.service ∧ SameAccount a b
  | .delete => given? a.service = given? b.service
  | .list => given? a.namesStart = given? b.namesStart
  | .get => given? a.service = given? b.service
  | .listMembers => given? a.service = given? b.service
  | .getConfig =>
    (given? a.service).isSome = (given? b.service).isSome ∧
      given? a.serviceUuid = given? b.serviceUuid ∧ given? a.fileId = given? b.fileId

end Arguments

/-! ## Requests -/

/-- The administrator of a relational store has the same name whatever is asked for. -/
theorem Request.CreateOrder.request_withAdminUser {order : CreateOrder} (h : order.kind = .relationalStore)
    (user : String) : { order with admin := { order.admin with user } }.request = order.request := by
  simp only [CreateOrder.request, spec, h]

namespace Arguments

variable {a b : Arguments} {operation : Operation} {region : String}

theorem adminUser_congr (h : given? a.admin = given? b.admin) : a.adminUser = b.adminUser := by
  unfold adminUser
  rw [h]

theorem identity_congr (hcluster : a.cluster = b.cluster) (hservice : given? a.service = given? b.service)
    (region : String) : a.identity region = b.identity region := by
  unfold identity
  rw [hcluster, hservice]

/-- Which kind of service a request is about is what the arguments name. -/
theorem namedKind?_of_read {text : String} {kind : Kind} (hgiven : given? a.kind = some text)
    (hread : Kind.read text = .ok kind) : a.namedKind? = some kind := by
  unfold namedKind?
  rw [hgiven, Option.bind_some]
  exact kind_of_read hread

/-- The orders for the same service differ at most in the name of the administrator. -/
theorem SameOrder.createOrder (h : SameOrder a b) (hidentity : a.identity region = b.identity region) (kind : Kind) :
    b.createOrder kind region =
      { a.createOrder kind region with admin := { (a.createOrder kind region).admin with user := b.adminUser } } := by
  simp only [Arguments.createOrder, resources, replication, adminPassword, hidentity, h.password, h.replicationUser,
    h.replicationPassword, h.replicas, h.volumeSizeGb, h.cpuUnits, h.memoryMb, ← h.maxCpuUnits, ← h.maxMemoryMb]

theorem SameOrder.createRequest (h : SameOrder a b) (hidentity : a.identity region = b.identity region) :
    a.createRequest region = b.createRequest region := by
  unfold Arguments.createRequest
  rw [← h.kind]
  cases hgiven : given? a.kind with
  | none => rfl
  | some text =>
    refine bind_congr_of_ok fun kind hread => ?_
    rw [h.createOrder hidentity kind]
    -- A relational store has no use for the one thing the orders may differ in; the other kinds have it in common.
    by_cases hkind : kind = .relationalStore
    · exact (CreateOrder.request_withAdminUser hkind b.adminUser).symm
    · have hadmin : a.namedKind? ≠ some .relationalStore := by
        rw [namedKind?_of_read hgiven hread]
        simpa using hkind
      rw [← adminUser_congr (h.admin hadmin)]
      rfl

theorem SameAccount.checkRequest (h : SameAccount a b) (hidentity : a.identity region = b.identity region) :
    a.checkRequest region = b.checkRequest region := by
  have hpassword : a.adminPassword = b.adminPassword := by
    unfold adminPassword
    rw [h.password]
  unfold Arguments.checkRequest
  rw [← h.kind, ← hidentity, ← hpassword]
  cases hgiven : given? a.kind with
  | none =>
    have hadmin : a.namedKind? ≠ some .relationalStore := by simp [namedKind?, hgiven]
    rw [adminUser_congr (h.admin hadmin)]
  | some text =>
    refine bind_congr_of_ok fun kind hread => ?_
    have hnamed := namedKind?_of_read hgiven hread
    cases kind with
    | relationalStore => rfl
    | documentStore => rw [adminUser_congr (h.admin (by simp [hnamed]))]
    | generic => rw [adminUser_congr (h.admin (by simp [hnamed]))]

/-- Arguments that agree for an operation ask for the same command. -/
theorem AgreeFor.command (h : AgreeFor a b operation) (hcluster : a.cluster = b.cluster) (region : String) :
    a.command operation region = b.command operation region := by
  cases operation with
  | create =>
    dsimp only [Arguments.command]
    rw [h.2.createRequest (identity_congr hcluster h.1 region)]
  | checkInit =>
    dsimp only [Arguments.command]
    rw [h.2.checkRequest (identity_congr hcluster h.1 region)]
  | delete | get | listMembers =>
    dsimp only [Arguments.command]
    rw [identity_congr hcluster h region]
  | list =>
    obtain h : given? a.namesStart = given? b.namesStart := h
    dsimp only [Arguments.command]
    rw [hcluster, h]
  | getConfig =>
    obtain ⟨-, huuid, hid⟩ := h
    dsimp only [Arguments.command, configFileRequest]
    rw [hcluster, huuid, hid]

/-- Agreement for an operation that needs a service covers whether there is one. -/
theorem AgreeFor.hasService (h : AgreeFor a b operation) :
    (!operation.needsService || (given? a.service).isSome) = (!operation.needsService || (given? b.service).isSome) := by
  cases operation with
  | create => rw [h.1]
  | checkInit => rw [h.1]
  | delete | get | listMembers =>
    obtain h : given? a.service = given? b.service := h
    rw [h]
  | list => rfl
  | getConfig => rw [h.1]

end Arguments

/-! ## Invocations -/

theorem operation_of_read {text : String} {operation : Operation} (h : Operation.read text = .ok operation) :
    Operation.ofText? text = some operation := by
  unfold Operation.read at h
  split at h
  · rename_i hoperation
    cases h
    exact hoperation
  · cases h

namespace Invocation

variable {a b : Arguments}

theorem waitBudget_congr (h : Arguments.SameSetting a b) : waitBudget a = waitBudget b := by
  unfold waitBudget
  rw [← h.wait]
  cases hwait : a.wait with
  | false => rfl
  | true => rw [h.waitInterval hwait, h.waitTimeout hwait]

/-- Arguments with the same setting that agree on what their operation reads make the same invocation, or are refused
for the same reason. -/
theorem ofArguments_of_agree (env : Environment) (hsetting : Arguments.SameSetting a b)
    (hagree : ∀ operation, Operation.ofText? a.operation = some operation → Arguments.AgreeFor a b operation) :
    ofArguments env a = ofArguments env b := by
  have hregion : region a = region b := by
    unfold region
    rw [hsetting.region]
  unfold ofArguments
  rw [← hsetting.operation]
  -- What has to agree is known only after the operation is read: a text that names none is refused at once.
  refine bind_congr_of_ok fun operation hread => ?_
  have hown := hagree operation (operation_of_read (mapError_eq_ok_iff.mp hread))
  rw [hown.hasService, hregion, hsetting.cluster, hsetting.tls, hsetting.requestTimeout, hsetting.serverUrl,
    waitBudget_congr hsetting]
  simp only [hown.command hsetting.cluster]

/-- Two creations of a relational store: administrators, files, names and times that do not count are different, and
texts have other blank characters around them. -/
theorem ofArguments_of_agree_relationalStore :
    let a : Arguments :=
      { operation := "create", region := some "us-west-1", service := some "db", kind := some "postgres",
        volumeSizeGb := 10, maxCpuUnits := some 256, admin := some "root", password := some "secret",
        namesStart := some "d", serverUrl := some "manage.example", wait := false, waitTimeout := .ofSeconds 0 }
    let b : Arguments :=
      { operation := "create", region := some "us-west-1", service := some " db\n", kind := some "postgres ",
        volumeSizeGb := 10, maxMemoryMb := some 256, password := some "\tsecret", replicationUser := some " ",
        fileId := some "f", serverUrl := some "manage.example", wait := false }
    (∃ invocation, ofArguments ⟨[]⟩ a = .ok invocation) ∧ ofArguments ⟨[]⟩ a = ofArguments ⟨[]⟩ b := by
  intro a b
  have hkind : (ofArguments ⟨[]⟩ a).map (·.command.operation) = .ok .create := by decide
  obtain ⟨invocation, hinvocation, -⟩ := map_eq_ok_iff.mp hkind
  have hsetting : Arguments.SameSetting a b := ⟨rfl, rfl, rfl, rfl, rfl, rfl, rfl, nofun, nofun⟩
  have haccount : Arguments.SameAccount a b :=
    ⟨by decide, by decide, fun hother => absurd (by decide) hother⟩
  have horder : Arguments.SameOrder a b :=
    ⟨haccount, by decide, by decide, rfl, rfl, rfl, rfl, rfl, rfl⟩
  refine ⟨⟨invocation, hinvocation⟩, ofArguments_of_agree ⟨[]⟩ hsetting fun operation hoperation => ?_⟩
  have hcreate : Operation.ofText? a.operation = some .create := by decide
  obtain rfl := Option.some.inj (hcreate.symm.trans hoperation)
  exact ⟨by decide, horder⟩

end Invocation

end ServiceCatalog
