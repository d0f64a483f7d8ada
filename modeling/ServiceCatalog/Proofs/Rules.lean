import ServiceCatalog.Proofs.Connection.Tls
import ServiceCatalog.Proofs.Invocation

/-!
# The rules of the arguments

A list of rules decides a result if the result is a success where all rules hold, and otherwise the error that belongs
to the first broken one. Each check of the arguments is decided by rules of its own, and a sequence of checks by their
rules one after another, so that the arguments as a whole are decided by one list.
-/

namespace ServiceCatalog

open Request Service Text Connection

/-- A rule: what it asks for, and the errors that say that it is broken. -/
structure Rule (ε : Type) where
  Holds : Prop
  Reports : ε → Prop

namespace Rule

variable {ε ε' α β : Type}

/-- A rule that is always reported in the same way. -/
def reported (holds : Prop) (error : ε) : Rule ε := ⟨holds, fun e => e = error⟩

/-- The same rule, with its errors in another form. -/
def mapError (f : ε → ε') (rule : Rule ε) : Rule ε' := ⟨rule.Holds, fun e' => ∃ e, rule.Reports e ∧ e' = f e⟩

@[simp] theorem mapError_reported (f : ε → ε') (holds : Prop) (error : ε) :
    (reported holds error).mapError f = reported holds (f error) := by
  simp [mapError, reported]

/-- An error says that a rule is broken while all rules before it hold. -/
def FirstBroken (rules : List (Rule ε)) (e : ε) : Prop :=
  ∃ earlier rule later, rules = earlier ++ rule :: later ∧ (∀ r ∈ earlier, r.Holds) ∧ ¬ rule.Holds ∧ rule.Reports e

/-- Rules decide a result: it is a success where all of them hold, and otherwise the error of the first broken one. -/
structure Decides (rules : List (Rule ε)) (x : Except ε α) : Prop where
  holds : ∀ a, x = .ok a → ∀ rule ∈ rules, rule.Holds
  firstBroken : ∀ e, x = .error e → FirstBroken rules e

theorem decides_ok {rules : List (Rule ε)} {a : α} (h : ∀ rule ∈ rules, rule.Holds) :
    Decides rules (.ok a : Except ε α) :=
  ⟨fun _ _ => h, by simp⟩

theorem decides_nil (a : α) : Decides ([] : List (Rule ε)) (.ok a) := decides_ok (by simp)

/-- A rule that is broken, in front of all others. -/
theorem decides_error {rule : Rule ε} {rules : List (Rule ε)} {e : ε} (hrule : ¬ rule.Holds) (hreports : rule.Reports e) :
    Decides (rule :: rules) (.error e : Except ε α) := by
  refine ⟨by simp, fun other hother => ?_⟩
  cases hother
  exact ⟨[], rule, rules, rfl, by simp, hrule, hreports⟩

theorem firstBroken_append_left {rules : List (Rule ε)} {e : ε} (h : FirstBroken rules e) (more : List (Rule ε)) :
    FirstBroken (rules ++ more) e := by
  obtain ⟨earlier, rule, later, rfl, hrest⟩ := h
  exact ⟨earlier, rule, later ++ more, by simp, hrest⟩

theorem firstBroken_append_right {rules more : List (Rule ε)} {e : ε} (hrules : ∀ r ∈ rules, r.Holds)
    (h : FirstBroken more e) : FirstBroken (rules ++ more) e := by
  obtain ⟨earlier, rule, later, rfl, hearlier, hbroken⟩ := h
  refine ⟨rules ++ earlier, rule, later, by simp, ?_, hbroken⟩
  intro r hr
  obtain hfirst | hsecond := List.mem_append.mp hr
  · exact hrules r hfirst
  · exact hearlier r hsecond

/-- Two steps are decided by the rules of the first and then those of the second. -/
theorem Decides.bind {rules more : List (Rule ε)} {x : Except ε α} {f : α → Except ε β} (hx : Decides rules x)
    (hf : ∀ a, x = .ok a → Decides more (f a)) : Decides (rules ++ more) (x >>= f) := by
  cases x with
  | error e =>
    refine ⟨fun b hb => (by cases hb), fun e' he' => ?_⟩
    cases he'
    exact firstBroken_append_left (hx.firstBroken e rfl) more
  | ok a =>
    have hnext := hf a rfl
    refine ⟨fun b hb rule hrule => ?_, fun e he => ?_⟩
    · obtain hfirst | hsecond := List.mem_append.mp hrule
      · exact hx.holds a rfl rule hfirst
      · exact hnext.holds b hb rule hsecond
    · exact firstBroken_append_right (hx.holds a rfl) (hnext.firstBroken e he)

/-- A step without checks adds no rules. -/
theorem Decides.map {rules : List (Rule ε)} {x : Except ε α} (hx : Decides rules x) (f : α → β) :
    Decides rules (x.map f) := by
  cases x with
  | error e =>
    refine ⟨fun b hb => (by cases hb), fun e' he' => ?_⟩
    cases he'
    exact hx.firstBroken e rfl
  | ok a => exact decides_ok (hx.holds a rfl)

theorem Decides.mapError {rules : List (Rule ε)} {x : Except ε α} (hx : Decides rules x) (f : ε → ε') :
    Decides (rules.map (Rule.mapError f)) (x.mapError f) := by
  cases x with
  | error e =>
    obtain ⟨earlier, rule, later, rfl, hearlier, hbroken, hreports⟩ := hx.firstBroken e rfl
    refine ⟨fun b hb => (by cases hb), fun e' he' => ?_⟩
    cases he'
    refine ⟨earlier.map (Rule.mapError f), rule.mapError f, later.map (Rule.mapError f), by simp, ?_, hbroken, e,
      hreports, rfl⟩
    intro r hr
    obtain ⟨original, hmem, rfl⟩ := List.mem_map.mp hr
    exact hearlier original hmem
  | ok a =>
    refine decides_ok fun rule hrule => ?_
    obtain ⟨original, hmem, rfl⟩ := List.mem_map.mp hrule
    exact hx.holds a rfl original hmem

/-- A rule that holds may stand in front. -/
theorem Decides.cons {rule : Rule ε} {rules : List (Rule ε)} {x : Except ε α} (hrule : rule.Holds)
    (hx : Decides rules x) : Decides (rule :: rules) x := by
  have hfirst : Decides [rule] (.ok () : Except ε Unit) := decides_ok (by simpa using hrule)
  exact hfirst.bind fun _ _ => hx

/-- A check that fails where its rule is broken, in front of others. -/
theorem Decides.ite {condition holds : Prop} [Decidable condition] {error : ε} {rules : List (Rule ε)} {x : Except ε α}
    (hcondition : condition ↔ ¬ holds) (hx : holds → Decides rules x) :
    Decides (.reported holds error :: rules) (if condition then .error error else x) := by
  split
  · rename_i hbroken
    exact decides_error (hcondition.mp hbroken) rfl
  · rename_i hkept
    have hholds : holds := not_not.mp (mt hcondition.mpr hkept)
    exact Decides.cons hholds (hx hholds)

theorem Decides.isOk_iff {rules : List (Rule ε)} {x : Except ε α} (h : Decides rules x) :
    (∃ a, x = .ok a) ↔ ∀ rule ∈ rules, rule.Holds := by
  constructor
  · rintro ⟨a, ha⟩
    exact h.holds a ha
  · intro hall
    cases x with
    | ok a => exact ⟨a, rfl⟩
    | error e =>
      obtain ⟨earlier, rule, later, rfl, -, hbroken, -⟩ := h.firstBroken e rfl
      exact absurd (hall rule (by simp)) hbroken

end Rule

open Rule

/-- A path can be expanded if it is to be used. -/
def Connection.pathRule (env : Environment) (used : Bool) (path : Option String) : Rule Fault where
  Holds := ∀ text, used = true → given? path = some text →
    ∃ place, Expansion.expandPath env.get? env.home? text = .ok place
  Reports fault := ∃ text name, given? path = some text ∧
    Expansion.expandPath env.get? env.home? text = .error name ∧ fault = .unknownVariable text name

/-- The rules for transport security: no file is missing, and the paths can be expanded if it is on. -/
def Connection.TlsOptions.rules (env : Environment) (options : TlsOptions) : List (Rule Fault) :=
  [.reported options.Complete
      (.incompleteTls options.enabled (given? options.ca) (given? options.cert) (given? options.key)),
    pathRule env options.enabled options.ca,
    pathRule env options.enabled options.cert,
    pathRule env options.enabled options.key]

/-- The rules for container resources. -/
def Service.Resources.rules (r : Resources) : List (Rule Violation) :=
  [.reported (0 < r.reservedCpuUnits ∧ 0 < r.maxCpuUnits) (.cpuNotPositive r.reservedCpuUnits r.maxCpuUnits),
    .reported (0 < r.reservedMemoryMb ∧ 0 < r.maxMemoryMb) (.memoryNotPositive r.reservedMemoryMb r.maxMemoryMb),
    .reported (r.reservedCpuUnits ≤ r.maxCpuUnits) (.cpuAboveMax r.reservedCpuUnits r.maxCpuUnits),
    .reported (r.reservedMemoryMb ≤ r.maxMemoryMb) (.memoryAboveMax r.reservedMemoryMb r.maxMemoryMb)]

namespace Arguments

/-- A kind of service that is given has one of the names. -/
def kindRule (args : Arguments) : Rule Violation where
  Holds := ∀ text, given? args.kind = some text → Kind.normalize text ∈ Kind.names.map Prod.fst
  Reports violation := ∃ text, given? args.kind = some text ∧ violation = .unknownKind (Kind.normalize text)

/-- An account for standbys is given for a relational store only. -/
def replicationRule (args : Arguments) : Rule Violation where
  Holds := (∃ text, given? args.kind = some text ∧ Kind.ofText? text = some .relationalStore) ∨
    given? args.replicationUser = none ∧ given? args.replicationPassword = none
  Reports violation := ∃ text kind, given? args.kind = some text ∧ Kind.ofText? text = some kind ∧
    violation = .replicationNotApplicable kind

/-- The rules for what is ordered with a creation. Limits that are not given equal the reservations. -/
def orderRules (args : Arguments) : List (Rule Violation) :=
  .reported (0 < args.replicas ∧ 0 < args.volumeSizeGb) (.badSize args.replicas args.volumeSizeGb) ::
    (Resources.rules
      { maxCpuUnits := args.maxCpuUnits.getD args.cpuUnits
        reservedCpuUnits := args.cpuUnits
        maxMemoryMb := args.maxMemoryMb.getD args.memoryMb
        reservedMemoryMb := args.memoryMb } ++
    [args.replicationRule])

/-- The rules for what only the operation that is asked for needs. -/
def fieldRules (args : Arguments) : List (Rule Violation) :=
  match Operation.ofText? args.operation with
  | some .create => .reported ((given? args.kind).isSome = true) .noKind :: args.kindRule :: args.orderRules
  | some .checkInit => [args.kindRule]
  | some .getConfig =>
    [.reported ((given? args.serviceUuid).isSome = true ∧ (given? args.fileId).isSome = true) .noConfigFile]
  | _ => []

/-- The address that is used, with the scheme that transport security calls for, is a web address. -/
def addressRule (args : Arguments) : Rule Fault :=
  let text := Endpoint.text args.serverUrl args.cluster (.secured args.tls.enabled)
  { Holds := ∃ url, Url.parse text = .ok url
    Reports := fun fault => ∃ cause, Url.parse text = .error cause ∧ fault = .badUrl text cause }

/-- All rules for the arguments of a run: the operation, its service, region and cluster, transport security, the time
for a request, the address, the interval of a wait, and what the operation itself needs. -/
def rules (env : Environment) (args : Arguments) : List (Rule ServiceError) :=
  [.reported (trim args.operation ∈ Operation.names.map Prod.fst)
      (.validation (.unknownOperation (trim args.operation))),
    .reported (Operation.ofText? args.operation = some .list ∨ (given? args.service).isSome = true)
      (.validation .noService),
    .reported ((given? args.region).isSome = true) (.validation .noRegion),
    .reported (isBlankText args.cluster = false) (.validation .noCluster)] ++
  (args.tls.rules env).map (Rule.mapError .configuration) ++
  [.reported (0 < args.requestTimeout.nanos) (.validation .noRequestTime),
    args.addressRule.mapError .configuration,
    .reported (args.wait = true → 0 < args.waitInterval.nanos) (.validation .noInterval)] ++
  args.fieldRules.map (Rule.mapError .validation)

end Arguments

/-! ## Each check is decided by its rules -/

theorem lookup_isSome_iff_mem {α β : Type} [BEq α] [LawfulBEq α] {key : α} {entries : List (α × β)} :
    (entries.lookup key).isSome = true ↔ key ∈ entries.map Prod.fst := by
  simp [List.lookup_isSome_iff]

theorem Operation.decides_read (text : String) :
    Decides [.reported (trim text ∈ Operation.names.map Prod.fst) (.unknownOperation (trim text))]
      (Operation.read text) := by
  rw [← lookup_isSome_iff_mem]
  unfold Operation.read Operation.ofText?
  cases Operation.names.lookup (trim text) with
  | none => exact decides_error (by simp [reported]) rfl
  | some operation => exact Decides.cons rfl (decides_nil _)

example : Operation.names.map Prod.fst =
    ["create", "check-init", "delete", "list", "get", "list-members", "get-config", "create-service",
      "check-service-init", "delete-service", "list-services", "get-service"] := by
  decide

namespace Connection

variable {env : Environment}

theorem pathRule_of_unused (path : Option String) : (pathRule env false path).Holds := by
  intro text hused
  cases hused

theorem pathRule_of_absent {path : Option String} (used : Bool) (h : given? path = none) :
    (pathRule env used path).Holds := by
  intro text _ hgiven
  rw [h] at hgiven
  cases hgiven

theorem decides_expand {path : Option String} {text : String} (hgiven : given? path = some text) :
    Decides [pathRule env true path] (expand env text) := by
  unfold expand
  cases hexpanded : Expansion.expandPath env.get? env.home? text with
  | error name =>
    refine decides_error ?_ ⟨text, name, hgiven, hexpanded, rfl⟩
    intro hholds
    obtain ⟨place, hplace⟩ := hholds text rfl hgiven
    rw [hexpanded] at hplace
    cases hplace
  | ok place =>
    refine Decides.cons ?_ (decides_nil _)
    intro other _ hother
    obtain rfl : text = other := Option.some.inj (hgiven.symm.trans hother)
    exact ⟨place, hexpanded⟩

theorem TlsOptions.decides_resolve (env : Environment) (options : TlsOptions) :
    Decides (options.rules env) (options.resolve env) := by
  by_cases hcomplete : options.Complete
  · apply Decides.cons hcomplete
    obtain ⟨hnone, hoff⟩ | hall := hcomplete
    · obtain ⟨hca, hcert, hkey⟩ := filesGiven_eq_zero_iff.mp hnone
      have hresolved : options.resolve env = .ok none := by
        unfold resolve
        simp [hca, hcert, hkey, hoff]
      rw [hresolved]
      exact Decides.cons (pathRule_of_absent _ hca) (Decides.cons (pathRule_of_absent _ hcert)
        (Decides.cons (pathRule_of_absent _ hkey) (decides_nil _)))
    · obtain ⟨ca, cert, key, hca, hcert, hkey⟩ := filesGiven_eq_three_iff.mp hall
      rw [resolve_of_all hca hcert hkey]
      cases options.enabled with
      | false =>
        exact Decides.cons (pathRule_of_unused _) (Decides.cons (pathRule_of_unused _)
          (Decides.cons (pathRule_of_unused _) (decides_nil _)))
      | true =>
        refine (decides_expand hca).bind fun caPlace _ => ?_
        refine (decides_expand hcert).bind fun certPlace _ => ?_
        refine (decides_expand hkey).bind fun keyPlace _ => ?_
        exact decides_nil _
  · rw [resolve_of_not_complete hcomplete]
    exact decides_error hcomplete rfl

end Connection

theorem Service.Resources.decides_check (r : Resources) : Decides r.rules r.check := by
  have hpositive (a b : Int64) : a ≤ 0 ∨ b ≤ 0 ↔ ¬ (0 < a ∧ 0 < b) := by
    rw [not_and_or, Int64.not_lt, Int64.not_lt]
  unfold check
  refine Decides.ite (hpositive _ _) fun _ => ?_
  refine Decides.ite (hpositive _ _) fun _ => ?_
  refine Decides.ite Int64.not_le.symm fun _ => ?_
  refine Decides.ite Int64.not_le.symm fun _ => ?_
  exact decides_nil _

namespace Arguments

variable (args : Arguments) (region : String)

theorem decides_kind {text : String} (hgiven : given? args.kind = some text) :
    Decides [args.kindRule] (Kind.read text) := by
  unfold Kind.read Kind.ofText?
  cases hkind : Kind.names.lookup (Kind.normalize text) with
  | none =>
    refine decides_error ?_ ⟨text, hgiven, rfl⟩
    intro hholds
    have hknown := lookup_isSome_iff_mem.mpr (hholds text hgiven)
    rw [hkind] at hknown
    cases hknown
  | some kind =>
    refine Decides.cons ?_ (decides_nil _)
    intro other hother
    obtain rfl : text = other := Option.some.inj (hgiven.symm.trans hother)
    rw [← lookup_isSome_iff_mem, hkind]
    rfl

theorem replication_eq_none_iff :
    args.replication = none ↔ given? args.replicationUser = none ∧ given? args.replicationPassword = none := by
  unfold replication
  cases given? args.replicationUser <;> cases given? args.replicationPassword <;> simp

theorem replicationRule_holds_iff {text : String} {kind : Kind} (hgiven : given? args.kind = some text)
    (hkind : Kind.ofText? text = some kind) :
    args.replicationRule.Holds ↔ kind = .relationalStore ∨ args.replication = none := by
  rw [replication_eq_none_iff]
  refine or_congr_left ⟨?_, ?_⟩
  · rintro ⟨other, hother, hrelational⟩
    obtain rfl : text = other := Option.some.inj (hgiven.symm.trans hother)
    exact Option.some.inj (hkind.symm.trans hrelational)
  · rintro rfl
    exact ⟨text, hgiven, hkind⟩

theorem decides_createOrder {text : String} {kind : Kind} (hgiven : given? args.kind = some text)
    (hkind : Kind.ofText? text = some kind) :
    Decides args.orderRules (args.createOrder kind region).request := by
  have hrule := args.replicationRule_holds_iff hgiven hkind
  unfold CreateOrder.request
  refine Decides.ite ?_ fun _ => ?_
  · rw [not_and_or, Int64.not_lt, Int64.not_lt]
    rfl
  refine Decides.bind (Resources.decides_check _) fun _ _ => ?_
  dsimp only [createOrder]
  cases hreplication : args.replication with
  | none =>
    apply Decides.cons (hrule.mpr (Or.inr hreplication))
    cases kind <;> exact decides_nil _
  | some account =>
    have hreports : args.replicationRule.Reports (.replicationNotApplicable kind) := ⟨text, kind, hgiven, hkind, rfl⟩
    cases kind with
    | relationalStore => exact Decides.cons (hrule.mpr (Or.inl rfl)) (decides_nil _)
    | documentStore => exact decides_error (by rw [hrule, hreplication]; simp) hreports
    | generic => exact decides_error (by rw [hrule, hreplication]; simp) hreports

theorem kind_of_read {text : String} {kind : Kind} (h : Kind.read text = .ok kind) : Kind.ofText? text = some kind := by
  unfold Kind.read at h
  split at h
  · rename_i hkind
    cases h
    exact hkind
  · cases h

theorem decides_createRequest :
    Decides (.reported ((given? args.kind).isSome = true) .noKind :: args.kindRule :: args.orderRules)
      (args.createRequest region) := by
  unfold createRequest
  cases hgiven : given? args.kind with
  | none => exact decides_error (by simp [reported]) rfl
  | some text =>
    refine Decides.cons rfl ?_
    change Decides ([args.kindRule] ++ args.orderRules)
      (Kind.read text >>= fun kind => (args.createOrder kind region).request)
    refine Decides.bind (args.decides_kind hgiven) fun kind hread => ?_
    exact args.decides_createOrder region hgiven (kind_of_read hread)

theorem decides_checkRequest : Decides [args.kindRule] (args.checkRequest region) := by
  unfold checkRequest
  cases hgiven : given? args.kind with
  | none =>
    refine Decides.cons ?_ (decides_nil _)
    intro text htext
    rw [hgiven] at htext
    cases htext
  | some text =>
    change Decides ([args.kindRule] ++ []) (Kind.read text >>= _)
    exact Decides.bind (args.decides_kind hgiven) fun kind _ => decides_nil _

theorem decides_configFileRequest :
    Decides [.reported ((given? args.serviceUuid).isSome = true ∧ (given? args.fileId).isSome = true) .noConfigFile]
      (args.configFileRequest region) := by
  unfold configFileRequest
  cases given? args.serviceUuid with
  | none => exact decides_error (by simp [reported]) rfl
  | some uuid =>
    cases given? args.fileId with
    | none => exact decides_error (by simp [reported]) rfl
    | some id => exact Decides.cons ⟨rfl, rfl⟩ (decides_nil _)

theorem decides_command {operation : Operation} (hoperation : Operation.ofText? args.operation = some operation) :
    Decides args.fieldRules (args.command operation region) := by
  unfold fieldRules command
  rw [hoperation]
  cases operation with
  | create => exact (args.decides_createRequest region).map _
  | checkInit => exact (args.decides_checkRequest region).map _
  | getConfig => exact (args.decides_configFileRequest region).map _
  | delete => exact decides_nil _
  | list => exact decides_nil _
  | get => exact decides_nil _
  | listMembers => exact decides_nil _

theorem decides_address {tls : Option TlsFiles} (htls : tls.isSome = args.tls.enabled) :
    Decides [args.addressRule] (Connection.Settings.resolve args.serverUrl args.cluster tls args.requestTimeout) := by
  unfold Connection.Settings.resolve
  rw [htls]
  dsimp only
  split
  · rename_i server hserver
    exact Decides.cons ⟨server, hserver⟩ (decides_nil _)
  · rename_i cause hcause
    refine decides_error ?_ ⟨cause, hcause, rfl⟩
    rintro ⟨url, hurl⟩
    rw [hcause] at hurl
    cases hurl

end Arguments

namespace Invocation

theorem decides_require {condition : Bool} {holds : Prop} (h : condition = true ↔ holds) (violation : Violation) :
    Decides [.reported holds (.validation violation)] (require condition violation) := by
  unfold require
  cases condition with
  | false => exact decides_error (fun hholds => by simpa using h.mpr hholds) rfl
  | true => exact Decides.cons (h.mp rfl) (decides_nil _)

theorem decides_region (args : Arguments) :
    Decides [.reported ((given? args.region).isSome = true) (.validation .noRegion)] (region args) := by
  unfold region
  cases given? args.region with
  | none => exact decides_error (by simp [reported]) rfl
  | some text => exact Decides.cons rfl (decides_nil _)

theorem decides_waitBudget (args : Arguments) :
    Decides [.reported (args.wait = true → 0 < args.waitInterval.nanos) (.validation .noInterval)]
      (waitBudget args) := by
  unfold waitBudget Wait.Budget.new
  cases args.wait with
  | false => exact Decides.cons (by simp [reported]) (decides_nil _)
  | true =>
    by_cases hpos : 0 < args.waitInterval.nanos
    · rw [dif_pos hpos]
      exact Decides.cons (fun _ => hpos) (decides_nil _)
    · rw [dif_neg hpos]
      exact decides_error (fun hholds => hpos (hholds rfl)) rfl

theorem decides_operation (text : String) :
    Decides [.reported (trim text ∈ Operation.names.map Prod.fst) (.validation (.unknownOperation (trim text)))]
      (valid (Operation.read text)) := by
  have hread := (Operation.decides_read text).mapError ServiceError.validation
  simp only [List.map_cons, List.map_nil, mapError_reported] at hread
  exact hread

/-- The arguments of a run are decided by their rules. -/
theorem decides_ofArguments (env : Environment) (args : Arguments) :
    Decides (args.rules env) (ofArguments env args) := by
  unfold Arguments.rules ofArguments
  simp only [List.append_assoc, List.cons_append, List.nil_append]
  refine (decides_operation args.operation).bind fun operation hread => ?_
  have hoperation : Operation.ofText? args.operation = some operation := by
    unfold valid Operation.read at hread
    cases hnamed : Operation.ofText? args.operation with
    | none => simp [hnamed, Except.mapError] at hread
    | some other => simpa [hnamed, Except.mapError] using hread
  have hservice : (!operation.needsService || (given? args.service).isSome) = true ↔
      Operation.ofText? args.operation = some .list ∨ (given? args.service).isSome = true := by
    rw [hoperation]
    cases operation <;> simp [Operation.needsService]
  refine (decides_require hservice .noService).bind fun _ _ => ?_
  refine (decides_region args).bind fun region _ => ?_
  refine (decides_require (by simp) .noCluster).bind fun _ _ => ?_
  refine ((args.tls.decides_resolve env).mapError ServiceError.configuration).bind fun tls htls => ?_
  have hsecured : tls.isSome = args.tls.enabled := TlsOptions.isSome_of_resolve (mapError_eq_ok_iff.mp htls)
  refine (decides_require (by simp [Duration.isZero, Nat.pos_iff_ne_zero]) .noRequestTime).bind fun _ _ => ?_
  refine ((args.decides_address hsecured).mapError ServiceError.configuration).bind fun connection _ => ?_
  refine (decides_waitBudget args).bind fun wait _ => ?_
  have hcommand := (args.decides_command region hoperation).mapError ServiceError.validation
  rw [← List.append_nil (args.fieldRules.map _)]
  exact hcommand.bind fun command _ => decides_nil _

/-- A region that is blank is reported before a request that may take no time. -/
example : (ofArguments ⟨[]⟩ { operation := "list", region := some " ", requestTimeout := .zero }).map (·.command) =
    .error (.validation .noRegion) := by
  decide

/-- Arguments make an invocation exactly if all their rules hold. Otherwise the error is that of the first broken rule. -/
theorem ofArguments_decided_by_rules (env : Environment) (args : Arguments) :
    ((∃ invocation, ofArguments env args = .ok invocation) ↔ ∀ rule ∈ args.rules env, rule.Holds) ∧
      ∀ e, ofArguments env args = .error e → FirstBroken (args.rules env) e := by
  have hdecides := decides_ofArguments env args
  exact ⟨hdecides.isOk_iff, hdecides.firstBroken⟩

end Invocation

end ServiceCatalog
