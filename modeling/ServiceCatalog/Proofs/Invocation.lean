import ServiceCatalog.Invocation
import ServiceCatalog.Proofs.Request.Create

/-!
# Arguments that make an invocation

The invocation that arguments make is characterized check by check. From this follows that a service can be checked
later with the arguments it was created with.
-/

namespace ServiceCatalog

open Request Service Text

namespace Invocation

theorem require_eq_ok_iff {condition : Bool} {violation : Violation} :
    require condition violation = .ok () ↔ condition = true := by
  unfold require
  split <;> simp_all

theorem region_eq_ok_iff {args : Arguments} {text : String} :
    region args = .ok text ↔ given? args.region = some text := by
  unfold region
  split <;> simp_all

/-- Arguments make an invocation if they pass all checks, and what each check yields goes into the invocation. -/
theorem ofArguments_eq_ok_iff {env : Environment} {args : Arguments} {invocation : Invocation} :
    ofArguments env args = .ok invocation ↔
      ∃ operation regionText tls,
        Operation.read args.operation = .ok operation ∧
        (!operation.needsService || (given? args.service).isSome) = true ∧
        given? args.region = some regionText ∧
        isBlankText args.cluster = false ∧
        args.tls.resolve env = .ok tls ∧
        args.requestTimeout.isZero = false ∧
        Connection.Settings.resolve args.serverUrl args.cluster tls args.requestTimeout = .ok invocation.connection ∧
        waitBudget args = .ok invocation.wait ∧
        args.command operation regionText = .ok invocation.command := by
  obtain ⟨command, connection, wait⟩ := invocation
  unfold ofArguments valid configured
  simp only [↓check_bind_eq_ok_iff, bind_eq_ok_iff, mapError_eq_ok_iff, require_eq_ok_iff, region_eq_ok_iff,
    Bool.not_eq_true']
  constructor
  · rintro ⟨operation, hoperation, hservice, regionText, hregion, hcluster, tls, htls, htimeout, _, hconnection, _,
      hwait, _, hcommand, hpure⟩
    cases hpure
    exact ⟨operation, regionText, tls, hoperation, hservice, hregion, hcluster, htls, htimeout, hconnection, hwait,
      hcommand⟩
  · rintro ⟨operation, regionText, tls, hoperation, hservice, hregion, hcluster, htls, htimeout, hconnection, hwait,
      hcommand⟩
    exact ⟨operation, hoperation, hservice, regionText, hregion, hcluster, tls, htls, htimeout, _, hconnection, _,
      hwait, _, hcommand, rfl⟩

end Invocation

namespace Arguments

/-- A command carries out the operation that was asked for. -/
theorem operation_of_command {args : Arguments} {operation : Operation} {region : String} {command : Command}
    (h : args.command operation region = .ok command) : command.operation = operation := by
  unfold Arguments.command at h
  cases operation with
  | create =>
    obtain ⟨request, -, rfl⟩ := map_eq_ok_iff.mp h
    rfl
  | checkInit =>
    obtain ⟨request, -, rfl⟩ := map_eq_ok_iff.mp h
    rfl
  | getConfig =>
    obtain ⟨request, -, rfl⟩ := map_eq_ok_iff.mp h
    rfl
  | delete => cases h; rfl
  | list => cases h; rfl
  | get => cases h; rfl
  | listMembers => cases h; rfl

/-- The check that the arguments of a creation ask for is the check that follows the creation. -/
theorem checkRequest_of_createRequest {args : Arguments} {region : String} {r : Create}
    (h : args.createRequest region = .ok r) : args.checkRequest region = .ok r.checkInit := by
  unfold createRequest at h
  cases hkind : given? args.kind with
  | none =>
    simp only [hkind] at h
    cases h
  | some text =>
    simp only [hkind] at h
    obtain ⟨kind, hread, hrequest⟩ := bind_eq_ok_iff.mp h
    obtain ⟨-, -, -, -, rfl⟩ := CreateOrder.request_eq_ok_iff.mp hrequest
    rw [CreateOrder.checkInit_sound]
    unfold checkRequest
    simp only [hkind, hread]
    cases kind <;> rfl

end Arguments

namespace Invocation

/-- Whoever can create a service with some arguments can check it with the same arguments: the check asks for the
service of the creation, with the administrator that the creation sends, over the same connection. -/
theorem ofArguments_checkInit_of_create {env : Environment} {args : Arguments} {creation : Invocation} {r : Create}
    (hcreation : ofArguments env args = .ok creation) (hcommand : creation.command = .create r)
    {text : String} (htext : Operation.ofText? text = some .checkInit) :
    ∃ check, ofArguments env { args with operation := text } = .ok check ∧
      check.command = .checkInit r.checkInit ∧
      (∀ key ∈ ["service_type", "service", "admin"], r.checkInit.toJson.get? key = r.toJson.get? key) ∧
      check.connection = creation.connection ∧ check.wait = creation.wait := by
  obtain ⟨operation, regionText, tls, hoperation, hservice, hregion, hcluster, htls, htimeout, hconnection, hwait,
    hbuilt⟩ := ofArguments_eq_ok_iff.mp hcreation
  rw [hcommand] at hbuilt
  have hcreate : operation = .create := (Arguments.operation_of_command hbuilt).symm
  subst hcreate
  obtain ⟨request, hrequest, hsame⟩ := map_eq_ok_iff.mp hbuilt
  cases hsame
  have hread : Operation.read text = .ok .checkInit := by
    unfold Operation.read
    rw [htext]
  have hcheck : Arguments.command { args with operation := text } .checkInit regionText =
      .ok (.checkInit r.checkInit) :=
    map_eq_ok_iff.mpr ⟨_, Arguments.checkRequest_of_createRequest hrequest, rfl⟩
  refine ⟨⟨.checkInit r.checkInit, creation.connection, creation.wait⟩, ?_, rfl, r.get?_toJson_checkInit, rfl, rfl⟩
  exact ofArguments_eq_ok_iff.mpr ⟨.checkInit, regionText, tls, hread, hservice, hregion, hcluster, htls, htimeout,
    hconnection, hwait, hcheck⟩

/-- A relational store whose administrator is named in vain: the check asks with the name and the password that were
sent. -/
theorem ofArguments_checkInit_of_relational_create :
    let args : Arguments :=
      { operation := "create-service", kind := some " PostgreSQL ", region := some "us-west-1", service := some "svc ",
        volumeSizeGb := 10, admin := some "someone", password := some " \t" }
    let service : Identity := ⟨"us-west-1", "default", "svc"⟩
    let admin : Credentials := ⟨"postgres", "changeme"⟩
    let r : Create := .relationalStore ⟨service, .standard, 3, 10, admin⟩ ⟨"repluser", "replpassword"⟩
    (ofArguments ⟨[]⟩ args).map (·.command) = .ok (.create r) ∧
      (ofArguments ⟨[]⟩ { args with operation := "check-init" }).map (·.command) =
        .ok (.checkInit ⟨.relationalStore, service, admin⟩) := by
  intro args service admin r
  have hcreate : (ofArguments ⟨[]⟩ args).map (·.command) = .ok (.create r) := by decide
  obtain ⟨creation, hcreation, hcommand⟩ := map_eq_ok_iff.mp hcreate
  have htext : Operation.ofText? "check-init" = some .checkInit := by decide
  obtain ⟨check, hcheck, hsame, -⟩ := ofArguments_checkInit_of_create hcreation hcommand htext
  exact ⟨hcreate, map_eq_ok_iff.mpr ⟨check, hcheck, hsame⟩⟩

end Invocation

end ServiceCatalog
