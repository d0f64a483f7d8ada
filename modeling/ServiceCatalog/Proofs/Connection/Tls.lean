import ServiceCatalog.Connection.Tls
import ServiceCatalog.Proofs.Results

/-!
# The files that secure a connection

The three files are given together or not at all. When nothing is missing the switch alone decides whether the
connection is secured, and then each file is where its path leads to.
-/

namespace ServiceCatalog.Connection

open Text

/-- A path that is given leads to a place: without the blank characters around it, it expands to that place. -/
def LeadsTo (env : Environment) (path : Option String) (place : String) : Prop :=
  ∃ text, path = some text ∧ isBlankText text = false ∧ expand env (trim text) = .ok place

theorem leadsTo_of_given {env : Environment} {path : Option String} {text place : String}
    (hgiven : given? path = some text) (hplace : expand env text = .ok place) : LeadsTo env path place := by
  cases path with
  | none => cases hgiven
  | some raw =>
    cases hblank : isBlankText raw with
    | true => simp [given?, hblank] at hgiven
    | false =>
      obtain rfl : trim raw = text := by simpa [given?, hblank] using hgiven
      exact ⟨raw, rfl, hblank, hplace⟩

namespace TlsOptions

/-- The number of files that are given. -/
def filesGiven (options : TlsOptions) : Nat := ([options.ca, options.cert, options.key].filterMap given?).length

/-- Nothing is missing: all three files are given, or none of them and the switch is off. -/
def Complete (options : TlsOptions) : Prop :=
  options.filesGiven = 0 ∧ options.enabled = false ∨ options.filesGiven = 3

variable {env : Environment} {options : TlsOptions}

theorem filesGiven_eq_zero_iff :
    options.filesGiven = 0 ↔ given? options.ca = none ∧ given? options.cert = none ∧ given? options.key = none := by
  unfold filesGiven
  rw [List.length_eq_zero_iff]
  simp

theorem filesGiven_eq_three_iff :
    options.filesGiven = 3 ↔ ∃ ca cert key,
      given? options.ca = some ca ∧ given? options.cert = some cert ∧ given? options.key = some key := by
  unfold filesGiven
  cases hca : given? options.ca <;> cases hcert : given? options.cert <;> cases hkey : given? options.key <;>
    simp [hca, hcert, hkey]

theorem resolve_of_all {ca cert key : String} (hca : given? options.ca = some ca)
    (hcert : given? options.cert = some cert) (hkey : given? options.key = some key) :
    options.resolve env =
      if options.enabled then do
        pure (some ⟨← expand env ca, ← expand env cert, ← expand env key⟩)
      else .ok none := by
  unfold resolve
  rw [hca, hcert, hkey]

/-- Files that are given only in part, or not at all although the switch is on, are reported with the paths that are
there. -/
theorem resolve_of_not_complete (h : ¬ options.Complete) :
    options.resolve env =
      .error (.incompleteTls options.enabled (given? options.ca) (given? options.cert) (given? options.key)) := by
  unfold Complete at h
  rw [filesGiven_eq_zero_iff, filesGiven_eq_three_iff] at h
  unfold resolve
  cases hca : given? options.ca <;> cases hcert : given? options.cert <;> cases hkey : given? options.key <;>
    simp_all

/-- Files that are found are used exactly if the switch is on, each from the place that its path leads to. -/
theorem of_resolve {tls : Option TlsFiles} (h : options.resolve env = .ok tls) :
    options.Complete ∧ (options.enabled = false → tls = none) ∧
      (options.enabled = true → ∃ files, tls = some files ∧ LeadsTo env options.ca files.ca ∧
        LeadsTo env options.cert files.cert ∧ LeadsTo env options.key files.key) := by
  by_cases hcomplete : options.Complete
  · refine ⟨hcomplete, ?_⟩
    obtain ⟨hnone, hoff⟩ | hall := hcomplete
    · obtain ⟨hca, hcert, hkey⟩ := filesGiven_eq_zero_iff.mp hnone
      have htls : tls = none := by
        unfold resolve at h
        simpa [hca, hcert, hkey, hoff, eq_comm] using h
      exact ⟨fun _ => htls, fun hon => absurd hon (by simp [hoff])⟩
    · obtain ⟨ca, cert, key, hca, hcert, hkey⟩ := filesGiven_eq_three_iff.mp hall
      rw [resolve_of_all hca hcert hkey] at h
      cases hswitch : options.enabled with
      | false =>
        rw [hswitch] at h
        exact ⟨fun _ => (Except.ok.inj h).symm, by simp⟩
      | true =>
        rw [hswitch, if_pos rfl] at h
        obtain ⟨caPlace, hcaPlace, h⟩ := bind_eq_ok_iff.mp h
        obtain ⟨certPlace, hcertPlace, h⟩ := bind_eq_ok_iff.mp h
        obtain ⟨keyPlace, hkeyPlace, h⟩ := bind_eq_ok_iff.mp h
        refine ⟨by simp, fun _ => ⟨⟨caPlace, certPlace, keyPlace⟩, (Except.ok.inj h).symm, ?_, ?_, ?_⟩⟩
        · exact leadsTo_of_given hca hcaPlace
        · exact leadsTo_of_given hcert hcertPlace
        · exact leadsTo_of_given hkey hkeyPlace
  · rw [resolve_of_not_complete hcomplete] at h
    cases h

theorem isSome_of_resolve {tls : Option TlsFiles} (h : options.resolve env = .ok tls) :
    tls.isSome = options.enabled := by
  obtain ⟨-, hoff, hon⟩ := of_resolve h
  cases hswitch : options.enabled with
  | false =>
    rw [hoff hswitch]
    rfl
  | true =>
    obtain ⟨files, rfl, -⟩ := hon hswitch
    rfl

end TlsOptions

end ServiceCatalog.Connection
