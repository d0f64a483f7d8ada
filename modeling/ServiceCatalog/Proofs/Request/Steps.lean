import ServiceCatalog.Proofs.Request.Create
import ServiceCatalog.Proofs.Rules

/-!
# Orders made step by step

Every step of an order is about one thing, and the last step about a thing decides it. So the steps may come in any
order as long as those about one thing stay in theirs, and what they leave of each thing tells whether there is a
request and what it says.
-/

namespace ServiceCatalog

open Service Rule

/-- Resources that can be given: every reservation is positive and within its limit. -/
structure Service.Resources.Sound (r : Resources) : Prop where
  cpu_pos : 0 < r.reservedCpuUnits
  cpu_le_max : r.reservedCpuUnits ≤ r.maxCpuUnits
  memory_pos : 0 < r.reservedMemoryMb
  memory_le_max : r.reservedMemoryMb ≤ r.maxMemoryMb

theorem Service.Resources.check_eq_ok_iff {r : Resources} : r.check = .ok () ↔ r.Sound := by
  have hrules : (∃ u, r.check = .ok u) ↔ ∀ rule ∈ r.rules, rule.Holds := r.decides_check.isOk_iff
  have hunit : (∃ u, r.check = .ok u) ↔ r.check = .ok () := ⟨fun ⟨_, h⟩ => h, fun h => ⟨(), h⟩⟩
  rw [← hunit, hrules]
  simp only [rules, reported, List.forall_mem_cons, List.not_mem_nil, false_imp_iff, implies_true, and_true]
  constructor
  · rintro ⟨⟨hcpu, -⟩, ⟨hmemory, -⟩, hcpuMax, hmemoryMax⟩
    exact ⟨hcpu, hcpuMax, hmemory, hmemoryMax⟩
  · rintro ⟨hcpu, hcpuMax, hmemory, hmemoryMax⟩
    exact ⟨⟨hcpu, Int64.lt_of_lt_of_le hcpu hcpuMax⟩, ⟨hmemory, Int64.lt_of_lt_of_le hmemory hmemoryMax⟩, hcpuMax,
      hmemoryMax⟩

namespace Request

namespace CreateStep

/-- What a step can be about. -/
inductive Subject where
  | replicas
  | volumeSize
  | resources
  | admin
  | replication
deriving DecidableEq

/-- What a step is about. -/
def subject : CreateStep → Subject
  | replicas _ => .replicas
  | volumeSize _ => .volumeSize
  | resources _ => .resources
  | admin _ => .admin
  | replication _ => .replication

/-- The number of replicas that a step asks for. -/
def replicas? : CreateStep → Option Int64
  | .replicas count => some count
  | _ => none

/-- The size of the volumes that a step asks for. -/
def volumeSize? : CreateStep → Option Int64
  | .volumeSize gigabytes => some gigabytes
  | _ => none

/-- The resources that a step asks for. -/
def resources? : CreateStep → Option Resources
  | .resources amounts => some amounts
  | _ => none

/-- The administrator that a step asks for. -/
def admin? : CreateStep → Option Credentials
  | .admin account => some account
  | _ => none

/-- The account of the standbys that a step asks for. -/
def replication? : CreateStep → Option Credentials
  | .replication account => some account
  | _ => none

/-- What the last step asks for that asks for something of a sort. -/
def last? {α : Type} (asked? : CreateStep → Option α) (steps : List CreateStep) : Option α :=
  (steps.filterMap asked?).getLast?

theorem last?_cons {α : Type} (asked? : CreateStep → Option α) (step : CreateStep) (steps : List CreateStep) :
    last? asked? (step :: steps) = (last? asked? steps).or (asked? step) := by
  unfold last?
  cases hstep : asked? step with
  | none => rw [List.filterMap_cons_none hstep, Option.or_none]
  | some a => rw [List.filterMap_cons_some hstep, List.getLast?_cons, ← Option.or_some]

theorem last?_replication_eq_none_iff {steps : List CreateStep} :
    last? replication? steps = none ↔ ¬∃ step ∈ steps, step.subject = .replication := by
  simp only [last?, List.getLast?_eq_none_iff, List.filterMap_eq_nil_iff, not_exists, not_and]
  refine forall₂_congr fun step _ => ?_
  cases step <;> simp [replication?, subject]

end CreateStep

namespace CreateOrder

open CreateStep

/-- What steps leave of an order: of each thing what the last step about it asks for, and otherwise what was there. -/
theorem applyAll_eq (order : CreateOrder) (steps : List CreateStep) :
    order.applyAll steps =
      { order with
        replicas := (last? replicas? steps).getD order.replicas
        volumeSizeGb := (last? volumeSize? steps).getD order.volumeSizeGb
        resources := (last? resources? steps).getD order.resources
        admin := (last? admin? steps).getD order.admin
        replication := (last? replication? steps).or order.replication } := by
  induction steps generalizing order with
  | nil => rfl
  | cons step steps ih =>
    have hrest : order.applyAll (step :: steps) = (order.apply step).applyAll steps := rfl
    rw [hrest, ih]
    simp only [last?_cons, Option.getD_or, Option.or_assoc]
    cases step <;> rfl

theorem apply_comm (order : CreateOrder) {a b : CreateStep} (h : a.subject ≠ b.subject) :
    (order.apply a).apply b = (order.apply b).apply a := by
  cases a <;> cases b <;> first | rfl | exact absurd rfl h

theorem kind_sound (order : CreateOrder) : order.sound.kind = order.kind := by
  unfold sound
  cases order.kind <;> rfl

theorem spec_sound (order : CreateOrder) : order.sound.spec = { order.spec with admin := order.sentAdmin } := by
  unfold sound sentAdmin
  cases order.kind <;> rfl

theorem sentAdmin_eq (order : CreateOrder) :
    order.sentAdmin =
      if order.kind = .relationalStore then ⟨relationalAdminUser, order.admin.password⟩ else order.admin := by
  unfold sentAdmin
  cases order.kind <;> rfl

theorem replication_sound (order : CreateOrder) :
    order.sound.replication =
      if order.kind = .relationalStore then some (order.replication.getD defaultReplication) else none := by
  unfold sound
  cases order.kind <;> rfl

/-- There is a request for an order made of steps just if what the steps leave is sound, and only a relational store has
been given an account for its standbys. The request says what the last steps ask for, or what is standard, but for the
name of the administrator of a relational store. Steps about different things can change places. -/
theorem request_applyAll (kind : Kind) (service : Identity) (steps : List CreateStep) :
    let replicas := (last? replicas? steps).getD 3
    let volumeSizeGb := (last? volumeSize? steps).getD 0
    let resources := (last? resources? steps).getD (.reserved 256 256)
    let admin := (last? admin? steps).getD ⟨"dbadmin", "changeme"⟩
    let replication := (last? replication? steps).getD ⟨"repluser", "replpassword"⟩
    let result := ((new kind service).applyAll steps).request
    ((∃ r, result = .ok r) ↔
      0 < replicas ∧ 0 < volumeSizeGb ∧ resources.Sound ∧
        ((∃ step ∈ steps, step.subject = .replication) → kind = .relationalStore)) ∧
    (∀ r, result = .ok r →
      r.kind = kind ∧ r.spec.service = service ∧ r.spec.replicas = replicas ∧ r.spec.volumeSizeGb = volumeSizeGb ∧
      r.spec.resources = resources ∧
      (kind ≠ .relationalStore → r.spec.admin = admin ∧ r.replication = none) ∧
      (kind = .relationalStore → r.spec.admin = ⟨"postgres", admin.password⟩ ∧ r.replication = some replication)) ∧
    ∀ (order : CreateOrder) (a b : CreateStep), a.subject ≠ b.subject →
      (order.apply a).apply b = (order.apply b).apply a := by
  intro replicas volumeSizeGb resources admin replication result
  have horder : (new kind service).applyAll steps =
      ⟨kind, service, replicas, volumeSizeGb, resources, admin, last? replication? steps⟩ := by
    rw [applyAll_eq, show (new kind service).replication = none from rfl, Option.or_none]
    rfl
  have hresult : result = (CreateOrder.mk kind service replicas volumeSizeGb resources admin
      (last? replication? steps)).request := congrArg request horder
  refine ⟨?_, fun r hr => ?_, fun order a b h => order.apply_comm h⟩
  · rw [hresult, imp_iff_or_not, ← last?_replication_eq_none_iff]
    simp only [request_eq_ok_iff, Resources.check_eq_ok_iff, exists_and_left, exists_eq, and_true]
  · rw [hresult, request_eq_ok_iff] at hr
    obtain ⟨-, -, -, -, rfl⟩ := hr
    rw [kind_sound, spec_sound, replication_sound, sentAdmin_eq]
    refine ⟨rfl, rfl, rfl, rfl, rfl, fun hkind => ?_, fun hkind => ?_⟩
    · rw [if_neg hkind, if_neg hkind]
      exact ⟨rfl, rfl⟩
    · rw [if_pos hkind, if_pos hkind]
      exact ⟨rfl, rfl⟩

end CreateOrder

end Request

end ServiceCatalog
