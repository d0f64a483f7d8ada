import ServiceCatalog.Proofs.Results
import ServiceCatalog.Request.Create

/-!
# Orders that become requests

An order that breaks no rule becomes one request, determined by its kind. The check that follows the request asks with
the administrator that the request carries.
-/

namespace ServiceCatalog.Request

open Service

/-- The check of a service sends the same kind, service and administrator as its creation. -/
theorem Create.get?_toJson_checkInit (r : Create) :
    ∀ key ∈ ["service_type", "service", "admin"], r.checkInit.toJson.get? key = r.toJson.get? key := by
  intro key hkey
  simp only [List.mem_cons, List.not_mem_nil, or_false] at hkey
  rcases hkey with rfl | rfl | rfl <;> cases r <;> rfl

namespace CreateOrder

/-- The administrator that the request for an order carries: a relational store has one of its own name. -/
def sentAdmin (order : CreateOrder) : Credentials :=
  match order.kind with
  | .relationalStore => { order.admin with user := relationalAdminUser }
  | _ => order.admin

/-- The request for an order that breaks no rule. -/
def sound (order : CreateOrder) : Create :=
  match order.kind with
  | .documentStore => .documentStore order.spec
  | .relationalStore =>
    .relationalStore { order.spec with admin := order.sentAdmin } (order.replication.getD defaultReplication)
  | .generic => .generic order.spec

theorem request_eq_ok_iff {order : CreateOrder} {r : Create} :
    order.request = .ok r ↔
      0 < order.replicas ∧ 0 < order.volumeSizeGb ∧ order.resources.check = .ok () ∧
        (order.kind = .relationalStore ∨ order.replication = none) ∧ r = order.sound := by
  unfold request
  by_cases hsize : order.replicas ≤ 0 ∨ order.volumeSizeGb ≤ 0
  · rw [if_pos hsize]
    constructor
    · intro h
      cases h
    · rintro ⟨hreplicas, hvolume, -⟩
      rcases hsize with h | h
      · exact absurd hreplicas (Int64.not_lt.mpr h)
      · exact absurd hvolume (Int64.not_lt.mpr h)
  · rw [if_neg hsize, check_bind_eq_ok_iff]
    rw [not_or, Int64.not_le, Int64.not_le] at hsize
    simp only [hsize.1, hsize.2, true_and]
    apply and_congr_right
    intro _
    cases hkind : order.kind <;> cases hreplication : order.replication <;>
      simp [hkind, hreplication, sound, sentAdmin, pure, Except.pure, throw, throwThe, MonadExceptOf.throw, eq_comm]

/-- The check for an order's request has the kind and the service of the order, and the administrator that is sent. -/
theorem checkInit_sound (order : CreateOrder) :
    order.sound.checkInit = ⟨order.kind, order.service, order.sentAdmin⟩ := by
  unfold sound sentAdmin
  cases order.kind <;> rfl

end CreateOrder

end ServiceCatalog.Request
