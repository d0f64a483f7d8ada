import ServiceCatalog.Proofs.Wire

/-!
# Creations on the wire

The text of a request to create a service determines the request. What the request shares with the check that follows
it stands in both under the same keys.
-/

namespace ServiceCatalog.Request

open Json Service

namespace Create

/-- A request is determined by its kind, its common part and the account of its standbys. -/
theorem eq_of_parts {r r' : Create} (hkind : r.kind = r'.kind) (hspec : r.spec = r'.spec)
    (hreplication : r.replication = r'.replication) : r = r' := by
  cases r <;> cases r' <;> simp_all [kind, spec, replication]

theorem exact_toJson (r : Create) : r.toJson.exact := by
  have hkind := kind_readsBack.exact r.kind
  have hservice := Identity.readsBack.exact r.spec.service
  have hresources := Resources.readsBack.exact r.spec.resources
  have hadmin := Credentials.readsBack.exact r.spec.admin
  cases hreplication : r.replication with
  | none =>
    simp [toJson, hreplication, CreateSpec.fields, exact, exactFields, hkind, hservice, hresources, exact_int64, hadmin]
  | some account =>
    simp [toJson, hreplication, CreateSpec.fields, exact, exactFields, hkind, hservice, hresources, exact_int64, hadmin,
      Credentials.readsBack.exact account]

theorem depth_toJson_le (r : Create) : r.toJson.depth ≤ 2 := by
  cases r <;> exact .refl

theorem toJson_injective : Function.Injective Create.toJson := by
  intro r r' h
  simp only [toJson, CreateSpec.fields, object.injEq, List.cons_append, List.nil_append, List.cons.injEq,
    Prod.mk.injEq, true_and, integer, number.injEq, Number.integer.injEq, Int64.toInt_inj] at h
  obtain ⟨hkind, hservice, hresources, hreplicas, hvolume, hadmin, hreplication⟩ := h
  have hspec : r.spec = r'.spec := by
    rw [CreateSpec.mk.injEq]
    exact ⟨Identity.readsBack.injective hservice, Resources.readsBack.injective hresources, hreplicas, hvolume,
      Credentials.readsBack.injective hadmin⟩
  refine eq_of_parts (kind_readsBack.injective hkind) hspec ?_
  cases haccount : r.replication <;> cases haccount' : r'.replication
  · rfl
  · simp [haccount, haccount'] at hreplication
  · simp [haccount, haccount'] at hreplication
  · simp only [haccount, haccount', List.cons.injEq, Prod.mk.injEq, true_and, and_true] at hreplication
    rw [Credentials.readsBack.injective hreplication]

theorem isSome_get?_replication_iff (r : Create) :
    (r.toJson.get? "replication").isSome ↔ r.kind = .relationalStore := by
  cases r <;> simp [toJson, get?, lookup?, kind, replication, CreateSpec.fields]

theorem sameUnder_checkInit (r : Create) :
    SameUnder "service_type" r.toJson r.checkInit.toJson ∧ SameUnder "service" r.toJson r.checkInit.toJson ∧
      SameUnder "admin" r.toJson r.checkInit.toJson := by
  refine ⟨⟨kindToJson r.kind, ?_⟩, ⟨r.spec.service.toJson, ?_⟩, ⟨r.spec.admin.toJson, ?_⟩⟩ <;>
    cases r <;> exact ⟨rfl, rfl⟩

/-- No two requests have one text. The objects that are read from the texts of a request and of its check agree on the
kind, the service and the administrator, and the request has an account for standbys only for a relational store. -/
theorem unambiguous_on_the_wire (r : Create) :
    (∀ r' : Create, r'.toJson.compact = r.toJson.compact → r' = r) ∧
    ∃ created checked, read? r.toJson.compact = some created ∧ read? r.checkInit.toJson.compact = some checked ∧
      SameUnder "service_type" created checked ∧ SameUnder "service" created checked ∧
      SameUnder "admin" created checked ∧ ((created.get? "replication").isSome ↔ r.kind = .relationalStore) := by
  have hread (r : Create) : read? r.toJson.compact = some r.toJson :=
    read?_compact r.exact_toJson (r.depth_toJson_le.trans (by decide))
  have hcheck : read? r.checkInit.toJson.compact = some r.checkInit.toJson :=
    read?_compact (CheckInit.readsBack.exact _) ((CheckInit.readsBack.depth _).trans (by decide))
  refine ⟨fun r' h => ?_, r.toJson, r.checkInit.toJson, hread r, hcheck, ?_⟩
  · have hdocument := hread r'
    rw [h, hread r] at hdocument
    exact toJson_injective (Option.some.inj hdocument).symm
  · obtain ⟨hkind, hservice, hadmin⟩ := r.sameUnder_checkInit
    exact ⟨hkind, hservice, hadmin, r.isSome_get?_replication_iff⟩

end Create

end ServiceCatalog.Request
