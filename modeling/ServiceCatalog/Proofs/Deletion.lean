import ServiceCatalog.Dispatch

/-!
# Deletions

A deletion lists the members of its service first and deletes only when that succeeded. The volumes of the members are
named by the result, whether the service could be deleted or not.
-/

namespace ServiceCatalog

open Service

/-- The volumes that the result of a command names as left behind. -/
def Stop.retained? : Except Stop Output → Option (List String)
  | .ok (.deleted deletion) => some deletion.volumeIds
  | .error (.failed e) => e.retainedVolumeIds?
  | _ => none

namespace Client

/-- A deletion whose members cannot be listed makes no other call. -/
theorem dispatch_delete_of_unlisted {client : Client} {service : Identity} {wait : Option Wait.Budget}
    {e : RemoteError} (h : client [] (.members service) = .error e) :
    client.dispatch (.delete service) wait = ⟨[.members service], [], .error (.failed (.remote e))⟩ := by
  simp only [dispatch, deleteKeepingVolumes, h, failure]

/-- A deletion whose members are listed calls for the deletion next, and its result names the volumes. -/
theorem dispatch_delete_of_listed {client : Client} {service : Identity} {wait : Option Wait.Budget}
    {members : List Member} (h : client [] (.members service) = .ok members) :
    client.dispatch (.delete service) wait =
      ⟨[.members service, .delete service], [],
        match client [.members service] (.delete service) with
        | .ok _ => .ok (.deleted ⟨service, members.map Member.volumeId⟩)
        | .error e => .error (.failed (.deleteFailed (members.map Member.volumeId) e))⟩ := by
  simp only [dispatch, deleteKeepingVolumes, h]
  cases client [.members service] (.delete service) <;> rfl

/-- Whatever a client answers, a deletion first lists the members of its service, once, and then deletes that service,
once, if and only if the members were listed. Without them nothing is deleted and no volumes are named; with them the
result names exactly their volumes, in their order, whether it is a success or carries the error of the deletion. -/
theorem dispatch_delete (client : Client) (service : Identity) (wait : Option Wait.Budget) :
    let run := client.dispatch (.delete service) wait
    let listing := client [] (.members service)
    let deletion := client [.members service] (.delete service)
    run.calls.head? = some (.members service) ∧
    run.calls.count (.members service) = 1 ∧
    run.calls.count (.delete service) ≤ 1 ∧
    (∀ call ∈ run.calls, call = .members service ∨ call = .delete service) ∧
    (.delete service ∈ run.calls ↔ ∃ members, listing = .ok members) ∧
    (∀ e, listing = .error e →
      run.result = .error (.failed (.remote e)) ∧ Stop.retained? run.result = none) ∧
    (∀ members, listing = .ok members →
      Stop.retained? run.result = some (members.map Member.volumeId) ∧
      (∀ answer, deletion = .ok answer →
        run.result = .ok (.deleted ⟨service, members.map Member.volumeId⟩)) ∧
      (∀ e, deletion = .error e →
        run.result = .error (.failed (.deleteFailed (members.map Member.volumeId) e)))) := by
  intro run listing deletion
  cases hlisting : client [] (.members service) with
  | error e =>
    have hrun : run = ⟨[.members service], [], .error (.failed (.remote e))⟩ := dispatch_delete_of_unlisted hlisting
    simp [hrun, listing, hlisting, Stop.retained?, ServiceError.retainedVolumeIds?]
  | ok members =>
    have hrun : run = _ := dispatch_delete_of_listed hlisting
    cases hdeletion : client [.members service] (.delete service) with
    | error e => simp [hrun, listing, hlisting, deletion, hdeletion, Stop.retained?, ServiceError.retainedVolumeIds?]
    | ok answer => simp [hrun, listing, hlisting, deletion, hdeletion, Stop.retained?]

end Client

end ServiceCatalog
