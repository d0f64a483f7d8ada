import ServiceCatalog.Program
import ServiceCatalog.Proofs.Deletion
import ServiceCatalog.Proofs.Output.Shown
import ServiceCatalog.Proofs.Results

/-!
# Volumes that a run leaves behind

A deletion that listed the members of its service ends with a report. Whether the volumes of the members can be read in
it depends on the format of output if the deletion succeeded, and on nothing if it failed.
-/

namespace ServiceCatalog.Program

open CommandLine Output

/-- Whether volumes can be read in the line that names those of a failed deletion. The line has no other line ends than
the volumes have. -/
def NamedInRetainedLine (volumeIds : List String) (err : String) : Prop :=
  ∃ front line back, err = front ++ "\n  retained volumes: " ++ line ++ "\n" ++ back ∧
    FoundIn volumeIds line.toList ∧ ((∀ id ∈ volumeIds, '\n' ∉ id.toList) → '\n' ∉ line.toList)

/-- Whether volumes can be read in a report: on standard output after a success, and else among the errors. -/
def Report.ShowsVolumes (report : Report) (format : Format) (volumeIds : List String) : Prop :=
  if report.exitCode = 0 then Shows format volumeIds report.out else NamedInRetainedLine volumeIds report.err

private theorem foundIn_intercalate (separator : List Char) (volumeIds : List String) :
    FoundIn volumeIds (separator.intercalate (volumeIds.map String.toList)) := by
  induction volumeIds with
  | nil => trivial
  | cons s rest ih =>
    cases rest with
    | nil => exact ⟨[], [], by simp, trivial⟩
    | cons next rest =>
      refine ⟨[], separator ++ separator.intercalate ((next :: rest).map String.toList), ?_, ih.append_left separator⟩
      simp [List.intercalate_cons_cons]

private theorem mem_intercalate {separator : List Char} {lines : List (List Char)} {c : Char}
    (h : c ∈ separator.intercalate lines) : c ∈ separator ∨ ∃ line ∈ lines, c ∈ line := by
  induction lines with
  | nil => simp at h
  | cons line rest ih =>
    cases rest with
    | nil => exact .inr ⟨line, by simp, by simpa using h⟩
    | cons next rest =>
      rw [List.intercalate_cons_cons, List.append_assoc, List.mem_append, List.mem_append] at h
      obtain h | h | h := h
      · exact .inr ⟨line, by simp, h⟩
      · exact .inl h
      · exact (ih h).imp_right fun ⟨other, hother, hc⟩ => ⟨other, by simp [hother], hc⟩

private theorem print_of_detail (color : Bool) {d : Diagnostic} {line : String}
    (hdetail : d.detail = some ("retained volumes: " ++ line)) :
    d.print color = Diagnostic.mark color .boldRed "error" ++ d.message ++ "\n  retained volumes: " ++ line ++ "\n" ++
      String.join (d.tips.map (Diagnostic.Tip.print color)) := by
  have hintro : "\n  retained volumes: " = "\n" ++ ("  " ++ "retained volumes: ") := by decide
  rw [Diagnostic.print, hdetail, hintro]
  simp only [String.append_assoc]

/-- The line that names retained volumes has them in it, and no line ends of its own. -/
theorem namedInRetainedLine (color : Bool) (text : String) (volumeIds : List String) :
    NamedInRetainedLine volumeIds ((Failure.deleteFailed text volumeIds).diagnostic.print color) := by
  have hdetail : (Failure.deleteFailed text volumeIds).diagnostic.detail =
      some ("retained volumes: " ++ if volumeIds.isEmpty then "none" else ", ".intercalate volumeIds) := rfl
  rw [print_of_detail color hdetail]
  refine ⟨_, _, _, rfl, ?_, ?_⟩
  · cases volumeIds with
    | nil => trivial
    | cons s rest =>
      rw [List.isEmpty_cons, if_neg (by decide), String.toList_intercalate]
      exact foundIn_intercalate _ _
  · intro hids
    split
    · decide
    · rw [String.toList_intercalate]
      intro hmem
      obtain hcomma | ⟨line, hline, hmem⟩ := mem_intercalate hmem
      · exact absurd hcomma (by decide)
      · obtain ⟨id, hid, rfl⟩ := List.mem_map.mp hline
        exact hids id hid hmem

section Delete

variable {env : Environment} {files : Files} {server : Http.Server} {words : List String} {o : Options}
  {invocation : Invocation} {service : Service.Identity} {members : List Service.Member}

/-- The report of a deletion that succeeded is the printed deletion. -/
theorem run_of_deleted (hparse : parse env words = .ok o) (hprepare : prepare env files o = .ok invocation)
    (hcommand : invocation.command = .delete service)
    (hmembers : Http.client invocation.connection.server server [] (.members service) = .ok members)
    {answer : Unit}
    (hdelete : Http.client invocation.connection.server server [.members service] (.delete service) = .ok answer)
    (terminal : Bool) :
    let report := run env files server terminal words
    report.exitCode = 0 ∧
      report.out = print o.output (.deleted ⟨service, members.map Service.Member.volumeId⟩) := by
  simp only [run, hparse, execute, hprepare, hcommand, Client.dispatch_delete_of_listed hmembers, hdelete, endingOf,
    executionReport, and_self]

/-- The report of a deletion that failed explains the failure. -/
theorem run_of_undeleted (hparse : parse env words = .ok o) (hprepare : prepare env files o = .ok invocation)
    (hcommand : invocation.command = .delete service)
    (hmembers : Http.client invocation.connection.server server [] (.members service) = .ok members)
    {e : RemoteError}
    (hdelete : Http.client invocation.connection.server server [.members service] (.delete service) = .error e)
    (terminal : Bool) :
    let report := run env files server terminal words
    report.exitCode = 1 ∧ report.err =
      (Failure.deleteFailed e.describe (members.map Service.Member.volumeId)).diagnostic.print
        (usesColor env terminal) := by
  simp only [run, hparse, execute, hprepare, hcommand, Client.dispatch_delete_of_listed hmembers, hdelete, endingOf,
    executionReport, Failure.ofServiceError, and_self]

/-- A run that deletes a service whose members were listed shows their volumes in every format but a table, unless the
last of them takes the line end behind a YAML document. A table has them only if they happen to stand in
a table of their number. If the service could not be deleted the volumes are named in any case. -/
theorem showsVolumes_run_iff (hparse : parse env words = .ok o) (hprepare : prepare env files o = .ok invocation)
    (hcommand : invocation.command = .delete service)
    (hmembers : Http.client invocation.connection.server server [] (.members service) = .ok members)
    (terminal : Bool) :
    (run env files server terminal words).ShowsVolumes o.output (members.map Service.Member.volumeId) ↔
      (∃ e, Http.client invocation.connection.server server [.members service] (.delete service) = .error e) ∨
        Keeps o.output (members.map Service.Member.volumeId) := by
  cases hdelete : Http.client invocation.connection.server server [.members service] (.delete service) with
  | ok answer =>
    obtain ⟨hcode, hout⟩ := run_of_deleted hparse hprepare hcommand hmembers hdelete terminal
    have hshows := shows_deleted_iff o.output ⟨service, members.map Service.Member.volumeId⟩
    rw [Report.ShowsVolumes, if_pos hcode, hout, hshows]
    simp
  | error e =>
    obtain ⟨hcode, herr⟩ := run_of_undeleted hparse hprepare hcommand hmembers hdelete terminal
    have hnamed := namedInRetainedLine (usesColor env terminal) e.describe (members.map Service.Member.volumeId)
    rw [Report.ShowsVolumes, hcode, if_neg (by decide), herr]
    exact iff_of_true hnamed (.inl ⟨e, rfl⟩)

set_option synthInstance.maxSize 256 in
/-- Two members are listed, their service is deleted, and the table that is printed has neither of their volumes. -/
theorem not_showsVolumes_run_of_two_members :
    let env : Environment := ⟨[("HOME", "/home/user")]⟩
    let words := ["--op", "delete", "--service", "svc", "--region", "us", "-o", "table"]
    let body := "\x7b\"members\":[\x7b\"volume_id\":\"vol-1\"\x7d,\x7b\"volume_id\":\"vol-2\"\x7d]\x7d"
    let server : Http.Server := fun _ _ => .complete 200 (body.toList.map fun c => c.toNat.toUInt8)
    let report := run env Files.none server false words
    report.exitCode = 0 ∧ ¬ report.ShowsVolumes .table ["vol-1", "vol-2"] := by
  intro env words body server report
  let service : Service.Identity := ⟨"us", "default", "svc"⟩
  have hcomputed : (parse env words).map (fun o => (o.output, (prepare env Files.none o).map fun invocation =>
      (invocation.command,
        (Http.client invocation.connection.server server [] (.members service)).map (List.map Service.Member.volumeId),
        (Http.client invocation.connection.server server [.members service] (.delete service)).map fun _ => ()))) =
      .ok (.table, .ok (.delete service, .ok ["vol-1", "vol-2"], .ok ())) := by
    decide +kernel
  obtain ⟨o, hparse, hcomputed⟩ := map_eq_ok_iff.mp hcomputed
  obtain ⟨houtput, hcomputed⟩ := Prod.mk.inj hcomputed
  obtain ⟨invocation, hprepare, hcomputed⟩ := map_eq_ok_iff.mp hcomputed
  obtain ⟨hcommand, hcomputed⟩ := Prod.mk.inj hcomputed
  obtain ⟨hlisted, hdeleted⟩ := Prod.mk.inj hcomputed
  obtain ⟨members, hmembers, hids⟩ := map_eq_ok_iff.mp hlisted
  obtain ⟨answer, hdelete, -⟩ := map_eq_ok_iff.mp hdeleted
  have hiff := showsVolumes_run_iff hparse hprepare hcommand hmembers false
  rw [houtput, hids, hdelete] at hiff
  refine ⟨(run_of_deleted hparse hprepare hcommand hmembers hdelete false).1, fun hshows => ?_⟩
  obtain ⟨e, he⟩ | hkeeps := hiff.mp hshows
  · cases he
  · have hdigit : '1' ∉ ((countTable ["vol-1", "vol-2"].length).draw ++ "\n").toList := by
      rw [String.toList_append, Table.draw, String.toList_ofList]
      decide
    exact not_keeps_table (by decide : "vol-1" ∈ ["vol-1", "vol-2"]) (by decide) hdigit hkeeps

end Delete

end ServiceCatalog.Program
