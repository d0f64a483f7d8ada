import ServiceCatalog.Http.Client
import ServiceCatalog.Proofs.Connection.ClusterAddress
import ServiceCatalog.Proofs.Url.Path

/-!
# Where calls go

The slash that calls need is put at the end of the text of an address. If the path stands there, it is the path that
gets it, and the calls go underneath. Behind a question mark or a number sign it belongs to the query or the fragment:
the path is then as it was given, and a call takes the place of its last segment.
-/

namespace ServiceCatalog

namespace Endpoint

theorem getLast?_withSlash (cs : List Char) : (withSlash cs).getLast? = some '/' := by
  unfold withSlash
  split
  · assumption
  · exact List.getLast?_concat

/-- The text of the address that is used ends with a slash. -/
theorem getLast?_text (given : Option String) (cluster : String) (scheme : Url.Scheme) :
    (text given cluster scheme).toList.getLast? = some '/' := by
  unfold text
  cases Text.given? given with
  | none =>
    dsimp only
    rw [toList_ofCluster, ← List.append_assoc]
    exact List.getLast?_concat
  | some raw =>
    dsimp only
    rw [ofGiven, String.toList_ofList]
    exact getLast?_withSlash _

end Endpoint

namespace Url

theorem getLast?_dropWhile {p : Char → Bool} {cs : List Char} (h : cs.dropWhile p ≠ []) :
    (cs.dropWhile p).getLast? = cs.getLast? := by
  obtain ⟨front, hfront⟩ := List.dropWhile_suffix (l := cs) p
  rw [← List.getLast?_append_of_ne_nil front h, hfront]

theorem getLast?_withoutLineEnds {cs : List Char} (h : cs.getLast? = some '/') :
    (withoutLineEnds cs).getLast? = some '/' := by
  obtain ⟨front, rfl⟩ := List.getLast?_eq_some_iff.mp h
  rw [withoutLineEnds_append]
  exact List.getLast?_concat

theorem eq_nil_of_queryAndFragment {cs : List Char} (h : queryAndFragment cs = (none, none)) : cs = [] := by
  simp only [queryAndFragment, Prod.mk.injEq, ite_eq_left_iff, reduceCtorEq, imp_false, Decidable.not_not,
    List.isEmpty_iff] at h
  rw [← List.takeWhile_append_dropWhile (p := (· != '#')) (l := cs), h.1, h.2]
  rfl

/-- A slash at the end of an address without query and fragment is that of its path. -/
theorem getLast?_writtenPath {cs : List Char} (h : cs.getLast? = some '/')
    (hnone : queryAndFragment (writtenTail cs) = (none, none)) : (writtenPath cs).getLast? = some '/' := by
  have hpath : writtenPath cs = afterAuthority cs := by
    have htail := eq_nil_of_queryAndFragment hnone
    rw [← List.takeWhile_append_dropWhile (p := isInPath) (l := afterAuthority cs)]
    change writtenPath cs = writtenPath cs ++ writtenTail cs
    rw [htail, List.append_nil]
  have hne : afterAuthority cs ≠ [] := by
    intro hnil
    have hall := List.dropWhile_eq_nil_iff.mp hnil '/' (List.mem_of_getLast? h)
    cases hall
  rw [hpath]
  exact (getLast?_dropWhile hne).trans h

/-- An address that another one leads to: it differs from that only in its path, which goes on behind a slash, and in
query and fragment. -/
structure Underneath (u base : Url) (relative : String) : Prop where
  scheme : u.scheme = base.scheme
  user : u.user = base.user
  password : u.password = base.password
  host : u.host = base.host
  port : u.port = base.port
  path : u.pathText = base.slashedPathText ++ relative

end Url

namespace Connection

variable {given : Option String} {cluster : String} {tls : Option TlsFiles} {requestTimeout : Duration}
  {settings : Settings}

/-- The address that is used is read from a text that ends with a slash. -/
theorem Settings.exists_eq_ofWritten (h : resolve given cluster tls requestTimeout = .ok settings) :
    ∃ cs host port, cs.getLast? = some '/' ∧ settings.server = Url.ofWritten (.secured tls.isSome) cs host port := by
  obtain ⟨rest, htext⟩ := Endpoint.text_eq given cluster (.secured tls.isSome)
  have hlast := Endpoint.getLast?_text given cluster (.secured tls.isSome)
  obtain ⟨server, hserver, rfl⟩ := resolve_eq_ok_iff.mp h
  rw [htext, Url.parse_of_scheme] at hserver
  rw [htext, String.toList_ofList] at hlast
  obtain ⟨host, port, hread, hwritten⟩ := Url.readAfterSlashes_eq_ok_iff.mp hserver
  -- Had the slash been one of those after the scheme, there would be no host.
  have hcs : (Url.withoutLineEnds rest).dropWhile Url.isSlash ≠ [] := by
    intro hnil
    rw [hnil] at hread
    cases hread.1
  have hrest : rest ≠ [] := by
    rintro rfl
    exact hcs rfl
  rw [List.getLast?_append_of_ne_nil _ hrest] at hlast
  refine ⟨_, host, port, ?_, hwritten⟩
  rw [Url.getLast?_dropWhile hcs]
  exact Url.getLast?_withoutLineEnds hlast

/-- A call goes behind the last slash in the path of the address that is used. This is underneath that address exactly
if its path ends with a slash. It does if the address has neither query nor fragment. -/
theorem Settings.request_underneath_iff (h : resolve given cluster tls requestTimeout = .ok settings) (call : Call) :
    (Http.request settings.server call).url.pathText =
        settings.server.directoryText ++ "/".intercalate (Http.segments call) ∧
      ((Http.request settings.server call).url.Underneath settings.server ("/".intercalate (Http.segments call)) ↔
        settings.server.pathText.toList.getLast? = some '/') ∧
      (settings.server.query = none → settings.server.fragment = none →
        settings.server.pathText.toList.getLast? = some '/') := by
  obtain ⟨cs, host, port, hslash, hserver⟩ := exists_eq_ofWritten h
  have hsegments : settings.server.path = Url.segments (Url.writtenPath cs) := by rw [hserver]; rfl
  obtain ⟨front, last, hpath⟩ : ∃ front last, settings.server.path = front ++ [last] := by
    obtain hnil | ⟨front, last, hlast⟩ := List.eq_nil_or_concat settings.server.path
    · exact absurd (hsegments.symm.trans hnil) (Url.segments_ne_nil _)
    · exact ⟨front, last, by rw [hlast, List.concat_eq_append]⟩
  have hlast : '/' ∉ last.toList := by
    have hmem : last ∈ Url.segments (Url.writtenPath cs) := by
      rw [← hsegments, hpath]
      exact List.mem_append_right _ List.mem_cons_self
    exact Url.slash_not_mem_of_mem_segments hmem
  have hcall : Http.segments call ≠ [] := by cases call <;> exact List.cons_ne_nil _ _
  have hjoined : (Http.request settings.server call).url.pathText =
      settings.server.directoryText ++ "/".intercalate (Http.segments call) := Url.pathText_join hpath hlast hcall
  refine ⟨hjoined, ?_, fun hquery hfragment => ?_⟩
  · rw [← Url.directoryText_eq_iff hpath hlast]
    constructor
    · intro hunder
      have htexts := congrArg String.toList (hjoined.symm.trans hunder.path)
      rw [String.toList_append, String.toList_append] at htexts
      exact String.toList_inj.mp (List.append_cancel_right htexts)
    · intro hsame
      exact ⟨rfl, rfl, rfl, rfl, rfl, by rw [← hsame]; exact hjoined⟩
  · have hnone : Url.queryAndFragment (Url.writtenTail cs) = (none, none) := by
      rw [hserver] at hquery hfragment
      exact Prod.ext hquery hfragment
    have hempty := Url.getLast?_segments (Url.getLast?_writtenPath hslash hnone)
    rw [← hsegments, hpath, List.getLast?_concat] at hempty
    exact (Url.getLast?_pathText hpath hlast).mpr (Option.some.inj hempty)

/-- A query keeps the slash from the path, so that the last segment of the path gets lost. -/
theorem not_underneath_of_query :
    ∃ settings, Settings.resolve (some "127.0.0.1:1/base?x=1") "c" none (.ofSeconds 30) = .ok settings ∧
      settings.server.pathText = "/base" ∧
      (Http.request settings.server (.list ⟨"r", "c", ""⟩)).url.pathText = "/v1/services/list" ∧
      ¬ (Http.request settings.server (.list ⟨"r", "c", ""⟩)).url.Underneath settings.server "v1/services/list" := by
  have hread : (Settings.resolve (some "127.0.0.1:1/base?x=1") "c" none (.ofSeconds 30)).map
      (fun settings => (settings.server.pathText, settings.server.directoryText)) = .ok ("/base", "/") := by
    decide
  obtain ⟨settings, hsettings, hpaths⟩ := map_eq_ok_iff.mp hread
  obtain ⟨hpath, hdirectory⟩ := Prod.mk.inj hpaths
  obtain ⟨hcall, hunderneath, -⟩ := Settings.request_underneath_iff hsettings (.list ⟨"r", "c", ""⟩)
  have hrelative : "/".intercalate (Http.segments (.list ⟨"r", "c", ""⟩)) = "v1/services/list" := by decide
  rw [hrelative] at hcall hunderneath
  refine ⟨settings, hsettings, hpath, ?_, ?_⟩
  · rw [hcall, hdirectory]
    decide
  · rw [hunderneath, hpath]
    decide

end Connection

end ServiceCatalog
