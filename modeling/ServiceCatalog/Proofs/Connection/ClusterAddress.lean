import Mathlib.Data.Bool.AllAny
import ServiceCatalog.Proofs.Connection.Secured
import ServiceCatalog.Proofs.Text.Blank
import ServiceCatalog.Proofs.Url.Authority

/-!
# The address of a cluster

The name of a cluster is put into the text of an address before that is read. If every character of the name is one that
a domain may hold, the address lies in the cluster's own domain, and otherwise it does not, although it may well be an
address. Blank characters around the name never turn a text into an address.
-/

namespace ServiceCatalog

open Text

namespace Endpoint

/-- What stands in front of the cluster in a host. -/
def hostStart : List Char := "catalog-manageserver.".toList

/-- What stands behind the cluster in a host. -/
def hostEnd : List Char := "-catalog.local".toList

/-- Host and port for a cluster. -/
def clusterHost (cluster : List Char) : List Char := hostStart ++ cluster ++ hostEnd ++ ':' :: managementPort.toList

theorem toList_ofCluster (cluster : String) (scheme : Url.Scheme) :
    (ofCluster cluster scheme).toList =
      scheme.name.toList ++ "://".toList ++ (clusterHost cluster.toList ++ ['/']) := by
  have hstart : "://catalog-manageserver.".toList = "://".toList ++ hostStart := by decide
  have hend : "-catalog.local:".toList = hostEnd ++ [':'] := by decide
  have hslash : "/".toList = ['/'] := by decide
  simp only [ofCluster, clusterHost, String.toList_append, hstart, hend, hslash, List.append_assoc, List.cons_append,
    List.nil_append]

theorem ofCluster_injective {cluster other : String} {scheme : Url.Scheme}
    (h : ofCluster cluster scheme = ofCluster other scheme) : cluster = other := by
  have hlist := congrArg String.toList h
  simp only [toList_ofCluster, clusterHost, List.append_assoc, List.append_cancel_left_eq] at hlist
  exact String.toList_inj.mp (List.append_cancel_right hlist)

/-- The address of a cluster is read from its host and port. Tabs and line ends in the name do not count. -/
theorem parse_ofCluster (cluster : String) (scheme : Url.Scheme) :
    Url.parse (ofCluster cluster scheme) =
      Url.readAfterSlashes scheme (clusterHost (Url.withoutLineEnds cluster.toList) ++ ['/']) := by
  have htext : ofCluster cluster scheme =
      String.ofList (scheme.name.toList ++ "://".toList ++ (clusterHost cluster.toList ++ ['/'])) := by
    rw [← toList_ofCluster, String.ofList_toList]
  have hstart : Url.withoutLineEnds hostStart = hostStart := by decide
  have hend : Url.withoutLineEnds (hostEnd ++ ':' :: managementPort.toList ++ ['/']) =
      hostEnd ++ ':' :: managementPort.toList ++ ['/'] := by decide
  have hkept : Url.withoutLineEnds (clusterHost cluster.toList ++ ['/']) =
      clusterHost (Url.withoutLineEnds cluster.toList) ++ ['/'] := by
    simp only [clusterHost, List.append_assoc, Url.withoutLineEnds_append, hstart] at hend ⊢
    rw [hend]
  rw [htext, Url.parse_of_scheme, hkept]
  rfl

/-! ## Blank characters around the name -/

theorem endsAuthority_of_isBlank {c : Char} (h : isBlank c = true) : Url.endsAuthority c = false := by
  apply Url.endsAuthority_of_test isBlank
  rw [h]
  decide

theorem eq_nil_of_blanks {cs : List Char} (hblank : ∀ c ∈ cs, isBlank c = true) (hnot : ∀ c ∈ cs, isBlank c = false) :
    cs = [] := by
  refine List.eq_nil_iff_forall_not_mem.mpr fun c hc => ?_
  have h := hblank c hc
  rw [hnot c hc] at h
  cases h

/-- What follows the name in host and port. -/
def hostAndPortEnd : List Char := hostEnd ++ ':' :: managementPort.toList

theorem hostStart_plain : ∀ c ∈ hostStart, Url.endsAuthority c = false ∧ c ≠ ':' ∧ c ≠ '[' ∧ c ≠ '@' :=
  List.all_iff_forall_prop.mp (by decide)

theorem hostAndPortEnd_plain : ∀ c ∈ hostAndPortEnd, Url.endsAuthority c = false ∧ c ≠ '@' :=
  List.all_iff_forall_prop.mp (by decide)

/-- The authority of a cluster's address, with blank characters in front of the name. -/
theorem authority_of_blanks {front : List Char} (hfront : ∀ c ∈ front, isBlank c = true) (rest : List Char) :
    Url.authority (clusterHost (front ++ rest) ++ ['/']) =
      hostStart ++ front ++ Url.authority (rest ++ hostAndPortEnd ++ ['/']) := by
  rw [← Url.authority_append_of_none]
  · simp [clusterHost, hostAndPortEnd]
  · intro c hc
    obtain hc | hc := List.mem_append.mp hc
    · exact (hostStart_plain c hc).1
    · exact endsAuthority_of_isBlank (hfront c hc)

/-- There are no blank characters between the name and a port that can be read. -/
theorem eq_nil_of_isRead {scheme : Url.Scheme} {host : Url.Host} {port : Option UInt16} {before back : List Char}
    (hback : ∀ c ∈ back, isBlank c = true)
    (h : Url.IsRead scheme (Url.cutAccount (before ++ (back ++ hostAndPortEnd))).2 host port) : back = [] := by
  have hat : '@' ∉ back ++ hostAndPortEnd := by
    intro hmem
    obtain hmem | hmem := List.mem_append.mp hmem
    · cases hback '@' hmem
    · exact (hostAndPortEnd_plain '@' hmem).2 rfl
  obtain ⟨start, hstart⟩ := Url.exists_cutAccount_append hat before
  have hread : Url.IsRead scheme (start ++ back ++ hostEnd ++ ':' :: managementPort.toList) host port := by
    rw [hstart] at h
    simpa only [hostAndPortEnd, List.append_assoc] using h
  have hlast : (start ++ back ++ hostEnd).getLast? ≠ some ']' := by
    rw [List.getLast?_append_of_ne_nil _ (by decide)]
    decide
  have hwhole : (start ++ back ++ hostEnd ++ ':' :: managementPort.toList).getLast? ≠ some ']' := by
    rw [List.getLast?_append_of_ne_nil _ (by decide)]
    decide
  have hnoBlank := hread.not_isBlank_of_back (by decide) hlast hwhole
  exact eq_nil_of_blanks hback fun c hc => hnoBlank c (by simp [hc])

/-- Blank characters behind the name are behind the authority too, or there are none. -/
theorem authority_of_isRead {scheme : Url.Scheme} {host : Url.Host} {port : Option UInt16}
    {before name back : List Char} (hback : ∀ c ∈ back, isBlank c = true)
    (h : Url.IsRead scheme (Url.cutAccount (before ++ Url.authority (name ++ back ++ hostAndPortEnd ++ ['/']))).2
      host port) :
    Url.authority (name ++ back ++ hostAndPortEnd ++ ['/']) = Url.authority (name ++ hostAndPortEnd ++ ['/']) := by
  by_cases hends : ∃ c ∈ name, Url.endsAuthority c = true
  · simp only [List.append_assoc, Url.authority_append_of_any hends]
  · have hnone : ∀ c ∈ name ++ (back ++ hostAndPortEnd), Url.endsAuthority c = false := by
      intro c hc
      obtain hc | hc := List.mem_append.mp hc
      · simpa using fun hmark => hends ⟨c, hc, hmark⟩
      obtain hc | hc := List.mem_append.mp hc
      · exact endsAuthority_of_isBlank (hback c hc)
      · exact (hostAndPortEnd_plain c hc).1
    have hall : Url.authority (name ++ back ++ hostAndPortEnd ++ ['/']) = name ++ (back ++ hostAndPortEnd) := by
      rw [List.append_assoc name, Url.authority_append_of_none hnone]
      exact List.append_nil _
    rw [hall, ← List.append_assoc] at h
    rw [eq_nil_of_isRead hback h, List.append_nil]

/-- Host and port of a cluster's address are the same without the blank characters around the name, if they can be read:
such characters are part of an account or of a path, or there are none. -/
theorem hostAndPort_of_blanks {scheme : Url.Scheme} {host : Url.Host} {port : Option UInt16}
    {front name back : List Char} (hfront : ∀ c ∈ front, isBlank c = true) (hback : ∀ c ∈ back, isBlank c = true)
    (h : Url.IsRead scheme (Url.hostAndPort (clusterHost (front ++ (name ++ back)) ++ ['/'])) host port) :
    Url.hostAndPort (clusterHost (front ++ (name ++ back)) ++ ['/']) = Url.hostAndPort (clusterHost name ++ ['/']) := by
  have hbare := @authority_of_blanks [] (by simp) name
  have hpadded := authority_of_blanks hfront (name ++ back)
  rw [List.append_nil, List.nil_append] at hbare
  rw [Url.hostAndPort, hpadded] at h
  have hsame := authority_of_isRead hback h
  rw [hsame] at h
  rw [Url.hostAndPort, Url.hostAndPort, hpadded, hsame, hbare]
  by_cases hat : '@' ∈ Url.authority (name ++ hostAndPortEnd ++ ['/'])
  · cases hcut : Url.cutAtLast '@' (Url.authority (name ++ hostAndPortEnd ++ ['/'])) with
    | none => exact absurd hat (Url.cutAtLast_eq_none_iff.mp hcut)
    | some r => simp only [Url.cutAccount, Url.cutAtLast_append_of_mem hcut, Option.getD_some]
  · -- Without an account, blank characters in front of the name would be in the host.
    have hplain : ∀ c ∈ hostStart ++ front, c ≠ ':' ∧ c ≠ '[' ∧ c ≠ '@' := by
      intro c hc
      obtain hc | hc := List.mem_append.mp hc
      · exact (hostStart_plain c hc).2
      · have hblank := hfront c hc
        exact ⟨Url.ne_of_test hblank (by decide), Url.ne_of_test hblank (by decide), Url.ne_of_test hblank (by decide)⟩
    have hnoAt : '@' ∉ hostStart ++ front ++ Url.authority (name ++ hostAndPortEnd ++ ['/']) := by
      intro hmem
      obtain hmem | hmem := List.mem_append.mp hmem
      · exact (hplain '@' hmem).2.2 rfl
      · exact hat hmem
    rw [Url.cutAccount_of_not_mem hnoAt] at h
    have hnoBlank := Url.IsRead.not_isBlank_of_front h (List.append_ne_nil_of_left_ne_nil (by decide) _)
      fun c hc => ⟨(hplain c hc).1, (hplain c hc).2.1⟩
    rw [eq_nil_of_blanks hfront fun c hc => hnoBlank c (List.mem_append_right _ hc), List.append_nil]

/-- Where the name with blank characters around it makes an address, so does the name without them. -/
theorem exists_parse_ofCluster_trim {cluster : String} {scheme : Url.Scheme} {url : Url}
    (h : Url.parse (ofCluster cluster scheme) = .ok url) : ∃ url, Url.parse (ofCluster (trim cluster) scheme) = .ok url := by
  obtain ⟨front, back, hcluster, hfront, hback⟩ := exists_blanks_around cluster.toList
  rw [parse_ofCluster, hcluster] at h
  rw [parse_ofCluster, trim, String.toList_ofList]
  simp only [List.append_assoc, Url.withoutLineEnds_append] at h
  obtain ⟨host, port, hread, -⟩ := Url.readAfterSlashes_eq_ok_iff.mp h
  have hblank {cs : List Char} (hcs : ∀ c ∈ cs, isBlank c = true) : ∀ c ∈ Url.withoutLineEnds cs, isBlank c = true :=
    fun c hc => hcs c (List.mem_of_mem_filter hc)
  rw [hostAndPort_of_blanks (hblank hfront) (hblank hback) hread] at hread
  exact ⟨_, Url.readAfterSlashes_eq_ok_iff.mpr ⟨host, port, hread, rfl⟩⟩

/-! ## The domain of the cluster -/

/-- The domain in which the management service of a cluster is looked for. -/
def clusterDomain (cluster : List Char) : List Char := hostStart ++ cluster ++ hostEnd

theorem isForbidden_of_mem_clusterDomain {cluster : List Char} (h : ∀ c ∈ cluster, Url.Host.isForbidden c = false) :
    ∀ c ∈ clusterDomain cluster, Url.Host.isForbidden c = false := by
  have hstart : ∀ c ∈ hostStart, Url.Host.isForbidden c = false := List.all_iff_forall_prop.mp (by decide)
  have hend : ∀ c ∈ hostEnd, Url.Host.isForbidden c = false := List.all_iff_forall_prop.mp (by decide)
  simp only [clusterDomain, List.mem_append]
  rintro c ((hc | hc) | hc)
  · exact hstart c hc
  · exact h c hc
  · exact hend c hc

theorem endsInNumber_clusterDomain (cluster : List Char) :
    Url.Host.endsInNumber ((clusterDomain cluster).map Char.toLower) = false := by
  have hend : hostEnd.map Char.toLower = "-catalog".toList ++ '.' :: "local".toList := by decide
  rw [clusterDomain, List.map_append, hend, ← List.append_assoc]
  exact Url.Host.endsInNumber_append (by decide) (by decide) (by decide)

/-- The address of a cluster whose name a domain may hold. -/
theorem parse_ofCluster_of_allowed {cluster : String} (h : ∀ c ∈ cluster.toList, Url.Host.isForbidden c = false)
    (scheme : Url.Scheme) :
    Url.parse (ofCluster cluster scheme) = .ok
      ⟨scheme, "", none, .domain (String.ofList ((clusterDomain cluster.toList).map Char.toLower)), some 27040, [""],
        none, none⟩ := by
  have hne : clusterDomain cluster.toList ≠ [] := by
    rw [clusterDomain, List.append_assoc]
    exact List.append_ne_nil_of_left_ne_nil (by decide) _
  have hdomain := isForbidden_of_mem_clusterDomain h
  have hdigits : ∀ c ∈ managementPort.toList, Url.endsAuthority c = false ∧ c ≠ '@' :=
    List.all_iff_forall_prop.mp (by decide)
  rw [parse_ofCluster, Url.withoutLineEnds_of_allowed h]
  refine Url.readAfterSlashes_of_domain hdomain ?_ hdigits (by cases scheme <;> decide)
  exact Url.Host.read_of_allowed hne hdomain (endsInNumber_clusterDomain _)

end Endpoint

/-- An address in the domain of a cluster. The letter case of its host does not matter, and it has no account, no path,
no query and no fragment. -/
structure Url.InDomainOf (cluster : String) (u : Url) : Prop where
  host : ∃ name, u.host = .domain name ∧
    name.toList.map Char.toLower = ("catalog-manageserver." ++ cluster ++ "-catalog.local").toList.map Char.toLower
  port : u.port = some 27040
  path : u.pathText = "/"
  user : u.user = ""
  password : u.password = none
  query : u.query = none
  fragment : u.fragment = none

namespace Endpoint

theorem toList_domain (cluster : String) :
    ("catalog-manageserver." ++ cluster ++ "-catalog.local").toList = clusterDomain cluster.toList := by
  rw [String.toList_append, String.toList_append]
  rfl

/-- A host that is read is in the domain of a cluster only if the name of the cluster holds nothing that is forbidden. -/
theorem allowed_of_inDomainOf {cluster : String} {scheme : Url.Scheme} {url : Url}
    (h : Url.parse (ofCluster cluster scheme) = .ok url) (hdomain : url.InDomainOf cluster) :
    ∀ c ∈ cluster.toList, Url.Host.isForbidden c = false := by
  obtain ⟨name, hhost, hname⟩ := hdomain.host
  rw [parse_ofCluster] at h
  obtain ⟨host, port, hread, rfl⟩ := Url.readAfterSlashes_eq_ok_iff.mp h
  obtain rfl : host = .domain name := hhost
  obtain ⟨ds, -, hallowed, hds⟩ := Url.Host.domain?_eq_some_iff.mp (Url.Host.domain?_of_read hread.1)
  intro c hc
  have hmem : c.toLower ∈ name.toList.map Char.toLower := by
    rw [hname, toList_domain]
    exact List.mem_map_of_mem (by simp [clusterDomain, hc])
  obtain ⟨d, hd, hsame⟩ := List.mem_map.mp hmem
  rw [hds] at hd
  obtain ⟨original, horiginal, rfl⟩ := List.mem_map.mp hd
  rw [← Url.Host.isForbidden_toLower, ← hsame]
  simpa using hallowed original horiginal

theorem inDomainOf_of_allowed {cluster : String} {scheme : Url.Scheme} {url : Url}
    (h : Url.parse (ofCluster cluster scheme) = .ok url)
    (hallowed : ∀ c ∈ cluster.toList, Url.Host.isForbidden c = false) : url.InDomainOf cluster := by
  rw [parse_ofCluster_of_allowed hallowed] at h
  obtain rfl := Except.ok.inj h
  have hall : ∀ n < 128, (Char.ofNat n).toLower.toLower = (Char.ofNat n).toLower := by decide
  refine ⟨⟨_, rfl, ?_⟩, rfl, rfl, rfl, rfl, rfl, rfl⟩
  rw [String.toList_ofList, toList_domain, List.map_map]
  refine List.map_congr_left fun c hc => ?_
  have hprintable := Url.Host.toNat_of_not_isForbidden (isForbidden_of_mem_clusterDomain hallowed c hc)
  rw [Function.comp_apply, ← Char.ofNat_toNat c]
  exact hall c.toNat (by omega)

end Endpoint

namespace Connection

end Connection

end ServiceCatalog
