import Mathlib.Data.List.TakeWhile
import ServiceCatalog.Proofs.Results
import ServiceCatalog.Proofs.Text.Digits
import ServiceCatalog.Proofs.Url.Host
import ServiceCatalog.Url.Parser

/-!
# The parts of a written address

In front of the path stand an account, a host and a port. An address can be read exactly if its host and its port can
be; everything else is taken as it is written.
-/

namespace ServiceCatalog.Url

open Text

/-- What stands in front of the path. -/
def authority (cs : List Char) : List Char := cs.takeWhile fun c => !endsAuthority c

/-- What stands behind the authority. -/
def afterAuthority (cs : List Char) : List Char := cs.dropWhile fun c => !endsAuthority c

/-- The account in front of host and port, and what follows it. -/
def cutAccount (authority : List Char) : List Char × List Char := (cutAtLast '@' authority).getD ([], authority)

/-- Host and port as they are written. -/
def hostAndPort (cs : List Char) : List Char := (cutAccount (authority cs)).2

/-- Whether a character stands in front of query and fragment. -/
def isInPath (c : Char) : Bool := c != '?' && c != '#'

/-- The path as it is written. -/
def writtenPath (cs : List Char) : List Char := (afterAuthority cs).takeWhile isInPath

/-- Query and fragment as they are written. -/
def writtenTail (cs : List Char) : List Char := (afterAuthority cs).dropWhile isInPath

/-- A written address with its host and port read. -/
def ofWritten (scheme : Scheme) (cs : List Char) (host : Host) (port : Option UInt16) : Url :=
  let login := account (cutAccount (authority cs)).1
  let tail := queryAndFragment (writtenTail cs)
  ⟨scheme, login.1, login.2, host, port, segments (writtenPath cs), tail.1, tail.2⟩

/-- Text that is read as this host and this port. -/
def IsRead (scheme : Scheme) (cs : List Char) (host : Host) (port : Option UInt16) : Prop :=
  Host.read (cutHost false cs).1 = .ok host ∧ readPort scheme ((cutHost false cs).2.drop 1) = .ok port

theorem readAfterSlashes_eq_ok_iff {scheme : Scheme} {cs : List Char} {url : Url} :
    readAfterSlashes scheme cs = .ok url ↔
      ∃ host port, IsRead scheme (hostAndPort cs) host port ∧ url = ofWritten scheme cs host port := by
  have hsteps : readAfterSlashes scheme cs =
      (Host.read (cutHost false (hostAndPort cs)).1 >>= fun host =>
        readPort scheme ((cutHost false (hostAndPort cs)).2.drop 1) >>= fun port =>
          pure (ofWritten scheme cs host port)) := rfl
  rw [hsteps]
  simp only [bind_eq_ok_iff]
  constructor
  · rintro ⟨host, hhost, port, hport, hurl⟩
    exact ⟨host, port, ⟨hhost, hport⟩, (Except.ok.inj hurl).symm⟩
  · rintro ⟨host, port, ⟨hhost, hport⟩, rfl⟩
    exact ⟨host, hhost, port, hport, rfl⟩

/-! ## Cutting -/

theorem withoutLineEnds_append (front back : List Char) :
    withoutLineEnds (front ++ back) = withoutLineEnds front ++ withoutLineEnds back :=
  List.filter_append front back

theorem authority_append_of_none {front : List Char} (h : ∀ c ∈ front, endsAuthority c = false) (back : List Char) :
    authority (front ++ back) = front ++ authority back :=
  List.takeWhile_append_of_pos (by simpa using h)

theorem afterAuthority_append_of_none {front : List Char} (h : ∀ c ∈ front, endsAuthority c = false)
    (back : List Char) : afterAuthority (front ++ back) = afterAuthority back :=
  List.dropWhile_append_of_pos (by simpa using h)

theorem authority_append_of_any {front : List Char} (h : ∃ c ∈ front, endsAuthority c = true) (back : List Char) :
    authority (front ++ back) = authority front := by
  unfold authority
  rw [List.takeWhile_append, if_neg]
  intro hlength
  obtain ⟨c, hc, hends⟩ := h
  have hall := (List.takeWhile_prefix fun c => !endsAuthority c).eq_of_length hlength
  rw [← hall] at hc
  simpa [hends] using List.mem_takeWhile_imp hc

theorem cutAtLast_eq_none_iff {separator : Char} {cs : List Char} : cutAtLast separator cs = none ↔ separator ∉ cs := by
  induction cs with
  | nil => simp [cutAtLast]
  | cons c cs ih =>
    rw [cutAtLast]
    cases hcut : cutAtLast separator cs with
    | none =>
      have hback := ih.mp hcut
      by_cases hc : c = separator
      · simp [hc]
      · simp [hc, hback, Ne.symm hc]
    | some r =>
      have hback : separator ∈ cs := by
        by_contra hnot
        rw [ih.mpr hnot] at hcut
        cases hcut
      simp [hback]

/-- What is put in front of a separator leaves what follows it. -/
theorem cutAtLast_append_of_mem {separator : Char} {back before after : List Char}
    (h : cutAtLast separator back = some (before, after)) (front : List Char) :
    cutAtLast separator (front ++ back) = some (front ++ before, after) := by
  induction front with
  | nil => exact h
  | cons c front ih => rw [List.cons_append, cutAtLast, ih]; rfl

/-- What has no separator belongs to what follows the last one. -/
theorem cutAtLast_append_of_not_mem {separator : Char} {back : List Char} (h : separator ∉ back) (front : List Char) :
    cutAtLast separator (front ++ back) = (cutAtLast separator front).map fun r => (r.1, r.2 ++ back) := by
  induction front with
  | nil => simpa [cutAtLast] using cutAtLast_eq_none_iff.mpr h
  | cons c front ih =>
    rw [List.cons_append, cutAtLast, ih, cutAtLast]
    cases cutAtLast separator front with
    | none => by_cases hc : c = separator <;> simp [hc]
    | some r => rfl

theorem cutAccount_of_not_mem {cs : List Char} (h : '@' ∉ cs) : cutAccount cs = ([], cs) := by
  rw [cutAccount, cutAtLast_eq_none_iff.mpr h]
  rfl

/-- A text that ends without an at sign has that end behind its account. -/
theorem exists_cutAccount_append {back : List Char} (h : '@' ∉ back) (front : List Char) :
    ∃ before, (cutAccount (front ++ back)).2 = before ++ back := by
  rw [cutAccount, cutAtLast_append_of_not_mem h]
  cases cutAtLast '@' front with
  | none => exact ⟨front, rfl⟩
  | some r => exact ⟨r.2, rfl⟩

theorem cutHost_append (inBrackets : Bool) (cs : List Char) :
    (cutHost inBrackets cs).1 ++ (cutHost inBrackets cs).2 = cs := by
  fun_induction cutHost inBrackets cs with
  | case1 => rfl
  | case2 => rfl
  | case3 inBrackets c rest hc r ih => exact congrArg (c :: ·) ih

/-- What follows a host is nothing or begins with a colon. -/
theorem cutHost_snd_cases (inBrackets : Bool) (cs : List Char) :
    (cutHost inBrackets cs).2 = [] ∨ ∃ rest, (cutHost inBrackets cs).2 = ':' :: rest := by
  fun_induction cutHost inBrackets cs with
  | case1 => exact Or.inl rfl
  | case2 inBrackets c rest hc => exact Or.inr ⟨rest, by rw [hc.1]⟩
  | case3 inBrackets c rest hc r ih => exact ih

/-- A text without colons and brackets belongs to the host that it is put in front of. -/
theorem cutHost_append_front {front : List Char} (h : ∀ c ∈ front, c ≠ ':' ∧ c ≠ '[') (back : List Char) :
    cutHost false (front ++ back) = (front ++ (cutHost false back).1, (cutHost false back).2) := by
  induction front with
  | nil => rfl
  | cons c front ih =>
    obtain ⟨hcolon, hbracket⟩ := h c List.mem_cons_self
    rw [List.cons_append, cutHost, if_neg (by simp [hcolon]), if_neg hbracket, ite_self,
      ih fun d hd => h d (List.mem_cons_of_mem _ hd)]
    rfl

/-! ## What can be read -/

theorem not_mem_of_readPort {scheme : Scheme} {cs : List Char} {port : Option UInt16}
    (h : readPort scheme cs = .ok port) : ':' ∉ cs := by
  intro hmem
  unfold readPort at h
  split at h
  · cases hmem
  · split at h
    · cases h
    · rename_i n hn
      unfold natural? naturalIn? at hn
      split_ifs at hn
      exact absurd (isSome_digitIn?_of_mem hn ':' hmem) (by decide)

namespace IsRead

variable {scheme : Scheme} {host : Host} {port : Option UInt16}

/-- If a colon can be the one in front of the port, it is, unless the whole text is the host. -/
theorem cutHost_cases {front digits : List Char} (h : IsRead scheme (front ++ ':' :: digits) host port)
    (hdigits : ':' ∉ digits) :
    (cutHost false (front ++ ':' :: digits)).1 = front ++ ':' :: digits ∨
      (cutHost false (front ++ ':' :: digits)).1 = front := by
  have hwhole := cutHost_append false (front ++ ':' :: digits)
  obtain hnone | ⟨rest, hrest⟩ := cutHost_snd_cases false (front ++ ':' :: digits)
  · rw [hnone, List.append_nil] at hwhole
    exact Or.inl hwhole
  · have hport := not_mem_of_readPort h.2
    rw [hrest] at hwhole hport
    rw [List.drop_succ_cons, List.drop_zero] at hport
    right
    obtain ⟨more, hfront, hmore⟩ | ⟨more, hhost, hmore⟩ := List.append_eq_append_iff.mp hwhole
    · cases more with
      | nil => simpa using hfront.symm
      | cons c more =>
        obtain ⟨-, rfl⟩ := List.cons.inj hmore
        simp at hport
    · cases more with
      | nil => simpa using hhost
      | cons c more =>
        obtain ⟨-, hmore⟩ := List.cons.inj hmore
        rw [hmore] at hdigits
        simp at hdigits

/-- A host that does not begin with a bracket, or does not end with one, holds no blank character. -/
theorem not_isBlank_of_host {cs : List Char} (h : IsRead scheme cs host port)
    (hplain : (cutHost false cs).1.head? ≠ some '[' ∨ (cutHost false cs).1.getLast? ≠ some ']') :
    ∀ c ∈ (cutHost false cs).1, isBlank c = false := by
  obtain ⟨hfirst, hlast⟩ | ⟨name, hname⟩ := Host.brackets_or_domain_of_read h.1
  · exact absurd hplain (by simp [hfirst, hlast])
  · exact Host.not_isBlank_of_domain? hname

/-- There are no blank characters at the start of a host. -/
theorem not_isBlank_of_front {front back : List Char} (h : IsRead scheme (front ++ back) host port)
    (hne : front ≠ []) (hfront : ∀ c ∈ front, c ≠ ':' ∧ c ≠ '[') : ∀ c ∈ front, isBlank c = false := by
  intro c hc
  have hhost : (cutHost false (front ++ back)).1 = front ++ (cutHost false back).1 := by
    rw [cutHost_append_front hfront]
  refine h.not_isBlank_of_host (Or.inl ?_) c ?_
  · obtain ⟨first, rest, rfl⟩ := List.exists_cons_of_ne_nil hne
    rw [hhost, List.cons_append, List.head?_cons]
    simpa using (hfront first List.mem_cons_self).2
  · rw [hhost]
    exact List.mem_append_left _ hc

/-- There are no blank characters in front of a port that is written out, if the host does not end with a bracket. -/
theorem not_isBlank_of_back {front digits : List Char} (h : IsRead scheme (front ++ ':' :: digits) host port)
    (hdigits : ':' ∉ digits) (hfront : front.getLast? ≠ some ']')
    (hwhole : (front ++ ':' :: digits).getLast? ≠ some ']') : ∀ c ∈ front, isBlank c = false := by
  intro c hc
  obtain hhost | hhost := h.cutHost_cases hdigits
  · refine h.not_isBlank_of_host (Or.inr ?_) c ?_
    · rwa [hhost]
    · rw [hhost]
      exact List.mem_append_left _ hc
  · refine h.not_isBlank_of_host (Or.inr ?_) c ?_
    · rwa [hhost]
    · rwa [hhost]

end IsRead

/-! ## Domains and ports -/

/-- A test with different results tells two characters apart. -/
theorem ne_of_test {test : Char → Bool} {c mark : Char} {result : Bool} (hc : test c = result)
    (hmark : test mark = !result) : c ≠ mark := by
  rintro rfl
  rw [hc] at hmark
  cases result <;> cases hmark

/-- A test that tells a character from the marks behind an authority. -/
theorem endsAuthority_of_test (test : Char → Bool) {c : Char} (h : test c ∉ ['/', '\\', '?', '#'].map test) :
    endsAuthority c = false := by
  cases hends : endsAuthority c with
  | false => rfl
  | true =>
    have hmark : c ∈ ['/', '\\', '?', '#'] := by simpa [endsAuthority, isSlash, or_assoc] using hends
    exact absurd (List.mem_map_of_mem hmark) h

theorem endsAuthority_of_not_isForbidden {c : Char} (h : Host.isForbidden c = false) : endsAuthority c = false := by
  apply endsAuthority_of_test Host.isForbidden
  rw [h]
  decide

theorem withoutLineEnds_of_allowed {cs : List Char} (h : ∀ c ∈ cs, Host.isForbidden c = false) :
    withoutLineEnds cs = cs := by
  refine List.filter_eq_self.mpr fun c hc => ?_
  have htab : c ≠ '\t' := ne_of_test (h c hc) (by decide)
  have hline : c ≠ '\n' := ne_of_test (h c hc) (by decide)
  have hreturn : c ≠ '\r' := ne_of_test (h c hc) (by decide)
  simp [htab, hline, hreturn]

/-- A domain with a port is read as such, and nothing else is in the address. -/
theorem readAfterSlashes_of_domain {scheme : Scheme} {domain digits : List Char} {host : Host} {port : Option UInt16}
    (hdomain : ∀ c ∈ domain, Host.isForbidden c = false) (hhost : Host.read domain = .ok host)
    (hdigits : ∀ c ∈ digits, endsAuthority c = false ∧ c ≠ '@') (hport : readPort scheme digits = .ok port) :
    readAfterSlashes scheme (domain ++ ':' :: digits ++ ['/']) = .ok ⟨scheme, "", none, host, port, [""], none, none⟩ := by
  have hplain : ∀ c ∈ domain ++ ':' :: digits, endsAuthority c = false ∧ c ≠ '@' := by
    simp only [List.mem_append, List.mem_cons]
    rintro c (hc | rfl | hc)
    · exact ⟨endsAuthority_of_not_isForbidden (hdomain c hc), ne_of_test (hdomain c hc) (by decide)⟩
    · decide
    · exact hdigits c hc
  have haccount : cutAccount (authority (domain ++ ':' :: digits ++ ['/'])) = ([], domain ++ ':' :: digits) := by
    rw [authority_append_of_none fun c hc => (hplain c hc).1]
    have hnone : authority ['/'] = [] := rfl
    rw [hnone, List.append_nil, cutAccount_of_not_mem fun hmem => (hplain _ hmem).2 rfl]
  have hafter : afterAuthority (domain ++ ':' :: digits ++ ['/']) = ['/'] :=
    afterAuthority_append_of_none (fun c hc => (hplain c hc).1) ['/']
  have hcut : cutHost false (domain ++ ':' :: digits) = (domain, ':' :: digits) := by
    have hrest : cutHost false (':' :: digits) = ([], ':' :: digits) := rfl
    rw [cutHost_append_front, hrest, List.append_nil]
    exact fun c hc => ⟨ne_of_test (hdomain c hc) (by decide), ne_of_test (hdomain c hc) (by decide)⟩
  have hread : IsRead scheme (hostAndPort (domain ++ ':' :: digits ++ ['/'])) host port := by
    rw [hostAndPort, haccount]
    unfold IsRead
    rw [hcut]
    exact ⟨hhost, hport⟩
  have hsegments : segments ['/'] = [""] := by decide
  refine readAfterSlashes_eq_ok_iff.mpr ⟨host, port, hread, ?_⟩
  simp only [ofWritten, haccount, writtenPath, writtenTail, hafter]
  simp [isInPath, hsegments, account, queryAndFragment, Percent.encode]

end ServiceCatalog.Url
