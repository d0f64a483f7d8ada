import ServiceCatalog.Proofs.Text.Utf8
import ServiceCatalog.Text.Blank
import ServiceCatalog.Url.Host

/-!
# Hosts that can be read

A host is an address in brackets or a domain. A domain without forbidden characters stands for itself in lower case,
and nothing that is read as a domain holds a blank character, wherever percent signs stand in it.
-/

namespace ServiceCatalog

open Text

namespace Text

/-- No blank character is printable ASCII. -/
theorem toNat_of_isBlank {c : Char} (h : isBlank c = true) : c.toNat ≤ 0x20 ∨ 0x80 ≤ c.toNat ∧ c.toNat ≤ 0x3000 := by
  simp only [isBlank, Bool.or_eq_true, Bool.and_eq_true, decide_eq_true_eq, beq_iff_eq] at h
  omega

theorem digitIn?_of_isBlank {c : Char} (h : isBlank c = true) : digitIn? 16 c = none := by
  have hrange := toNat_of_isBlank h
  have hoff (low high : Char) (hlow : 0x20 < low.toNat) (hhigh : high.toNat < 0x80) : ¬ (low ≤ c ∧ c ≤ high) := by
    rintro ⟨hle, hge⟩
    have hle : low.toNat ≤ c.toNat := hle
    have hge : c.toNat ≤ high.toNat := hge
    omega
  unfold digitIn?
  rw [if_neg (hoff '0' '9' (by decide) (by decide)), if_neg (hoff 'a' 'f' (by decide) (by decide)),
    if_neg (hoff 'A' 'F' (by decide) (by decide))]
  rfl

/-- The first octet of a blank character is not printable ASCII. -/
theorem exists_octet_of_isBlank {c : Char} (h : isBlank c = true) :
    ∃ o ∈ Utf8.encodeChar c, o.toNat ≤ 0x20 ∨ 0x80 ≤ o.toNat := by
  have hrange := toNat_of_isBlank h
  have hoctet (n : Nat) (hn : n < 256) : n.toUInt8.toNat = n := Nat.mod_eq_of_lt hn
  unfold Utf8.encodeChar
  dsimp only
  split_ifs <;> exact ⟨_, List.mem_cons_self, by rw [hoctet _ (by omega)]; omega⟩

end Text

namespace Url

/-- Blank characters are what they are, wherever percent signs stand. -/
theorem Percent.mem_decode_of_isBlank {c : Char} (hc : isBlank c = true) {cs : List Char} (hmem : c ∈ cs) :
    ∀ o ∈ Utf8.encodeChar c, o ∈ decode cs := by
  intro o ho
  have hmark : c ≠ '%' := by
    rintro rfl
    cases hc
  fun_induction decode cs with
  | case1 => cases hmem
  | case2 high low rest n hn ih =>
    simp only [naturalIn?, List.isEmpty_cons, Bool.false_eq_true, if_false, digitsAfter?] at hn
    have hhigh : c ≠ high := by
      rintro rfl
      simp [digitIn?_of_isBlank hc] at hn
    have hlow : c ≠ low := by
      rintro rfl
      simp [digitIn?_of_isBlank hc] at hn
    simp only [List.mem_cons, hmark, hhigh, hlow, false_or] at hmem
    exact List.mem_cons_of_mem _ (ih hmem)
  | case3 high low rest hn ih =>
    exact List.mem_append_right _ (ih (List.mem_of_ne_of_mem hmark hmem))
  | case4 d rest _ ih =>
    obtain rfl | hrest := List.mem_cons.mp hmem
    · exact List.mem_append_left _ ho
    · exact List.mem_append_right _ (ih hrest)

namespace Host

theorem toNat_of_not_isForbidden {c : Char} (h : isForbidden c = false) : 0x20 < c.toNat ∧ c.toNat < 0x7F := by
  simp only [isForbidden, Bool.or_eq_false_iff, decide_eq_false_iff_not] at h
  omega

theorem isPlain_of_not_isForbidden {c : Char} (h : isForbidden c = false) : Utf8.isPlain c = true := by
  have hrange := toNat_of_not_isForbidden h
  simp only [Utf8.isPlain, Bool.and_eq_true, decide_eq_true_eq]
  omega

/-- Letters are allowed in either case. -/
@[simp] theorem isForbidden_toLower (c : Char) : isForbidden c.toLower = isForbidden c :=
  Utf8.toLower_congr_of_ascii (by decide) c

theorem domain?_eq_some_iff {cs name : List Char} :
    domain? cs = some name ↔
      ∃ ds, Utf8.strictFrom none (Percent.decode cs) = some ds ∧ (∀ d ∈ ds, isForbidden d = false) ∧
        name = ds.map Char.toLower := by
  simp only [domain?, Utf8.strict?, Option.bind_eq_some_iff, Option.map_eq_some_iff]
  constructor
  · rintro ⟨_, ⟨ds, hds, rfl⟩, hname⟩
    rw [String.toList_ofList] at hname
    split_ifs at hname with hforbidden
    refine ⟨ds, hds, ?_, (Option.some.inj hname).symm⟩
    simpa using hforbidden
  · rintro ⟨ds, hds, hallowed, rfl⟩
    refine ⟨_, ⟨ds, hds, rfl⟩, ?_⟩
    rw [String.toList_ofList, if_neg]
    simpa using hallowed

/-- What is read as a domain holds no blank character. -/
theorem not_isBlank_of_domain? {cs name : List Char} (h : domain? cs = some name) : ∀ c ∈ cs, isBlank c = false := by
  obtain ⟨ds, hds, hallowed, -⟩ := domain?_eq_some_iff.mp h
  obtain ⟨-, hoctets⟩ := Utf8.octets_of_strictFrom (by simp) hds fun d hd => isPlain_of_not_isForbidden (hallowed d hd)
  intro c hc
  cases hblank : isBlank c with
  | false => rfl
  | true =>
    obtain ⟨o, ho, hrange⟩ := exists_octet_of_isBlank hblank
    have hmem := Percent.mem_decode_of_isBlank hblank hc o ho
    rw [hoctets] at hmem
    obtain ⟨d, hd, rfl⟩ := List.mem_map.mp hmem
    rw [Utf8.toNat_toUInt8_of_isPlain (isPlain_of_not_isForbidden (hallowed d hd))] at hrange
    have hprintable := toNat_of_not_isForbidden (hallowed d hd)
    omega

theorem decode_of_allowed {cs : List Char} (h : ∀ c ∈ cs, isForbidden c = false) :
    Percent.decode cs = cs.map fun c => c.toNat.toUInt8 := by
  fun_induction Percent.decode cs with
  | case1 => rfl
  | case2 high low rest n hn ih => cases h '%' List.mem_cons_self
  | case3 high low rest hn ih => cases h '%' List.mem_cons_self
  | case4 c rest _ ih =>
    have hlt := (toNat_of_not_isForbidden (h c List.mem_cons_self)).2
    have hoctet : Utf8.encodeChar c = [c.toNat.toUInt8] := by
      unfold Utf8.encodeChar
      rw [if_pos (by omega)]
    rw [ih fun d hd => h d (List.mem_cons_of_mem _ hd), hoctet]
    rfl

/-- A domain without forbidden characters stands for itself in lower case. -/
theorem domain?_of_allowed {cs : List Char} (h : ∀ c ∈ cs, isForbidden c = false) :
    domain? cs = some (cs.map Char.toLower) := by
  refine domain?_eq_some_iff.mpr ⟨cs, ?_, h, rfl⟩
  rw [decode_of_allowed h]
  exact Utf8.strictFrom_octets fun c hc => isPlain_of_not_isForbidden (h c hc)

/-- A host stands in brackets or is read as a domain. -/
theorem brackets_or_domain_of_read {cs : List Char} {host : Host} (h : read cs = .ok host) :
    cs.head? = some '[' ∧ cs.getLast? = some ']' ∨ ∃ name, domain? cs = some name := by
  unfold read at h
  split at h
  · cases h
  · rename_i rest
    split at h
    · rename_i hlast
      exact Or.inl ⟨rfl, by rw [List.getLast?_cons, hlast]; rfl⟩
    · cases h
  · split at h
    · cases h
    · rename_i hname
      exact Or.inr ⟨_, hname⟩
    · rename_i name _ hname
      exact Or.inr ⟨name, hname⟩

/-- A host that is a domain is the domain that its text is read as. -/
theorem domain?_of_read {cs : List Char} {name : String} (h : read cs = .ok (.domain name)) :
    domain? cs = some name.toList := by
  unfold read at h
  split at h
  · cases h
  · split at h
    · split at h <;> cases h
    · cases h
  · split at h
    · cases h
    · cases h
    · rename_i domain _ hdomain
      split at h
      · split at h <;> cases h
      · cases h
        rw [hdomain, String.toList_ofList]

/-! ## Labels -/

theorem cutAt_ne_nil (separator : Char) (cs : List Char) : cutAt separator cs ≠ [] := by
  fun_cases cutAt separator cs <;> simp

theorem not_mem_of_mem_cutAt {separator : Char} {cs part : List Char} (h : part ∈ cutAt separator cs) :
    separator ∉ part := by
  induction cs generalizing part with
  | nil =>
    obtain rfl : part = [] := by simpa [cutAt] using h
    simp
  | cons c cs ih =>
    rw [cutAt] at h
    split at h
    · obtain rfl | hmem := List.mem_cons.mp h
      · simp
      · exact ih hmem
    · rename_i hc
      obtain ⟨first, more, hcut⟩ := List.exists_cons_of_ne_nil (cutAt_ne_nil separator cs)
      rw [hcut] at h ih
      obtain rfl | hmem := List.mem_cons.mp h
      · simp [Ne.symm hc, ih List.mem_cons_self]
      · exact ih (List.mem_cons_of_mem _ hmem)

theorem cutAt_of_not_mem {separator : Char} {cs : List Char} (h : separator ∉ cs) : cutAt separator cs = [cs] := by
  induction cs with
  | nil => rfl
  | cons c cs ih =>
    obtain ⟨hc, hcs⟩ := not_or.mp (mt List.mem_cons.mpr h)
    rw [cutAt, if_neg (Ne.symm hc), ih hcs]

/-- A separator ends one part and begins another. -/
theorem cutAt_append_cons (separator : Char) (front back : List Char) :
    cutAt separator (front ++ separator :: back) = cutAt separator front ++ cutAt separator back := by
  induction front with
  | nil => simp [cutAt]
  | cons c front ih =>
    rw [List.cons_append, cutAt, ih, cutAt]
    split
    · rfl
    · obtain ⟨first, more, hfront⟩ := List.exists_cons_of_ne_nil (cutAt_ne_nil separator front)
      rw [hfront]
      rfl

/-- A domain whose last label is no number does not end in one. -/
theorem endsInNumber_append {front last : List Char} (hdot : '.' ∉ last) (hdigits : last.all Char.isDigit = false)
    (hnumber : ipv4Number last = .notNumeric) : endsInNumber (front ++ '.' :: last) = false := by
  have hne : last ≠ [] := by
    rintro rfl
    cases hdigits
  have hparts : cutAt '.' (front ++ '.' :: last) = cutAt '.' front ++ [last] := by
    rw [cutAt_append_cons, cutAt_of_not_mem hdot]
  have hlabels : (labels (front ++ '.' :: last)).getLast? = some last := by
    unfold labels
    dsimp only
    rw [hparts, if_neg (by simp [hne]), List.getLast?_concat]
  unfold endsInNumber
  rw [hlabels]
  simp [hdigits, hnumber]

/-- A domain of allowed characters is read as such if its last label is no number. -/
theorem read_of_allowed {cs : List Char} (hne : cs ≠ []) (h : ∀ c ∈ cs, isForbidden c = false)
    (hlast : endsInNumber (cs.map Char.toLower) = false) :
    read cs = .ok (.domain (String.ofList (cs.map Char.toLower))) := by
  unfold read
  split
  · exact absurd rfl hne
  · cases h '[' List.mem_cons_self
  · rw [domain?_of_allowed h]
    split
    · rename_i hnone
      cases hnone
    · rename_i hempty
      exact absurd (List.map_eq_nil_iff.mp (Option.some.inj hempty)) hne
    · rename_i name _ hname
      cases hname
      rw [if_neg (by simp [hlast])]

end Host

end Url

end ServiceCatalog
