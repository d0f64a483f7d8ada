import ServiceCatalog.Proofs.Connection.Underneath
import ServiceCatalog.Proofs.Text.Blank
import ServiceCatalog.Proofs.Text.Octets

/-!
# Addresses as they are given

The text of an address in use has one form: a scheme and then what was given behind its own scheme, with a slash at the
end. Blank characters around a given address do not matter to it, nor which scheme is given in which letter case, nor
whether one is given at all unless another would come to light.
-/

namespace ServiceCatalog

open Text Text.Utf8

/-- What an address with a scheme begins with. -/
def Url.Scheme.opening (scheme : Scheme) : List Char := scheme.name.toList ++ "://".toList

namespace Endpoint

/-- A text is what an address with some scheme begins with, in any letter case. -/
def IsOpening (cs : List Char) : Prop := ∃ scheme : Url.Scheme, cs.map Char.toLower = scheme.opening

/-- A text begins with a scheme, in any letter case. -/
def Opens (cs : List Char) : Prop := ∃ front, IsOpening front ∧ front <+: cs

/-! ## The scheme that is given -/

theorem afterScheme?_eq_some_iff {scheme : Url.Scheme} {cs rest : List Char} :
    afterScheme? scheme cs = some rest ↔ ∃ front, front.map Char.toLower = scheme.opening ∧ cs = front ++ rest := by
  have hdef : afterScheme? scheme cs =
      if (cs.take scheme.opening.length).map Char.toLower = scheme.opening then some (cs.drop scheme.opening.length)
      else none := rfl
  rw [hdef]
  constructor
  · intro h
    split at h
    · rename_i htake
      cases h
      exact ⟨_, htake, (List.take_append_drop _ _).symm⟩
    · cases h
  · rintro ⟨front, hfront, rfl⟩
    have hlength : scheme.opening.length = front.length := by rw [← hfront, List.length_map]
    rw [hlength, List.take_left, List.drop_left, if_pos hfront]

theorem opening_not_prefix_of_ne {scheme other : Url.Scheme} (h : scheme ≠ other) (cs : List Char) :
    ¬scheme.opening <+: other.opening ++ cs := by
  cases scheme <;> cases other
  · exact absurd rfl h
  · rintro ⟨back, hback⟩
    cases hback
  · rintro ⟨back, hback⟩
    cases hback
  · exact absurd rfl h

theorem withoutScheme_append {front : List Char} (h : IsOpening front) (rest : List Char) :
    withoutScheme (front ++ rest) = rest := by
  obtain ⟨scheme, hscheme⟩ := h
  have hfound : afterScheme? scheme (front ++ rest) = some rest := afterScheme?_eq_some_iff.mpr ⟨front, hscheme, rfl⟩
  cases scheme with
  | https => rw [withoutScheme, hfound]
  | http =>
    have hnone : afterScheme? .https (front ++ rest) = none := by
      rw [Option.eq_none_iff_forall_ne_some]
      intro other hother
      obtain ⟨front', hfront', hsame⟩ := afterScheme?_eq_some_iff.mp hother
      have hlowered := congrArg (List.map Char.toLower) hsame
      rw [List.map_append, List.map_append, hscheme, hfront'] at hlowered
      exact opening_not_prefix_of_ne (by decide) _ ⟨_, hlowered.symm⟩
    rw [withoutScheme, hnone, hfound, Option.getD_some]

theorem withoutScheme_of_not_opens {cs : List Char} (h : ¬Opens cs) : withoutScheme cs = cs := by
  have hnone (scheme : Url.Scheme) : afterScheme? scheme cs = none := by
    rw [Option.eq_none_iff_forall_ne_some]
    intro rest hrest
    obtain ⟨front, hfront, rfl⟩ := afterScheme?_eq_some_iff.mp hrest
    exact h ⟨front, ⟨scheme, hfront⟩, List.prefix_append front rest⟩
  rw [withoutScheme, hnone, hnone, Option.getD_none]

/-! ## Cut by octets -/

/-- An address without its scheme, octet by octet: if its octets begin, lowered, with those of a scheme, as many are
left out. -/
def octetsWithoutScheme (address : List UInt8) : List UInt8 :=
  let lowered := address.map lowerOctet
  let https := octets Url.Scheme.https.opening
  let http := octets Url.Scheme.http.opening
  if https <+: lowered then address.drop https.length
  else if http <+: lowered then address.drop http.length
  else address

theorem isSome_afterScheme?_iff {scheme : Url.Scheme} {cs : List Char} :
    (afterScheme? scheme cs).isSome = true ↔ octets scheme.opening <+: (octets cs).map lowerOctet := by
  rw [map_lowerOctet_octets, octets_prefix_iff, List.prefix_map_iff, Option.isSome_iff_exists]
  simp only [afterScheme?_eq_some_iff]
  constructor
  · rintro ⟨rest, front, hfront, rfl⟩
    exact ⟨front, List.prefix_append front rest, hfront.symm⟩
  · rintro ⟨front, ⟨rest, hrest⟩, hfront⟩
    exact ⟨rest, front, hfront.symm, hrest.symm⟩

theorem drop_octets_of_afterScheme? {scheme : Url.Scheme} {cs rest : List Char}
    (h : afterScheme? scheme cs = some rest) :
    (octets cs).drop (octets scheme.opening).length = octets rest := by
  obtain ⟨front, hfront, rfl⟩ := afterScheme?_eq_some_iff.mp h
  exact drop_octets_of_lower hfront rest

/-- What is left of the octets of an address are the octets of what is left of its characters. -/
theorem octetsWithoutScheme_octets (cs : List Char) : octetsWithoutScheme (octets cs) = octets (withoutScheme cs) := by
  simp only [octetsWithoutScheme, ← isSome_afterScheme?_iff, withoutScheme]
  cases hhttps : afterScheme? .https cs with
  | some rest => exact drop_octets_of_afterScheme? hhttps
  | none =>
    cases hhttp : afterScheme? .http cs with
    | some rest => exact drop_octets_of_afterScheme? hhttp
    | none => rfl

/-! ## The form of an address in use -/

theorem isBlank_opening (scheme : Url.Scheme) : ∀ c ∈ scheme.opening, isBlank c = false := by
  have hall : (scheme.opening.all fun c => !isBlank c) = true := by cases scheme <;> decide
  simpa using hall

theorem opening_ne_nil (scheme : Url.Scheme) : scheme.opening ≠ [] := by
  cases scheme <;> decide

theorem isOpening_opening (scheme : Url.Scheme) : IsOpening scheme.opening :=
  ⟨scheme, by cases scheme <;> decide⟩

namespace IsOpening

variable {front : List Char}

theorem isBlank_eq_false (h : IsOpening front) : ∀ c ∈ front, isBlank c = false := by
  obtain ⟨scheme, hscheme⟩ := h
  intro c hc
  rw [← isBlank_toLower]
  exact isBlank_opening scheme _ (hscheme ▸ List.mem_map_of_mem hc)

theorem ne_nil (h : IsOpening front) : front ≠ [] := by
  obtain ⟨scheme, hscheme⟩ := h
  rintro rfl
  exact opening_ne_nil scheme hscheme.symm

/-- A scheme in front is told apart from what stands behind it, which is only trimmed at its end. -/
theorem withoutScheme_trimChars (h : IsOpening front) (rest : List Char) :
    withoutScheme (trimChars (front ++ rest)) = dropEndWhile isBlank rest := by
  rw [trimChars_append h.isBlank_eq_false h.ne_nil, withoutScheme_append h]

end IsOpening

theorem toList_ofGiven (raw : String) (scheme : Url.Scheme) :
    (ofGiven raw scheme).toList = withSlash (scheme.opening ++ withoutScheme (trimChars raw.toList)) :=
  String.toList_ofList

/-- Addresses that are the same behind their schemes are the same in use. -/
theorem ofGiven_congr {raw other : String}
    (h : withoutScheme (trimChars raw.toList) = withoutScheme (trimChars other.toList)) (scheme : Url.Scheme) :
    ofGiven raw scheme = ofGiven other scheme := by
  rw [← String.toList_inj, toList_ofGiven, toList_ofGiven, h]

/-- The slash goes behind what is given, or is there already with the scheme. -/
theorem exists_withSlash_opening (rest : List Char) :
    ∃ tail, ∀ scheme : Url.Scheme, withSlash (scheme.opening ++ rest) = scheme.opening ++ tail := by
  by_cases hrest : rest = []
  · refine ⟨[], fun scheme => ?_⟩
    subst hrest
    cases scheme <;> rfl
  · have hlast (scheme : Url.Scheme) : (scheme.opening ++ rest).getLast? = rest.getLast? :=
      List.getLast?_append_of_ne_nil _ hrest
    by_cases hslash : rest.getLast? = some '/'
    · exact ⟨rest, fun scheme => if_pos ((hlast scheme).trans hslash)⟩
    · refine ⟨rest ++ ['/'], fun scheme => ?_⟩
      rw [withSlash, hlast, if_neg hslash, List.append_assoc]

theorem withSlash_withSlash (cs : List Char) : withSlash (withSlash cs) = withSlash cs :=
  if_pos (getLast?_withSlash cs)

/-- An address in use is one that is given, with any scheme that is called for in place of its own. -/
theorem ofGiven_ofGiven (raw : String) (scheme other : Url.Scheme) :
    ofGiven (ofGiven raw scheme) other = ofGiven raw other := by
  obtain ⟨tail, htail⟩ := exists_withSlash_opening (withoutScheme (trimChars raw.toList))
  have hend : dropEndWhile isBlank tail = tail := by
    refine List.rdropWhile_eq_self_iff.mpr fun hne => ?_
    have hslash := getLast?_withSlash (scheme.opening ++ withoutScheme (trimChars raw.toList))
    rw [htail, List.getLast?_append_of_ne_nil _ hne, List.getLast?_eq_some_getLast hne] at hslash
    rw [Option.some.inj hslash]
    decide
  rw [← String.toList_inj, toList_ofGiven, toList_ofGiven, toList_ofGiven, htail scheme,
    (isOpening_opening scheme).withoutScheme_trimChars, hend, ← htail, withSlash_withSlash]

theorem ofGiven_append_of_isOpening {front : String} (h : IsOpening front.toList) (rest : String)
    (scheme : Url.Scheme) :
    (ofGiven (front ++ rest) scheme).toList = withSlash (scheme.opening ++ dropEndWhile isBlank rest.toList) := by
  rw [toList_ofGiven, String.toList_append, h.withoutScheme_trimChars]

/-- For every given address, whatever its characters, and every scheme that is called for: cut octet by octet, the
address without its own scheme is a text, and the address in use is this text between the scheme that is called for and
a slash. Given again, for any scheme, it is the address in use for that scheme. Nothing changes with blank characters
around the given address, with the scheme it begins with and the letter case of that, or without this scheme, if neither
a blank character nor a scheme comes next. -/
theorem ofGiven_normalized (raw : String) (scheme other : Url.Scheme) :
    (∃ rest : String, octetsWithoutScheme (encode (trim raw)) = encode rest ∧
      ofGiven raw scheme = String.ofList (withSlash (scheme.opening ++ rest.toList))) ∧
    (scheme.opening <+: (ofGiven raw scheme).toList ∧ (ofGiven raw scheme).toList.getLast? = some '/') ∧
    ofGiven (ofGiven raw scheme) other = ofGiven raw other ∧
    (∀ front back : String, (∀ c ∈ front.toList, isBlank c = true) → (∀ c ∈ back.toList, isBlank c = true) →
      ofGiven (front ++ raw ++ back) scheme = ofGiven raw scheme) ∧
    (∀ front front' : String, IsOpening front.toList → IsOpening front'.toList →
      ofGiven (front ++ raw) scheme = ofGiven (front' ++ raw) scheme) ∧
    ∀ front : String, IsOpening front.toList → (∀ c, raw.toList.head? = some c → isBlank c = false) →
      ¬Opens raw.toList → ofGiven (front ++ raw) scheme = ofGiven raw scheme := by
  refine ⟨⟨String.ofList (withoutScheme (trimChars raw.toList)), ?_, ?_⟩, ⟨?_, ?_⟩, ofGiven_ofGiven raw scheme other,
    fun front back hfront hback => ?_, fun front front' hfront hfront' => ?_, fun front hfront hblank hopens => ?_⟩
  · rw [encode_eq_octets, encode_eq_octets, trim, String.toList_ofList, String.toList_ofList]
    exact octetsWithoutScheme_octets _
  · rw [← String.toList_inj, toList_ofGiven, String.toList_ofList, String.toList_ofList]
  · obtain ⟨tail, htail⟩ := exists_withSlash_opening (withoutScheme (trimChars raw.toList))
    rw [toList_ofGiven, htail]
    exact List.prefix_append _ _
  · rw [toList_ofGiven]
    exact getLast?_withSlash _
  · refine ofGiven_congr ?_ scheme
    rw [String.toList_append, String.toList_append, trimChars_around hfront hback]
  · rw [← String.toList_inj, ofGiven_append_of_isOpening hfront, ofGiven_append_of_isOpening hfront']
  · have htrim : trimChars raw.toList = dropEndWhile isBlank raw.toList := trimChars_of_head? hblank
    have hkept : ¬Opens (trimChars raw.toList) := by
      rintro ⟨opening, hopening, hprefix⟩
      rw [htrim] at hprefix
      exact hopens ⟨opening, hopening, hprefix.trans (List.rdropWhile_prefix isBlank raw.toList)⟩
    rw [← String.toList_inj, ofGiven_append_of_isOpening hfront, toList_ofGiven, withoutScheme_of_not_opens hkept,
      htrim]

end Endpoint

end ServiceCatalog
