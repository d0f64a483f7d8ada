import Mathlib.Tactic.SplitIfs
import ServiceCatalog.Text.Utf8

/-!
# Octets of a text read back

Every character has a lead octet that announces how many others there are and bounds the first of them. A text is read
back from the octets of its characters.
-/

namespace ServiceCatalog.Text.Utf8

theorem toNat_toUInt8 {n : Nat} (h : n < 256) : n.toUInt8.toNat = n := Nat.mod_eq_of_lt h

/-- The numbers of characters leave out the halves of surrogate pairs. -/
theorem toNat_lt_or_lt (c : Char) : c.toNat < 0xD800 ∨ 0xDFFF < c.toNat ∧ c.toNat < 0x110000 := c.valid

/-- An octet that completes a character. -/
theorem strictFrom_last {l : Lead} {b : Nat} (howed : l.owed = 1) (hlow : l.least ≤ b) (hhigh : b ≤ l.greatest)
    (hb : b < 256) (rest : List UInt8) :
    strictFrom (some l) (b.toUInt8 :: rest) =
      (strictFrom none rest).map (Char.ofNat (l.payload * 64 + (b - 0x80)) :: ·) := by
  simp [strictFrom, toNat_toUInt8 hb, hlow, hhigh, howed]

/-- An octet after which a character goes on. -/
theorem strictFrom_next {l : Lead} {b : Nat} (howed : 1 < l.owed) (hlow : l.least ≤ b) (hhigh : b ≤ l.greatest)
    (hb : b < 256) (rest : List UInt8) :
    strictFrom (some l) (b.toUInt8 :: rest) =
      strictFrom (some ⟨l.payload * 64 + (b - 0x80), l.owed - 1, 0x80, 0xBF⟩) rest := by
  simp [strictFrom, toNat_toUInt8 hb, hlow, hhigh, Nat.not_le.mpr howed]

/-- A lead octet in front of those that it announces. -/
theorem strictFrom_lead {b : Nat} {l : Lead} (hlead : lead? b = some l) (hb : 0x80 ≤ b ∧ b < 256)
    (rest : List UInt8) : strictFrom none (b.toUInt8 :: rest) = strictFrom (some l) rest := by
  simp [strictFrom, toNat_toUInt8 hb.2, Nat.not_lt.mpr hb.1, hlead]

theorem lead?_of_two {n : Nat} (hlow : 0x80 ≤ n) (hhigh : n < 0x800) :
    lead? (0xC0 + n / 64) = some ⟨n / 64, 1, 0x80, 0xBF⟩ := by
  rw [lead?, if_pos (by omega), Nat.add_sub_cancel_left]

/-- The least and the greatest second octet keep out the characters that have fewer octets and the halves of surrogate
pairs. -/
theorem lead?_of_three {n : Nat} (hlow : 0x800 ≤ n) (hhigh : n < 0x10000) (hvalid : n < 0xD800 ∨ 0xDFFF < n) :
    ∃ least greatest, lead? (0xE0 + n / 4096) = some ⟨n / 4096, 2, least, greatest⟩ ∧
      least ≤ 0x80 + n / 64 % 64 ∧ 0x80 + n / 64 % 64 ≤ greatest := by
  by_cases hleast : n / 4096 = 0
  · refine ⟨0xA0, 0xBF, ?_, by omega, by omega⟩
    rw [hleast]
    rfl
  by_cases hsurrogates : n / 4096 = 0xD
  · refine ⟨0x80, 0x9F, ?_, by omega, by omega⟩
    rw [hsurrogates]
    rfl
  · refine ⟨0x80, 0xBF, ?_, by omega, by omega⟩
    rw [lead?, if_neg (by omega), if_neg (by omega), if_neg (by omega), if_pos (by omega), Nat.add_sub_cancel_left]

theorem lead?_of_four {n : Nat} (hlow : 0x10000 ≤ n) (hhigh : n < 0x110000) :
    ∃ least greatest, lead? (0xF0 + n / 262144) = some ⟨n / 262144, 3, least, greatest⟩ ∧
      least ≤ 0x80 + n / 4096 % 64 ∧ 0x80 + n / 4096 % 64 ≤ greatest := by
  by_cases hleast : n / 262144 = 0
  · refine ⟨0x90, 0xBF, ?_, by omega, by omega⟩
    rw [hleast]
    rfl
  by_cases hgreatest : n / 262144 = 4
  · refine ⟨0x80, 0x8F, ?_, by omega, by omega⟩
    rw [hgreatest]
    rfl
  · refine ⟨0x80, 0xBF, ?_, by omega, by omega⟩
    rw [lead?, if_neg (by omega), if_neg (by omega), if_neg (by omega), if_neg (by omega), if_neg (by omega),
      if_pos (by omega), Nat.add_sub_cancel_left]

/-- A character is read back from its octets. -/
theorem strictFrom_encodeChar (c : Char) (rest : List UInt8) :
    strictFrom none (encodeChar c ++ rest) = (strictFrom none rest).map (c :: ·) := by
  have hvalid := toNat_lt_or_lt c
  have hback {n : Nat} (h : n = c.toNat) : Char.ofNat n = c := by rw [h, Char.ofNat_toNat]
  unfold encodeChar
  dsimp only
  split_ifs with hone htwo hthree
  · simp [strictFrom, toNat_toUInt8 (by omega : c.toNat < 256), hone]
  · have hlead := lead?_of_two (Nat.not_lt.mp hone) htwo
    simp only [List.cons_append, List.nil_append]
    rw [strictFrom_lead hlead (by omega), strictFrom_last rfl (by simp) (by dsimp only; omega) (by omega), hback]
    dsimp only
    omega
  · obtain ⟨least, greatest, hlead, hleast, hgreatest⟩ := lead?_of_three (Nat.not_lt.mp htwo) hthree (by omega)
    simp only [List.cons_append, List.nil_append]
    rw [strictFrom_lead hlead (by omega), strictFrom_next (by simp) hleast hgreatest (by omega),
      strictFrom_last rfl (by simp) (by dsimp only; omega) (by omega), hback]
    dsimp only
    omega
  · obtain ⟨least, greatest, hlead, hleast, hgreatest⟩ := lead?_of_four (Nat.not_lt.mp hthree) (by omega)
    simp only [List.cons_append, List.nil_append]
    rw [strictFrom_lead hlead (by omega), strictFrom_next (by simp) hleast hgreatest (by omega),
      strictFrom_next (by simp) (by simp) (by dsimp only; omega) (by omega),
      strictFrom_last rfl (by simp) (by dsimp only; omega) (by omega), hback]
    dsimp only
    omega

/-- Characters are read back from their octets, in front of any others. -/
theorem strictFrom_flatMap_encodeChar (cs : List Char) (rest : List UInt8) :
    strictFrom none (cs.flatMap encodeChar ++ rest) = (strictFrom none rest).map (cs ++ ·) := by
  induction cs with
  | nil => exact Option.map_id'.symm
  | cons c cs ih =>
    rw [List.flatMap_cons, List.append_assoc, strictFrom_encodeChar, ih, Option.map_map]
    rfl

/-- A text is read back from its octets. -/
theorem strict?_encode (s : String) : strict? (encode s) = some s := by
  have hchars := strictFrom_flatMap_encodeChar s.toList []
  rw [List.append_nil] at hchars
  rw [strict?, encode, hchars, strictFrom, Option.map_some, Option.map_some, List.append_nil, String.ofList_toList]

/-- Octets that are UTF-8 are read leniently as they are read strictly. -/
theorem lenientFrom_of_strictFrom {octets : List UInt8} {pending : Option Lead} {cs : List Char}
    (h : strictFrom pending octets = some cs) : lenientFrom pending octets = cs := by
  induction octets generalizing pending cs with
  | nil =>
    cases pending with
    | none => exact Option.some.inj h
    | some l => cases h
  | cons o rest ih =>
    cases pending with
    | none =>
      simp only [strictFrom, lenientFrom] at h ⊢
      split_ifs at h ⊢
      · obtain ⟨more, hmore, rfl⟩ := Option.map_eq_some_iff.mp h
        rw [ih hmore]
      · split at h
        · exact ih h
        · cases h
    | some l =>
      simp only [strictFrom, lenientFrom] at h ⊢
      split_ifs at h ⊢
      · obtain ⟨more, hmore, rfl⟩ := Option.map_eq_some_iff.mp h
        rw [ih hmore]
      · exact ih h

theorem lenient_of_strict? {octets : List UInt8} {text : String} (h : strict? octets = some text) :
    lenient octets = text := by
  obtain ⟨cs, hcs, rfl⟩ := Option.map_eq_some_iff.mp h
  rw [lenient, lenientFrom_of_strictFrom hcs]

end ServiceCatalog.Text.Utf8
