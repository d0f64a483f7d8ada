import ServiceCatalog.Proofs.Text.Encoding
import ServiceCatalog.Proofs.Text.Utf8

/-!
# Texts by their octets

A text begins with another just if its octets begin with those of the other, and lowering the octets of ASCII capitals
lowers the characters. So a text can be searched and cut octet by octet without a cut inside a character.
-/

namespace ServiceCatalog.Text.Utf8

/-- An octet, lowered if it is a capital of ASCII. -/
def lowerOctet (b : UInt8) : UInt8 := if 0x41 ≤ b ∧ b ≤ 0x5A then b + 0x20 else b

theorem lowerOctet_of_ge {b : UInt8} (h : 0x80 ≤ b) : lowerOctet b = b := by
  rw [lowerOctet, if_neg]
  rintro ⟨-, hb⟩
  exact absurd (UInt8.le_trans h hb) (by decide)

theorem le_of_mem_encodeChar {c : Char} (h : 0x80 ≤ c.toNat) {b : UInt8} (hb : b ∈ encodeChar c) : 0x80 ≤ b := by
  have hvalid := toNat_lt_or_lt c
  have hoctet {n : Nat} (hlow : 0x80 ≤ n) (hhigh : n < 256) : 0x80 ≤ n.toUInt8 := by
    rw [UInt8.le_iff_toNat_le, toNat_toUInt8 hhigh]
    exact hlow
  unfold encodeChar at hb
  dsimp only at hb
  split_ifs at hb with hone htwo hthree
  · omega
  all_goals
    simp only [List.mem_cons, List.not_mem_nil, or_false] at hb
    rcases hb with rfl | rfl | rfl | rfl <;> exact hoctet (by omega) (by omega)

theorem map_lowerOctet_encodeChar (c : Char) : (encodeChar c).map lowerOctet = encodeChar c.toLower := by
  by_cases hascii : c.toNat < 0x80
  · have hall : ∀ n < 0x80, (encodeChar (Char.ofNat n)).map lowerOctet = encodeChar (Char.ofNat n).toLower := by decide
    simpa using hall c.toNat hascii
  · have hlow : 0x80 ≤ c.toNat := Nat.not_lt.mp hascii
    rw [toLower_of_ge hlow]
    exact (List.map_congr_left fun b hb => lowerOctet_of_ge (le_of_mem_encodeChar hlow hb)).trans (List.map_id _)

/-- The octets of some characters. -/
def octets (cs : List Char) : List UInt8 := cs.flatMap encodeChar

theorem encode_eq_octets (s : String) : encode s = octets s.toList := rfl

theorem octets_append (cs ds : List Char) : octets (cs ++ ds) = octets cs ++ octets ds := List.flatMap_append

theorem map_lowerOctet_octets (cs : List Char) : (octets cs).map lowerOctet = octets (cs.map Char.toLower) := by
  simp only [octets, List.map_flatMap, List.flatMap_map, map_lowerOctet_encodeChar]

/-- A text begins with the characters whose octets stand at its beginning. -/
theorem octets_prefix_iff {cs ds : List Char} : octets cs <+: octets ds ↔ cs <+: ds := by
  constructor
  · rintro ⟨rest, hrest⟩
    -- What is read from the octets begins with what is read from the first of them.
    have hread := strictFrom_flatMap_encodeChar ds []
    rw [List.append_nil] at hread
    change strictFrom none (octets ds) = _ at hread
    rw [← hrest, octets, strictFrom_flatMap_encodeChar, strictFrom, Option.map_some, List.append_nil] at hread
    obtain ⟨back, -, hback⟩ := Option.map_eq_some_iff.mp hread
    exact ⟨back, hback⟩
  · rintro ⟨back, rfl⟩
    exact ⟨octets back, (octets_append cs back).symm⟩

/-- Behind as many octets as another text has, with which a text begins in any letter case, stand those of a text. -/
theorem drop_octets_of_lower {front opening : List Char} (h : front.map Char.toLower = opening) (rest : List Char) :
    (octets (front ++ rest)).drop (octets opening).length = octets rest := by
  have hlength : (octets opening).length = (octets front).length := by
    rw [← h, ← map_lowerOctet_octets, List.length_map]
  rw [octets_append, hlength, List.drop_left]

end ServiceCatalog.Text.Utf8
