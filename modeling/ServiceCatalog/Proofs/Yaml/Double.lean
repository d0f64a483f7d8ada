import Mathlib.Algebra.Group.Nat.Defs
import Mathlib.Tactic.SplitIfs
import ServiceCatalog.Proofs.Text.Digits
import ServiceCatalog.Proofs.Yaml.Reader

/-!
# Texts between double quotes read back
-/

namespace ServiceCatalog.Yaml

open ServiceCatalog.Text

private theorem charOf?_toNat (c : Char) : charOf? c.toNat = some c := by
  have hvalid : c.toNat.isValidChar := c.valid
  simp [charOf?, hvalid]

private theorem doubleFrom?_plain {c : Char} (hquote : c ≠ '"') (hbackslash : c ≠ '\\')
    (hplain : (isPrintable c && !isBreak c) = true) (rest : List Char) :
    doubleFrom? .outside (c :: rest) = (doubleFrom? .outside rest).after [c] := by
  rw [doubleFrom?, if_neg hquote, if_neg hbackslash, if_pos hplain]

private theorem doubleFrom?_letter {letter c : Char} (hwidth : escapeWidth? letter = none)
    (hescaped : escaped? letter = some c) (rest : List Char) :
    doubleFrom? .outside ('\\' :: letter :: rest) = (doubleFrom? .outside rest).after [c] := by
  rw [doubleFrom?, if_neg (by decide), if_pos rfl, doubleFrom?]
  simp [hwidth, hescaped]

/-- Digits are read as their number, and the number as a character. -/
private theorem doubleFrom?_digits (digits rest : List Char) (missing value : Nat)
    (hlength : digits.length = missing + 1) :
    doubleFrom? (.digits (missing + 1) value) (digits ++ rest) =
      (digitsAfter? 16 value digits).bind fun n =>
        (charOf? n).bind fun c => (doubleFrom? .outside rest).after [c] := by
  induction digits generalizing missing value with
  | nil => simp at hlength
  | cons d digits ih =>
    rw [List.cons_append, doubleFrom?, digitsAfter?]
    cases digitIn? 16 d with
    | none => rfl
    | some n =>
      simp only [Option.bind_some]
      cases missing with
      | zero =>
        obtain rfl : digits = [] := by simpa using hlength
        rfl
      | succ missing =>
        rw [if_neg (by omega)]
        exact ih missing _ (by simpa using hlength)

private theorem length_paddedHex {width n : Nat} (hpos : 0 < width) (hn : n < 16 ^ width) :
    (paddedHex width n).length = width := by
  have hdigits := (Nat.length_toDigits_le_iff (by decide) hpos).mpr hn
  simp only [paddedHex, List.length_append, List.length_replicate, List.length_map]
  omega

private theorem digitsAfter?_paddedHex (width n : Nat) : digitsAfter? 16 0 (paddedHex width n) = some n := by
  rw [paddedHex, digitsAfter?_replicate_zero 16 _ (by decide)]
  exact digitsAfter?_map_toDigits (by decide) (fun d hd => digitIn?_toUpper_digitChar hd) n

/-- A character is read back from its code in digits of base sixteen. -/
private theorem doubleFrom?_hex {letter c : Char} {width : Nat} (hwidth : escapeWidth? letter = some (width + 1))
    (hc : c.toNat < 16 ^ (width + 1)) (rest : List Char) :
    doubleFrom? .outside ('\\' :: letter :: paddedHex (width + 1) c.toNat ++ rest) =
      (doubleFrom? .outside rest).after [c] := by
  rw [List.cons_append, doubleFrom?, if_neg (by decide), if_pos rfl, List.cons_append, doubleFrom?, hwidth]
  dsimp only
  rw [doubleFrom?_digits _ rest width 0 (length_paddedHex (by omega) hc), digitsAfter?_paddedHex]
  simp [charOf?_toNat]

/-- A character is read back from the way it stands between double quotes. -/
theorem doubleFrom?_escapeChar (c : Char) (rest : List Char) :
    doubleFrom? .outside (escapeChar c ++ rest) = (doubleFrom? .outside rest).after [c] := by
  have hcode (d : Char) (h : c.toNat = d.toNat) : c = d := Char.toNat_inj.mp h
  unfold escapeChar
  split_ifs with hmark hplain
  · obtain rfl | rfl : c = '"' ∨ c = '\\' := by simpa using hmark
    · exact doubleFrom?_letter rfl rfl rest
    · exact doubleFrom?_letter rfl rfl rest
  · have hne : c ≠ '"' ∧ c ≠ '\\' := by simpa [not_or] using hmark
    exact doubleFrom?_plain hne.1 hne.2 hplain rest
  · dsimp only
    split
    · rw [hcode '\x00' ‹_›]; exact doubleFrom?_letter rfl rfl rest
    · rw [hcode '\x07' ‹_›]; exact doubleFrom?_letter rfl rfl rest
    · rw [hcode '\x08' ‹_›]; exact doubleFrom?_letter rfl rfl rest
    · rw [hcode '\t' ‹_›]; exact doubleFrom?_letter rfl rfl rest
    · rw [hcode '\n' ‹_›]; exact doubleFrom?_letter rfl rfl rest
    · rw [hcode '\x0b' ‹_›]; exact doubleFrom?_letter rfl rfl rest
    · rw [hcode '\x0c' ‹_›]; exact doubleFrom?_letter rfl rfl rest
    · rw [hcode '\r' ‹_›]; exact doubleFrom?_letter rfl rfl rest
    · rw [hcode '\x1b' ‹_›]; exact doubleFrom?_letter rfl rfl rest
    · rw [hcode '\u0085' ‹_›]; exact doubleFrom?_letter rfl rfl rest
    · rw [hcode '\u2028' ‹_›]; exact doubleFrom?_letter rfl rfl rest
    · rw [hcode '\u2029' ‹_›]; exact doubleFrom?_letter rfl rfl rest
    · split_ifs with hx hu
      · exact doubleFrom?_hex rfl (by omega) rest
      · exact doubleFrom?_hex rfl (by omega) rest
      · have hbound : c.toNat < 0x100000000 := c.val.toNat_lt
        exact doubleFrom?_hex rfl hbound rest

/-- A text between double quotes is read up to the closing one. -/
theorem doubleFrom?_flatMap_escapeChar (cs rest : List Char) :
    doubleFrom? .outside (cs.flatMap escapeChar ++ '"' :: rest) = some (cs, rest) := by
  induction cs with
  | nil => rfl
  | cons c cs ih =>
    rw [List.flatMap_cons, List.append_assoc, doubleFrom?_escapeChar, ih]
    rfl

/-- A text written between double quotes on a line of its own is read back. -/
theorem textFrom?_doubleQuoted (column : Nat) (cs next : List Char) :
    textFrom? column (doubleQuoted cs ++ '\n' :: next) = some (cs, next) := by
  have hshape : doubleQuoted cs ++ '\n' :: next = '"' :: (cs.flatMap escapeChar ++ '"' :: '\n' :: next) := by
    simp [doubleQuoted]
  rw [hshape, textFrom?, doubleFrom?_flatMap_escapeChar]
  rfl

end ServiceCatalog.Yaml
