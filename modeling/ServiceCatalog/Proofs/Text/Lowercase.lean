import ServiceCatalog.Proofs.Text.Utf8
import ServiceCatalog.Text.Lowercase

/-!
# Lowercasing into ASCII

Of all characters above ASCII only the Kelvin sign is lowered to a letter of ASCII, the k. A dotted capital I leaves its
dot behind. So a text that is lowered to a word of ASCII without a k is that word, but for the case of ASCII letters.
-/

namespace ServiceCatalog.Text

open Utf8

/-- The Kelvin sign by itself, among the runs of characters that are lowered alike. -/
def kelvinRun : Nat × Nat × Nat × Int := (0x212A, 0x212A, 1, -8383)

/-- A run of ASCII letters, that of the Kelvin sign, or one that is lowered to characters above ASCII. -/
private theorem run_cases :
    ∀ r ∈ lowercaseRuns, r.2.1 < 0x80 ∨ r = kelvinRun ∨ 0x80 ≤ (r.1 : Int) + r.2.2.2 := by
  decide +kernel

theorem lowerChar_of_ge {c : Char} (h : 0x80 ≤ c.toNat) :
    c = '\u212A' ∧ lowerChar c = 'k' ∨ isPlain (lowerChar c) = false := by
  unfold lowerChar
  dsimp only
  split
  · exact .inr (by simp [isPlain, h])
  · rename_i r hr
    have hmem : r ∈ lowercaseRuns := List.mem_of_find?_eq_some hr
    have hrange := List.find?_some hr
    simp only [Bool.and_eq_true, decide_eq_true_eq] at hrange
    obtain hascii | rfl | habove := run_cases r hmem
    · omega
    · have hcode : c.toNat = '\u212A'.toNat := Nat.le_antisymm hrange.1.2 hrange.1.1
      obtain rfl : c = '\u212A' := Char.toNat_inj.mp hcode
      exact .inl ⟨rfl, by decide⟩
    · exact .inr (isPlain_ofNat_of_ge (by omega))

variable {before cs : List Char}

theorem lowerAfter_of_ascii (h : ∀ c ∈ cs, c.toNat < 0x80) : lowerAfter before cs = cs.map Char.toLower := by
  induction cs generalizing before with
  | nil => rfl
  | cons c rest ih =>
    have hc : c.toNat < 0x80 := h c List.mem_cons_self
    have hsigma : c ≠ 'Σ' := by
      rintro rfl
      exact absurd hc (by decide)
    have hdotted : c ≠ 'İ' := by
      rintro rfl
      exact absurd hc (by decide)
    have hrest : lowerAfter (c :: before) rest = rest.map Char.toLower :=
      ih fun d hd => h d (List.mem_cons_of_mem _ hd)
    simp only [lowerAfter, if_neg hsigma, if_neg hdotted, if_pos hc, hrest, List.map_cons, List.singleton_append]

/-- What a character above ASCII is lowered to has a part that is not of ASCII, or is a k. -/
theorem exists_mem_lowerAfter {c : Char} (hc : c ∈ cs) (h : 0x80 ≤ c.toNat) :
    ∃ d ∈ lowerAfter before cs, d = 'k' ∨ isPlain d = false := by
  induction cs generalizing before with
  | nil => cases hc
  | cons first rest ih =>
    simp only [lowerAfter, List.mem_append]
    obtain rfl | hrest := List.mem_cons.mp hc
    · split_ifs with hsigma hfinal hdotted hascii
      · exact ⟨'ς', .inl List.mem_cons_self, .inr (by decide)⟩
      · exact ⟨'σ', .inl List.mem_cons_self, .inr (by decide)⟩
      · exact ⟨'\u0307', .inl (List.mem_cons_of_mem _ List.mem_cons_self), .inr (by decide)⟩
      · omega
      · exact ⟨lowerChar c, .inl List.mem_cons_self, (lowerChar_of_ge h).imp_left And.right⟩
    · obtain ⟨d, hd, hcases⟩ : ∃ d ∈ lowerAfter (first :: before) rest, d = 'k' ∨ isPlain d = false := ih hrest
      exact ⟨d, .inr hd, hcases⟩

/-- A text is lowered to a word of ASCII without a k exactly if it is that word in some case of the ASCII letters. -/
theorem lowerChars_eq_iff {word : List Char} (hword : ∀ d ∈ word, isPlain d = true ∧ d ≠ 'k') :
    lowerChars cs = word ↔ cs.map Char.toLower = word := by
  have hascii (h : lowerChars cs = word ∨ cs.map Char.toLower = word) : ∀ c ∈ cs, c.toNat < 0x80 := by
    intro c hc
    refine Nat.not_le.mp fun hge => ?_
    obtain rfl | rfl := h
    · have hlowered : ∃ d ∈ lowerChars cs, d = 'k' ∨ isPlain d = false := exists_mem_lowerAfter hc hge
      obtain ⟨d, hd, rfl | hplain⟩ := hlowered
      · exact (hword _ hd).2 rfl
      · rw [(hword d hd).1] at hplain
        cases hplain
    · have hplain := (hword _ (List.mem_map_of_mem hc)).1
      simp only [toLower_of_ge hge, isPlain, Bool.and_eq_true, decide_eq_true_eq] at hplain
      omega
  constructor
  · intro h
    rw [← h, lowerChars, lowerAfter_of_ascii (hascii (.inl h))]
  · intro h
    rw [← h, lowerChars, lowerAfter_of_ascii (hascii (.inr h))]

end ServiceCatalog.Text
