import Mathlib.Tactic.SplitIfs
import ServiceCatalog.Text.Utf8

/-!
# Octets of ASCII texts

A text of ASCII characters is read from their octets and from no others, because more than one octet makes a character
above ASCII.
-/

namespace ServiceCatalog.Text.Utf8

/-- Whatever octets may follow a lead octet, the character they make is above ASCII. If more than one octet follows, two
bits from the first of them are enough. -/
def Lead.AboveAscii (l : Lead) : Prop :=
  0x80 ≤ l.least ∧ (if l.owed ≤ 1 then 0x80 else 2) ≤ l.payload * 64 + (l.least - 0x80)

theorem aboveAscii_of_lead? {b : Nat} {l : Lead} (h : lead? b = some l) : l.AboveAscii := by
  unfold lead? at h
  split_ifs at h <;> obtain rfl := Option.some.inj h <;> simp only [Lead.AboveAscii] <;> split <;> omega

namespace Lead.AboveAscii

variable {l : Lead} {b : Nat}

theorem bits_ge (h : l.AboveAscii) (hb : l.least ≤ b) (howed : l.owed ≤ 1) :
    0x80 ≤ l.payload * 64 + (b - 0x80) := by
  obtain ⟨hleast, hbits⟩ := h
  rw [if_pos howed] at hbits
  omega

theorem next (h : l.AboveAscii) (hb : l.least ≤ b) (howed : ¬ l.owed ≤ 1) :
    Lead.AboveAscii ⟨l.payload * 64 + (b - 0x80), l.owed - 1, 0x80, 0xBF⟩ := by
  obtain ⟨hleast, hbits⟩ := h
  rw [if_neg howed] at hbits
  refine ⟨Nat.le_refl _, ?_⟩
  dsimp only
  split <;> omega

end Lead.AboveAscii

theorem toLower_of_ge {c : Char} (h : 0x80 ≤ c.toNat) : c.toLower = c := by
  unfold Char.toLower
  split
  · rename_i hupper
    have hle : c.toNat ≤ 0x5A := hupper.2
    exact absurd hle (by omega)
  · rfl

/-- Whether letters are alike in either case is a question about ASCII only. -/
theorem toLower_congr_of_ascii {α : Type} {f : Char → α}
    (h : ∀ n < 0x80, f (Char.ofNat n).toLower = f (Char.ofNat n)) (c : Char) : f c.toLower = f c := by
  by_cases hascii : c.toNat < 0x80
  · simpa using h c.toNat hascii
  · rw [toLower_of_ge (Nat.not_lt.mp hascii)]

/-- ASCII without the null character. -/
def isPlain (c : Char) : Bool := 0 < c.toNat && c.toNat < 0x80

/-- A number above ASCII is that of no plain character; one that belongs to no character makes the null character. -/
theorem isPlain_ofNat_of_ge {n : Nat} (h : 0x80 ≤ n) : isPlain (Char.ofNat n) = false := by
  by_cases hvalid : n.isValidChar
  · have hn : (Char.ofNat n).toNat = n := by
      rw [Char.ofNat, dif_pos hvalid]
      rfl
    simp [isPlain, hn, h]
  · rw [Char.ofNat, dif_neg hvalid]
    rfl

theorem toNat_ofNat_of_lt {n : Nat} (h : n < 0x80) : (Char.ofNat n).toNat = n := by
  have hvalid : n.isValidChar := Or.inl (by omega)
  rw [Char.ofNat, dif_pos hvalid]
  rfl

theorem toNat_toUInt8_of_isPlain {c : Char} (h : isPlain c = true) : c.toNat.toUInt8.toNat = c.toNat := by
  simp only [isPlain, Bool.and_eq_true, decide_eq_true_eq] at h
  exact Nat.mod_eq_of_lt (by omega)

/-- Octets that are read as plain characters are one octet for each. -/
theorem octets_of_strictFrom {octets : List UInt8} {pending : Option Lead} {cs : List Char}
    (hpending : ∀ l, pending = some l → l.AboveAscii) (h : strictFrom pending octets = some cs)
    (hcs : ∀ c ∈ cs, isPlain c = true) : pending = none ∧ octets = cs.map fun c => c.toNat.toUInt8 := by
  -- A lead octet in front that is above ASCII stays so with every octet taken in, until a character is made of it.
  induction octets generalizing pending cs with
  | nil =>
    cases pending with
    | none =>
      obtain rfl : [] = cs := by simpa [strictFrom] using h
      exact ⟨rfl, rfl⟩
    | some l => simp [strictFrom] at h
  | cons o rest ih =>
    cases pending with
    | none =>
      simp only [strictFrom] at h
      split_ifs at h with hascii
      · obtain ⟨more, hmore, rfl⟩ := Option.map_eq_some_iff.mp h
        obtain ⟨-, rfl⟩ := ih (by simp) hmore fun c hc => hcs c (List.mem_cons_of_mem _ hc)
        refine ⟨rfl, ?_⟩
        rw [List.map_cons, toNat_ofNat_of_lt hascii]
        simp
      · split at h
        · rename_i l hlead
          cases (ih (fun _ hsame => Option.some.inj hsame ▸ aboveAscii_of_lead? hlead) h hcs).1
        · cases h
    | some l =>
      have habove : l.AboveAscii := hpending l rfl
      simp only [strictFrom] at h
      split_ifs at h with hrange howed
      · obtain ⟨more, -, rfl⟩ := Option.map_eq_some_iff.mp h
        have hplain := hcs _ List.mem_cons_self
        rw [isPlain_ofNat_of_ge (habove.bits_ge hrange.1 howed)] at hplain
        cases hplain
      · cases (ih (fun _ hsame => Option.some.inj hsame ▸ habove.next hrange.1 howed) h hcs).1

theorem strictFrom_octets {cs : List Char} (hcs : ∀ c ∈ cs, isPlain c = true) :
    strictFrom none (cs.map fun c => c.toNat.toUInt8) = some cs := by
  induction cs with
  | nil => rfl
  | cons c cs ih =>
    have hc := hcs c List.mem_cons_self
    have hlt : c.toNat < 0x80 := by simp [isPlain] at hc; exact hc.2
    simp only [List.map_cons, strictFrom, toNat_toUInt8_of_isPlain hc, if_pos hlt,
      ih fun other hother => hcs other (List.mem_cons_of_mem _ hother), Option.map_some, Char.ofNat_toNat]

end ServiceCatalog.Text.Utf8
