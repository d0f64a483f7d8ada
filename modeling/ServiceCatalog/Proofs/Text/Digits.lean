import ServiceCatalog.Text.Decimal

/-!
# Digits read back
-/

namespace ServiceCatalog.Text

theorem digitIn?_digitChar {base d : Nat} (hbase : base ≤ 16) (hd : d < base) :
    digitIn? base (Nat.digitChar d) = some d := by
  have hall : ∀ d < 16, digitIn? 16 (Nat.digitChar d) = some d := by decide
  have hsixteen := hall d (by omega)
  unfold digitIn? at hsixteen ⊢
  rw [Option.filter_eq_some_iff] at hsixteen ⊢
  exact ⟨hsixteen.1, by simpa using hd⟩

/-- The digits beyond nine are read in capitals, too. -/
theorem digitIn?_toUpper_digitChar {d : Nat} (hd : d < 16) : digitIn? 16 (Nat.digitChar d).toUpper = some d := by
  have hall : ∀ d < 16, digitIn? 16 (Nat.digitChar d).toUpper = some d := by decide
  exact hall d hd

theorem digitsAfter?_append (base acc : Nat) (front back : List Char) :
    digitsAfter? base acc (front ++ back) =
      (digitsAfter? base acc front).bind fun n => digitsAfter? base n back := by
  induction front generalizing acc with
  | nil => rfl
  | cons c front ih =>
    simp only [List.cons_append, digitsAfter?]
    cases digitIn? base c with
    | none => rfl
    | some d => exact ih (acc * base + d)

/-- Only digits are read as a number. -/
theorem isSome_digitIn?_of_mem {base acc n : Nat} {cs : List Char} (h : digitsAfter? base acc cs = some n) :
    ∀ c ∈ cs, (digitIn? base c).isSome = true := by
  induction cs generalizing acc with
  | nil => simp
  | cons c cs ih =>
    obtain ⟨d, hd, hrest⟩ := Option.bind_eq_some_iff.mp h
    intro other hother
    obtain rfl | hmem := List.mem_cons.mp hother
    · rw [hd]
      rfl
    · exact ih hrest other hmem

/-- Zeros in front of digits make no difference. -/
theorem digitsAfter?_replicate_zero (base k : Nat) (hbase : 0 < base) (cs : List Char) :
    digitsAfter? base 0 (List.replicate k '0' ++ cs) = digitsAfter? base 0 cs := by
  have hzero : digitIn? base '0' = some 0 := by simp [digitIn?, hbase]
  induction k with
  | zero => rfl
  | succ k ih => simpa [List.replicate_succ, digitsAfter?, hzero] using ih

/-- Digits are read back in any spelling of them that is read digit by digit. -/
theorem digitsAfter?_map_toDigits {base : Nat} (hbase : 1 < base) {spell : Char → Char}
    (hspell : ∀ d < base, digitIn? base (spell (Nat.digitChar d)) = some d) (n : Nat) :
    digitsAfter? base 0 ((Nat.toDigits base n).map spell) = some n := by
  induction n using Nat.strongRecOn with
  | ind n ih =>
    by_cases hlt : n < base
    · simp [Nat.toDigits_of_lt_base hlt, digitsAfter?, hspell n hlt]
    · have hle : base ≤ n := Nat.not_lt.mp hlt
      have hsmaller : n / base < n := Nat.div_lt_self (by omega) hbase
      rw [Nat.toDigits_of_base_le hbase hle, List.map_append, digitsAfter?_append, ih _ hsmaller]
      have hdigit := hspell (n % base) (Nat.mod_lt n (by omega))
      simp only [List.map_cons, List.map_nil, Option.bind_some, digitsAfter?, hdigit]
      rw [Nat.div_add_mod']

theorem natural?_digitsOf (n : Nat) : natural? (digitsOf n) = some n := by
  have hdigits := @digitsAfter?_map_toDigits 10 (by decide) id
    (fun d hd => digitIn?_digitChar (by decide) hd) n
  simpa [natural?, naturalIn?, digitsOf, Nat.toDigits_ne_nil] using hdigits

end ServiceCatalog.Text
