import ServiceCatalog.Json.Numeral
import ServiceCatalog.Proofs.Text.Digits

/-!
# Whole numbers read back
-/

namespace ServiceCatalog.Json.Numeral

open ServiceCatalog.Text

theorem isDigit_of_mem_digitsOf {n : Nat} {c : Char} (h : c ∈ digitsOf n) : isDigit c = true := by
  have hdigit := Nat.isDigit_of_mem_toDigits (by decide : 0 < 10) (by decide) h
  simpa [isDigit, Char.isDigit, Char.le_def] using hdigit

private theorem head_digitsOf_ne_zero {n : Nat} (hpos : 0 < n) : (digitsOf n).head? ≠ some '0' := by
  unfold digitsOf
  induction n using Nat.strongRecOn with
  | ind n ih =>
    by_cases hlt : n < 10
    · have hall : ∀ d < 10, 0 < d → (Nat.toDigits 10 d).head? ≠ some '0' := by decide
      exact hall n hlt hpos
    · have hfront := ih (n / 10) (by omega) (by omega)
      rw [Nat.toDigits_of_base_le (by decide) (by omega),
        List.head?_append, Option.or_of_isSome]
      · exact hfront
      · simp [Nat.toDigits_ne_nil]

/-- The digits of a number can stand before the point: they begin with a zero only if there is no other. -/
theorem isWhole_digitsOf (n : Nat) : isWhole (digitsOf n) = true := by
  by_cases hpos : 0 < n
  · have hhead := head_digitsOf_ne_zero hpos
    cases hdigits : digitsOf n with
    | nil => exact absurd hdigits Nat.toDigits_ne_nil
    | cons c rest =>
      rw [hdigits] at hhead
      unfold isWhole
      split <;> simp_all
  · have hzero : n = 0 := by omega
    subst hzero
    decide

/-- Whether a numeral ends where a text begins. -/
def Ends (cs : List Char) : Prop :=
  ∀ c, cs.head? = some c → isDigit c = false ∧ c ≠ '.' ∧ c ≠ 'e' ∧ c ≠ 'E'

private theorem takeWhile_digits {digits rest : List Char} (hdigits : ∀ c ∈ digits, isDigit c = true)
    (hrest : Ends rest) : (digits ++ rest).takeWhile isDigit = digits ∧ (digits ++ rest).dropWhile isDigit = rest := by
  have hends : rest.takeWhile isDigit = [] ∧ rest.dropWhile isDigit = rest := by
    cases rest with
    | nil => exact ⟨rfl, rfl⟩
    | cons c rest => simp [List.takeWhile, List.dropWhile, (hrest c rfl).1]
  rw [List.takeWhile_append_of_pos hdigits, List.dropWhile_append_of_pos hdigits, hends.1, hends.2, List.append_nil]
  exact ⟨rfl, rfl⟩

/-- The parts of a whole number. -/
def wholeParts (n : Int) : Parts := ⟨decide (n < 0), digitsOf n.natAbs, none, none⟩

private theorem digitsOf_append_ne_minus (n : Nat) (rest more : List Char) : digitsOf n ++ rest ≠ '-' :: more := by
  cases hdigits : digitsOf n with
  | nil => exact absurd hdigits Nat.toDigits_ne_nil
  | cons c _ =>
    intro heq
    have hdigit : isDigit c = true := isDigit_of_mem_digitsOf (n := n) (by simp [hdigits])
    rw [(List.cons.inj heq).1] at hdigit
    exact absurd hdigit (by decide)

/-- A whole number in front of a text that does not continue it is read off as its sign and digits. -/
theorem parts?_signedDigits (n : Int) {rest : List Char} (hrest : Ends rest) :
    parts? (signedDigits n ++ rest) = some (wholeParts n, rest) := by
  obtain ⟨htake, hdrop⟩ := takeWhile_digits (fun c hc => isDigit_of_mem_digitsOf (n := n.natAbs) hc) hrest
  have hsign : signedDigits n ++ rest = (if n < 0 then ['-'] else []) ++ (digitsOf n.natAbs ++ rest) := by
    cases n with
    | ofNat k => rfl
    | negSucc k => simp [signedDigits, Int.negSucc_lt_zero]
  rw [hsign]
  unfold parts? wholeParts
  by_cases hneg : n < 0
  · simp only [hneg, if_true, List.singleton_append, htake, hdrop, isWhole_digitsOf]
    cases rest with
    | nil => rfl
    | cons c rest =>
      obtain ⟨-, hpoint, hlower, hupper⟩ := hrest c rfl
      simp [hpoint, hlower, hupper]
  · simp only [hneg, if_false, List.nil_append]
    split
    · exact absurd ‹_› (digitsOf_append_ne_minus _ _ _)
    · simp only [htake, hdrop, isWhole_digitsOf]
      cases rest with
      | nil => rfl
      | cons c rest =>
        obtain ⟨-, hpoint, hlower, hupper⟩ := hrest c rfl
        simp [hpoint, hlower, hupper]

/-- A whole number of 64 bits keeps its value. -/
theorem value?_wholeParts {n : Int} (hmin : minInt64 ≤ n) (hmax : n ≤ maxWord64) :
    value? (wholeParts n) = some (.integer n) := by
  have hnumber : number (digitsOf n.natAbs) = n.natAbs := by simp [number, natural?_digitsOf]
  unfold value? wholeParts
  simp only [hnumber, Option.isSome_none, Bool.or_self, Bool.false_eq_true, if_false, decide_eq_true_eq]
  by_cases hneg : n < 0
  · have habs : ((n.natAbs : Nat) : Int) = -n := by omega
    rw [if_pos hneg, if_neg (by omega), habs, Int.neg_neg]
  · have habs : ((n.natAbs : Nat) : Int) = n := by omega
    rw [if_neg hneg, if_pos (by omega), habs]

end ServiceCatalog.Json.Numeral
