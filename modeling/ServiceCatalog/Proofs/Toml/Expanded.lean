import ServiceCatalog.Proofs.Toml.Filled
import ServiceCatalog.Proofs.Toml.Grammar

/-!
# Files with references

A file may refer to variables in texts of the form `"${NAME}"`. When nothing but plain characters are put in for such
references, the file is read as before, with the values of the variables as the texts that referred to them.
-/

namespace ServiceCatalog.Toml

open ServiceCatalog.Text

/-- A text and the one that comes out of it when the values of a filling are put in for the references in it. -/
inductive Expanded (filling : Nat → Option String) : List Char → List Char → Prop
  | nil : Expanded filling [] []
  | char {c : Char} {cs cs' : List Char} : c ≠ '$' → (cs.head? = some '$' → c = '"') →
    (cs.head? ≠ some '$' → filling (cs.length + 1) = none) → Expanded filling cs cs' →
    Expanded filling (c :: cs) (c :: cs')
  | reference {name cs cs' : List Char} {value : String} :
    filling (('\x7b' :: (name ++ '\x7d' :: '"' :: cs)).length + 2) = some value →
    (∀ c ∈ name, isPlain c = true ∧ c ≠ '$') → (∀ c ∈ value.toList, isPlain c = true) →
    Expanded filling ('"' :: cs) ('"' :: cs') →
    Expanded filling ('$' :: '\x7b' :: (name ++ '\x7d' :: '"' :: cs)) (value.toList ++ '"' :: cs')

/-- Every dollar sign between two texts is at a place that has a property. The place is that of the quote in front. -/
def Dollars (P : Nat → Prop) (cs rest : List Char) : Prop :=
  ∀ tail, '$' :: tail <:+ cs → rest.length < tail.length + 2 → P (tail.length + 2)

theorem Dollars.mono {P Q : Nat → Prop} {cs cs₂ rest rest₂ : List Char} (h : Dollars P cs rest) (hcs : cs₂ <:+ cs)
    (hrest : rest.length ≤ rest₂.length)
    (himp : ∀ place, P place → rest₂.length < place → place ≤ cs₂.length + 1 → Q place) : Dollars Q cs₂ rest₂ := by
  intro tail htail hlength
  have htailLength := htail.length_le
  rw [List.length_cons] at htailLength
  exact himp _ (h tail (htail.trans hcs) (by omega)) hlength (by omega)

/-- No dollar sign is between two texts if the places that it could be at are not between them. -/
theorem Dollars.quiet {P : Nat → Prop} {cs cs₂ rest rest₂ : List Char} (h : Dollars P cs rest) (hcs : cs₂ <:+ cs)
    (hrest : rest.length ≤ rest₂.length)
    (hplaces : ∀ place, P place → place ≤ rest₂.length ∨ cs₂.length + 1 < place) : Dollars (fun _ => False) cs₂ rest₂ :=
  h.mono hcs hrest fun place hP hlow hhigh => (hplaces place hP).elim (Nat.not_le_of_lt hlow) (Nat.not_lt_of_le hhigh)

theorem suffix_of_suffix_append {c : Char} {front tail rest : List Char} (h : c :: tail <:+ front ++ rest)
    (hfront : c ∉ front) : c :: tail <:+ rest := by
  induction front with
  | nil => exact h
  | cons d front ih =>
    obtain ⟨hd, hfront⟩ := not_or.mp (mt List.mem_cons.mpr hfront)
    obtain heq | h := List.suffix_cons_iff.mp h
    · cases heq
      exact absurd rfl hd
    · exact ih h hfront

namespace Expanded

variable {filling : Nat → Option String} {cs cs' rest : List Char}

theorem tail {c : Char} (h : Expanded filling (c :: cs) cs') (hc : c ≠ '$') :
    ∃ tail, cs' = c :: tail ∧ Expanded filling cs tail := by
  cases h with
  | char _ _ _ h => exact ⟨_, rfl, h⟩
  | reference => exact absurd rfl hc

theorem head?_eq (h : Expanded filling cs cs') (hhead : cs.head? ≠ some '$') : cs'.head? = cs.head? := by
  cases h with
  | nil => rfl
  | char => rfl
  | reference => exact absurd rfl hhead

theorem alike (h : Expanded filling cs cs') (hhead : cs.head? ≠ some '$') : Alike cs cs' := by
  cases h with
  | nil => exact .nil
  | @char c cs cs' _ hdollar _ htail =>
    by_cases hquote : c = '"'
    · subst hquote
      exact .quote
    · exact .cons (htail.head?_eq fun h => hquote (hdollar h)).symm
  | reference => exact absurd rfl hhead

/-- Every dollar sign begins a reference. -/
theorem filling_of_dollar {tail : List Char} (h : Expanded filling cs cs') (htail : '$' :: tail <:+ cs) :
    ∃ value, filling (tail.length + 2) = some value := by
  induction h with
  | nil => simp at htail
  | char hc _ _ _ ih =>
    obtain heq | htail := List.suffix_cons_iff.mp htail
    · cases heq
      exact absurd rfl hc
    · exact ih htail
  | @reference name cs cs' value hvalue hname _ _ ih =>
    obtain heq | htail := List.suffix_cons_iff.mp htail
    · cases heq
      exact ⟨value, hvalue⟩
    · have hfront : '$' ∉ '\x7b' :: (name ++ ['\x7d']) := by
        simpa using fun hdollar => (hname '$' hdollar).2 rfl
      have hsplit : '\x7b' :: (name ++ '\x7d' :: '"' :: cs) = '\x7b' :: (name ++ ['\x7d']) ++ '"' :: cs := by simp
      rw [hsplit] at htail
      exact ih (suffix_of_suffix_append htail hfront)

/-- What stands where a text begins that the filling names. -/
theorem reference_of_filling {value : String} (h : Expanded filling cs cs') (hhead : cs.head? ≠ some '$')
    (hnone : cs ≠ []) (hvalue : filling cs.length = some value) :
    ∃ name tail tail', cs = '"' :: '$' :: '\x7b' :: (name ++ '\x7d' :: '"' :: tail) ∧
      cs' = '"' :: (value.toList ++ '"' :: tail') ∧ (∀ c ∈ name, isPlain c = true) ∧
      (∀ c ∈ value.toList, isPlain c = true) ∧ Expanded filling tail tail' := by
  cases h with
  | nil => exact absurd rfl hnone
  | reference => exact absurd rfl hhead
  | @char c cs cs' _ hquote hempty h =>
    by_cases hdollar : cs.head? = some '$'
    · obtain rfl := hquote hdollar
      cases h with
      | nil => cases hdollar
      | char hc =>
        cases hdollar
        exact absurd rfl hc
      | @reference name tail tail' _ hvalue' hname hplain h =>
        obtain ⟨_, heq, htail⟩ := h.tail (by decide)
        cases heq
        obtain rfl := Option.some.inj (hvalue'.symm.trans hvalue)
        exact ⟨name, tail, tail', rfl, rfl, fun c hc => (hname c hc).1, hplain, htail⟩
    · rw [List.length_cons, hempty hdollar] at hvalue
      cases hvalue

/-- Where no reference is, a reader passes from one text to the next as before. -/
theorem passes {P : List Char → List Char → Prop} (h : Expanded filling cs cs') (hpasses : Passes P cs rest)
    (hquiet : Dollars (fun _ => False) cs rest) :
    ∃ rest', P cs' rest' ∧ Expanded filling rest rest' ∧ rest'.head? = rest.head? := by
  obtain ⟨front, rfl, hfront⟩ := hpasses
  suffices hsplit : ∃ rest', cs' = front ++ rest' ∧ Expanded filling rest rest' by
    obtain ⟨rest', rfl, hrest⟩ := hsplit
    have hhead : rest.head? ≠ some '$' := by
      intro hdollar
      obtain ⟨tail, rfl⟩ := List.head?_eq_some_iff.mp hdollar
      exact hquiet tail (List.suffix_append _ _) (by simp)
    exact ⟨rest', hfront rest' (hrest.alike hhead), hrest, hrest.head?_eq hhead⟩
  clear hfront
  induction front generalizing cs' with
  | nil => exact ⟨cs', rfl, h⟩
  | cons c front ih =>
    have hc : c ≠ '$' := by
      rintro rfl
      exact hquiet (front ++ rest) (List.suffix_refl _) (by rw [List.length_append]; omega)
    obtain ⟨tail, rfl, htail⟩ := h.tail hc
    obtain ⟨rest', rfl, hrest⟩ := ih htail fun tail htail => hquiet tail (htail.trans (List.suffix_cons _ _))
    exact ⟨rest', rfl, hrest⟩

end Expanded

end ServiceCatalog.Toml
