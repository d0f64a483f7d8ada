import Mathlib.Data.List.DropRight
import ServiceCatalog.Proofs.Text.Utf8
import ServiceCatalog.Text.Blank

/-!
# Trimmed texts

What trimming takes away is blank, and trimming again takes nothing away. A setting therefore reads the same with and
without the blank characters around it.
-/

namespace ServiceCatalog.Text

theorem trimChars_eq_rdropWhile (cs : List Char) : trimChars cs = (cs.dropWhile isBlank).rdropWhile isBlank := rfl

/-- A text is its trimmed form with blank characters around it. -/
theorem exists_blanks_around (cs : List Char) :
    ∃ front back, cs = front ++ trimChars cs ++ back ∧ (∀ c ∈ front, isBlank c = true) ∧
      ∀ c ∈ back, isBlank c = true := by
  refine ⟨cs.takeWhile isBlank, (cs.dropWhile isBlank).rtakeWhile isBlank, ?_, ?_, ?_⟩
  · rw [trimChars_eq_rdropWhile, List.append_assoc, List.rdropWhile, List.rtakeWhile, ← List.reverse_append,
      List.takeWhile_append_dropWhile, List.reverse_reverse, List.takeWhile_append_dropWhile]
  · exact fun c hc => List.mem_takeWhile_imp hc
  · exact fun c hc => List.mem_rtakeWhile_imp hc

/-- Blank characters around a text make no difference. -/
theorem trimChars_around {front back : List Char} (hfront : ∀ c ∈ front, isBlank c = true)
    (hback : ∀ c ∈ back, isBlank c = true) (cs : List Char) : trimChars (front ++ cs ++ back) = trimChars cs := by
  rw [trimChars_eq_rdropWhile, trimChars_eq_rdropWhile, List.append_assoc, List.dropWhile_append_of_pos hfront,
    List.dropWhile_append]
  split
  · rename_i hblank
    rw [List.isEmpty_iff] at hblank
    rw [hblank, List.dropWhile_eq_nil_iff.mpr hback]
  · rw [List.rdropWhile, List.rdropWhile, List.reverse_append, List.dropWhile_append_of_pos (by simpa using hback)]

theorem trimChars_of_head? {cs : List Char} (h : ∀ c, cs.head? = some c → isBlank c = false) :
    trimChars cs = dropEndWhile isBlank cs := by
  have hstart : cs.dropWhile isBlank = cs := by
    cases cs with
    | nil => rfl
    | cons c rest => rw [List.dropWhile_cons_of_neg (by simp [h c rfl])]
  rw [trimChars, trimStart, hstart]

/-- A text behind one that has no blank characters is only trimmed at its end. -/
theorem trimChars_append {front : List Char} (hfront : ∀ c ∈ front, isBlank c = false) (hne : front ≠ [])
    (cs : List Char) : trimChars (front ++ cs) = front ++ dropEndWhile isBlank cs := by
  have hhead : ∀ c, (front ++ cs).head? = some c → isBlank c = false := by
    intro c hc
    rw [List.head?_append_of_ne_nil _ hne] at hc
    exact hfront c (List.mem_of_head? hc)
  have hend : front.reverse.dropWhile isBlank = front.reverse := by
    rw [List.dropWhile_eq_self_iff]
    intro hlength
    simpa using hfront _ (List.mem_reverse.mp (List.getElem_mem hlength))
  rw [trimChars_of_head? hhead, dropEndWhile, dropEndWhile, List.reverse_append, List.dropWhile_append]
  split
  · rename_i hblank
    rw [List.isEmpty_iff] at hblank
    rw [hblank, hend, List.reverse_reverse, List.reverse_nil, List.append_nil]
  · rw [List.reverse_append, List.reverse_reverse]

theorem trimChars_trimChars (cs : List Char) : trimChars (trimChars cs) = trimChars cs := by
  have hstart : (trimChars cs).dropWhile isBlank = trimChars cs := by
    cases hcs : trimChars cs with
    | nil => rfl
    | cons c rest =>
      -- The first character that is left is the first one that is not blank.
      obtain ⟨back, hback⟩ := List.rdropWhile_prefix isBlank (cs.dropWhile isBlank)
      rw [← trimChars_eq_rdropWhile, hcs, List.cons_append] at hback
      have hc := List.head?_dropWhile_not isBlank cs
      rw [← hback, List.head?_cons] at hc
      simp [hc]
  rw [trimChars_eq_rdropWhile, hstart, trimChars_eq_rdropWhile, List.rdropWhile_idempotent]

/-- A text is a word with blank characters around it. -/
def IsPadded (word : List Char) (text : String) : Prop :=
  ∃ front back, text.toList = front ++ word ++ back ∧ (∀ c ∈ front, isBlank c = true) ∧ ∀ c ∈ back, isBlank c = true

theorem trimChars_eq_iff_isPadded {word : List Char} (hword : ∀ c ∈ word, isBlank c = false) {text : String} :
    trimChars text.toList = word ↔ IsPadded word text := by
  constructor
  · rintro rfl
    exact exists_blanks_around text.toList
  · rintro ⟨front, back, htext, hfront, hback⟩
    have htrim : trimChars word = word := by
      by_cases hne : word = []
      · rw [hne]
        rfl
      · have happend := trimChars_append hword hne []
        rwa [List.append_nil, dropEndWhile, List.reverse_nil, List.dropWhile_nil, List.reverse_nil,
          List.append_nil] at happend
    rw [htext, trimChars_around hfront hback, htrim]

theorem isBlank_toLower (c : Char) : isBlank c.toLower = isBlank c :=
  Utf8.toLower_congr_of_ascii (by decide) c

@[simp] theorem trim_trim (s : String) : trim (trim s) = trim s := by
  simp [trim, trimChars_trimChars]

@[simp] theorem isBlankText_trim (s : String) : isBlankText (trim s) = isBlankText s := by
  simp [isBlankText, trim, trimChars_trimChars]

@[simp] theorem given?_map_trim (value : Option String) : given? (value.map trim) = given? value := by
  cases value with
  | none => rfl
  | some s => simp [given?]

end ServiceCatalog.Text
