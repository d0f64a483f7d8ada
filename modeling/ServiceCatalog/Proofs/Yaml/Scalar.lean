import ServiceCatalog.Proofs.Yaml.Double
import ServiceCatalog.Proofs.Yaml.Literal
import ServiceCatalog.Proofs.Yaml.Single

/-!
# Scalars read back

A text is read back from the form it is written in, whichever that is. The only thing that can go wrong is a further
line end behind it: a text written line by line that ends in an empty line takes that for a line of its own.
-/

namespace ServiceCatalog.Yaml

open ServiceCatalog.Text

/-- A written part with the end of its last line. -/
def closed (part : List Char) : List Char := if endsWith isBreak part then part else part ++ ['\n']

/-- Whether line ends behind the written text would be read as part of it. -/
def takesLineEnds (s : String) : Bool := styleOf false s = .literal && endsInEmptyLine s.toList

/-- Why a text is written the way it is. -/
theorem styleOf_false_cases (s : String) :
    (styleOf false s = .plain ∧ '\n' ∉ s.toList ∧ needsQuotes s = false ∧ allowsPlain s.toList = true) ∨
      (styleOf false s = .singleQuoted ∧ '\n' ∉ s.toList ∧ allowsSingleQuotes s.toList = true) ∨
      styleOf false s = .doubleQuoted ∨ (styleOf false s = .literal ∧ allowsLiteral s.toList = true) := by
  by_cases hline : '\n' ∈ s.toList
  · cases hliteral : allowsLiteral s.toList <;> simp [styleOf, hline, hliteral]
  · cases hquotes : needsQuotes s <;> cases hplain : allowsPlain s.toList <;>
      cases hsingle : allowsSingleQuotes s.toList <;> simp [styleOf, hline, hquotes, hplain, hsingle]

theorem closed_append_eq (part : List Char) (next : List Char) :
    closed part ++ next = part ++ (if endsWith isBreak part then next else '\n' :: next) := by
  unfold closed
  split <;> simp

private theorem endsWith_quoted {c : Char} (hc : isBreak c = false) (front : List Char) :
    endsWith isBreak (front ++ [c]) = false := by
  simp [endsWith, hc]

theorem ne_nil_of_not_needsQuotes {s : String} (hquotes : needsQuotes s = false) : s.toList ≠ [] := by
  intro hnil
  obtain rfl : s = "" := by simpa using hnil
  revert hquotes
  decide

/-- A plain text starts with no character that has a meaning of its own, and ends with no line end. -/
private theorem cons_of_allowsPlain {cs : List Char} (hne : cs ≠ []) (hplain : allowsPlain cs = true) :
    endsWith isBreak cs = false ∧ ∃ c more, cs = c :: more ∧ c ∉ leadingIndicators := by
  simp only [allowsPlain, Bool.not_eq_true', Bool.or_eq_false_iff, List.any_eq_false] at hplain
  obtain ⟨⟨⟨-, hbreak⟩, -⟩, hindicator⟩ := hplain
  refine ⟨endsWith_of_forall fun c hc => by simpa using hbreak c hc, ?_⟩
  obtain ⟨c, more, rfl⟩ := List.exists_cons_of_ne_nil hne
  simp only [hasIndicator, Bool.or_eq_false_iff] at hindicator
  exact ⟨c, more, rfl, by simpa using hindicator.2.1.1⟩

private theorem plainFrom?_append {s : String} (hline : '\n' ∉ s.toList) (hquotes : needsQuotes s = false)
    (hplain : allowsPlain s.toList = true) (next : List Char) :
    plainFrom? (s.toList ++ '\n' :: next) = some (s.toList, next) := by
  have hinner : ∀ c ∈ s.toList, decide (c ≠ '\n') = true := by
    intro c hc
    rw [decide_eq_true_eq]
    rintro rfl
    exact hline hc
  have hne := ne_nil_of_not_needsQuotes hquotes
  unfold plainFrom?
  rw [List.takeWhile_append_of_pos hinner, List.dropWhile_append_of_pos hinner]
  simp [hne, hplain, hquotes, nextLine?, String.ofList_toList]

private theorem textFrom?_of_not_indicator {c : Char} (hc : c ∉ leadingIndicators) (column : Nat) (cs : List Char) :
    textFrom? column (c :: cs) = plainFrom? (c :: cs) := by
  unfold textFrom?
  split
  · exact absurd ((List.cons.inj ‹_›).1 ▸ by decide) hc
  · exact absurd ((List.cons.inj ‹_›).1 ▸ by decide) hc
  · exact absurd ((List.cons.inj ‹_›).1 ▸ by decide) hc
  · rfl

/-- A written text does not start like a container. -/
theorem cons_writeScalar (n : Nat) (s : String) :
    ∃ c more, writeScalar n false s = c :: more ∧ c ≠ '[' ∧ c ≠ '\x7b' := by
  obtain ⟨hstyle, -, hquotes, hplain⟩ | ⟨hstyle, -⟩ | hstyle | ⟨hstyle, -⟩ := styleOf_false_cases s
  · obtain ⟨-, c, more, hcs, hc⟩ := cons_of_allowsPlain (ne_nil_of_not_needsQuotes hquotes) hplain
    refine ⟨c, more, by simp [writeScalar, hstyle, hcs], ?_, ?_⟩
    · rintro rfl
      exact hc (by decide)
    · rintro rfl
      exact hc (by decide)
  · exact ⟨'\'', _, by simp only [writeScalar, hstyle]; rfl, by decide, by decide⟩
  · exact ⟨'"', _, by simp only [writeScalar, hstyle]; rfl, by decide, by decide⟩
  · exact ⟨'|', _, by simp only [writeScalar, hstyle]; rfl, by decide, by decide⟩

/-- A written text is read back. Line ends behind it are read as part of it if it takes them. -/
theorem textFrom?_writeScalar (column : Nat) (s : String) {next more rest : List Char}
    (hnext : linesFrom (column + 2) (lineState true) next = (more, rest)) (hmore : ∀ c ∈ more, c = '\n') :
    textFrom? column (closed (writeScalar (column + 2) false s) ++ next) =
      some (if takesLineEnds s then s.toList ++ more else s.toList,
        if styleOf false s = .literal then rest else next) := by
  rw [closed_append_eq]
  obtain ⟨hstyle, hline, hquotes, hplain⟩ | ⟨hstyle, hline, hsingle⟩ | hstyle | ⟨hstyle, hliteral⟩ :=
    styleOf_false_cases s
  · obtain ⟨hend, c, cs, hcs, hc⟩ := cons_of_allowsPlain (ne_nil_of_not_needsQuotes hquotes) hplain
    have hread := plainFrom?_append hline hquotes hplain next
    simp only [writeScalar, hstyle, takesLineEnds, hend]
    rw [hcs] at hread ⊢
    rw [List.cons_append] at hread ⊢
    simpa [textFrom?_of_not_indicator hc] using hread
  · have hend : endsWith isBreak (singleQuoted (column + 2) s.toList) = false := endsWith_quoted (by decide) _
    have hread := textFrom?_singleQuoted column (by omega : 0 < column + 2) hsingle hline next
    simpa [writeScalar, hstyle, takesLineEnds, hend] using hread
  · have hend : endsWith isBreak (doubleQuoted s.toList) = false := endsWith_quoted (by decide) _
    have hread := textFrom?_doubleQuoted column s.toList next
    simpa [writeScalar, hstyle, takesLineEnds, hend] using hread
  · have hread := textFrom?_literal column hliteral hnext hmore
    simpa [writeScalar, hstyle, takesLineEnds] using hread

end ServiceCatalog.Yaml
