import ServiceCatalog.Proofs.Results
import ServiceCatalog.Toml.Reader

/-!
# The characters of a text in quotes

How a text in quotes is read on, told from the characters that it begins with. Between single quotes there are no
escapes.
-/

namespace ServiceCatalog.Toml

theorem after_eq_ok_iff {c : Char} {next : Except Fault (Rest (List Char))} {s rest : List Char} :
    after c next = .ok (s, rest) ↔ ∃ more, next = .ok (more, rest) ∧ s = c :: more := by
  unfold after
  rw [map_eq_ok_iff]
  constructor
  · rintro ⟨⟨more, rest⟩, hnext, heq⟩
    cases heq
    exact ⟨more, hnext, rfl⟩
  · rintro ⟨more, hnext, rfl⟩
    exact ⟨(more, rest), hnext, rfl⟩

variable {long trimming : Bool} {c : Char} {cs : List Char}

/-- A character that begins neither an escape nor a line end of two characters is read alone, unless it is the first of
three quotes that end a text over several lines. -/
theorem basicText_cons (hescape : c ≠ '\\') (hreturn : c = '\r' → cs.head? ≠ some '\n')
    (hquote : c = '"' → long = true → ∀ tail, cs ≠ '"' :: '"' :: tail) :
    basicText long trimming (c :: cs) =
      if trimming && (isSpace c || c = '\n') then basicText long true cs
      else if c = '"' then if long then after c (basicText long false cs) else .ok ([], cs)
      else if c = '\n' && long then after c (basicText long false cs)
      else if isControl c then fail (c :: cs) "invalid string"
      else after c (basicText long false cs) := by
  rw [basicText.eq_def]
  split <;> rename_i heq <;> cases heq <;> simp_all [isSpace]

/-- A text on one line ends at the first quote. -/
theorem basicText_close (trimming : Bool) (cs : List Char) : basicText false trimming ('"' :: cs) = .ok ([], cs) := by
  rw [basicText_cons (by decide) (absurd · (by decide)) fun _ hlong => absurd hlong Bool.false_ne_true]
  simp [isSpace]

/-- A backslash in front of a letter that no digits follow. -/
theorem basicText_escape (hu : c ≠ 'u') (hU : c ≠ 'U') (hx : c ≠ 'x') :
    basicText long trimming ('\\' :: c :: cs) =
      match escaped? c with
      | some e => after e (basicText long false cs)
      | none =>
        if long && blankToEnd (c :: cs) then basicText long true (c :: cs) else fail cs "invalid escape" := by
  rw [basicText.eq_def]
  split <;> rename_i heq <;> cases heq
  case h_5 => rfl
  all_goals simp_all

theorem basicText_escaped {e : Char} (h : escaped? c = some e) :
    basicText long trimming ('\\' :: c :: cs) = after e (basicText long false cs) := by
  rw [basicText_escape (by rintro rfl; cases h) (by rintro rfl; cases h) (by rintro rfl; cases h), h]

theorem basicText_broken (h : escaped? c = none) (hblank : blankToEnd (c :: cs) = true) :
    basicText true trimming ('\\' :: c :: cs) = basicText true true (c :: cs) := by
  rw [basicText_escape (by rintro rfl; cases hblank) (by rintro rfl; cases hblank) (by rintro rfl; cases hblank), h]
  simp [hblank]

theorem literalText_cons (hreturn : c = '\r' → cs.head? ≠ some '\n')
    (hquote : c = '\'' → long = true → ∀ tail, cs ≠ '\'' :: '\'' :: tail) :
    literalText long (c :: cs) =
      if c = '\'' then if long then after c (literalText long cs) else .ok ([], cs)
      else if c = '\n' && long then after c (literalText long cs)
      else if isControl c then fail (c :: cs) "invalid string"
      else after c (literalText long cs) := by
  rw [literalText.eq_def]
  split <;> rename_i heq <;> cases heq <;> simp_all

theorem literalText_close (cs : List Char) : literalText false ('\'' :: cs) = .ok ([], cs) := by
  rw [literalText_cons (absurd · (by decide)) fun _ hlong => absurd hlong Bool.false_ne_true]
  simp

end ServiceCatalog.Toml
