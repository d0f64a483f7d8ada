import ServiceCatalog.Json.Printer
import ServiceCatalog.Json.Reader
import Mathlib.Tactic.SplitIfs

/-!
# Written texts read back
-/

namespace ServiceCatalog.Json

open ServiceCatalog.Text

/-- Only a backslash in front of a number is read together with more than what follows it. -/
private theorem textFrom?_cons {c : Char} {rest : List Char} (hnumber : c = '\\' → rest.head? ≠ some 'u') :
    textFrom? none (c :: rest) =
      if c = '"' then some (some [], rest)
      else if c = '\\' then
        match rest with
        | [] => none
        | e :: rest => (escaped? e).bind fun c => (textFrom? none rest).map (withFirst c)
      else if c < ' ' then none
      else (textFrom? none rest).map (withFirst c) := by
  rw [textFrom?.eq_def]
  split <;> rename_i heq <;> cases heq
  · exact absurd rfl (hnumber rfl)
  · rfl

private theorem textFrom?_plain {c : Char} (hquote : c ≠ '"') (hbackslash : c ≠ '\\') (hvisible : ¬ c < ' ')
    (rest : List Char) : textFrom? none (c :: rest) = (textFrom? none rest).map (withFirst c) := by
  rw [textFrom?_cons (absurd · hbackslash), if_neg hquote, if_neg hbackslash, if_neg hvisible]

private theorem textFrom?_escaped {letter c : Char} (hletter : letter ≠ 'u') (hescaped : escaped? letter = some c)
    (rest : List Char) : textFrom? none ('\\' :: letter :: rest) = (textFrom? none rest).map (withFirst c) := by
  rw [textFrom?_cons (by simpa using hletter), if_neg (by decide), if_pos rfl]
  simp only [hescaped, Option.bind_some]

/-- A control character is read back from the number of its code. -/
private theorem textFrom?_control {c : Char} (hcontrol : c < ' ') (rest : List Char) :
    textFrom? none ('\\' :: 'u' :: '0' :: '0' :: hexDigit (c.toNat / 16) :: hexDigit (c.toNat % 16) :: rest) =
      (textFrom? none rest).map (withFirst c) := by
  have hall : ∀ n < 32, naturalIn? 16 ['0', '0', hexDigit (n / 16), hexDigit (n % 16)] = some n := by decide
  have hsmall : c.toNat < 32 := hcontrol
  rw [textFrom?, hall c.toNat hsmall]
  simp only [Option.bind_some]
  rw [if_neg (by omega), if_neg (by omega), Char.ofNat_toNat]
  rfl

/-- A character is read back from the way it stands in a written text. -/
theorem textFrom?_escapeChar (c : Char) (rest : List Char) :
    textFrom? none (escapeChar c ++ rest) = (textFrom? none rest).map (withFirst c) := by
  unfold escapeChar
  split_ifs with hquote hbackslash hb ht hn hf hr hcontrol
  · subst hquote; exact textFrom?_escaped (by decide) rfl rest
  · subst hbackslash; exact textFrom?_escaped (by decide) rfl rest
  · subst hb; exact textFrom?_escaped (by decide) rfl rest
  · subst ht; exact textFrom?_escaped (by decide) rfl rest
  · subst hn; exact textFrom?_escaped (by decide) rfl rest
  · subst hf; exact textFrom?_escaped (by decide) rfl rest
  · subst hr; exact textFrom?_escaped (by decide) rfl rest
  · exact textFrom?_control hcontrol rest
  · exact textFrom?_plain hquote hbackslash hcontrol rest

/-- A written text behind its opening quote is read up to its closing quote. -/
theorem textFrom?_flatMap_escapeChar (cs rest : List Char) :
    textFrom? none (cs.flatMap escapeChar ++ '"' :: rest) = some (some cs, rest) := by
  induction cs with
  | nil => rw [List.flatMap_nil, List.nil_append, textFrom?_cons (absurd · (by decide)), if_pos rfl]
  | cons c cs ih =>
    rw [List.flatMap_cons, List.append_assoc, textFrom?_escapeChar, ih]
    rfl

theorem writeText_append (s : String) (rest : List Char) :
    writeText s ++ rest = '"' :: (s.toList.flatMap escapeChar ++ '"' :: rest) := by
  simp [writeText]

end ServiceCatalog.Json
