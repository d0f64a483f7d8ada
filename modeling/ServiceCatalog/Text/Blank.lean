/-!
# Blank characters

A character is blank when it has the Unicode property White_Space. Trimming drops the blank characters at both ends
of a text; a setting whose trimmed text is empty counts as not given.
-/

namespace ServiceCatalog.Text

/-- The 25 characters with the White_Space property. -/
def isBlank (c : Char) : Bool :=
  let n := c.toNat
  (9 ≤ n && n ≤ 13) || n == 0x20 || n == 0x85 || n == 0xA0 || n == 0x1680 || (0x2000 ≤ n && n ≤ 0x200A) ||
    n == 0x2028 || n == 0x2029 || n == 0x202F || n == 0x205F || n == 0x3000

/-- A character that core calls whitespace is blank. -/
theorem isBlank_of_isWhitespace {c : Char} (h : c.isWhitespace = true) : isBlank c = true := by
  simp only [Char.isWhitespace, Bool.or_eq_true, decide_eq_true_eq] at h
  rcases h with ((rfl | rfl) | rfl) | rfl <;> decide

/-- The characters of a text without the blank ones in front. -/
def trimStart (cs : List Char) : List Char := cs.dropWhile isBlank

/-- The characters of a text without those at the end that satisfy `p`. -/
def dropEndWhile (p : Char → Bool) (cs : List Char) : List Char := (cs.reverse.dropWhile p).reverse

/-- The characters of a text without the blank ones at either end. -/
def trimChars (cs : List Char) : List Char := dropEndWhile isBlank (trimStart cs)

/-- A text without the blank characters at either end. -/
def trim (s : String) : String := String.ofList (trimChars s.toList)

/-- A text is blank when nothing is left of it after trimming. -/
def isBlankText (s : String) : Bool := (trimChars s.toList).isEmpty

/-- The trimmed text of a setting, or nothing when the setting is absent or blank. -/
def given? (value : Option String) : Option String :=
  match value with
  | none => none
  | some s => if isBlankText s then none else some (trim s)

end ServiceCatalog.Text
