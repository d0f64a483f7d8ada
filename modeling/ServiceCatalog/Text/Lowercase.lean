import ServiceCatalog.Text.LowercaseTable

/-!
# Lowercasing a text

Full Unicode lowercasing without language-specific rules: every character maps by itself, except that a capital sigma
at the end of a word becomes the final form of the small sigma, and a dotted capital I becomes two characters.
-/

namespace ServiceCatalog.Text

/-- Whether a code point lies in one of the ranges. -/
def inRanges (ranges : List (Nat × Nat)) (n : Nat) : Bool :=
  ranges.any fun r => r.1 ≤ n && n ≤ r.2

/-- The simple lowercase mapping of one character. -/
def lowerChar (c : Char) : Char :=
  let n := c.toNat
  match lowercaseRuns.find? fun r => r.1 ≤ n && n ≤ r.2.1 && (n - r.1) % r.2.2.1 == 0 with
  | none => c
  | some r => Char.ofNat ((n : Int) + r.2.2.2).toNat

/-- Whether the first character that is not skipped is cased. -/
def startsCased : List Char → Bool
  | [] => false
  | c :: rest => if inRanges caseIgnorableRanges c.toNat then startsCased rest else inRanges casedRanges c.toNat

/-- Lowercases the characters `rest` of a text, of which `before` is the part already read, last character first. -/
def lowerAfter (before : List Char) : List Char → List Char
  | [] => []
  | c :: rest =>
    let lowered :=
      if c = 'Σ' then [if startsCased before && !startsCased rest then 'ς' else 'σ']
      else if c = 'İ' then ['i', '\u0307']
      else if c.toNat < 128 then [c.toLower]
      else [lowerChar c]
    lowered ++ lowerAfter (c :: before) rest

/-- The characters of a text in lower case. -/
def lowerChars (cs : List Char) : List Char := lowerAfter [] cs

/-- A text in lower case. -/
def lower (s : String) : String := String.ofList (lowerChars s.toList)

end ServiceCatalog.Text
