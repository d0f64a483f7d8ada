import ServiceCatalog.Text.Lowercase
import ServiceCatalog.Text.WidthTable

/-!
# Display width

How many columns of a character grid a text takes. East Asian wide characters take two, marks and characters without
an image none, all others one. An emoji selector widens the character before it to two columns, a text selector narrows
it to one, and a skin tone or a joined pictograph adds nothing to the image it belongs to.
-/

namespace ServiceCatalog.Text

/-- The columns of one character by itself. -/
def charWidth (c : Char) : Nat :=
  let n := c.toNat
  if 0x20 ≤ n ∧ n < 0x7F then 1
  else if inRanges zeroWidthRanges n then 0
  else if inRanges wideRanges n then 2
  else 1

/-- The columns that `c` adds after the character `before`; `joined` says that a joiner ties it to an image. -/
def addedWidth (before : Option Char) (joined : Bool) (c : Char) : Nat :=
  let n := c.toNat
  match before with
  | none => charWidth c
  | some b =>
    if n == 0xFE0F then
      if inRanges emojiVariationRanges b.toNat then 2 - charWidth b else 0
    else if 0x1F3FB ≤ n ∧ n ≤ 0x1F3FF then
      if inRanges skinToneBaseRanges b.toNat then 2 - charWidth b else charWidth c
    else if joined && inRanges pictographRanges n then 0
    else if b = '\r' ∧ c = '\n' then 0
    else charWidth c

/-- Whether a text selector behind a character narrows it to one column; it does not if the character is an ideograph. -/
def canNarrow (c : Char) : Bool :=
  let n := c.toNat
  inRanges emojiVariationRanges n && !(0x3000 ≤ n && n ≤ 0x32FF) && !(0x1F200 ≤ n && n ≤ 0x1F2FF)

/-- The columns of `cs`, read after the characters `before` and the character before that. -/
def widthAfter (before : Option Char) (earlier : Option Char) : List Char → Nat
  | [] => 0
  | c :: rest =>
    let joined := before == some '\u200D' && (earlier.map fun e =>
      inRanges pictographRanges e.toNat || e.toNat == 0xFE0F || (0x1F3FB ≤ e.toNat && e.toNat ≤ 0x1F3FF)).getD false
    let own := if rest.head? == some '\uFE0E' && canNarrow c then 1 else addedWidth before joined c
    own + widthAfter (some c) before rest

/-- The columns a text takes. -/
def displayWidth (cs : List Char) : Nat := widthAfter none none cs

end ServiceCatalog.Text
