import ServiceCatalog.Text.AlphanumericTable
import ServiceCatalog.Text.Lowercase

/-!
# Letters and digits

A character is alphanumeric when it is alphabetic or numeric in the Unicode Character Database.
-/

namespace ServiceCatalog.Text

/-- Whether a character is a letter or a digit of any script. -/
def isAlphanumeric (c : Char) : Bool :=
  if c.toNat < 128 then c.isAlphanum else inRanges alphanumericRanges c.toNat

end ServiceCatalog.Text
