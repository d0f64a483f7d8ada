import ServiceCatalog.Decimal.Shortest
import ServiceCatalog.Json.Basic
import ServiceCatalog.Text.Decimal

/-!
# Written JSON

The compact form has no blanks; the spread form has one item or field a line, indented by two columns a level. Only the
quote, the backslash and the control characters are escaped. Both keep fields in the order the value has them in.
-/

namespace ServiceCatalog.Json

open ServiceCatalog.Text ServiceCatalog.Decimal

/-- Numbers have a plus sign before a positive exponent. -/
def floatStyle : FloatStyle := ⟨['+']⟩

/-- A digit of base sixteen. -/
def hexDigit (n : Nat) : Char := Nat.digitChar n

/-- One character as it stands inside a written text. -/
def escapeChar (c : Char) : List Char :=
  if c = '"' then ['\\', '"']
  else if c = '\\' then ['\\', '\\']
  else if c = '\x08' then ['\\', 'b']
  else if c = '\t' then ['\\', 't']
  else if c = '\n' then ['\\', 'n']
  else if c = '\x0c' then ['\\', 'f']
  else if c = '\r' then ['\\', 'r']
  else if c < ' ' then ['\\', 'u', '0', '0', hexDigit (c.toNat / 16), hexDigit (c.toNat % 16)]
  else [c]

/-- A written text. -/
def writeText (s : String) : List Char := '"' :: s.toList.flatMap escapeChar ++ ['"']

/-- A written number. -/
def Number.write : Number → List Char
  | .integer n => signedDigits n
  | .binary x => floatStyle.write x

/-- Texts with a separator between them. -/
def joinWith (separator : List Char) : List (List Char) → List Char
  | [] => []
  | [item] => item
  | item :: rest => item ++ separator ++ joinWith separator rest

mutual

/-- The characters of a value without blanks. -/
def compactChars : Json → List Char
  | .null => "null".toList
  | .bool true => "true".toList
  | .bool false => "false".toList
  | .number n => n.write
  | .string s => writeText s
  | .array items => '[' :: joinWith [','] (compactItems items) ++ [']']
  | .object fields => '\x7b' :: joinWith [','] (compactFields fields) ++ ['\x7d']
  | .unreadable => "null".toList

@[inherit_doc compactChars] def compactItems : List Json → List (List Char)
  | [] => []
  | item :: rest => compactChars item :: compactItems rest

@[inherit_doc compactChars] def compactFields : List Field → List (List Char)
  | [] => []
  | (key, value) :: rest => (writeText key ++ ':' :: compactChars value) :: compactFields rest

end

/-- A value without blanks. -/
def compact (value : Json) : String := String.ofList (compactChars value)

/-- The start of a line at a level of nesting. -/
def newLine (level : Nat) : List Char := '\n' :: List.replicate (2 * level) ' '

/-- A container whose items stand on lines of their own. -/
def spreadOver (level : Nat) (opening closing : Char) (items : List (List Char)) : List Char :=
  if items.isEmpty then [opening, closing]
  else
    opening :: newLine (level + 1) ++ joinWith (',' :: newLine (level + 1)) items ++ newLine level ++ [closing]

mutual

/-- The characters of a value at a level of nesting, one item or field a line. -/
def spreadChars (level : Nat) : Json → List Char
  | .array items => spreadOver level '[' ']' (spreadItems (level + 1) items)
  | .object fields => spreadOver level '\x7b' '\x7d' (spreadFields (level + 1) fields)
  | .null => "null".toList
  | .bool true => "true".toList
  | .bool false => "false".toList
  | .number n => n.write
  | .string s => writeText s
  | .unreadable => "null".toList

@[inherit_doc spreadChars] def spreadItems (level : Nat) : List Json → List (List Char)
  | [] => []
  | item :: rest => spreadChars level item :: spreadItems level rest

@[inherit_doc spreadChars] def spreadFields (level : Nat) : List Field → List (List Char)
  | [] => []
  | (key, value) :: rest => (writeText key ++ ':' :: ' ' :: spreadChars level value) :: spreadFields level rest

end

/-- A value with one item or field a line. -/
def spread (value : Json) : String := String.ofList (spreadChars 0 value)

end ServiceCatalog.Json
