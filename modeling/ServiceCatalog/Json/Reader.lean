import ServiceCatalog.Json.Numeral
import ServiceCatalog.Text.Utf8

/-!
# Reading JSON

A text is a value between blanks. Containers may be nested 127 deep: a deeper one is read and found `unreadable`.
-/

namespace ServiceCatalog.Json

open ServiceCatalog.Text

/-- The blanks between the parts of a JSON text. -/
def isSpace (c : Char) : Bool := c = ' ' || c = '\n' || c = '\t' || c = '\r'

/-- A text without the blanks in front. -/
def skipSpace (cs : List Char) : List Char := cs.dropWhile isSpace

/-- The character that a letter after a backslash stands for. -/
def escaped? : Char → Option Char
  | '"' => some '"'
  | '\\' => some '\\'
  | '/' => some '/'
  | 'b' => some '\x08'
  | 'f' => some '\x0c'
  | 'n' => some '\n'
  | 'r' => some '\r'
  | 't' => some '\t'
  | _ => none

/-- Puts a character in front of a text that may not be readable. -/
def withFirst (c : Char) (r : Option (List Char) × List Char) : Option (List Char) × List Char :=
  (r.1.map (c :: ·), r.2)

/-- Forgets what a text says, as half of a surrogate pair stands in it. -/
def withoutText (r : Option (List Char) × List Char) : Option (List Char) × List Char := (none, r.2)

/-- Reads on in a text up to its closing quote; `high` is the first half of a surrogate pair just read. The result has no
characters if half of a surrogate pair stands alone. -/
def textFrom? (high : Option Nat) : List Char → Option (Option (List Char) × List Char)
  | [] => none
  | '\\' :: 'u' :: a :: b :: c :: d :: rest =>
    (naturalIn? 16 [a, b, c, d]).bind fun unit =>
      if 0xD800 ≤ unit ∧ unit < 0xDC00 then
        (textFrom? (some unit) rest).map fun r => if high.isSome then withoutText r else r
      else if 0xDC00 ≤ unit ∧ unit < 0xE000 then
        (textFrom? none rest).map fun r => match high with
          | some first => withFirst (Char.ofNat (0x10000 + (first - 0xD800) * 1024 + (unit - 0xDC00))) r
          | none => withoutText r
      else
        (textFrom? none rest).map fun r =>
          if high.isSome then withoutText r else withFirst (Char.ofNat unit) r
  | c :: rest =>
    let alone (r : Option (List Char) × List Char) : Option (List Char) × List Char :=
      if high.isSome then withoutText r else r
    if c = '"' then some (alone (some [], rest))
    else if c = '\\' then
      match rest with
      | [] => none
      | e :: rest => (escaped? e).bind fun c => (textFrom? none rest).map fun r => alone (withFirst c r)
    else if c < ' ' then none
    else (textFrom? none rest).map fun r => alone (withFirst c r)

/-- What follows a word, if a text starts with it. -/
def afterWord? : List Char → List Char → Option (List Char)
  | [], cs => some cs
  | w :: word, c :: cs => if w = c then afterWord? word cs else none
  | _ :: _, [] => none

/-- A container, or no value if there is no room left for one. -/
def nested (room : Nat) (value : Json) : Json := if room = 0 then .unreadable else value

mutual

/-- Reads a value at the start of a text, with room for so many containers inside each other. -/
def valueFrom? : Nat → Nat → List Char → Option (Json × List Char)
  | 0, _, _ => none
  | fuel + 1, room, cs =>
    match skipSpace cs with
    | '\x7b' :: rest =>
      match skipSpace rest with
      | '\x7d' :: rest => some (nested room (.object []), rest)
      | rest => (fieldsFrom? fuel (room - 1) rest).map fun r => match r.1 with
        | some fields => (nested room (.object fields), r.2)
        | none => (.unreadable, r.2)
    | '[' :: rest =>
      match skipSpace rest with
      | ']' :: rest => some (nested room (.array []), rest)
      | rest => (itemsFrom? fuel (room - 1) rest).map fun r => (nested room (.array r.1), r.2)
    | '"' :: rest =>
      (textFrom? none rest).map fun r => match r.1 with
        | some s => (.string (String.ofList s), r.2)
        | none => (.unreadable, r.2)
    | 'n' :: rest => (afterWord? "ull".toList rest).map fun r => (.null, r)
    | 't' :: rest => (afterWord? "rue".toList rest).map fun r => (.bool true, r)
    | 'f' :: rest => (afterWord? "alse".toList rest).map fun r => (.bool false, r)
    | rest =>
      (Numeral.parts? rest).map fun r => match Numeral.value? r.1 with
        | some n => (.number n, r.2)
        | none => (.unreadable, r.2)

/-- Reads the items of an array up to its closing bracket. -/
def itemsFrom? : Nat → Nat → List Char → Option (List Json × List Char)
  | 0, _, _ => none
  | fuel + 1, room, cs =>
    (valueFrom? fuel room cs).bind fun item =>
      match skipSpace item.2 with
      | ',' :: rest => (itemsFrom? fuel room rest).map fun r => (item.1 :: r.1, r.2)
      | ']' :: rest => some ([item.1], rest)
      | _ => none

/-- Reads the fields of an object up to its closing brace. The result has no fields if half of a surrogate pair stands in
a key. -/
def fieldsFrom? : Nat → Nat → List Char → Option (Option (List Field) × List Char)
  | 0, _, _ => none
  | fuel + 1, room, cs =>
    match skipSpace cs with
    | '"' :: rest =>
      (textFrom? none rest).bind fun key =>
        match skipSpace key.2 with
        | ':' :: rest =>
          (valueFrom? fuel room rest).bind fun value =>
            let field : Option Field := key.1.map fun k => (String.ofList k, value.1)
            match skipSpace value.2 with
            | ',' :: rest =>
              (fieldsFrom? fuel room rest).map fun r => (field.bind fun f => r.1.map (f :: ·), r.2)
            | '\x7d' :: rest => some (field.map ([·]), rest)
            | _ => none
        | _ => none
    | _ => none

end

/-- How many containers may stand inside each other. -/
def greatestDepth : Nat := 127

/-- The value a text is written for. -/
def read? (text : String) : Option Json :=
  let cs := text.toList
  (valueFrom? (2 * cs.length + 2) greatestDepth cs).bind fun r =>
    if (skipSpace r.2).isEmpty then some r.1 else none

/-- The value that octets are written for, which have to be UTF-8. -/
def readOctets? (octets : List UInt8) : Option Json := (Utf8.strict? octets).bind read?

end ServiceCatalog.Json
