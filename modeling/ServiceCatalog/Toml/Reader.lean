import ServiceCatalog.Toml.Scalar

/-!
# Reading a configuration file

A text is a list of lines with a field or a header each. Lists and tables in braces may go over several lines, with
comments among their items and a comma after the last.
-/

namespace ServiceCatalog.Toml

open ServiceCatalog.Text

/-- What is read at the start of a text, and what follows it. -/
abbrev Rest (α : Type) := α × List Char

/-- A fault at the start of a text. -/
def fail {α : Type} (cs : List Char) (text : String) : Except Fault α := .error ⟨cs.length, text⟩

/-- Whether a character separates parts of a line. -/
def isSpace (c : Char) : Bool := c = ' ' || c = '\t'

/-- A text without the blanks in front. -/
def skipSpace (cs : List Char) : List Char := cs.dropWhile isSpace

/-- Whether a control character stands where none may. -/
def isControl (c : Char) : Bool := (c.toNat < 0x20 && c != '\t') || c.toNat = 0x7F

/-- A text without the blanks, line ends and comments in front. -/
def skipVoid (inComment : Bool) : List Char → Except Fault (List Char)
  | [] => .ok []
  | '\n' :: rest => skipVoid false rest
  | '\r' :: '\n' :: rest => skipVoid false rest
  | c :: rest =>
    if inComment then
      if isControl c then fail (c :: rest) "invalid comment" else skipVoid true rest
    else if isSpace c then skipVoid false rest
    else if c = '#' then skipVoid true rest
    else .ok (c :: rest)

/-- What follows the end of a line, which may have blanks and a comment in front of it. -/
def endLine (cs : List Char) : Except Fault (List Char) :=
  match skipSpace cs with
  | [] => .ok []
  | '\n' :: rest => .ok rest
  | '\r' :: '\n' :: rest => .ok rest
  | '#' :: rest => skipVoid true rest
  | rest => fail rest "unexpected key or value"

/-- A character given by its number. -/
def scalarChar? (digits : List Char) : Option Char :=
  (naturalIn? 16 digits).bind fun n =>
    if n < 0xD800 ∨ (0xE000 ≤ n ∧ n < 0x110000) then some (Char.ofNat n) else none

/-- The character that a letter after a backslash stands for. -/
def escaped? : Char → Option Char
  | 'b' => some '\x08'
  | 't' => some '\t'
  | 'n' => some '\n'
  | 'f' => some '\x0c'
  | 'r' => some '\r'
  | 'e' => some '\x1b'
  | '"' => some '"'
  | '\\' => some '\\'
  | _ => none

/-- Puts a character in front of what is read next. -/
def after (c : Char) (next : Except Fault (Rest (List Char))) : Except Fault (Rest (List Char)) := next.map fun r => (c :: r.1, r.2)

/-- Whether only blanks stand in front of the next line end. -/
def blankToEnd (cs : List Char) : Bool :=
  match skipSpace cs with
  | '\n' :: _ => true
  | '\r' :: '\n' :: _ => true
  | _ => false

/-- Reads on in a text with escapes up to its closing quotes: one, or three if the text may have line ends. `trimming`
says that blanks and line ends are passed over, as they are behind a backslash at the end of a line. -/
def basicText (long trimming : Bool) : List Char → Except Fault (Rest (List Char))
  | [] => fail [] "invalid string"
  | '\\' :: 'u' :: a :: b :: c :: d :: rest =>
    match scalarChar? [a, b, c, d] with
    | some e => after e (basicText long false rest)
    | none => fail rest "invalid escape"
  | '\\' :: 'U' :: a :: b :: c :: d :: e :: f :: g :: h :: rest =>
    match scalarChar? [a, b, c, d, e, f, g, h] with
    | some e => after e (basicText long false rest)
    | none => fail rest "invalid escape"
  | '\\' :: 'x' :: a :: b :: rest =>
    match scalarChar? [a, b] with
    | some e => after e (basicText long false rest)
    | none => fail rest "invalid escape"
  | '\\' :: c :: rest =>
    match escaped? c with
    | some e => after e (basicText long false rest)
    | none => if long && blankToEnd (c :: rest) then basicText long true (c :: rest) else fail rest "invalid escape"
  | '"' :: '"' :: '"' :: '"' :: '"' :: rest =>
    if long then .ok (['"', '"'], rest) else .ok ([], '"' :: '"' :: '"' :: '"' :: rest)
  | '"' :: '"' :: '"' :: '"' :: rest => if long then .ok (['"'], rest) else .ok ([], '"' :: '"' :: '"' :: rest)
  | '"' :: '"' :: '"' :: rest => if long then .ok ([], rest) else .ok ([], '"' :: '"' :: rest)
  | '\r' :: '\n' :: rest =>
    if !long then fail rest "invalid string"
    else if trimming then basicText long true rest
    else after '\r' (after '\n' (basicText long false rest))
  | c :: rest =>
    if trimming && (isSpace c || c = '\n') then basicText long true rest
    else if c = '"' then if long then after c (basicText long false rest) else .ok ([], rest)
    else if c = '\n' && long then after c (basicText long false rest)
    else if c = '\\' || isControl c then fail (c :: rest) "invalid string"
    else after c (basicText long false rest)

/-- Reads on in a text without escapes up to its closing quotes. -/
def literalText (long : Bool) : List Char → Except Fault (Rest (List Char))
  | [] => fail [] "invalid string"
  | '\'' :: '\'' :: '\'' :: '\'' :: '\'' :: rest =>
    if long then .ok (['\'', '\''], rest) else .ok ([], '\'' :: '\'' :: '\'' :: '\'' :: rest)
  | '\'' :: '\'' :: '\'' :: '\'' :: rest =>
    if long then .ok (['\''], rest) else .ok ([], '\'' :: '\'' :: '\'' :: rest)
  | '\'' :: '\'' :: '\'' :: rest => if long then .ok ([], rest) else .ok ([], '\'' :: '\'' :: rest)
  | '\r' :: '\n' :: rest =>
    if long then after '\r' (after '\n' (literalText long rest)) else fail rest "invalid string"
  | c :: rest =>
    if c = '\'' then if long then after c (literalText long rest) else .ok ([], rest)
    else if c = '\n' && long then after c (literalText long rest)
    else if isControl c then fail (c :: rest) "invalid string"
    else after c (literalText long rest)

/-- A text without a line end in front. -/
def skipLineEnd : List Char → List Char
  | '\n' :: rest => rest
  | '\r' :: '\n' :: rest => rest
  | cs => cs

/-- Reads a quoted text. -/
def quotedText? : List Char → Option (Except Fault (Rest (List Char)))
  | '"' :: '"' :: '"' :: rest => some (basicText true false (skipLineEnd rest))
  | '"' :: rest => some (basicText false false rest)
  | '\'' :: '\'' :: '\'' :: rest => some (literalText true (skipLineEnd rest))
  | '\'' :: rest => some (literalText false rest)
  | _ => none

/-- Whether a character can stand in a key without quotes. -/
def isKeyChar (c : Char) : Bool := c.isAlphanum || c = '_' || c = '-'

/-- Reads one part of a key. -/
def simpleKey (cs : List Char) : Except Fault (Rest Key) :=
  match cs with
  | '"' :: rest => (basicText false false rest).map fun r => (⟨cs.length, String.ofList r.1⟩, r.2)
  | '\'' :: rest => (literalText false rest).map fun r => (⟨cs.length, String.ofList r.1⟩, r.2)
  | _ =>
    let name := cs.takeWhile isKeyChar
    if name.isEmpty then fail cs "invalid key" else .ok (⟨cs.length, String.ofList name⟩, cs.dropWhile isKeyChar)

/-- Reads a key: parts with dots between them. The last part comes separately. -/
def dottedKey (fuel : Nat) (cs : List Char) : Except Fault (Rest (List Key × Key)) :=
  match fuel with
  | 0 => fail cs "invalid key"
  | fuel + 1 => do
    let (key, rest) ← simpleKey (skipSpace cs)
    match skipSpace rest with
    | '.' :: rest => do
      let ((path, last), rest) ← dottedKey fuel rest
      pure ((key :: path, last), rest)
    | rest => pure (([], key), rest)

/-- Whether a character can stand in an unquoted value. -/
def isScalarChar (c : Char) : Bool := c.isAlphanum || c = '_' || c = '-' || c = '+' || c = '.' || c = ':'

/-- The unquoted value at the start of a text, and what follows it. A single blank may stand between date and time. -/
def scalarText (cs : List Char) : List Char × List Char :=
  let first := cs.takeWhile isScalarChar
  match afterDate? first, cs.dropWhile isScalarChar with
  | some [], ' ' :: c :: rest =>
    if c.isDigit then (first ++ ' ' :: (c :: rest).takeWhile isScalarChar, (c :: rest).dropWhile isScalarChar)
    else (first, ' ' :: c :: rest)
  | _, rest => (first, rest)

/-- How deep lists and tables in braces may be nested. -/
def greatestDepth : Nat := 80

mutual

/-- Reads a value, with room for so many lists and tables inside each other. -/
def value : Nat → Nat → List Char → Except Fault (Rest Value)
  | 0, _, cs => fail cs "invalid value"
  | fuel + 1, room, cs =>
    match quotedText? cs with
    | some result => result.map fun r => (.text cs.length (String.ofList r.1), r.2)
    | none =>
      match cs, room with
      | '[' :: _, 0 => fail cs "nested too deep"
      | '\x7b' :: _, 0 => fail cs "nested too deep"
      | '[' :: rest, room + 1 => do
        let (items, rest) ← items fuel room rest
        pure (.array cs.length false items, rest)
      | '\x7b' :: rest, room + 1 => do
        let (fields, rest) ← inlineFields fuel room [] rest
        pure (.table cs.length .inline fields, rest)
      | _, _ =>
        let (text, rest) := scalarText cs
        match scalar? cs.length text with
        | some v => .ok (v, rest)
        | none => fail cs "invalid value"

/-- Reads the items of a list up to its closing bracket. -/
def items : Nat → Nat → List Char → Except Fault (Rest (List Value))
  | 0, _, cs => fail cs "invalid array"
  | fuel + 1, room, cs => do
    match ← skipVoid false cs with
    | ']' :: rest => pure ([], rest)
    | rest => do
      let (item, rest) ← value fuel room rest
      match ← skipVoid false rest with
      | ',' :: rest => do
        let (more, rest) ← items fuel room rest
        pure (item :: more, rest)
      | ']' :: rest => pure ([item], rest)
      | rest => fail rest "unclosed array"

/-- Reads the fields of a table in braces up to its closing brace, after those already read. -/
def inlineFields : Nat → Nat → Fields → List Char → Except Fault (Rest Fields)
  | 0, _, _, cs => fail cs "invalid inline table"
  | fuel + 1, room, fields, cs => do
    match ← skipVoid false cs with
    | '\x7d' :: rest => pure (fields, rest)
    | rest => do
      let ((path, key), rest) ← dottedKey fuel rest
      match rest with
      | '=' :: rest => do
        let (v, rest) ← value fuel room (skipSpace rest)
        let fields ← addField path key v fields
        match ← skipVoid false rest with
        | ',' :: rest => inlineFields fuel room fields rest
        | '\x7d' :: rest => pure (fields, rest)
        | rest => fail rest "unclosed inline table"
      | rest => fail rest "missing value"

end

/-- A file as far as it is read: its fields, and the keys that lead to the table of the last header. -/
structure Document where
  fields : Fields := []
  header : List Key := []

/-- Adds a field to the table of the last header. -/
def Document.add (d : Document) (path : List Key) (key : Key) (v : Value) : Except Fault Document := do
  let fields ← changeAt false .header d.fields (fun _ inner => addField path key v inner) d.header
  pure { d with fields }

/-- Reads a line with a field. -/
def fieldLine (fuel : Nat) (d : Document) (cs : List Char) : Except Fault (Rest Document) := do
  let ((path, key), rest) ← dottedKey fuel cs
  match rest with
  | '=' :: rest => do
    let (v, rest) ← value fuel greatestDepth (skipSpace rest)
    let rest ← endLine rest
    pure (← d.add path key v, rest)
  | rest => fail rest "missing value"

/-- Reads a line with a header behind its opening bracket. -/
def headerLine (fuel : Nat) (d : Document) (cs : List Char) : Except Fault (Rest Document) := do
  let ((path, key), rest) ← dottedKey fuel cs
  match rest with
  | ']' :: rest => do
    let rest ← endLine rest
    pure (⟨← addTable path key d.fields, path ++ [key]⟩, rest)
  | rest => fail rest "unclosed table"

/-- Reads a line with a header behind its opening double bracket. -/
def listHeaderLine (fuel : Nat) (d : Document) (cs : List Char) : Except Fault (Rest Document) := do
  let ((path, key), rest) ← dottedKey fuel cs
  match rest with
  | ']' :: ']' :: rest => do
    let rest ← endLine rest
    pure (⟨← addTableToList path key d.fields, path ++ [key]⟩, rest)
  | rest => fail rest "unclosed array table"

/-- Reads the lines of a file. -/
def document (fuel : Nat) (d : Document) (cs : List Char) : Except Fault Fields :=
  match fuel with
  | 0 => fail cs "unexpected content"
  | next + 1 => do
    match ← skipVoid false cs with
    | [] => pure d.fields
    | '[' :: '[' :: rest => do
      let (d, rest) ← listHeaderLine fuel d rest
      document next d rest
    | '[' :: rest => do
      let (d, rest) ← headerLine fuel d rest
      document next d rest
    | rest => do
      let (d, rest) ← fieldLine fuel d rest
      document next d rest

/-- The characters of a text without the mark that may stand in front. -/
def withoutMark (text : String) : List Char :=
  match text.toList with
  | '\uFEFF' :: rest => rest
  | cs => cs

/-- The fields of a configuration file. -/
def parse (text : String) : Except Fault Fields :=
  let cs := withoutMark text
  document (2 * cs.length + 2) {} cs

end ServiceCatalog.Toml
