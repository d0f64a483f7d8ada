import ServiceCatalog.Json.Basic
import ServiceCatalog.Text.Blank
import ServiceCatalog.Yaml.Scalar

/-!
# Reading YAML

What a reader finds in a document of block mappings, lists of scalars, and scalars in all four styles. A document with
anything else in it, a comment or an anchor for example, is not read at all. Line ends are those of YAML 1.1, and so is
what becomes of them between quotes.
-/

namespace ServiceCatalog.Yaml

open ServiceCatalog.Text

/-- What is read of a text, and what follows it. -/
abbrev Reading := Option (List Char × List Char)

/-- Puts a text in front of what was read. -/
def Reading.after (front : List Char) (r : Reading) : Reading := r.map fun r => (front ++ r.1, r.2)

@[simp] theorem Reading.after_some (front cs rest : List Char) :
    Reading.after front (some (cs, rest)) = some (front ++ cs, rest) := rfl

/-! ## Double quotes -/

/-- The character that a letter after a backslash stands for. -/
def escaped? : Char → Option Char
  | '0' => some '\x00'
  | 'a' => some '\x07'
  | 'b' => some '\x08'
  | 't' => some '\t'
  | 'n' => some '\n'
  | 'v' => some '\x0b'
  | 'f' => some '\x0c'
  | 'r' => some '\r'
  | 'e' => some '\x1b'
  | ' ' => some ' '
  | '"' => some '"'
  | '/' => some '/'
  | '\\' => some '\\'
  | 'N' => some '\u0085'
  | '_' => some '\u00a0'
  | 'L' => some '\u2028'
  | 'P' => some '\u2029'
  | _ => none

/-- How many digits of base sixteen follow a letter after a backslash. -/
def escapeWidth? : Char → Option Nat
  | 'x' => some 2
  | 'u' => some 4
  | 'U' => some 8
  | _ => none

/-- What of an escape has been read. -/
inductive Escape where
  /-- No escape has begun. -/
  | outside
  | backslash
  /-- Digits that are still to come, and the number of those before them. -/
  | digits (missing : Nat) (value : Nat)

/-- The character with a code. -/
def charOf? (code : Nat) : Option Char := if code.isValidChar then some (Char.ofNat code) else none

/-- Reads on between double quotes. A line end is only read from an escape. -/
def doubleFrom? : Escape → List Char → Reading
  | _, [] => none
  | .outside, c :: rest =>
    if c = '"' then some ([], rest)
    else if c = '\\' then doubleFrom? .backslash rest
    else if isPrintable c && !isBreak c then (doubleFrom? .outside rest).after [c]
    else none
  | .backslash, c :: rest =>
    match escapeWidth? c with
    | some width => doubleFrom? (.digits width 0) rest
    | none => (escaped? c).bind fun c => (doubleFrom? .outside rest).after [c]
  | .digits missing value, c :: rest =>
    (digitIn? 16 c).bind fun d =>
      if missing ≤ 1 then (charOf? (value * 16 + d)).bind fun c => (doubleFrom? .outside rest).after [c]
      else doubleFrom? (.digits (missing - 1) (value * 16 + d)) rest

/-! ## Single quotes -/

/-- What a run of blanks and line ends between quotes stands for. Blanks around a line end do not count, and the first
line end of several does not either, or is read as a blank, unless it is of the kind that is always kept. The run has
to end in a blank then, as the next line has to be indented. -/
def fold? (run : List Char) : Option (List Char) :=
  match run.filter isBreak with
  | [] => some run
  | first :: others =>
    if run.getLast? ≠ some ' ' then none
    else if first ≠ '\n' then some (first :: others)
    else if others.isEmpty then some [' ']
    else some others

/-- Reads on between single quotes behind a run of blanks and line ends. -/
def singleFrom? (run : List Char) : List Char → Reading
  | [] => none
  | '\'' :: '\'' :: rest => (fold? run).bind fun front => (singleFrom? [] rest).after (front ++ ['\''])
  | '\'' :: rest => (fold? run).map fun front => (front, rest)
  | c :: rest =>
    if !isPrintable c then none
    else if c = ' ' || isBreak c then singleFrom? (run ++ [c]) rest
    else (fold? run).bind fun front => (singleFrom? [] rest).after (front ++ [c])

/-! ## Line by line -/

/-- The lines indented by `indent` blanks, without these blanks, and what follows the lines. A line of blanks may have
fewer. The state is how many blanks of a line were passed over, or nothing within a line. -/
def linesFrom (indent : Nat) : Option Nat → List Char → List Char × List Char
  | _, [] => ([], [])
  | none, c :: rest =>
    let r := linesFrom indent (if isBreak c then some 0 else none) rest
    (c :: r.1, r.2)
  | some passed, c :: rest =>
    if isBreak c then
      let r := linesFrom indent (some 0) rest
      (c :: r.1, r.2)
    else if passed = indent then
      let r := linesFrom indent none rest
      (c :: r.1, r.2)
    else if c = ' ' then linesFrom indent (some (passed + 1)) rest
    else ([], List.replicate passed ' ' ++ c :: rest)

/-- How many blanks stand in front of the first line that has more than blanks, or of a longer one before it. The first
`passed` blanks of the line were passed over. -/
def leadingBlanks (passed : Nat) : List Char → Nat
  | [] => passed
  | c :: rest =>
    if c = ' ' then leadingBlanks (passed + 1) rest
    else if isBreak c then max passed (leadingBlanks 0 rest)
    else passed

/-- What becomes of the line ends at the end of lines. -/
inductive Chomping where
  | strip
  /-- The first of them is kept. -/
  | clip
  | keep

/-- Lines without the line ends that do not count. -/
def Chomping.apply (chomping : Chomping) (cs : List Char) : List Char :=
  let body := dropEndWhile isBreak cs
  match chomping with
  | strip => body
  | clip => if body.isEmpty then [] else cs.take (body.length + 1)
  | keep => cs

/-- The number of columns that lines are said to be indented by, if that is said. -/
def indentation? : List Char → Option Nat × List Char
  | c :: rest => match digitIn? 10 c with
    | some n => (some n, rest)
    | none => (none, c :: rest)
  | [] => (none, [])

/-- What is said to become of the line ends at the end. -/
def chomping : List Char → Chomping × List Char
  | '-' :: rest => (.strip, rest)
  | '+' :: rest => (.keep, rest)
  | cs => (.clip, cs)

/-- The indentation of lines in a block at a column, given the number of columns it is said to be. -/
def indentOf (column : Nat) (step : Option Nat) (lines : List Char) : Nat :=
  match step with
  | some n => column + n
  | none => max (column + 1) (leadingBlanks 0 lines)

/-- Reads lines behind the bar in front of them, in a block at a column. -/
def literalFrom? (column : Nat) (cs : List Char) : Reading :=
  let (step, cs) := indentation? cs
  let (chomping, cs) := chomping cs
  match cs with
  | '\n' :: rest =>
    let (text, rest) := linesFrom (indentOf column step rest) (some 0) rest
    if step = some 0 || !text.all isPrintable then none else some (chomping.apply text, rest)
  | _ => none

/-! ## Scalars -/

/-- What follows a line end. -/
def nextLine? : List Char → Option (List Char)
  | [] => some []
  | '\n' :: rest => some rest
  | _ => none

/-- Reads a plain scalar that is a text, and the end of its line. -/
def plainFrom? (cs : List Char) : Reading :=
  let line := cs.takeWhile (· ≠ '\n')
  if line.isEmpty || !allowsPlain line || needsQuotes (String.ofList line) then none
  else (nextLine? (cs.dropWhile (· ≠ '\n'))).map fun rest => (line, rest)

/-- Reads a scalar that is a text and the end of its last line, in a block at a column. -/
def textFrom? (column : Nat) : List Char → Reading
  | '"' :: rest => (doubleFrom? .outside rest).bind fun r => (nextLine? r.2).map fun rest => (r.1, rest)
  | '\'' :: rest => (singleFrom? [] rest).bind fun r => (nextLine? r.2).map fun rest => (r.1, rest)
  | '|' :: rest => literalFrom? column rest
  | cs => plainFrom? cs

/-- Reads a scalar or an empty container and the end of its last line, in a block at a column. -/
def scalarFrom? (column : Nat) : List Char → Option (Json × List Char)
  | '[' :: ']' :: rest => (nextLine? rest).map fun rest => (.array [], rest)
  | '\x7b' :: '\x7d' :: rest => (nextLine? rest).map fun rest => (.object [], rest)
  | cs => (textFrom? column cs).map fun r => (.string (String.ofList r.1), r.2)

/-! ## Blocks -/

/-- What follows blanks up to a column. -/
def atColumn? (column : Nat) (cs : List Char) : Option (List Char) :=
  if (List.replicate column ' ').isPrefixOf cs then some (cs.drop column) else none

/-- Reads the items of a list whose dashes stand at a column. -/
def itemsFrom? (column : Nat) : Nat → List Char → Option (List Json × List Char)
  | 0, _ => none
  | fuel + 1, cs => match atColumn? column cs with
    | some ('-' :: ' ' :: rest) =>
      (scalarFrom? column rest).bind fun item =>
        (itemsFrom? column fuel item.2).map fun r => (item.1 :: r.1, r.2)
    | _ => some ([], cs)

/-- Whether a character can stand in a key. -/
def isKeyChar (c : Char) : Bool := c.isAlphanum || c = '_'

/-- A list of items, which cannot be empty. -/
def list? (items : List Json) : Option Json := if items.isEmpty then none else some (.array items)

/-- A mapping of fields, which cannot be empty and have no key twice. -/
def mapping? (fields : List Json.Field) : Option Json :=
  if fields.isEmpty || !(fields.map Prod.fst).Nodup then none else some (.object fields)

mutual

/-- Reads the value of a key in a mapping at a column. Items of a list may stand below their key. -/
def valueFrom? (column : Nat) : Nat → List Char → Option (Json × List Char)
  | 0, _ => none
  | fuel + 1, cs => match cs with
    | ' ' :: rest => scalarFrom? column rest
    | '\n' :: rest =>
      let inner := (rest.takeWhile (· = ' ')).length
      if column ≤ inner && (rest.drop inner).head? = some '-' then
        (itemsFrom? inner fuel rest).bind fun r => (list? r.1).map fun v => (v, r.2)
      else if column < inner then
        (fieldsFrom? inner fuel rest).bind fun r => (mapping? r.1).map fun v => (v, r.2)
      else none
    | _ => none

/-- Reads the fields of a mapping whose keys stand at a column. -/
def fieldsFrom? (column : Nat) : Nat → List Char → Option (List Json.Field × List Char)
  | 0, _ => none
  | fuel + 1, cs => match atColumn? column cs with
    | none => some ([], cs)
    | some body =>
      let key := String.ofList (body.takeWhile isKeyChar)
      if needsQuotes key then some ([], cs)
      else match body.dropWhile isKeyChar with
        | ':' :: rest =>
          (valueFrom? column fuel rest).bind fun value =>
            (fieldsFrom? column fuel value.2).map fun r => ((key, value.1) :: r.1, r.2)
        | _ => none

end

/-- The mapping that is the whole of a document. -/
def read? (text : String) : Option Json :=
  (fieldsFrom? 0 (2 * text.toList.length + 1) text.toList).bind fun r =>
    if r.2.all fun c => c = ' ' || isBreak c then mapping? r.1 else none

end ServiceCatalog.Yaml
