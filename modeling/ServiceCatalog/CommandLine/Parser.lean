import ServiceCatalog.CommandLine.Setting

/-!
# Reading the command line

A setting takes the word after it as its value, or what follows an equals sign. Its value is looked at when the next
option begins or the words end, and so is whether the setting was given before. A word that is no option and no value is
refused. What the words do not give is then taken from the environment.
-/

namespace ServiceCatalog.CommandLine

/-- The options read so far, the names of those given, and the setting under way with its value, if that has come. -/
structure Progress where
  options : Options := {}
  given : List String := []
  pending : Option (Setting × Option String) := none

namespace Progress

/-- Gives a setting its value. -/
def assign (p : Progress) (s : Setting) (value : String) : Except Refusal Progress :=
  if p.given.contains s.name then .error .argumentConflict
  else (s.put value p.options).map fun options => { p with options, given := s.name :: p.given }

/-- Ends the setting under way. -/
def settle (p : Progress) : Except Refusal Progress :=
  match p.pending with
  | none => .ok p
  | some (_, none) => .error .invalidValue
  | some (s, some value) => { p with pending := none }.assign s value

/-- Begins a setting whose value is still to come. -/
def begin (p : Progress) (s : Setting) : Except Refusal Progress :=
  p.settle.map fun p => { p with pending := some (s, none) }

/-- Begins and ends a setting whose value comes in the same word. -/
def attach (p : Progress) (s : Setting) (value : String) : Except Refusal Progress :=
  p.settle.bind fun p => p.assign s value

/-- The greatest number of times that a flag counts. -/
def greatestCount : Nat := 255

/-- Raises a flag. -/
def raise (p : Progress) (f : Flag) : Except Refusal Progress :=
  p.settle.bind fun p =>
    match f.effect with
    | .ends refusal => .error refusal
    | .counts => .ok { p with options := { p.options with verbose := min greatestCount (p.options.verbose + 1) } }
    | .sets change =>
      if p.given.contains f.name then .error .argumentConflict
      else .ok { p with options := change p.options, given := f.name :: p.given }

end Progress

/-- Cuts a word at the first equals sign. -/
def cutAtEquals (cs : List Char) : List Char × Option (List Char) :=
  match cs.dropWhile (· != '=') with
  | [] => (cs, none)
  | _ :: value => (cs.takeWhile (· != '='), some value)

/-- Reads a word behind two dashes. -/
def longOption (p : Progress) (cs : List Char) : Except Refusal Progress :=
  let (cs, value) := cutAtEquals cs
  let name := String.ofList cs
  match settings.find? (·.name == name), flags.find? (·.name == name) with
  | some s, _ =>
    match value with
    | some value => p.attach s (String.ofList value)
    | none => p.begin s
  | none, some f => if value.isSome then .error .tooManyValues else p.raise f
  | none, none => .error .unknownArgument

/-- Reads a word behind one dash: flags, and at the end perhaps a setting with or without its value. -/
def shortOptions (p : Progress) : List Char → Except Refusal Progress
  | [] => .ok p
  | c :: rest =>
    match settings.find? (·.letter == some c), flags.find? (·.letter == some c) with
    | some s, _ =>
      match rest with
      | [] => p.begin s
      | '=' :: value => p.attach s (String.ofList value)
      | value => p.attach s (String.ofList value)
    | none, some f => (p.raise f).bind fun p => shortOptions p rest
    | none, none => .error .unknownArgument

/-- Whether a text is a number without a sign: digits with at most one point, and an exponent. -/
def isNumber (cs : List Char) : Bool :=
  let mantissa := cs.takeWhile (· != 'e')
  let exponent := (cs.dropWhile (· != 'e')).drop 1
  let isMantissa := mantissa.all (fun c => c.isDigit || c = '.') && mantissa.count '.' ≤ 1 && mantissa.head? != some '.'
  isMantissa && (!cs.contains 'e' || (!mantissa.isEmpty && !exponent.isEmpty && exponent.all Char.isDigit))

/-- The setting that waits for its value. -/
def Progress.waiting? (p : Progress) : Option Setting :=
  match p.pending with
  | some (s, none) => some s
  | _ => none

/-- Takes a word as a value, if one is waited for. -/
def plainWord (p : Progress) (word : String) : Except Refusal Progress :=
  match p.waiting? with
  | some s => .ok { p with pending := some (s, some word) }
  | none => .error .unknownArgument

/-- Whether the word behind a dash is the value that is waited for. -/
def isNegativeValue (p : Progress) (cs : List Char) : Bool :=
  (p.waiting?.any (·.mayBeNegative)) && isNumber cs

/-- Reads the words of a command line. After two dashes alone no word is an option any more. -/
def readWords (p : Progress) : List String → Except Refusal Progress
  | [] => p.settle
  | word :: rest =>
    match word.toList with
    | ['-', '-'] => if rest.isEmpty then p.settle else .error .unknownArgument
    | '-' :: '-' :: cs => (longOption p cs).bind fun p => readWords p rest
    | '-' :: c :: cs =>
      if isNegativeValue p (c :: cs) then (plainWord p word).bind fun p => readWords p rest
      else (shortOptions p (c :: cs)).bind fun p => readWords p rest
    | _ => (plainWord p word).bind fun p => readWords p rest

/-- Takes the value of a setting that was not given from its variable. -/
def fromVariable (env : Environment) (p : Progress) (s : Setting) : Except Refusal Progress :=
  match s.variableName.bind env.get? with
  | none => .ok p
  | some value => if p.given.contains s.name then .ok p else p.assign s value

/-- The options of a run. -/
def parse (env : Environment) (words : List String) : Except Refusal Options := do
  let p ← readWords {} words
  let p ← settings.foldlM (fromVariable env) p
  if p.given.contains operationSetting.name then pure p.options else throw .missingRequired

end ServiceCatalog.CommandLine
