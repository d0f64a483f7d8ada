/-!
# Diagnostics

What is printed when a run fails: the error, a detail, and tips with commands to try. Colours mark the first word of the
error and of each tip.
-/

namespace ServiceCatalog

/-- Advice with commands to try. -/
structure Diagnostic.Tip where
  text : String
  commands : List String := []
deriving DecidableEq, Repr

/-- An error as it is explained to the user. -/
structure Diagnostic where
  message : String
  detail : Option String := none
  tips : List Diagnostic.Tip := []
deriving DecidableEq, Repr

namespace Diagnostic

/-- Adds a line below the error in place of any other. -/
def withDetail (d : Diagnostic) (text : String) : Diagnostic := { d with detail := some text }

/-- Adds a tip at the end. -/
def withTip (d : Diagnostic) (tip : Tip) : Diagnostic := { d with tips := d.tips ++ [tip] }

/-- How a text is set off on a terminal. -/
inductive Emphasis where
  | boldRed
  | boldYellow
  | bold

/-- The number that turns an emphasis on. -/
def Emphasis.code : Emphasis → String
  | boldRed => "1;31"
  | boldYellow => "1;33"
  | bold => "1"

/-- A text, set off if colours are used. -/
def emphasize (color : Bool) (emphasis : Emphasis) (text : String) : String :=
  if color then "\x1b[" ++ emphasis.code ++ "m" ++ text ++ "\x1b[0m" else text

/-- The word that a part of a diagnostic begins with. -/
def mark (color : Bool) (emphasis : Emphasis) (word : String) : String :=
  emphasize color emphasis word ++ emphasize color .bold ": "

/-- A tip as it is printed. -/
def Tip.print (color : Bool) (tip : Tip) : String :=
  "\n  " ++ mark color .boldYellow "tip" ++ tip.text ++ "\n" ++
    String.join (tip.commands.map fun command => "      " ++ command ++ "\n")

/-- A diagnostic as it is printed. -/
def print (color : Bool) (d : Diagnostic) : String :=
  mark color .boldRed "error" ++ d.message ++ "\n" ++
    (match d.detail with
      | some detail => "  " ++ detail ++ "\n"
      | none => "") ++
    String.join (d.tips.map (Tip.print color))

end Diagnostic

end ServiceCatalog
