import ServiceCatalog.Text.Alphanumeric

/-!
# References to variables

A text may refer to variables as `$NAME` and as `${NAME}`, the latter also with a text to use where the variable is not
set, as in `${NAME:-text}`. Two dollar signs stand for one, and a dollar sign that begins no reference stands for itself.
A text is first cut into pieces and these are then replaced, so that values are not searched for references again.
-/

namespace ServiceCatalog.Text.Expansion

/-- A piece of a text with references. -/
inductive Piece where
  /-- A character that stands for itself. -/
  | character (c : Char)
  /-- A reference, as it is written, to a variable, with the text to use where it is not set. -/
  | reference (written : List Char) (name : String) (fallback : Option (List Char))
deriving DecidableEq

/-- Whether a character can stand in a name without braces. -/
def isNameChar (c : Char) : Bool := isAlphanumeric c || c = '_'

/-- Cuts a text behind the first occurrence of a character, which is dropped. -/
def cutAtFirst? (c : Char) : List Char → Option (List Char × List Char)
  | [] => none
  | d :: rest => if d = c then some ([], rest) else (cutAtFirst? c rest).map fun r => (d :: r.1, r.2)

theorem length_of_cutAtFirst? {c : Char} {cs front back : List Char} (h : cutAtFirst? c cs = some (front, back)) :
    back.length < cs.length := by
  induction cs generalizing front with
  | nil => simp [cutAtFirst?] at h
  | cons d rest ih =>
    rw [cutAtFirst?] at h
    split at h
    · cases h; simp
    · obtain ⟨r, hr, he⟩ := Option.map_eq_some_iff.1 h
      cases he
      have := ih hr
      simp only [List.length_cons]
      omega

/-- Cuts a text behind the first colon that a minus sign follows; both are dropped. -/
def cutAtFallback? : List Char → Option (List Char × List Char)
  | ':' :: '-' :: rest => some ([], rest)
  | c :: rest => (cutAtFallback? rest).map fun r => (c :: r.1, r.2)
  | [] => none

/-- The reference with something between braces. A fallback needs a name in front of it. -/
def braced (body : List Char) : Piece :=
  let written := '$' :: '\x7b' :: body ++ ['\x7d']
  match cutAtFallback? body with
  | some (c :: name, fallback) => .reference written (String.ofList (c :: name)) (some fallback)
  | _ => .reference written (String.ofList body) none

/-- The pieces of a text. -/
def pieces : List Char → List Piece
  | [] => []
  | '$' :: '\x7b' :: rest =>
    match h : cutAtFirst? '\x7d' rest with
    | some (body, after) =>
      have := length_of_cutAtFirst? h
      braced body :: pieces after
    | none => .character '$' :: .character '\x7b' :: pieces rest
  | '$' :: '$' :: rest => .character '$' :: pieces rest
  | '$' :: rest =>
    let name := rest.takeWhile isNameChar
    if name.isEmpty then .character '$' :: pieces rest
    else .reference ('$' :: name) (String.ofList name) none :: pieces (rest.dropWhile isNameChar)
  | c :: rest => .character c :: pieces rest
termination_by cs => cs.length
decreasing_by
  all_goals simp only [List.length_cons]
  all_goals first
    | omega
    | have := (List.dropWhile_sublist isNameChar (l := rest)).length_le
      omega

/-- Replaces references; the first variable that is not set and has no fallback is an error. -/
def replaceAll (value? : String → Option String) : List Piece → Except String (List Char)
  | [] => .ok []
  | .character c :: rest => (replaceAll value? rest).map (c :: ·)
  | .reference _ name fallback :: rest =>
    match value? name, fallback with
    | some value, _ => (replaceAll value? rest).map (value.toList ++ ·)
    | none, some text => (replaceAll value? rest).map (text ++ ·)
    | none, none => .error name

/-- Replaces references; one to a variable that is not set and has no fallback stays as it is written. -/
def replaceKnown (value? : String → Option String) : List Piece → List Char
  | [] => []
  | .character c :: rest => c :: replaceKnown value? rest
  | .reference written name fallback :: rest =>
    (match value? name, fallback with
      | some value, _ => value.toList
      | none, some text => text
      | none, none => written) ++ replaceKnown value? rest

/-- A text with the variables it refers to, as far as they are set. -/
def expandKnown (value? : String → Option String) (text : String) : String :=
  String.ofList (replaceKnown value? (pieces text.toList))

/-- Whether a path begins at the home directory. -/
def startsAtHome : List Char → Bool
  | ['~'] => true
  | '~' :: '/' :: _ => true
  | _ => false

/-- A path with the variables it refers to, and with the home directory for a tilde in front. A tilde that comes out of
a variable stays. -/
def expandPath (value? : String → Option String) (home : Option String) (path : String) : Except String String := do
  let expanded ← replaceAll value? (pieces path.toList)
  match home, path.toList with
  | some directory, '~' :: _ =>
    if startsAtHome expanded then pure (directory ++ String.ofList (expanded.drop 1)) else pure (String.ofList expanded)
  | _, _ => pure (String.ofList expanded)

end ServiceCatalog.Text.Expansion
