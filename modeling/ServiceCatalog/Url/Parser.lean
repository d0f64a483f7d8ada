import ServiceCatalog.Url.Host

/-!
# Reading a web address

Tabs and line ends count for nothing wherever they stand, and any number of slashes or backslashes follow the scheme.
The part in front of the last at sign before the path is the account, then come host and port, and the rest is path,
query and fragment. Segments of one dot are dropped, and segments of two dots drop the segment before them.
-/

namespace ServiceCatalog.Url

open ServiceCatalog.Text

/-- Whether a character separates segments of a path. -/
def isSlash (c : Char) : Bool := c = '/' || c = '\\'

/-- Whether a character ends the part of an address that names the host. -/
def endsAuthority (c : Char) : Bool := isSlash c || c = '?' || c = '#'

/-- The characters of an address that count. -/
def withoutLineEnds (cs : List Char) : List Char := cs.filter fun c => c != '\t' && c != '\n' && c != '\r'

/-- Cuts a text behind the last occurrence of a character, which is dropped. -/
def cutAtLast (separator : Char) : List Char → Option (List Char × List Char)
  | [] => none
  | c :: rest =>
    match cutAtLast separator rest with
    | some (front, back) => some (c :: front, back)
    | none => if c = separator then some ([], rest) else none

/-- The written user and password of an account. An empty password is as good as none. -/
def account (cs : List Char) : String × Option String :=
  let user := cs.takeWhile (· != ':')
  let password := (cs.dropWhile (· != ':')).drop 1
  (String.ofList (Percent.encode Percent.userInfo user),
    if password.isEmpty then none else some (String.ofList (Percent.encode Percent.userInfo password)))

/-- Cuts a text in front of the colon after the host. Colons in brackets belong to the host. -/
def cutHost (inBrackets : Bool) : List Char → List Char × List Char
  | [] => ([], [])
  | c :: rest =>
    if c = ':' ∧ !inBrackets then ([], c :: rest)
    else
      let r := cutHost (if c = '[' then true else if c = ']' then false else inBrackets) rest
      (c :: r.1, r.2)

/-- Reads a port behind its colon. The port of the scheme is as good as none. -/
def readPort (scheme : Scheme) (cs : List Char) : Except Url.Error (Option UInt16) :=
  match cs with
  | [] => .ok none
  | _ =>
    match natural? cs with
    | none => .error .invalidPort
    | some n =>
      if 65535 < n then .error .invalidPort
      else if n = scheme.defaultPort then .ok none
      else .ok (some n.toUInt16)

/-- Whether a segment stands for the place where it is. -/
def isSingleDot (segment : List Char) : Bool :=
  ["." , "%2e"].contains (String.ofList (segment.map Char.toLower))

/-- Whether a segment stands for the place above. -/
def isDoubleDot (segment : List Char) : Bool :=
  ["..", ".%2e", "%2e.", "%2e%2e"].contains (String.ofList (segment.map Char.toLower))

/-- Whether a segment is a letter with a colon or a bar, which two dots do not drop. -/
def isDrive : List Char → Bool
  | [c, mark] => c.isAlpha && (mark = ':' || mark = '|')
  | _ => false

/-- The segments of a path without the last one. -/
def dropSegment (segments : List (List Char)) : List (List Char) :=
  if (segments.getLast?.map isDrive).getD false then segments else segments.dropLast

/-- Follows segments from a place in the tree of paths. The last segment is empty if the path leads to a place. -/
def walk (place : List (List Char)) : List (List Char) → List (List Char)
  | [] => place ++ [[]]
  | [segment] =>
    if isDoubleDot segment then dropSegment place ++ [[]]
    else if isSingleDot segment then place ++ [[]]
    else place ++ [segment]
  | segment :: rest =>
    if isDoubleDot segment then walk (dropSegment place) rest
    else if isSingleDot segment then walk place rest
    else walk (place ++ [segment]) rest

/-- The segments of a written path. -/
def segments (cs : List Char) : List String :=
  let body := match cs with
    | c :: rest => if isSlash c then rest else c :: rest
    | [] => []
  let parts := Host.cutAt '/' (body.map fun c => if c = '\\' then '/' else c)
  (walk [] (parts.map (Percent.encode Percent.path))).map String.ofList

/-- Query and fragment, each with the sign in front of it still there. -/
def queryAndFragment (cs : List Char) : Option String × Option String :=
  let query := cs.takeWhile (· != '#')
  let fragment := cs.dropWhile (· != '#')
  (if query.isEmpty then none else some (String.ofList (Percent.encode Percent.query (query.drop 1))),
    if fragment.isEmpty then none else some (String.ofList (Percent.encode Percent.fragment (fragment.drop 1))))

/-- Reads what follows the scheme and its slashes. -/
def readAfterSlashes (scheme : Scheme) (cs : List Char) : Except Url.Error Url := do
  let authority := cs.takeWhile fun c => !endsAuthority c
  let rest := cs.dropWhile fun c => !endsAuthority c
  let (login, hostAndPort) := (cutAtLast '@' authority).getD ([], authority)
  let (hostText, portText) := cutHost false hostAndPort
  let host ← Host.read hostText
  let port ← readPort scheme (portText.drop 1)
  let (user, password) := account login
  let isPath := fun c => c != '?' && c != '#'
  let (query, fragment) := queryAndFragment (rest.dropWhile isPath)
  pure ⟨scheme, user, password, host, port, segments (rest.takeWhile isPath), query, fragment⟩

/-- What follows a scheme and the slashes after it, in any letter case. -/
def afterScheme? (name : List Char) (cs : List Char) : Option (List Char) :=
  let start := cs.take (name.length + 1)
  if start.map Char.toLower = name ++ [':'] then some ((cs.drop (name.length + 1)).dropWhile isSlash) else none

/-- Reads a web address. -/
def parse (text : String) : Except Url.Error Url :=
  let cs := withoutLineEnds text.toList
  match afterScheme? "http".toList cs, afterScheme? "https".toList cs with
  | some rest, _ => readAfterSlashes .http rest
  | none, some rest => readAfterSlashes .https rest
  | none, none => .error .noScheme

end ServiceCatalog.Url
