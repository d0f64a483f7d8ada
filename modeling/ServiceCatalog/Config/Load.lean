import ServiceCatalog.Config.Profile
import ServiceCatalog.Environment
import ServiceCatalog.Files
import ServiceCatalog.Text.Expansion
import ServiceCatalog.Text.Utf8
import ServiceCatalog.Toml.Reader

/-!
# Finding and reading the configuration

The configuration file lies below the directory for configurations, or below the home directory. Its text may refer to
variables, which are replaced before it is read. Where there is no file nothing is configured. Without an explicit
choice the default profile is used, or else the only one.
-/

namespace ServiceCatalog.Config

open Text

/-- Why there is no configuration, or no profile in it. -/
inductive Error where
  | noDirectory
  | unreadable (path cause : String)
  | malformed (detail : String)
  | profileNotFound (name : String)
deriving DecidableEq, Repr

/-- What the user is told about a configuration that is not there. -/
def Error.message : Error → String
  | noDirectory => "Failed to determine config directory"
  | unreadable path cause => s!"Failed to load config from {path}: {cause}"
  | malformed detail => "Failed to parse config: " ++ detail
  | profileNotFound name => s!"Profile '{name}' not found"

/-- A path with one more name at its end. -/
def below (path name : String) : String := if path.endsWith "/" then path ++ name else path ++ "/" ++ name

/-- The directory for configurations. -/
def directory? (env : Environment) : Option String :=
  match (env.get? "XDG_CONFIG_HOME").filter (·.startsWith "/") with
  | some path => some path
  | none => env.home?.map fun home => below home ".config"

/-- The path of the configuration file where no other is named. -/
def defaultPath (env : Environment) : Except Error String :=
  match directory? env with
  | some directory => .ok (below (below directory "catalogctl") "config.toml")
  | none => .error .noDirectory

/-- The number of the line with the last of so many characters of a text, and what stands in the line. -/
def lineWith (cs : List Char) (count : Nat) : Nat × String :=
  let number := (cs.take (min count (cs.length - 1))).count '\n'
  (number + 1, ((String.ofList cs).splitOn "\n").getD number "")

/-- What the user is told about a text that cannot be read: the line with the fault and what is wrong with it. -/
def describeFault (text : String) (fault : Toml.Fault) : String :=
  let cs := text.toList
  let (number, line) := lineWith cs (cs.length - fault.place)
  s!"TOML parse error at line {number}\n  |\n{number} | {line}\n  |\n{fault.text}\n"

/-- Reads the text of a configuration file. -/
def parse (env : Environment) (text : String) : Except Error Config :=
  let expanded := Expansion.expandKnown env.get? text
  match (Toml.parse expanded).bind ofFields with
  | .ok config => .ok config
  | .error fault => .error (.malformed (describeFault expanded fault))

/-- Reads the configuration at a path. -/
def load (env : Environment) (files : Files) (path : String) : Except Error Config :=
  if files.exists? path then
    match files.read path with
    | .error e => .error (.unreadable path e.message)
    | .ok octets =>
      match Utf8.strict? octets with
      | none => .error (.unreadable path "stream did not contain valid UTF-8")
      | some text => parse env text
  else .ok {}

/-- Reads the configuration at the path that is named, or else at the usual one. -/
def loadFrom (env : Environment) (files : Files) (named : Option String) : Except Error Config :=
  match named with
  | some path => load env files path
  | none => (defaultPath env).bind (load env files)

/-- The profile that is chosen: by an explicit name, by the default, or as the only one. -/
def resolve (config : Config) (explicit : Option String) : Except Error (Option Profile) :=
  match explicit.or config.defaultProfile with
  | some name =>
    match config.profiles.lookup name with
    | some profile => .ok (some profile)
    | none => .error (.profileNotFound name)
  | none =>
    match config.profiles with
    | [(_, profile)] => .ok (some profile)
    | _ => .ok none

end ServiceCatalog.Config
