import ServiceCatalog.Program

/-!
# The command line

Reads what a run needs from the system, runs the program and prints its report. There is no transport to a management
service here: every request counts as one without an answer.
-/

namespace ServiceCatalog.Main

open CommandLine

/-- The variables of the environment, as the system lists them. -/
def readEnvironment : IO Environment := do
  let octets ← IO.FS.readBinFile "/proc/self/environ"
  let text := Text.Utf8.lenient octets.toList
  pure ⟨(text.splitOn "\x00").filterMap fun entry =>
    match entry.splitOn "=" with
    | name :: value :: more => some (name, "=".intercalate (value :: more))
    | _ => none⟩

/-- The reason why a file cannot be read. -/
def reason (e : IO.Error) : Files.Error :=
  match e with
  | .noFileOrDirectory _ _ _ => .notFound
  | .inappropriateType _ _ _ => .isDirectory
  | e => .other (toString e)

/-- Reads a file of the system. -/
def readPath (path : String) : IO (Except Files.Error (List UInt8)) := do
  try
    let octets ← IO.FS.readBinFile path
    pure (.ok octets.toList)
  catch e => pure (.error (reason e))

/-- The files of the system under the given paths. -/
def readFiles (paths : List String) : IO Files := do
  let contents ← paths.mapM fun path => do pure (path, ← readPath path)
  pure ⟨fun path => (contents.lookup path).getD (.error .notFound)⟩

/-- The path of the configuration file of a run. -/
def configPaths (env : Environment) (o : Options) : List String :=
  match o.configFile, Config.defaultPath env with
  | some path, _ => [path]
  | none, .ok path => [path]
  | none, .error _ => []

/-- The paths of the files that secure the connection of a run. -/
def tlsPaths (env : Environment) (files : Files) (o : Options) : List String :=
  match Program.invocation env files o with
  | .ok invocation => (invocation.connection.tls.map fun t => [t.ca, t.cert, t.key]).getD []
  | .error _ => []

/-- The files that a run reads. -/
def neededFiles (env : Environment) (words : List String) : IO Files := do
  match parse env words with
  | .error _ => pure Files.none
  | .ok o =>
    let configs := configPaths env o
    let files ← readFiles configs
    readFiles (configs ++ tlsPaths env files o)

end ServiceCatalog.Main

/-- Runs the program. -/
def main (words : List String) : IO UInt32 := do
  let env ← ServiceCatalog.Main.readEnvironment
  let files ← ServiceCatalog.Main.neededFiles env words
  let out ← IO.getStdout
  let err ← IO.getStderr
  let terminal ← out.isTty
  let report := ServiceCatalog.Program.run env files ServiceCatalog.Http.unreachable terminal words
  out.putStr report.out
  err.putStr report.err
  pure report.exitCode.toUInt32
