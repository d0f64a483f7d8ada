import ServiceCatalog.CommandLine.Options
import ServiceCatalog.Environment
import ServiceCatalog.Text.Decimal

/-!
# Settings and flags

The options that take a value and those that take none. Some values are also taken from a variable of the environment
where the command line does not give them.
-/

namespace ServiceCatalog.CommandLine

open Text

/-- Why no options come out of a command line. -/
inductive Refusal where
  | missingRequired
  | unknownArgument
  | invalidValue
  | valueValidation
  | argumentConflict
  | tooManyValues
  /-- The user asks for help. -/
  | displayHelp
  /-- The user asks for the version. -/
  | displayVersion
deriving DecidableEq, Repr

/-- Whether a refusal is a mistake of the user. -/
def Refusal.isMistake : Refusal → Bool
  | displayHelp => false
  | displayVersion => false
  | _ => true

/-- An option with a value. -/
structure Setting where
  name : String
  letter : Option Char := none
  /-- Whether a negative number may follow as the value. -/
  mayBeNegative : Bool := false
  variableName : Option String := none
  put : String → Options → Except Refusal Options

/-- A setting whose value is any text. -/
def textSetting (name : String) (variableName : Option String) (put : String → Options → Options) : Setting where
  name
  variableName
  put text o := .ok (put text o)

/-- A setting whose value is a number of 64 bits with a sign. -/
def numberSetting (name : String) (put : Int64 → Options → Options) : Setting where
  name
  mayBeNegative := true
  put text o := match int64? text with
    | some n => .ok (put (.ofInt n) o)
    | none => .error .valueValidation

/-- A setting whose value is a number of seconds. -/
def secondsSetting (name : String) (put : UInt64 → Options → Options) : Setting where
  name
  put text o := match word64? text with
    | some n => .ok (put (.ofNat n) o)
    | none => .error .valueValidation

/-- The setting for the format of the output. -/
def outputSetting : Setting where
  name := "output"
  letter := some 'o'
  put text o := match Output.Format.ofName? text with
    | some format => .ok { o with output := format }
    | none => .error .invalidValue

/-- The setting without which there is nothing to do. -/
def operationSetting : Setting := textSetting "op" none fun text o => { o with operation := text }

/-- All settings. -/
def settings : List Setting :=
  [{ textSetting "profile" (some "CATALOGCTL_PROFILE") fun text o => { o with profile := some text } with
      letter := some 'p' },
    textSetting "config-file" (some "CATALOGCTL_CONFIG_FILE") fun text o => { o with configFile := some text },
    outputSetting,
    operationSetting,
    textSetting "service-type" none fun text o => { o with kind := some text },
    textSetting "region" (some "CATALOGCTL_REGION") fun text o => { o with region := some text },
    textSetting "cluster" (some "CATALOGCTL_CLUSTER") fun text o => { o with cluster := some text },
    textSetting "service" none fun text o => { o with service := some text },
    textSetting "prefix" none fun text o => { o with namesStart := some text },
    numberSetting "replicas" fun n o => { o with replicas := n },
    numberSetting "volume-size" fun n o => { o with volumeSizeGb := n },
    numberSetting "cpu-units" fun n o => { o with cpuUnits := n },
    numberSetting "max-cpu-units" fun n o => { o with maxCpuUnits := some n },
    numberSetting "soft-memory" fun n o => { o with memoryMb := n },
    numberSetting "max-memory" fun n o => { o with maxMemoryMb := some n },
    textSetting "admin" none fun text o => { o with admin := some text },
    textSetting "passwd" (some "CATALOGCTL_ADMIN_PASSWORD") fun text o => { o with password := some text },
    textSetting "replication-user" none fun text o => { o with replicationUser := some text },
    textSetting "replication-passwd" none fun text o => { o with replicationPassword := some text },
    textSetting "ca-file" none fun text o => { o with caFile := some text },
    textSetting "cert-file" none fun text o => { o with certFile := some text },
    textSetting "key-file" none fun text o => { o with keyFile := some text },
    textSetting "server-url" (some "CATALOGCTL_SERVER_URL") fun text o => { o with serverUrl := some text },
    textSetting "service-uuid" none fun text o => { o with serviceUuid := some text },
    textSetting "fileid" none fun text o => { o with fileId := some text },
    secondsSetting "wait-timeout" fun n o => { o with waitTimeout := some n },
    secondsSetting "wait-interval" fun n o => { o with waitInterval := some n },
    secondsSetting "request-timeout" fun n o => { o with requestTimeout := some n }]

/-- What a flag does. -/
inductive Effect where
  /-- The run ends at once. -/
  | ends (refusal : Refusal)
  /-- The flag can be given more than once. -/
  | counts
  | sets (change : Options → Options)

/-- An option without a value. -/
structure Flag where
  name : String
  letter : Option Char := none
  effect : Effect

/-- All flags. -/
def flags : List Flag :=
  [⟨"verbose", some 'v', .counts⟩,
    ⟨"tls-enabled", none, .sets fun o => { o with tlsEnabled := true }⟩,
    ⟨"no-wait", none, .sets fun o => { o with noWait := true }⟩,
    ⟨"help", some 'h', .ends .displayHelp⟩,
    ⟨"version", some 'V', .ends .displayVersion⟩]

end ServiceCatalog.CommandLine
