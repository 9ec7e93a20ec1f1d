import Converge.FileSystem.Basic
import Converge.Service.Basic
import Converge.Text.Basic

set_option autoImplicit false

namespace Converge

/-- A command that gave no result. -/
inductive CommandError where
  | invalidLine (reason : String)
  | notRun (reason : String)
  | timeout (seconds : Nat)
  deriving DecidableEq, Repr

def CommandError.message : CommandError → String
  | .invalidLine reason => "Invalid command line: " ++ reason
  | .notRun reason => "Command execution failed: " ++ reason
  | .timeout seconds => "Command timed out after " ++ toString seconds ++ " seconds"

/-- What ends the planning or the carrying out of a pass. -/
inductive ApplyError where
  | unknownService (service : String)
  | unsupportedAction (service : String) (action : Action)
  | actionFailed (service : String) (action : Action) (exitCode : Option Int) (stderr : String)
  | duplicateService (service : String)
  | invalidName (service reason : String)
  | command (cause : CommandError)
  deriving DecidableEq, Repr

namespace ApplyError

def exitText : Option Int → String
  | some code => String.ofList (Text.Decimal.ofInt code)
  | none => "none (terminated by signal)"

def message : ApplyError → String
  | .unknownService service => "Service not recognized by the platform: " ++ service
  | .unsupportedAction service action =>
    "Service '" ++ service ++ "' does not support action '" ++ action.name ++ "'"
  | .actionFailed service action exitCode stderr =>
    "Action '" ++ action.name ++ "' on service '" ++ service ++ "' failed with exit code " ++
      exitText exitCode ++ ": " ++ stderr
  | .duplicateService service => "Service declared more than once: " ++ service
  | .invalidName service reason => "Invalid service name '" ++ service ++ "': " ++ reason
  | .command cause => "Command error: " ++ cause.message

def code : ApplyError → String
  | .unknownService _ => "UNKNOWN_SERVICE"
  | .unsupportedAction _ _ => "UNSUPPORTED_ACTION"
  | .actionFailed _ _ _ _ => "ACTION_FAILED"
  | .duplicateService _ => "DUPLICATE_SERVICE"
  | .invalidName _ _ => "INVALID_SERVICE_NAME"
  | .command (.timeout _) => "COMMAND_TIMEOUT"
  | .command _ => "COMMAND_ERROR"

end ApplyError

/-- A setting that is not allowed. -/
inductive SettingFault where
  | level (given : String)
  | format (given : String)
  | zeroTimeout
  | relativeInitDir (given : String)
  deriving DecidableEq, Repr

def validLevels : List String := ["trace", "debug", "info", "warn", "error"]

def validFormats : List String := ["pretty", "json"]

def SettingFault.message : SettingFault → String
  | .level given =>
    "Invalid log level '" ++ given ++ "'. Valid levels: " ++ Text.quotedList validLevels
  | .format given =>
    "Invalid log format '" ++ given ++ "'. Valid formats: " ++ Text.quotedList validFormats
  | .zeroTimeout => "action_timeout_seconds must be greater than zero"
  | .relativeInitDir given => "init_dir must be an absolute path, got '" ++ given ++ "'"

inductive ConfigError where
  | unreadableSettings (path : String) (cause : OsError)
  -- The text is no TOML document, or a value in it has the wrong type.
  | malformed
  | illegal (fault : SettingFault)
  | inFile (path : String) (cause : ConfigError)
  | unreadableAttributes (path : String) (cause : OsError)
  deriving DecidableEq, Repr

def ConfigError.message : ConfigError → String
  | .unreadableSettings path cause =>
    "Failed to read config file '" ++ path ++ "': " ++ cause.message
  | .malformed => "Failed to parse config: not a valid configuration document"
  | .illegal fault => fault.message
  | .inFile path cause => cause.message ++ " (" ++ path ++ ")"
  | .unreadableAttributes path cause =>
    "Failed to read node attributes '" ++ path ++ "': " ++ cause.message

/-- What ends a run of the program. -/
inductive Failure where
  | config (cause : ConfigError)
  | apply (cause : ApplyError)
  | io (cause : OsError)
  -- The node document is no JSON text.
  | badDocument
  deriving DecidableEq, Repr

def Failure.message : Failure → String
  | .config cause => "Configuration error: " ++ cause.message
  | .apply cause => "Apply error: " ++ cause.message
  | .io cause => "I/O error: " ++ cause.message
  | .badDocument => "Serialization error: not a valid JSON document"

end Converge
