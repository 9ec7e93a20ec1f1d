import Converge.Error
import Converge.FileSystem.Access
import Converge.Settings.Basic
import Converge.Text.Lowercase
import Converge.Toml.Draft
import Converge.Toml.Reader

set_option autoImplicit false

namespace Converge

namespace Toml

def text? : Toml → Option String
  | .text s => some s
  | _ => none

def path? : Toml → Option OsString
  | .text s => some s
  | _ => none

def boolean? : Toml → Option Bool
  | .boolean b => some b
  | _ => none

def natural? : Toml → Option Nat
  | .integer (.ofNat n) => some n
  | _ => none

/-- Whether a value can stand for a record. A date is one without any field that has a name here. -/
def isRecord : Toml → Bool
  | .table _ | .array _ | .datetime _ => true
  | _ => false

-- What a record gives for a field, by its name or by its place.
def field? (name : String) (place : Nat) : Toml → Option Toml
  | .table entries => entries.lookup name
  | .array items => items[place]?
  | _ => none

end Toml

namespace Settings

variable {α : Type}

-- A field that falls back to a default if it is not given.
def given (decode : Toml → Option α) (fallback : α) : Option Toml → Option α
  | none => some fallback
  | some v => decode v

-- A field that stays open if it is not given.
def optional (decode : Toml → Option α) : Option Toml → Option (Option α) :=
  given (fun v => (decode v).map some) none

def nodeOf? (v : Toml) : Option NodeSettings :=
  let complete := match v with
    | .array items => 3 ≤ items.length
    | _ => true
  if !v.isRecord || !complete then none
  else do
    let platform ← optional Toml.text? (v.field? "platform" 0)
    let startFirst ← optional Toml.boolean? (v.field? "scalaris_start_first" 1)
    let attributesFile ← optional Toml.path? (v.field? "attributes_file" 2)
    some ⟨platform, startFirst, attributesFile⟩

def pathsOf? (v : Toml) : Option Paths :=
  if !v.isRecord then none
  else do
    let initDir ← given Toml.path? Default.initDir (v.field? "init_dir" 0)
    let rcRoot ← given Toml.path? Default.rcRoot (v.field? "rc_root" 1)
    let osRelease ← given Toml.path? Default.osRelease (v.field? "os_release" 2)
    some ⟨initDir, rcRoot, osRelease⟩

def limitsOf? (v : Toml) : Option Limits :=
  if !v.isRecord then none
  else do
    let seconds ←
      given Toml.natural? Default.timeoutSeconds (v.field? "action_timeout_seconds" 0)
    some ⟨seconds⟩

def loggingOf? (v : Toml) : Option LogSettings :=
  if !v.isRecord then none
  else do
    let level ← given Toml.text? Default.level (v.field? "level" 0)
    let format ← given Toml.text? Default.format (v.field? "format" 1)
    some ⟨level, format⟩

-- A flag that is left out is off, as it is by default.
def reportOf? (v : Toml) : Option ReportSettings :=
  if !v.isRecord then none
  else do
    let enabled ← given Toml.boolean? default (v.field? "enabled" 0)
    let path ← given Toml.path? Default.reportPath (v.field? "path" 1)
    some ⟨enabled, path⟩

-- The settings in a document. A value of the wrong kind spoils them all.
def ofToml? (doc : Toml) : Option Settings := do
  let node ← given nodeOf? {} (doc.field? "node" 0)
  let paths ← given pathsOf? {} (doc.field? "paths" 1)
  let limits ← given limitsOf? {} (doc.field? "limits" 2)
  let logging ← given loggingOf? {} (doc.field? "logging" 3)
  let report ← given reportOf? {} (doc.field? "report" 4)
  some ⟨node, paths, limits, logging, report⟩

end Settings

end Converge

namespace Converge.Settings

def folded (s : String) : String := String.ofList (Text.lower s.toList)

def fault? (s : Settings) : Option SettingFault :=
  if !validLevels.contains (folded s.logging.level) then some (.level s.logging.level)
  else if !validFormats.contains (folded s.logging.format) then some (.format s.logging.format)
  else if s.limits.timeoutSeconds = 0 then some .zeroTimeout
  else if !Path.isAbsolute s.paths.initDir then some (.relativeInitDir s.paths.initDir.text)
  else none

def checked (s : Settings) : Except ConfigError Settings :=
  match s.fault? with
  | some fault => .error (.illegal fault)
  | none => .ok s

def parse (text : String) : Except ConfigError Settings :=
  match (Toml.parse? text).bind ofToml? with
  | some s => s.checked
  | none => .error .malformed

-- The settings in a file. An error in the text names the file.
def load (files : FileSystem) (path : OsString) : Except ConfigError Settings :=
  match files.readText path with
  | .error cause => .error (.unreadableSettings path.text cause)
  | .ok text =>
    match parse text with
    | .error cause => .error (.inFile path.text cause)
    | .ok s => .ok s

end Converge.Settings
