import Converge.Error
import Converge.FileSystem.Access
import Converge.Json.Reader
import Converge.Settings.Basic
import Converge.Text.Basic

set_option autoImplicit false

namespace Converge.Platform

def unknown : String := "unknown"

def isQuote (c : Char) : Bool := c == '"' || c == '\''

-- What a line gives as the platform, without the quotes around it.
def ofLine? (line : List Char) : Option (List Char) :=
  match Text.trim line with
  | 'I' :: 'D' :: '=' :: value =>
    match Text.stripBy isQuote value with
    | [] => none
    | id => some id
  | _ => none

def ofRelease? (content : String) : Option String :=
  ((Text.lines content.toList).findSome? ofLine?).map String.ofList

-- The platform in a release file, if the file can be read and says one.
def detect? (files : FileSystem) (path : OsString) : Option String :=
  match files.readText path with
  | .ok content => ofRelease? content
  | .error _ => none

def detect (files : FileSystem) (path : OsString) : String := (detect? files path).getD unknown

end Converge.Platform

namespace Converge

-- A platform named by the user or the settings; without one the host is asked.
def Settings.namedPlatform? (s : Settings) (asked : Option String) : Option String :=
  asked.orElse fun _ => s.node.platform

def Settings.platform (s : Settings) (files : FileSystem) (asked : Option String) : String :=
  (s.namedPlatform? asked).getD (Platform.detect files s.paths.osRelease)

structure NodeAttributes where
  -- The node was set to start before all others, so stopping it need not wait for them.
  startFirst : Bool := false
  deriving DecidableEq, Repr

namespace NodeAttributes

-- The place of the flag: it belongs to the first of the node's components.
def flagPath : List String :=
  ["REC", "PICs", "scalaris_PIC", "0", "attributes", "scalaris_start_first"]

def isOn : Json → Bool
  | .null | .bool false => false
  | _ => true

def ofJson (document : Json) : NodeAttributes where
  startFirst := (document.at? flagPath).any isOn

def load (files : FileSystem) (path : OsString) : Except Failure NodeAttributes :=
  match files.readText path with
  | .error cause => .error (.config (.unreadableAttributes path.text cause))
  | .ok text =>
    match Json.parse? text with
    | some document => .ok (ofJson document)
    | none => .error .badDocument

end NodeAttributes

/-- The attributes that settings ask for. A document that is named has to be readable even where
the settings decide its flag. -/
def Settings.attributes (s : Settings) (files : FileSystem) : Except Failure NodeAttributes := do
  let document ← match s.node.attributesFile with
    | some path => NodeAttributes.load files path
    | none => .ok {}
  .ok ⟨s.node.startFirst.getD document.startFirst⟩

end Converge
