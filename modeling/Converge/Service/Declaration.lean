import Converge.Json.Value
import Converge.Service.Basic

set_option autoImplicit false

namespace Converge

structure Declaration where
  name : String
  supported : Capabilities
  -- In the order in which they are carried out.
  desired : List Action
  -- Runs in place of the script's own stop.
  stopOverride : Option String := none
  deriving DecidableEq, Repr

namespace Declaration

def supports (d : Declaration) (c : Capability) : Bool := d.supported.has c

def canDo (d : Declaration) (a : Action) : Bool :=
  match a.needs? with
  | none => true
  | some c => d.supports c

-- The first desired action that the script does not support.
def firstUnsupported? (d : Declaration) : Option Action := d.desired.find? fun a => !d.canDo a

end Declaration

end Converge

namespace Converge.Declaration

/-- Supported verbs come in a fixed order, desired actions in their own; a missing override has no
member. -/
def members (d : Declaration) : List (String × Json) :=
  [("name", .text d.name),
    ("supported_actions", .texts (d.supported.toList.map Capability.name)),
    ("desired_actions", .texts (d.desired.map Action.name))] ++
  match d.stopOverride with
  | some line => [("stop_override", .text line)]
  | none => []

def toJson (d : Declaration) : Json := .object d.members

end Converge.Declaration

namespace Converge

def Json.name? : Json → Option String
  | .text s => some s
  | .object [(key, .null)] => some key
  | _ => none

def Capability.ofJson? (v : Json) : Option Capability := v.name?.bind Capability.ofName?

def Action.ofJson? (v : Json) : Option Action := v.name?.bind Action.ofName?

end Converge
