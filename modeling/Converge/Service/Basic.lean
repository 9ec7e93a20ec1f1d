import Converge.Text.Utf8

set_option autoImplicit false

namespace Converge.ServiceName

def maxSize : Nat := 64

def isNameChar (c : Char) : Bool :=
  c.isAlphanum || c == '-' || c == '_' || c == '.' || c == '@'

inductive Fault where
  | empty
  | tooLong
  | badStart
  | badCharacter
  deriving DecidableEq, Repr

def Fault.message : Fault → String
  | .empty => "Service name cannot be empty"
  | .tooLong => "Service name is too long"
  | .badStart => "Service name must start with a letter or digit"
  | .badCharacter => "Service name contains invalid characters"

def fault? (name : String) : Option Fault :=
  let cs := name.toList
  if cs.isEmpty then some .empty
  else if maxSize < Text.Utf8.size cs then some .tooLong
  else if cs.head? == some '.' || cs.head? == some '-' then some .badStart
  else if !cs.all isNameChar then some .badCharacter
  else none

end Converge.ServiceName

namespace Converge

/-- A verb that an init script may understand. -/
inductive Capability where
  | status
  | start
  | stop
  | restart
  deriving DecidableEq, Repr

/-- A step towards the declared state of a service. -/
inductive Action where
  | enable
  | start
  | stop
  | restart
  deriving DecidableEq, Repr

namespace Capability

def all : List Capability := [.status, .start, .stop, .restart]

def name : Capability → String
  | .status => "status"
  | .start => "start"
  | .stop => "stop"
  | .restart => "restart"

def ofName? (s : String) : Option Capability := all.find? (·.name == s)

end Capability

namespace Action

def all : List Action := [.enable, .start, .stop, .restart]

def name : Action → String
  | .enable => "enable"
  | .start => "start"
  | .stop => "stop"
  | .restart => "restart"

def title : Action → String
  | .enable => "Enable"
  | .start => "Start"
  | .stop => "Stop"
  | .restart => "Restart"

def ofName? (s : String) : Option Action := all.find? (·.name == s)

-- Enabling is the platform's work and needs nothing of the script.
def needs? : Action → Option Capability
  | .enable => none
  | .start => some .start
  | .stop => some .stop
  | .restart => some .restart

end Action

structure Capabilities where
  status : Bool := false
  start : Bool := false
  stop : Bool := false
  restart : Bool := false
  deriving DecidableEq, Repr

namespace Capabilities

def has (set : Capabilities) : Capability → Bool
  | .status => set.status
  | .start => set.start
  | .stop => set.stop
  | .restart => set.restart

def ofList (cs : List Capability) : Capabilities where
  status := cs.contains .status
  start := cs.contains .start
  stop := cs.contains .stop
  restart := cs.contains .restart

-- Each member once, in the order status, start, stop, restart.
def toList (set : Capabilities) : List Capability := Capability.all.filter set.has

theorem has_ofList (cs : List Capability) (c : Capability) :
    (ofList cs).has c = cs.contains c := by
  cases c <;> rfl

theorem mem_toList (set : Capabilities) (c : Capability) : c ∈ set.toList ↔ set.has c = true := by
  cases c <;> simp [toList, Capability.all]

theorem ofList_toList (set : Capabilities) : ofList set.toList = set := by
  rcases set with ⟨_ | _, _ | _, _ | _, _ | _⟩ <;> rfl

end Capabilities

inductive ProviderKind where
  -- Init scripts with boot links that a tool sets.
  | debianInit
  | genericInit
  deriving DecidableEq, Repr

namespace ProviderKind

def debianFamily : List String := ["ubuntu", "debian"]

def ofPlatform (platform : String) : ProviderKind :=
  if debianFamily.contains platform then .debianInit else .genericInit

def recognizes (kind : ProviderKind) (a : Action) : Bool :=
  !(kind == .genericInit && a == .enable)

def name : ProviderKind → String
  | .debianInit => "debian_init"
  | .genericInit => "generic_init"

end ProviderKind

end Converge
