import Converge.Error
import Converge.Log.Event
import Converge.Node
import Converge.Service.Declaration
import Converge.Settings.Basic

set_option autoImplicit false

namespace Converge

structure Definition where
  name : String
  displayName : String
  supported : List Capability := Capability.all
  desired : List Action := [.enable, .start]
  -- The script's verb that ends the service at once.
  hardStop : Option String := none
  deriving DecidableEq, Repr

namespace Definition

def scalaris : Definition where
  name := "scalaris"
  displayName := "Scalaris Node"
  hardStop := some "kill"

def scalarisMonitor : Definition where
  name := "scalaris-monitor"
  displayName := "Scalaris Monitor"

def builtIns : List Definition := [scalaris, scalarisMonitor]

def toDeclaration (d : Definition) : Declaration where
  name := d.name
  supported := .ofList d.supported
  desired := d.desired

end Definition

/-- The definitions known so far, each under a name of its own. -/
structure Registry where
  entries : List (String × Definition)
  deriving DecidableEq

namespace Registry

def empty : Registry := ⟨[]⟩

-- A definition goes under its name, in place of what stood there.
def register (r : Registry) (d : Definition) : Registry :=
  ⟨(d.name, d) :: r.entries.filter fun entry => entry.1 ≠ d.name⟩

def get? (r : Registry) (name : String) : Option Definition := r.entries.lookup name

def builtIn : Registry := Definition.builtIns.foldl register empty

end Registry

end Converge

namespace Converge.Recipe

-- The services of a node, in the order in which they come up.
def services : List String := ["scalaris", "scalaris-monitor"]

def hardStopLine (paths : Paths) (service verb : String) : String :=
  (paths.initScript service).text ++ " " ++ verb

-- A node that starts before all others is never stopped gently.
def declare (paths : Paths) (node : NodeAttributes) (service : String) (d : Definition) :
    Declaration :=
  let declaration := d.toDeclaration
  if node.startFirst then
    { declaration with stopOverride := d.hardStop.map (hardStopLine paths service) }
  else declaration

def declarations (registry : Registry) (node : NodeAttributes) (paths : Paths) :
    Except ApplyError (List Declaration) :=
  services.mapM fun service =>
    match registry.get? service with
    | some d => .ok (declare paths node service d)
    | none => .error (.unknownService service)

def desiredText (d : Declaration) : String :=
  "[" ++ String.intercalate ", " (d.desired.map Action.title) ++ "]"

def eventsOf (paths : Paths) (node : NodeAttributes) (service : String) (d : Definition) :
    List LogEvent :=
  let declaration := declare paths node service d
  (match declaration.stopOverride with
    | some line => [⟨.warn, .recipe,
        "scalaris_start_first is set; stop will terminate the node instead of shutting it down " ++
          "(last-node detection via this flag is unreliable)",
        [("service", .text service), ("command", .text line)]⟩]
    | none => []) ++
  [⟨.debug, .recipe, "Declared service", [
    ("service", .text service),
    ("display_name", .text d.displayName),
    ("desired", .text (desiredText declaration))]⟩]

-- What following the recipe says, up to the first service without a definition.
def events (registry : Registry) (node : NodeAttributes) (paths : Paths) : List LogEvent :=
  (services.map fun service => (service, registry.get? service)).takeWhile (·.2.isSome)
    |>.flatMap fun entry =>
      match entry.2 with
      | some d => eventsOf paths node entry.1 d
      | none => []

end Converge.Recipe
