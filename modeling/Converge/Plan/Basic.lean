import Converge.Provider.Control
import Converge.Service.Declaration

set_option autoImplicit false

namespace Converge

structure PlannedService where
  declaration : Declaration
  provider : ProviderKind
  deriving DecidableEq, Repr

structure Plan where
  platform : String
  services : List PlannedService
  deriving DecidableEq, Repr

namespace Plan

/-- The first desired action that the declaration does not support, else the first that the
provider does not know. -/
def firstRefused? (kind : ProviderKind) (d : Declaration) : Option Action :=
  d.firstUnsupported?.orElse fun _ => d.desired.find? fun a => !kind.recognizes a

-- The error of a stop override that is no command.
def overrideFault? (d : Declaration) : Option ApplyError :=
  match d.stopOverride.map Command.ofOverride with
  | some (.error e) => some e
  | _ => none

/-- The first fault of a declaration. `hasScript` tells which services have a script; `earlier`
holds the names declared before. -/
def fault? (kind : ProviderKind) (hasScript : String → Bool) (earlier : List String)
    (d : Declaration) : Option ApplyError :=
  match ServiceName.fault? d.name with
  | some fault => some (.invalidName d.name fault.message)
  | none =>
    if earlier.contains d.name then some (.duplicateService d.name)
    else if !hasScript d.name then some (.unknownService d.name)
    else
      match firstRefused? kind d with
      | some action => some (.unsupportedAction d.name action)
      | none => overrideFault? d

def survey (kind : ProviderKind) (hasScript : String → Bool) :
    List String → List Declaration → List Declaration × Option ApplyError
  | _, [] => ([], none)
  | earlier, d :: rest =>
    match fault? kind hasScript earlier d with
    | some e => ([], some e)
    | none =>
      let (sound, e) := survey kind hasScript (d.name :: earlier) rest
      (d :: sound, e)

def surveyOn (paths : Paths) (files : FileSystem) (platform : String) (ds : List Declaration) :
    List Declaration × Option ApplyError :=
  survey (.ofPlatform platform) (Provider.hasService paths files) [] ds

-- The plan for declarations on a platform, if none of them has a fault.
def make (paths : Paths) (files : FileSystem) (platform : String) (ds : List Declaration) :
    Except ApplyError Plan :=
  match surveyOn paths files platform ds with
  | (_, some e) => .error e
  | (sound, none) => .ok ⟨platform, sound.map fun d => ⟨d, .ofPlatform platform⟩⟩

-- What making a plan says: one event for each declaration found sound.
def events (paths : Paths) (files : FileSystem) (platform : String) (ds : List Declaration) :
    List LogEvent :=
  (surveyOn paths files platform ds).1.map fun d =>
    ⟨.debug, .plan, "Planned service", [
      ("service", .text d.name),
      ("provider", .text (ProviderKind.ofPlatform platform).name),
      ("platform", .text platform)]⟩

end Plan

def PlannedService.toJson (s : PlannedService) : Json :=
  .object (s.declaration.members ++ [("provider", .text s.provider.name)])

def Plan.toJson (p : Plan) : Json :=
  .object [
    ("platform", .text p.platform),
    ("services", .array (p.services.map PlannedService.toJson))]

end Converge
