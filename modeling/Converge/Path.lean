import Converge.Text.Utf8

set_option autoImplicit false

namespace Converge

open Text

-- Names and paths as the system has them. Any octets will do, and most of them are texts.
@[ext] structure OsString where
  octets : Utf8.Octets
  deriving DecidableEq, Repr

namespace OsString

def ofText (s : String) : OsString := ⟨toOctets s⟩

instance : Coe String OsString := ⟨ofText⟩

instance : Append OsString := ⟨fun a b => ⟨a.octets ++ b.octets⟩⟩

/-- What is shown of a name, with one replacement character for each fault. Other names may be shown
in the same way. -/
def text (s : OsString) : String := ofOctetsLossy s.octets

def text? (s : OsString) : Option String := ofOctets? s.octets

end OsString

end Converge

namespace Converge.Text.Raw

-- One character for each octet. Where a text is cut, counted or compared octet by octet it is held
-- raw, and it becomes a text again only when it is shown.
def ofOctets (octets : Utf8.Octets) : String :=
  String.ofList (octets.map fun o => Char.ofNat o.toNat)

def toOctets (s : String) : Utf8.Octets := s.toList.map fun c => UInt8.ofNat c.toNat

def ofText (s : String) : String := ofOctets (Text.toOctets s)

-- The text of a raw form, with one replacement character for each fault.
def toText (s : String) : String := ofOctetsLossy (toOctets s)

def ofName (s : OsString) : String := ofOctets s.octets

def toName (s : String) : OsString := ⟨toOctets s⟩

end Converge.Text.Raw

namespace Converge.Path

open Text (Utf8.Octets)

def slash : UInt8 := 0x2F

def dot : UInt8 := 0x2E

def isAbsolute (path : OsString) : Bool := path.octets.head? == some slash

/-- A path read from a directory: an absolute path stands alone, and no slash is doubled. -/
def join (base path : OsString) : OsString :=
  if isAbsolute path then path
  else if base.octets.getLast?.all (· == slash) then base ++ path
  else base ++ "/" ++ path

-- A slash at the end leaves an empty last name.
def splitSlash : Utf8.Octets → Utf8.Octets → List OsString
  | name, [] => [⟨name.reverse⟩]
  | name, o :: rest =>
    if o = slash then ⟨name.reverse⟩ :: splitSlash [] rest
    else splitSlash (o :: name) rest

/-- The steps of a walk along a path. A slash at the end leaves an empty step: it asks for a
directory. -/
def steps (path : OsString) : List OsString :=
  let names := splitSlash [] path.octets
  let ends : List OsString := if 1 < names.length && names.getLast? == some ⟨[]⟩ then [⟨[]⟩] else []
  names.filter (· ≠ ⟨[]⟩) ++ ends

-- A written path, backwards, without slashes and dots that add nothing at its end.
def trimEnd : Utf8.Octets → Utf8.Octets
  | [] => []
  | o :: rest =>
    if o = slash then if rest.isEmpty then [slash] else trimEnd rest
    else if o = dot && rest.head? == some slash then trimEnd rest
    else o :: rest

-- The path without its last component, if it has one.
def parent? (path : OsString) : Option OsString :=
  let written := trimEnd path.octets.reverse
  if written = [] || written = [slash] then none
  else some ⟨(trimEnd (written.dropWhile (· ≠ slash))).reverse⟩

end Converge.Path
