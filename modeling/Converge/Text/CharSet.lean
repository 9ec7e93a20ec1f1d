set_option autoImplicit false

namespace Converge.Text

/-- A part of such a set. -/
inductive Member where
  | range (low high : Char)
  | class_ (name : String)
  deriving DecidableEq, Repr

namespace Member

def isGraphic (c : Char) : Bool := '!' ≤ c && c ≤ '~'

def isInClass (name : String) (c : Char) : Bool :=
  match name with
  | "alpha" => c.isAlpha
  | "digit" => c.isDigit
  | "alnum" => c.isAlphanum
  | "upper" => c.isUpper
  | "lower" => c.isLower
  | "space" => c == ' ' || ('\t' ≤ c && c ≤ '\r')
  | "blank" => c == ' ' || c == '\t'
  | "punct" => isGraphic c && !c.isAlphanum
  | "graph" => isGraphic c
  | "print" => c == ' ' || isGraphic c
  | "cntrl" => c.toNat < 32 || c.toNat == 127
  | "xdigit" => c.isDigit || ('a' ≤ c && c ≤ 'f') || ('A' ≤ c && c ≤ 'F')
  | _ => false

def classNames : List String :=
  ["alpha", "digit", "alnum", "upper", "lower", "space", "blank", "punct", "graph", "print",
    "cntrl", "xdigit"]

def covers (c : Char) : Member → Bool
  | .range low high => low ≤ c && c ≤ high
  | .class_ name => isInClass name c

end Member

end Converge.Text
