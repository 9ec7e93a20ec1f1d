import Converge.Text.Basic

set_option autoImplicit false

namespace Converge

inductive Json where
  | null
  | bool (b : Bool)
  | number (mantissa exponent : Int)
  | text (s : String)
  | array (items : List Json)
  | object (members : List (String × Json))
  deriving Inhabited

namespace Json

def nat (n : Nat) : Json := .number n 0

def texts (items : List String) : Json := .array (items.map .text)

-- The position that a key means in an array: digits without a needless zero.
def index? (key : String) : Option Nat :=
  let cs := key.toList
  if cs.isEmpty || !cs.all Text.Decimal.isDigit then none
  else if cs.head? == some '0' && cs ≠ ['0'] then none
  else some (Text.Decimal.value cs)

/-- One step by a key: a member of an object, the last of that name, or a place in an array. -/
def step? (key : String) : Json → Option Json
  | .object members => (members.reverse.find? (·.1 == key)).map (·.2)
  | .array items => (index? key).bind (items[·]?)
  | _ => none

def at? : List String → Json → Option Json
  | [], value => some value
  | key :: path, value => (value.step? key).bind (at? path)

end Json

end Converge

namespace Converge.Json

def hexDigit (n : Nat) : Char := (Nat.toDigits 16 n).headD '0'

def escape (c : Char) : List Char :=
  if c = '"' then ['\\', '"']
  else if c = '\\' then ['\\', '\\']
  else if c = '\n' then ['\\', 'n']
  else if c = '\r' then ['\\', 'r']
  else if c = '\t' then ['\\', 't']
  else if c = '\x08' then ['\\', 'b']
  else if c = '\x0c' then ['\\', 'f']
  else if c.toNat < 0x20 then
    ['\\', 'u', '0', '0', hexDigit (c.toNat / 16), hexDigit (c.toNat % 16)]
  else [c]

def renderText (s : String) : List Char := '"' :: s.toList.flatMap escape ++ ['"']

def renderNumber (mantissa exponent : Int) : List Char :=
  Text.Decimal.ofInt mantissa ++
    if exponent = 0 then [] else 'e' :: Text.Decimal.ofInt exponent

mutual

def render : Json → List Char
  | .null => "null".toList
  | .bool b => (if b then "true" else "false").toList
  | .number mantissa exponent => renderNumber mantissa exponent
  | .text s => renderText s
  | .array items => '[' :: renderItems items ++ [']']
  | .object members => '\x7b' :: renderMembers members ++ ['\x7d']

def renderItems : List Json → List Char
  | [] => []
  | [item] => render item
  | item :: rest => render item ++ ',' :: renderItems rest

def renderMembers : List (String × Json) → List Char
  | [] => []
  | [(key, value)] => renderText key ++ ':' :: render value
  | (key, value) :: rest => renderText key ++ ':' :: render value ++ ',' :: renderMembers rest

end

def lineBreak (depth : Nat) : List Char := '\n' :: List.replicate (2 * depth) ' '

mutual

def renderPretty (depth : Nat) : Json → List Char
  | .array (item :: items) => '[' :: prettyItems (depth + 1) (item :: items) ++ lineBreak depth ++ [']']
  | .object (member :: members) =>
    '\x7b' :: prettyMembers (depth + 1) (member :: members) ++ lineBreak depth ++ ['\x7d']
  | value => render value

def prettyItems (depth : Nat) : List Json → List Char
  | [] => []
  | [item] => lineBreak depth ++ renderPretty depth item
  | item :: rest => lineBreak depth ++ renderPretty depth item ++ ',' :: prettyItems depth rest

def prettyMembers (depth : Nat) : List (String × Json) → List Char
  | [] => []
  | [(key, value)] => lineBreak depth ++ renderText key ++ ": ".toList ++ renderPretty depth value
  | (key, value) :: rest =>
    lineBreak depth ++ renderText key ++ ": ".toList ++ renderPretty depth value ++
      ',' :: prettyMembers depth rest

end

def compact (value : Json) : String := String.ofList value.render

def pretty (value : Json) : String := String.ofList (value.renderPretty 0)

end Converge.Json
