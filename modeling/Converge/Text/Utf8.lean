set_option autoImplicit false

namespace Converge.Text.Utf8

abbrev Octets := List UInt8

/-- A character whose first octets were read: how many are owed, the range of the next one and the
bits so far. -/
structure Partial where
  owed : Nat
  low : Nat
  high : Nat
  bits : Nat
  deriving DecidableEq

inductive Lead where
  | single (c : Char)
  | more (start : Partial)
  | fault
  deriving DecidableEq

def lead (octet : UInt8) : Lead :=
  let b := octet.toNat
  if b < 0x80 then .single (Char.ofNat b)
  else if b < 0xC2 then .fault
  else if b < 0xE0 then .more ⟨1, 0x80, 0xBF, b - 0xC0⟩
  else if b = 0xE0 then .more ⟨2, 0xA0, 0xBF, 0⟩
  else if b = 0xED then .more ⟨2, 0x80, 0x9F, 0xD⟩
  else if b < 0xF0 then .more ⟨2, 0x80, 0xBF, b - 0xE0⟩
  else if b = 0xF0 then .more ⟨3, 0x90, 0xBF, 0⟩
  else if b < 0xF4 then .more ⟨3, 0x80, 0xBF, b - 0xF0⟩
  else if b = 0xF4 then .more ⟨3, 0x80, 0x8F, 4⟩
  else .fault

def Partial.take (p : Partial) (octet : UInt8) : Partial :=
  ⟨p.owed - 1, 0x80, 0xBF, p.bits * 64 + (octet.toNat - 0x80)⟩

-- The characters of a sequence of octets; `none` stands for one fault.
def scanFrom : Option Partial → Octets → List (Option Char)
  | none, [] => []
  | some _, [] => [none]
  | state, octet :: rest =>
    let fresh (_ : Unit) : List (Option Char) :=
      match lead octet with
      | .single c => some c :: scanFrom none rest
      | .more start => scanFrom (some start) rest
      | .fault => none :: scanFrom none rest
    match state with
    | none => fresh ()
    | some p =>
      if p.low ≤ octet.toNat && octet.toNat ≤ p.high then
        let next := p.take octet
        if next.owed = 0 then some (Char.ofNat next.bits) :: scanFrom none rest
        else scanFrom (some next) rest
      else none :: fresh ()

def scan (octets : Octets) : List (Option Char) := scanFrom none octets

def decode? (octets : Octets) : Option (List Char) := (scan octets).mapM id

def replacement : Char := Char.ofNat 0xFFFD

-- The text of any octets, with one replacement character for each fault.
def decodeLossy (octets : Octets) : List Char := (scan octets).map (·.getD replacement)

def encode (s : List Char) : Octets := s.flatMap String.utf8EncodeChar

def size : List Char → Nat
  | [] => 0
  | c :: s => c.utf8Size + size s

theorem size_eq_length (s : List Char) : size s = (encode s).length := by
  induction s with
  | nil => simp [size, encode]
  | cons c s ih => simpa [size, encode] using ih

theorem size_append (s t : List Char) : size (s ++ t) = size s + size t := by
  simp only [size_eq_length, encode, List.flatMap_append, List.length_append]

theorem size_toList (s : String) : size s.toList = s.utf8ByteSize := by
  rw [size_eq_length, String.utf8ByteSize, ← String.utf8Encode_toList, List.utf8Encode,
    List.size_toByteArray]
  rfl

end Converge.Text.Utf8

namespace Converge.Text

def toOctets (s : String) : Utf8.Octets := Utf8.encode s.toList

def ofOctets? (octets : Utf8.Octets) : Option String :=
  (Utf8.decode? octets).map String.ofList

def ofOctetsLossy (octets : Utf8.Octets) : String := String.ofList (Utf8.decodeLossy octets)

end Converge.Text
