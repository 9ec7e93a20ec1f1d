import Mathlib.Tactic.SplitIfs
import Converge.Path

set_option autoImplicit false

namespace Converge

namespace Text.Utf8

-- A started character never takes an octet with which one can start.
def Partial.IsTailed (p : Partial) : Prop := 0x80 ≤ p.low ∧ p.high ≤ 0xBF

theorem Partial.isTailed_take (p : Partial) (octet : UInt8) : (p.take octet).IsTailed :=
  ⟨Nat.le_refl _, Nat.le_refl _⟩

theorem isTailed_of_lead {octet : UInt8} {start : Partial} (more : lead octet = .more start) :
    start.IsTailed := by
  simp only [lead] at more
  split_ifs at more <;> simp_all [Partial.IsTailed] <;> simp [← more]

theorem scanFrom_restart {p : Partial} {octet : UInt8}
    (out : ¬ (p.low ≤ octet.toNat ∧ octet.toNat ≤ p.high)) (rest : Octets) :
    scanFrom (some p) (octet :: rest) = none :: scanFrom none (octet :: rest) := by
  simp [scanFrom, out]

theorem scanFrom_single {octet : UInt8} {c : Char} (single : lead octet = .single c)
    (rest : Octets) : scanFrom none (octet :: rest) = some c :: scanFrom none rest := by
  simp [scanFrom, single]

theorem scanFrom_more {octet : UInt8} {start : Partial} (more : lead octet = .more start)
    (rest : Octets) : scanFrom none (octet :: rest) = scanFrom (some start) rest := by
  simp [scanFrom, more]

section

variable {low high bits n : Nat} (least : low ≤ n % 64 + 0x80) (most : n % 64 + 0x80 ≤ high)
  (rest : Octets)

include least most

theorem scanFrom_last :
    scanFrom (some ⟨1, low, high, bits⟩) (UInt8.ofNat (n % 64 + 0x80) :: rest) =
      some (Char.ofNat (bits * 64 + n % 64)) :: scanFrom none rest := by
  have value : (n % 64 + 0x80) % 256 = n % 64 + 0x80 := by omega
  simp [scanFrom, Partial.take, value, least, most]

theorem scanFrom_tail (owed : Nat) :
    scanFrom (some ⟨owed + 2, low, high, bits⟩) (UInt8.ofNat (n % 64 + 0x80) :: rest) =
      scanFrom (some ⟨owed + 1, 0x80, 0xBF, bits * 64 + n % 64⟩) rest := by
  have value : (n % 64 + 0x80) % 256 = n % 64 + 0x80 := by omega
  simp [scanFrom, Partial.take, value, least, most]

end

theorem lead_two {v : Nat} (least : 0x80 ≤ v) (most : v ≤ 0x7FF) :
    lead (UInt8.ofNat (v / 64 % 32 + 0xC0)) = .more ⟨1, 0x80, 0xBF, v / 64⟩ := by
  have value : (UInt8.ofNat (v / 64 % 32 + 0xC0)).toNat = v / 64 + 0xC0 := by
    simp only [UInt8.toNat_ofNat']
    omega
  simp only [lead, value]
  split_ifs <;> first | omega | simp

theorem lead_three {v : Nat} (least : 0x800 ≤ v) (most : v ≤ 0xFFFF)
    (valid : v < 0xD800 ∨ 0xDFFF < v) :
    ∃ low high, lead (UInt8.ofNat (v / 4096 % 16 + 0xE0)) = .more ⟨2, low, high, v / 4096⟩ ∧
      low ≤ v / 64 % 64 + 0x80 ∧ v / 64 % 64 + 0x80 ≤ high := by
  have value : (UInt8.ofNat (v / 4096 % 16 + 0xE0)).toNat = v / 4096 + 0xE0 := by
    simp only [UInt8.toNat_ofNat']
    omega
  simp only [lead, value]
  split_ifs <;> first
    | omega
    | simp only [Lead.more.injEq, Partial.mk.injEq, true_and]
      exact ⟨_, _, ⟨rfl, rfl, by omega⟩, by omega, by omega⟩

theorem lead_four {v : Nat} (least : 0x10000 ≤ v) (most : v < 0x110000) :
    ∃ low high, lead (UInt8.ofNat (v / 262144 % 8 + 0xF0)) = .more ⟨3, low, high, v / 262144⟩ ∧
      low ≤ v / 4096 % 64 + 0x80 ∧ v / 4096 % 64 + 0x80 ≤ high := by
  have value : (UInt8.ofNat (v / 262144 % 8 + 0xF0)).toNat = v / 262144 + 0xF0 := by
    simp only [UInt8.toNat_ofNat']
    omega
  simp only [lead, value]
  split_ifs <;> first
    | omega
    | simp only [Lead.more.injEq, Partial.mk.injEq, true_and]
      exact ⟨_, _, ⟨rfl, rfl, by omega⟩, by omega, by omega⟩

theorem scanFrom_encodeChar (c : Char) (rest : Octets) :
    scanFrom none (String.utf8EncodeChar c ++ rest) = some c :: scanFrom none rest := by
  have ofNat {n : Nat} (same : n = c.val.toNat) : Char.ofNat n = c := same ▸ Char.ofNat_toNat c
  have valid : c.val.toNat < 0xD800 ∨ 0xDFFF < c.val.toNat ∧ c.val.toNat < 0x110000 := c.valid
  simp only [String.utf8EncodeChar]
  split_ifs with one two three
  · have single : lead (UInt8.ofNat c.val.toNat) = .single c := by
      have value : c.val.toNat % 256 = c.val.toNat := by omega
      have ascii : c.val.toNat < 0x80 := by omega
      simp only [lead, UInt8.toNat_ofNat', Nat.reducePow, value, ascii, if_true, ofNat rfl]
    exact scanFrom_single single rest
  · rw [List.cons_append, scanFrom_more (lead_two (by omega) two), List.cons_append,
      scanFrom_last (by omega) (by omega), ofNat (by omega), List.nil_append]
  · obtain ⟨low, high, more, least, most⟩ := lead_three (by omega) three (by omega)
    rw [List.cons_append, scanFrom_more more, List.cons_append, scanFrom_tail least most,
      List.cons_append, scanFrom_last (by omega) (by omega), ofNat (by omega), List.nil_append]
  · obtain ⟨low, high, more, least, most⟩ :=
      lead_four (v := c.val.toNat) (by omega) (by omega)
    rw [List.cons_append, scanFrom_more more, List.cons_append, scanFrom_tail least most,
      List.cons_append, scanFrom_tail (by omega) (by omega), List.cons_append,
      scanFrom_last (by omega) (by omega), ofNat (by omega), List.nil_append]

theorem scan_encode (s : List Char) : scan (encode s) = s.map some := by
  induction s with
  | nil => rfl
  | cons c s ih => exact (scanFrom_encodeChar c (encode s)).trans (congrArg _ ih)

-- No octet with which a character starts belongs to one that started before.
theorem encodeChar_starts (c : Char) :
    ∃ octet rest, String.utf8EncodeChar c = octet :: rest ∧
      (octet.toNat < 0x80 ∨ 0xBF < octet.toNat) := by
  simp only [String.utf8EncodeChar]
  split_ifs <;> refine ⟨_, _, rfl, ?_⟩ <;> simp only [UInt8.toNat_ofNat'] <;> omega

theorem scanFrom_append_encode (octets : Octets) (state : Option Partial)
    (tailed : ∀ p ∈ state, p.IsTailed) (s : List Char) :
    scanFrom state (octets ++ encode s) = scanFrom state octets ++ s.map some := by
  induction octets generalizing state with
  | nil =>
    cases state with
    | none => exact scan_encode s
    | some p =>
      cases s with
      | nil => simp [encode]
      | cons c s =>
        obtain ⟨octet, rest, parts, start⟩ := encodeChar_starts c
        have out : ¬ (p.low ≤ octet.toNat ∧ octet.toNat ≤ p.high) := by
          have := tailed p rfl
          simp only [Partial.IsTailed] at this
          omega
        have whole : encode (c :: s) = octet :: (rest ++ encode s) := by
          rw [← List.cons_append, ← parts]
          rfl
        rw [List.nil_append, whole, scanFrom_restart out, ← whole]
        exact congrArg _ (scan_encode (c :: s))
  | cons octet rest ih =>
    have fresh : scanFrom none (octet :: rest ++ encode s) =
        scanFrom none (octet :: rest) ++ s.map some := by
      simp only [List.cons_append, scanFrom]
      cases start : lead octet with
      | single c => simp [ih]
      | more p =>
        refine ih _ fun q member => ?_
        cases member
        exact isTailed_of_lead start
      | fault => simp [ih]
    cases state with
    | none => exact fresh
    | some p =>
      by_cases inside : p.low ≤ octet.toNat ∧ octet.toNat ≤ p.high
      · have goesOn := ih (some (p.take octet)) fun q member => by
          cases member
          exact p.isTailed_take octet
        by_cases last : (p.take octet).owed = 0 <;> simp [scanFrom, inside, last, ih, goesOn]
      · rw [List.cons_append, scanFrom_restart inside, scanFrom_restart inside, ← List.cons_append,
          fresh, List.cons_append]

theorem decodeLossy_append_encode (octets : Octets) (s : List Char) :
    decodeLossy (octets ++ encode s) = decodeLossy octets ++ s := by
  simp [decodeLossy, scan, scanFrom_append_encode, Function.comp_def]

theorem decode?_encode (s : List Char) : decode? (encode s) = some s := by
  induction s with
  | nil => rfl
  | cons c s ih => simp_all [decode?, scan_encode]

section Unscan

variable {p : Partial} {octets : Octets} {c : Char} {found : List (Option Char)}

theorem last_of_scanFrom (one : p.owed = 1)
    (scanned : scanFrom (some p) octets = some c :: found) :
    ∃ octet rest, octets = octet :: rest ∧ p.low ≤ octet.toNat ∧ octet.toNat ≤ p.high ∧
      c = Char.ofNat (p.bits * 64 + (octet.toNat - 0x80)) ∧ scanFrom none rest = found := by
  cases octets with
  | nil => simp [scanFrom] at scanned
  | cons octet rest =>
    by_cases inside : p.low ≤ octet.toNat ∧ octet.toNat ≤ p.high
    · simp only [scanFrom, Partial.take, inside, one, decide_true, Bool.and_self, if_true,
        Nat.sub_self, List.cons.injEq, Option.some.injEq] at scanned
      exact ⟨octet, rest, rfl, inside.1, inside.2, scanned.1.symm, scanned.2⟩
    · simp [scanFrom_restart inside] at scanned

theorem tail_of_scanFrom (more : 2 ≤ p.owed)
    (scanned : scanFrom (some p) octets = some c :: found) :
    ∃ octet rest, octets = octet :: rest ∧ p.low ≤ octet.toNat ∧ octet.toNat ≤ p.high ∧
      scanFrom (some (p.take octet)) rest = some c :: found := by
  cases octets with
  | nil => simp [scanFrom] at scanned
  | cons octet rest =>
    by_cases inside : p.low ≤ octet.toNat ∧ octet.toNat ≤ p.high
    · have owed : (p.take octet).owed ≠ 0 := by
        simp only [Partial.take]
        omega
      simp only [scanFrom, inside, decide_true, Bool.and_self, if_true, owed, if_false] at scanned
      exact ⟨octet, rest, rfl, inside.1, inside.2, scanned⟩
    · simp [scanFrom_restart inside] at scanned

theorem single_of_lead {octet : UInt8} (single : lead octet = .single c) :
    octet.toNat < 0x80 ∧ Char.ofNat octet.toNat = c := by
  simp only [lead] at single
  split_ifs at single with ascii
  cases single
  exact ⟨ascii, rfl⟩

-- What an octet starts, by the length of the character. Each range keeps out the longer ways of
-- writing a character and the surrogates.
def Partial.IsOfTwo (p : Partial) (octet : UInt8) : Prop :=
  p.owed = 1 ∧ 0xC2 ≤ octet.toNat ∧ octet.toNat ≤ 0xDF ∧ p.bits = octet.toNat - 0xC0 ∧
    0x80 ≤ p.low ∧ p.high ≤ 0xBF

def Partial.IsOfThree (p : Partial) (octet : UInt8) : Prop :=
  p.owed = 2 ∧ 0xE0 ≤ octet.toNat ∧ octet.toNat ≤ 0xEF ∧ p.bits = octet.toNat - 0xE0 ∧
    0x80 ≤ p.low ∧ p.high ≤ 0xBF ∧ (octet.toNat = 0xE0 → 0xA0 ≤ p.low) ∧
    (octet.toNat = 0xED → p.high ≤ 0x9F)

def Partial.IsOfFour (p : Partial) (octet : UInt8) : Prop :=
  p.owed = 3 ∧ 0xF0 ≤ octet.toNat ∧ octet.toNat ≤ 0xF4 ∧ p.bits = octet.toNat - 0xF0 ∧
    0x80 ≤ p.low ∧ p.high ≤ 0xBF ∧ (octet.toNat = 0xF0 → 0x90 ≤ p.low) ∧
    (octet.toNat = 0xF4 → p.high ≤ 0x8F)

theorem more_of_lead {octet : UInt8} (more : lead octet = .more p) :
    p.IsOfTwo octet ∨ p.IsOfThree octet ∨ p.IsOfFour octet := by
  simp only [Partial.IsOfTwo, Partial.IsOfThree, Partial.IsOfFour]
  simp only [lead] at more
  split_ifs at more <;> cases more <;> dsimp only <;> omega

theorem toNat_ofNat {v : Nat} (valid : v < 0xD800 ∨ 0xDFFF < v ∧ v < 0x110000) :
    (Char.ofNat v).val.toNat = v := by
  have isValid : v.isValidChar := valid
  rw [Char.ofNat, dif_pos isValid]
  rfl

theorem ofNat_eq {n : Nat} (octet : UInt8) (same : n = octet.toNat) : UInt8.ofNat n = octet := by
  rw [same, UInt8.ofNat_toNat]

section

variable {octet : UInt8} (scanned : scanFrom (some p) octets = some c :: found)

include scanned

theorem encodeChar_of_two (starts : p.IsOfTwo octet) :
    ∃ rest, octet :: octets = String.utf8EncodeChar c ++ rest ∧ scanFrom none rest = found := by
  obtain ⟨owed, range⟩ := starts
  obtain ⟨one, rest, rfl, least, most, found, scanned⟩ := last_of_scanFrom owed scanned
  refine ⟨rest, ?_, scanned⟩
  have value : c.val.toNat = p.bits * 64 + (one.toNat - 0x80) := found ▸ toNat_ofNat (by omega)
  rw [String.utf8EncodeChar, value, if_neg (by omega), if_pos (by omega),
    ofNat_eq octet (by omega), ofNat_eq one (by omega)]
  rfl

theorem encodeChar_of_three (starts : p.IsOfThree octet) :
    ∃ rest, octet :: octets = String.utf8EncodeChar c ++ rest ∧ scanFrom none rest = found := by
  obtain ⟨owed, range⟩ := starts
  obtain ⟨one, rest, rfl, least, most, scanned⟩ := tail_of_scanFrom (by omega) scanned
  obtain ⟨two, rest, rfl, leastToo, mostToo, found, scanned⟩ :=
    last_of_scanFrom (by simp only [Partial.take]; omega) scanned
  refine ⟨rest, ?_, scanned⟩
  simp only [Partial.take] at leastToo mostToo found
  have value : c.val.toNat = (p.bits * 64 + (one.toNat - 0x80)) * 64 + (two.toNat - 0x80) :=
    found ▸ toNat_ofNat (by omega)
  rw [String.utf8EncodeChar, value, if_neg (by omega), if_neg (by omega), if_pos (by omega),
    ofNat_eq octet (by omega), ofNat_eq one (by omega),
    ofNat_eq two (by omega)]
  rfl

theorem encodeChar_of_four (starts : p.IsOfFour octet) :
    ∃ rest, octet :: octets = String.utf8EncodeChar c ++ rest ∧ scanFrom none rest = found := by
  obtain ⟨owed, range⟩ := starts
  obtain ⟨one, rest, rfl, least, most, scanned⟩ := tail_of_scanFrom (by omega) scanned
  obtain ⟨two, rest, rfl, leastToo, mostToo, scanned⟩ :=
    tail_of_scanFrom (by simp only [Partial.take]; omega) scanned
  obtain ⟨three, rest, rfl, leastAgain, mostAgain, found, scanned⟩ :=
    last_of_scanFrom (by simp only [Partial.take]; omega) scanned
  refine ⟨rest, ?_, scanned⟩
  simp only [Partial.take] at leastToo mostToo leastAgain mostAgain found
  have value : c.val.toNat = ((p.bits * 64 + (one.toNat - 0x80)) * 64 + (two.toNat - 0x80)) * 64 +
      (three.toNat - 0x80) :=
    found ▸ toNat_ofNat (by omega)
  rw [String.utf8EncodeChar, value, if_neg (by omega), if_neg (by omega), if_neg (by omega),
    ofNat_eq octet (by omega), ofNat_eq one (by omega),
    ofNat_eq two (by omega), ofNat_eq three (by omega)]
  rfl

end

-- A character that was found stands in front in the only way in which it can be written.
theorem encodeChar_of_scanFrom (scanned : scanFrom none octets = some c :: found) :
    ∃ rest, octets = String.utf8EncodeChar c ++ rest ∧ scanFrom none rest = found := by
  cases octets with
  | nil => simp [scanFrom] at scanned
  | cons octet octets =>
    cases start : lead octet with
    | single d =>
      rw [scanFrom_single start, List.cons.injEq] at scanned
      obtain ⟨⟨⟩, rfl⟩ := scanned
      obtain ⟨ascii, rfl⟩ := single_of_lead start
      have value : (Char.ofNat octet.toNat).val.toNat = octet.toNat := toNat_ofNat (by omega)
      refine ⟨octets, ?_, rfl⟩
      rw [String.utf8EncodeChar, value, if_pos (by omega), ofNat_eq octet rfl]
      rfl
    | fault => simp [scanFrom, start] at scanned
    | more p =>
      rw [scanFrom_more start] at scanned
      rcases more_of_lead start with two | three | four
      · exact encodeChar_of_two scanned two
      · exact encodeChar_of_three scanned three
      · exact encodeChar_of_four scanned four

theorem scanFrom_some_ne_nil (p : Partial) (octets : Octets) : scanFrom (some p) octets ≠ [] := by
  induction octets generalizing p with
  | nil => simp [scanFrom]
  | cons octet rest ih =>
    by_cases inside : p.low ≤ octet.toNat ∧ octet.toNat ≤ p.high
    · by_cases last : (p.take octet).owed = 0 <;> simp [scanFrom, inside, last, ih]
    · simp [scanFrom_restart inside]

theorem scan_cons_ne_nil (octet : UInt8) (rest : Octets) : scan (octet :: rest) ≠ [] := by
  cases start : lead octet <;> simp [scan, scanFrom, start, scanFrom_some_ne_nil]

theorem encode_of_scan {s : List Char} (scanned : scan octets = s.map some) :
    octets = encode s := by
  induction s generalizing octets with
  | nil =>
    cases octets with
    | nil => rfl
    | cons octet rest => exact absurd scanned (scan_cons_ne_nil octet rest)
  | cons c s ih =>
    obtain ⟨rest, rfl, left⟩ := encodeChar_of_scanFrom scanned
    rw [ih left]
    rfl

end Unscan

theorem toNat_of_mem_encodeChar {c : Char} {octet : UInt8}
    (member : octet ∈ String.utf8EncodeChar c) (ascii : octet.toNat < 0x80) :
    c.toNat = octet.toNat := by
  change c.val.toNat = octet.toNat
  simp only [String.utf8EncodeChar] at member
  split_ifs at member <;> simp only [List.mem_cons, List.not_mem_nil, or_false] at member
  · rw [member, UInt8.toNat_ofNat']
    omega
  all_goals
    rcases member with rfl | rfl | rfl | rfl <;> simp only [UInt8.toNat_ofNat'] at ascii <;> omega

theorem encode_injective {s t : List Char} (same : encode s = encode t) : s = t :=
  Option.some.inj (by rw [← decode?_encode, same, decode?_encode])

end Text.Utf8

namespace Text

theorem mem_toOctets {c : Char} (ascii : c.toNat < 0x80) (s : String) :
    UInt8.ofNat c.toNat ∈ toOctets s ↔ c ∈ s.toList := by
  have value : (UInt8.ofNat c.toNat).toNat = c.toNat := by
    rw [UInt8.toNat_ofNat']
    omega
  rw [toOctets, Utf8.encode, List.mem_flatMap]
  constructor
  · rintro ⟨other, member, inside⟩
    have same := Utf8.toNat_of_mem_encodeChar inside (value.symm ▸ ascii)
    rwa [← Char.toNat_inj.1 (same.trans value)]
  · intro member
    refine ⟨c, member, ?_⟩
    have small : c.val.toNat ≤ 0x7F := Nat.le_of_lt_succ ascii
    rw [String.utf8EncodeChar, if_pos small]
    exact List.mem_singleton_self _

theorem toOctets_append (s t : String) : toOctets (s ++ t) = toOctets s ++ toOctets t := by
  simp [toOctets, Utf8.encode]

@[simp] theorem ofOctets?_toOctets (s : String) : ofOctets? (toOctets s) = some s := by
  simp [ofOctets?, toOctets, Utf8.decode?_encode]

theorem toOctets_injective {s t : String} (same : toOctets s = toOctets t) : s = t :=
  String.toList_inj.1 (Utf8.encode_injective same)

end Text

namespace OsString

@[simp] theorem ofText_inj {s t : String} : ofText s = ofText t ↔ s = t :=
  ⟨fun same => Text.toOctets_injective (OsString.mk.inj same), congrArg ofText⟩

@[simp] theorem ofText_beq (s t : String) : (ofText s == ofText t) = (s == t) := by
  rw [Bool.eq_iff_iff, beq_iff_eq, beq_iff_eq, ofText_inj]

theorem ofText_append (s t : String) : ofText (s ++ t) = ofText s ++ ofText t :=
  congrArg OsString.mk (Text.toOctets_append s t)

@[simp] theorem length_octets (s : String) : (ofText s).octets.length = Text.Utf8.size s.toList :=
  (Text.Utf8.size_eq_length s.toList).symm

@[simp] theorem append_octets (a b : OsString) : (a ++ b).octets = a.octets ++ b.octets := rfl

@[simp] theorem append_empty (a : OsString) : a ++ ofText "" = a :=
  OsString.ext (List.append_nil _)

theorem append_assoc (a b c : OsString) : a ++ b ++ c = a ++ (b ++ c) :=
  OsString.ext (List.append_assoc _ _ _)

theorem append_left_inj {a b : OsString} (c : OsString) : a ++ c = b ++ c ↔ a = b := by
  simp [OsString.ext_iff]

theorem append_right_inj (a : OsString) {b c : OsString} : a ++ b = a ++ c ↔ b = c := by
  simp [OsString.ext_iff]

-- What is shown of a name with a text at its end ends in that text.
theorem text_append (a : OsString) (s : String) : (a ++ ofText s).text = a.text ++ s := by
  simp [text, Text.ofOctetsLossy, append_octets, ofText, Text.toOctets,
    Text.Utf8.decodeLossy_append_encode, String.ofList_append]

@[simp] theorem text_ofText (s : String) : (ofText s).text = s := by
  simpa [text, Text.ofOctetsLossy, Text.Utf8.decodeLossy, Text.Utf8.scan, Text.Utf8.scanFrom,
    append_octets] using text_append ⟨[]⟩ s

-- An octet of ASCII is shown as its own character at the front.
theorem head?_text {path : OsString} {octet : UInt8} (first : path.octets.head? = some octet)
    (ascii : octet.toNat < 0x80) : path.text.toList.head? = some (Char.ofNat octet.toNat) := by
  obtain ⟨rest, parts⟩ : ∃ rest, path.octets = octet :: rest := by
    cases whole : path.octets <;> simp_all
  have single : Text.Utf8.lead octet = .single (Char.ofNat octet.toNat) := by
    simp [Text.Utf8.lead, ascii]
  simp [text, Text.ofOctetsLossy, Text.Utf8.decodeLossy, Text.Utf8.scan, parts,
    Text.Utf8.scanFrom_single single]

-- Only a fault can be shown as another name is: without a replacement character, the text shown is
-- the name.
theorem text_eq_iff {s : OsString} {t : String} (whole : Text.Utf8.replacement ∉ t.toList) :
    s.text = t ↔ s = ofText t := by
  refine ⟨fun shown => OsString.ext (Text.Utf8.encode_of_scan ?_), fun same => same ▸ text_ofText t⟩
  have letters : Text.Utf8.decodeLossy s.octets = t.toList := by
    rw [← shown, text, Text.ofOctetsLossy, String.toList_ofList]
  rw [← letters, Text.Utf8.decodeLossy, List.map_map]
  refine (List.map_id _).symm.trans (List.map_congr_left fun found member => ?_)
  cases found with
  | some c => rfl
  | none => exact absurd (letters ▸ List.mem_map_of_mem member) whole

@[simp] theorem text?_ofText (s : String) : (ofText s).text? = some s :=
  Text.ofOctets?_toOctets s

end OsString

end Converge
