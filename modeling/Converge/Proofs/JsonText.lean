import Converge.Json.Reader
import Converge.Json.Value
import Converge.Proofs.Digits

set_option autoImplicit false

namespace Converge.Json

open Text

theorem induct {P : Json → Prop} (null : P .null) (bool : ∀ b, P (.bool b))
    (number : ∀ m e, P (.number m e)) (text : ∀ s, P (.text s))
    (array : ∀ items, (∀ v ∈ items, P v) → P (.array items))
    (object : ∀ members, (∀ m ∈ members, P m.2) → P (.object members)) (v : Json) : P v :=
  match v with
  | .null => null
  | .bool b => bool b
  | .number m e => number m e
  | .text s => text s
  | .array items => array items fun v _ => induct null bool number text array object v
  | .object members =>
    object members fun (_, v) _ => induct null bool number text array object v
  termination_by sizeOf v
  decreasing_by
    · decreasing_tactic
    · next member =>
      have smaller := List.sizeOf_lt_of_mem member
      simp only [Prod.mk.sizeOf_spec, Json.object.sizeOf_spec] at smaller ⊢
      omega

section Strings

theorem fourHex_of_isHex {a b : Char} (hex : Reader.isHex a = true ∧ Reader.isHex b = true)
    (rest : List Char) : Grammar.fourHex ('0' :: '0' :: a :: b :: rest) =
      some (Reader.inBase 16 ['0', '0', a, b], rest) := by
  have zero : Reader.isHex '0' = true := by decide
  simp [Grammar.fourHex, Reader.count, hex.1, hex.2, zero]

theorem hexDigits_of_control : ∀ n < 0x20,
    (Reader.isHex (hexDigit (n / 16)) = true ∧ Reader.isHex (hexDigit (n % 16)) = true) ∧
      Reader.inBase 16 ['0', '0', hexDigit (n / 16), hexDigit (n % 16)] = n := by
  decide

theorem textChar_escape (c : Char) (rest : List Char) :
    Grammar.textChar (escape c ++ rest) = some (c, rest) := by
  unfold escape
  split_ifs with quote slash feed return_ tab back form control
  rotate_left 7
  · obtain ⟨hex, value⟩ := hexDigits_of_control c.toNat control
    have low : c.toNat < 0xD800 := by omega
    have pair : ¬ 0xD800 ≤ c.toNat := by omega
    simp [Grammar.textChar, Grammar.unicodeEscape, fourHex_of_isHex hex, value, pair,
      Reader.charAt?, low]
  · simp [Grammar.textChar, quote, slash, control]
  all_goals
    subst_vars
    rfl

theorem many_cons {α : Type} {item : Reader α} {s rest : List Char} {a : α}
    (read : item s = some (a, rest)) (shorter : rest.length < s.length) :
    Reader.many item s = (a :: (Reader.many item rest).1, (Reader.many item rest).2) := by
  rw [Reader.many]
  simp [read, shorter]

theorem escape_ne_nil (c : Char) : escape c ≠ [] := by
  unfold escape
  split_ifs <;> simp

theorem many_textChar (s rest : List Char) :
    Reader.many Grammar.textChar (s.flatMap escape ++ '"' :: rest) = (s, '"' :: rest) := by
  induction s with
  | nil =>
    rw [Reader.many]
    simp [Grammar.textChar]
  | cons c s ih =>
    have shorter : (s.flatMap escape ++ '"' :: rest).length <
        (escape c ++ (s.flatMap escape ++ '"' :: rest)).length := by
      have long := List.length_pos_iff.2 (escape_ne_nil c)
      simp only [List.length_append]
      omega
    rw [List.flatMap_cons, List.append_assoc, many_cons (textChar_escape c _) shorter, ih]

theorem textBody_escape (s : String) (rest : List Char) :
    Grammar.textBody (s.toList.flatMap escape ++ '"' :: rest) = some (s, rest) := by
  simp [Grammar.textBody, many_textChar, Reader.exactly]

theorem cancel_renderText {s t : String} {x y : List Char}
    (same : renderText s ++ x = renderText t ++ y) : s = t ∧ x = y := by
  simp only [renderText, List.cons_append, List.append_assoc, List.nil_append, List.cons.injEq,
    true_and] at same
  have read := congrArg Grammar.textBody same
  rw [textBody_escape, textBody_escape] at read
  simpa using read

end Strings

section Values

/-- What may follow a value: nothing, or a comma or the end of what it is in. -/
def Ends (x : List Char) : Prop := ∀ c ∈ x.head?, c = ',' ∨ c = ']' ∨ c = '\x7d'

theorem ends_nil : Ends [] := by simp [Ends]

theorem ends_cons {c : Char} (ending : c = ',' ∨ c = ']' ∨ c = '\x7d') (x : List Char) :
    Ends (c :: x) := by
  simpa [Ends] using ending

theorem Ends.clear {x : List Char} (ends : Ends x) : Clear Decimal.isDigit x := by
  intro c start
  rcases ends c start with rfl | rfl | rfl <;> rfl

theorem cancel_renderNumber {m n e f : Int} {x y : List Char} (ends : Ends x) (endsToo : Ends y)
    (same : renderNumber m e ++ x = renderNumber n f ++ y) : m = n ∧ e = f ∧ x = y := by
  have letter : Decimal.isDigit 'e' = false := by decide
  simp only [renderNumber, List.append_assoc] at same
  split_ifs at same with whole wholeToo wholeToo
  · obtain ⟨rfl, rest⟩ := Decimal.cancel_ofInt ends.clear endsToo.clear same
    exact ⟨rfl, by rw [whole, wholeToo], rest⟩
  · obtain ⟨-, rest⟩ := Decimal.cancel_ofInt ends.clear (.of_cons letter _) same
    have start := ends 'e' (by simp [show x = _ from rest])
    simp at start
  · obtain ⟨-, rest⟩ := Decimal.cancel_ofInt (.of_cons letter _) endsToo.clear same
    have start := endsToo 'e' (by simp [show y = _ from rest.symm])
    simp at start
  · obtain ⟨rfl, rest⟩ := Decimal.cancel_ofInt (.of_cons letter _) (.of_cons letter _) same
    obtain ⟨rfl, after⟩ := Decimal.cancel_ofInt ends.clear endsToo.clear (List.cons.inj rest).2
    exact ⟨rfl, rfl, after⟩

-- The kinds of values, as their first characters tell them. A last kind is for what starts none.
def kind : Json → Nat
  | .null => 0
  | .bool _ => 1
  | .number _ _ => 2
  | .text _ => 3
  | .array _ => 4
  | .object _ => 5

def kindOf (c : Char) : Nat :=
  if c = 'n' then 0
  else if c = 't' ∨ c = 'f' then 1
  else if c = '"' then 3
  else if c = '[' then 4
  else if c = '\x7b' then 5
  else if c = '-' ∨ Decimal.isDigit c = true then 2
  else 6

theorem kindOf_of_isDigit {c : Char} (digit : Decimal.isDigit c = true) : kindOf c = 2 := by
  have other (d : Char) (letter : Decimal.isDigit d = false) : c ≠ d := by
    rintro rfl
    simp [digit] at letter
  simp [kindOf, digit, other 'n' rfl, other 't' rfl, other 'f' rfl, other '"' rfl, other '[' rfl,
    other '\x7b' rfl]

theorem render_start (v : Json) (x : List Char) :
    ∃ c rest, render v ++ x = c :: rest ∧ kindOf c = kind v := by
  cases v with
  | null => exact ⟨'n', _, rfl, rfl⟩
  | bool b => cases b <;> exact ⟨_, _, rfl, rfl⟩
  | number m e =>
    unfold render renderNumber Decimal.ofInt
    split
    next => exact ⟨'-', _, rfl, rfl⟩
    next =>
      obtain ⟨c, rest, parts, digit⟩ := Decimal.head?_ofNat m.natAbs _
      exact ⟨c, rest, by rw [List.append_assoc, parts], kindOf_of_isDigit digit⟩
  | text s => exact ⟨'"', _, rfl, rfl⟩
  | array items => exact ⟨'[', _, rfl, rfl⟩
  | object members => exact ⟨'\x7b', _, rfl, rfl⟩

theorem kind_eq_of_render {a b : Json} {x y : List Char} (same : render a ++ x = render b ++ y) :
    kind a = kind b := by
  obtain ⟨c, rest, parts, first⟩ := render_start a x
  obtain ⟨d, restToo, partsToo, second⟩ := render_start b y
  rw [parts, partsToo] at same
  rw [← first, ← second, (List.cons.inj same).1]

theorem render_ne_close (v : Json) (x y : List Char) : render v ++ x ≠ ']' :: y := by
  obtain ⟨c, rest, parts, first⟩ := render_start v x
  rw [parts]
  rintro ⟨⟩
  have none : kindOf ']' = 6 := by decide
  cases v <;> simp [none, kind] at first

def joined {α : Type} (f : α → List Char) : List α → List Char
  | [] => []
  | [a] => f a
  | a :: rest => f a ++ ',' :: joined f rest

theorem renderItems_eq (items : List Json) : renderItems items = joined render items := by
  induction items with
  | nil => rfl
  | cons v rest ih => cases rest <;> simp_all [renderItems, joined]

def renderMember (m : String × Json) : List Char := renderText m.1 ++ ':' :: render m.2

theorem renderMembers_eq (members : List (String × Json)) :
    renderMembers members = joined renderMember members := by
  induction members with
  | nil => rfl
  | cons m rest ih => cases rest <;> simp_all [renderMembers, joined, renderMember]

theorem joined_cons {α : Type} (f : α → List Char) (a : α) (rest : List α) (x : List Char) :
    joined f (a :: rest) ++ x =
      f a ++ if rest.isEmpty then x else ',' :: (joined f rest ++ x) := by
  cases rest <;> simp [joined]

theorem cancel_joined {α : Type} {f : α → List Char} {close : Char}
    (closes : close = ']' ∨ close = '\x7d') (opens : ∀ a x y, f a ++ x ≠ close :: y)
    {as : List α} (each : ∀ a ∈ as, ∀ b x y, Ends x → Ends y → f a ++ x = f b ++ y → a = b ∧ x = y)
    {bs : List α} {x y : List Char} (same : joined f as ++ close :: x = joined f bs ++ close :: y) :
    as = bs ∧ x = y := by
  have comma : close ≠ ',' := by rcases closes with rfl | rfl <;> decide
  have ends (last : Bool) (x z : List Char) : Ends (if last then close :: x else ',' :: z) := by
    cases last
    · exact ends_cons (.inl rfl) z
    · exact ends_cons (.inr closes) x
  induction as generalizing bs with
  | nil =>
    cases bs with
    | nil => exact ⟨rfl, (List.cons.inj same).2⟩
    | cons b bs =>
      rw [joined_cons] at same
      exact absurd same.symm (opens b _ _)
  | cons a as ih =>
    cases bs with
    | nil =>
      rw [joined_cons] at same
      exact absurd same (opens a _ _)
    | cons b bs =>
      rw [joined_cons, joined_cons] at same
      obtain ⟨rfl, rest⟩ := each a (by simp) b _ _ (ends _ _ _) (ends _ _ _) same
      -- Both lists end here, or both go on after a comma.
      cases as with
      | nil =>
        cases bs with
        | nil => exact ⟨rfl, (List.cons.inj rest).2⟩
        | cons => exact absurd (List.cons.inj rest).1 comma
      | cons =>
        cases bs with
        | nil => exact absurd (List.cons.inj rest).1.symm comma
        | cons =>
          obtain ⟨later, after⟩ :=
            ih (fun c member => each c (by simp [member])) (List.cons.inj rest).2
          exact ⟨by rw [later], after⟩

-- Texts of values cancel at the front: what follows them is told apart from them.
theorem cancel_render (a : Json) : ∀ (b : Json) (x y : List Char), Ends x → Ends y →
    render a ++ x = render b ++ y → a = b ∧ x = y := by
  induction a using induct with
  | null =>
    intro b x y _ _ same
    have alike := kind_eq_of_render same
    cases b <;> simp [kind] at alike
    exact ⟨rfl, List.append_cancel_left same⟩
  | bool p =>
    intro b x y _ _ same
    have alike := kind_eq_of_render same
    cases b <;> simp [kind] at alike
    next q => cases p <;> cases q <;> simp [render] at same ⊢ <;> exact same
  | number m e =>
    intro b x y ends endsToo same
    have alike := kind_eq_of_render same
    cases b <;> simp [kind] at alike
    obtain ⟨rfl, rfl, rest⟩ := cancel_renderNumber ends endsToo same
    exact ⟨rfl, rest⟩
  | text s =>
    intro b x y _ _ same
    have alike := kind_eq_of_render same
    cases b <;> simp [kind] at alike
    obtain ⟨rfl, rest⟩ := cancel_renderText same
    exact ⟨rfl, rest⟩
  | array items ih =>
    intro b x y _ _ same
    have alike := kind_eq_of_render same
    cases b <;> simp [kind] at alike
    next others =>
      simp only [render, renderItems_eq, List.cons_append, List.append_assoc, List.nil_append,
        List.cons.injEq, true_and] at same
      obtain ⟨rfl, rest⟩ := cancel_joined (.inl rfl) render_ne_close ih same
      exact ⟨rfl, rest⟩
  | object members ih =>
    intro b x y _ _ same
    have alike := kind_eq_of_render same
    cases b <;> simp [kind] at alike
    next others =>
      simp only [render, renderMembers_eq, List.cons_append, List.append_assoc, List.nil_append,
        List.cons.injEq, true_and] at same
      have opens (m : String × Json) (x y : List Char) : renderMember m ++ x ≠ '\x7d' :: y := by
        simp [renderMember, renderText]
      have each : ∀ m ∈ members, ∀ other x y, Ends x → Ends y →
          renderMember m ++ x = renderMember other ++ y → m = other ∧ x = y := by
        intro m member other x y ends endsToo same
        simp only [renderMember, List.append_assoc, List.cons_append] at same
        obtain ⟨key, rest⟩ := cancel_renderText same
        obtain ⟨value, after⟩ := ih m member other.2 x y ends endsToo (List.cons.inj rest).2
        exact ⟨Prod.ext key value, after⟩
      obtain ⟨rfl, rest⟩ := cancel_joined (.inr rfl) opens each same
      exact ⟨rfl, rest⟩

theorem compact_injective {a b : Json} (same : a.compact = b.compact) : a = b := by
  have chars := String.ofList_injective same
  refine (cancel_render a b [] [] ends_nil ends_nil ?_).1
  simpa using chars

end Values

section OneLine

def Printed (cs : List Char) : Prop := ∀ c ∈ cs, 0x20 ≤ c.toNat

theorem Printed.append {a b : List Char} (first : Printed a) (second : Printed b) :
    Printed (a ++ b) := by
  intro c member
  rcases List.mem_append.1 member with left | right
  · exact first c left
  · exact second c right

theorem Printed.cons {c : Char} (printed : 0x20 ≤ c.toNat) {b : List Char} (rest : Printed b) :
    Printed (c :: b) := by
  intro d member
  rcases List.mem_cons.1 member with rfl | later
  · exact printed
  · exact rest d later

theorem printed_nil : Printed [] := by simp [Printed]

theorem mem_ofInt {c : Char} {n : Int} (member : c ∈ Decimal.ofInt n) :
    c = '-' ∨ Decimal.isDigit c = true := by
  unfold Decimal.ofInt at member
  split at member
  · exact (List.mem_cons.1 member).imp_right Decimal.isDigit_ofNat
  · exact .inr (Decimal.isDigit_ofNat member)

theorem mem_renderNumber {c : Char} {m e : Int} (member : c ∈ renderNumber m e) :
    c = '-' ∨ c = 'e' ∨ '0' ≤ c ∧ c ≤ '9' := by
  have signed {n : Int} (inside : c ∈ Decimal.ofInt n) :
      c = '-' ∨ c = 'e' ∨ '0' ≤ c ∧ c ≤ '9' := by
    simpa [Decimal.isDigit] using (mem_ofInt inside).imp_right Or.inr
  rcases List.mem_append.1 member with mantissa | exponent
  · exact signed mantissa
  · split_ifs at exponent
    · cases exponent
    · rcases List.mem_cons.1 exponent with rfl | later
      · exact .inr (.inl rfl)
      · exact signed later

theorem printed_renderNumber (m e : Int) : Printed (renderNumber m e) := by
  intro c member
  rcases mem_renderNumber member with rfl | rfl | ⟨low, -⟩
  · decide
  · decide
  · exact le_trans (by decide) (show '0'.toNat ≤ c.toNat from low)

theorem printed_hexDigit : ∀ n < 0x10, 0x20 ≤ (hexDigit n).toNat := by decide

theorem printed_escape (c : Char) : Printed (escape c) := by
  unfold escape
  split_ifs with quote slash feed return_ tab back form control
  rotate_left 7
  · have high := printed_hexDigit (c.toNat / 16) (by omega)
    have low := printed_hexDigit (c.toNat % 16) (by omega)
    simpa [Printed, high] using low
  · simpa [Printed] using control
  all_goals simp [Printed]

theorem printed_renderText (s : String) : Printed (renderText s) := by
  refine .append (.cons (by decide) ?_) (.cons (by decide) printed_nil)
  intro c member
  obtain ⟨d, -, escaped⟩ := List.mem_flatMap.1 member
  exact printed_escape d c escaped

theorem printed_joined {α : Type} {f : α → List Char} {as : List α}
    (each : ∀ a ∈ as, Printed (f a)) : Printed (joined f as) := by
  induction as with
  | nil => exact printed_nil
  | cons a rest ih =>
    have later := ih fun b member => each b (by simp [member])
    cases rest with
    | nil => exact each a (by simp)
    | cons b rest => exact .append (each a (by simp)) (.cons (by decide) later)

theorem printed_render (v : Json) : Printed (render v) := by
  induction v using induct with
  | null => simp [render, Printed]
  | bool b => cases b <;> simp [render, Printed]
  | number m e => exact printed_renderNumber m e
  | text s => exact printed_renderText s
  | array items ih =>
    simp only [render, renderItems_eq]
    exact .append (.cons (by decide) (printed_joined ih)) (.cons (by decide) printed_nil)
  | object members ih =>
    simp only [render, renderMembers_eq]
    refine .append (.cons (by decide) (printed_joined fun m member => ?_))
      (.cons (by decide) printed_nil)
    exact .append (printed_renderText m.1) (.cons (by decide) (ih m member))

end OneLine

section Indented

-- Where a scan along a text stands: spaces and line breaks mean nothing between the strings.
inductive Scan where
  | between
  | inside
  | escaped

def squeeze : Scan → List Char → List Char
  | _, [] => []
  | .between, c :: rest =>
    if c = ' ' ∨ c = '\n' then squeeze .between rest
    else c :: squeeze (if c = '"' then .inside else .between) rest
  | .inside, c :: rest =>
    c :: squeeze (if c = '"' then .between else if c = '\\' then .escaped else .inside) rest
  | .escaped, c :: rest => c :: squeeze .inside rest

theorem squeeze_lineBreak (depth : Nat) (rest : List Char) :
    squeeze .between (lineBreak depth ++ rest) = squeeze .between rest := by
  have spaces (n : Nat) :
      squeeze .between (List.replicate n ' ' ++ rest) = squeeze .between rest := by
    induction n with
    | zero => rfl
    | succ n ih => simpa [List.replicate_succ, squeeze] using ih
  simpa [lineBreak, squeeze] using spaces (2 * depth)

theorem squeeze_plain {cs : List Char} (plain : ∀ c ∈ cs, c ≠ ' ' ∧ c ≠ '\n' ∧ c ≠ '"')
    (rest : List Char) :
    squeeze .between (cs ++ rest) = cs ++ squeeze .between rest := by
  induction cs with
  | nil => rfl
  | cons c cs ih =>
    obtain ⟨space, feed, quote⟩ := plain c List.mem_cons_self
    simp [squeeze, space, feed, quote, ih fun d member => plain d (List.mem_cons_of_mem _ member)]

theorem squeeze_escape (c : Char) (rest : List Char) :
    squeeze .inside (escape c ++ rest) = escape c ++ squeeze .inside rest := by
  have hex : ∀ n < 0x10, hexDigit n ≠ '"' ∧ hexDigit n ≠ '\\' := by decide
  unfold escape
  split_ifs with quote slash feed return_ tab back form control
  rotate_left 7
  · have high := hex (c.toNat / 16) (by omega)
    have low := hex (c.toNat % 16) (by omega)
    simp [squeeze, high, low]
  · simp [squeeze, quote, slash]
  all_goals simp [squeeze]

theorem squeeze_renderText (s : String) (rest : List Char) :
    squeeze .between (renderText s ++ rest) = renderText s ++ squeeze .between rest := by
  have body (cs : List Char) : squeeze .inside (cs.flatMap escape ++ '"' :: rest) =
      cs.flatMap escape ++ '"' :: squeeze .between rest := by
    induction cs with
    | nil => simp [squeeze]
    | cons c cs ih => rw [List.flatMap_cons, List.append_assoc, squeeze_escape, ih,
        List.append_assoc]
  simp [renderText, squeeze, body]

theorem plain_renderNumber {m e : Int} {c : Char} (member : c ∈ renderNumber m e) :
    c ≠ ' ' ∧ c ≠ '\n' ∧ c ≠ '"' := by
  rcases mem_renderNumber member with rfl | rfl | ⟨low, -⟩
  · decide
  · decide
  · refine ⟨?_, ?_, ?_⟩ <;> rintro rfl <;> exact absurd low (by decide)

def prettyItem (depth : Nat) (v : Json) : List Char := lineBreak depth ++ renderPretty depth v

theorem prettyItems_eq (depth : Nat) (items : List Json) :
    prettyItems depth items = joined (prettyItem depth) items := by
  induction items with
  | nil => rfl
  | cons v rest ih => cases rest <;> simp_all [prettyItems, joined, prettyItem]

def prettyMember (depth : Nat) (m : String × Json) : List Char :=
  lineBreak depth ++ (renderText m.1 ++ ':' :: ' ' :: renderPretty depth m.2)

theorem prettyMembers_eq (depth : Nat) (members : List (String × Json)) :
    prettyMembers depth members = joined (prettyMember depth) members := by
  induction members with
  | nil => rfl
  | cons m rest ih => cases rest <;> simp_all [prettyMembers, joined, prettyMember]

theorem squeeze_joined {α : Type} {f g : α → List Char} {as : List α}
    (each : ∀ a ∈ as, ∀ rest, squeeze .between (f a ++ rest) = g a ++ squeeze .between rest)
    (rest : List Char) :
    squeeze .between (joined f as ++ rest) = joined g as ++ squeeze .between rest := by
  induction as with
  | nil => rfl
  | cons a as ih =>
    have later := ih fun b member => each b (List.mem_cons_of_mem _ member)
    rw [joined_cons, each a List.mem_cons_self, joined_cons]
    cases as with
    | nil => rfl
    | cons => simp [squeeze, later]

-- Without its spaces and line breaks the indented text is the one on one line.
theorem squeeze_renderPretty (v : Json) : ∀ (depth : Nat) (rest : List Char),
    squeeze .between (renderPretty depth v ++ rest) = render v ++ squeeze .between rest := by
  induction v using induct with
  | null => exact fun _ => squeeze_plain (show ∀ c ∈ render .null, _ by simp [render])
  | bool b =>
    exact fun _ => squeeze_plain (show ∀ c ∈ render (.bool b), _ by cases b <;> simp [render])
  | number m e => exact fun _ => squeeze_plain fun c => plain_renderNumber
  | text s => exact fun _ => squeeze_renderText s
  | array items ih =>
    intro depth rest
    cases items with
    | nil => exact squeeze_plain (show ∀ c ∈ render (.array []), _ by simp [render, renderItems]) rest
    | cons item items =>
      have each : ∀ v ∈ item :: items, ∀ rest,
          squeeze .between (prettyItem (depth + 1) v ++ rest) =
            render v ++ squeeze .between rest := by
        intro v member rest
        rw [prettyItem, List.append_assoc, squeeze_lineBreak, ih v member]
      have inner := squeeze_joined each
      simp [renderPretty, render, prettyItems_eq, renderItems_eq, squeeze, inner, squeeze_lineBreak]
  | object members ih =>
    intro depth rest
    cases members with
    | nil => exact squeeze_plain (show ∀ c ∈ render (.object []), _ by simp [render, renderMembers]) rest
    | cons member members =>
      have each : ∀ m ∈ member :: members, ∀ rest,
          squeeze .between (prettyMember (depth + 1) m ++ rest) =
            renderMember m ++ squeeze .between rest := by
        intro m listed rest
        simp [prettyMember, renderMember, squeeze_lineBreak, squeeze_renderText, squeeze, ih m listed]
      have inner := squeeze_joined each
      simp [renderPretty, render, prettyMembers_eq, renderMembers_eq, squeeze, inner,
        squeeze_lineBreak]

theorem pretty_injective {a b : Json} (same : a.pretty = b.pretty) : a = b := by
  have chars := congrArg (squeeze .between) (String.ofList_injective same)
  have whole (v : Json) : squeeze .between (v.renderPretty 0) = v.render := by
    simpa [squeeze] using squeeze_renderPretty v 0 []
  rw [whole, whole] at chars
  exact compact_injective (congrArg String.ofList chars)

end Indented

end Converge.Json
