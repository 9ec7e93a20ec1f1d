import Converge.Proofs.JsonText
import Converge.Report.Stamp

set_option autoImplicit false

namespace Converge

open Text

namespace RunId

theorem hexDigit_injective : ∀ a < 0x10, ∀ b < 0x10,
    Json.hexDigit a = Json.hexDigit b → a = b := by
  decide

theorem hexDigits_cancel {width n m : Nat} {x y : List Char}
    (same : hexDigits width n ++ x = hexDigits width m ++ y) :
    n % 16 ^ width = m % 16 ^ width ∧ x = y := by
  induction width generalizing n m x y with
  | zero => exact ⟨by simp [Nat.mod_one], same⟩
  | succ width ih =>
    simp only [hexDigits, List.append_assoc, List.singleton_append] at same
    obtain ⟨front, rest⟩ := ih same
    obtain ⟨digit, after⟩ := List.cons.inj rest
    have last := hexDigit_injective _ (Nat.mod_lt _ (by decide)) _ (Nat.mod_lt _ (by decide)) digit
    refine ⟨?_, after⟩
    rw [Nat.pow_succ', Nat.mod_mul, Nat.mod_mul, front, last]

theorem toString_injective {a b : RunId} (same : a.toString = b.toString) : a = b := by
  have chars := String.ofList_injective same
  have bound := a.bits.isLt
  have boundToo := b.bits.isLt
  simp only [render, List.append_assoc, List.cons_append] at chars
  obtain ⟨first, rest⟩ := hexDigits_cancel chars
  obtain ⟨second, rest⟩ := hexDigits_cancel (List.cons.inj rest).2
  obtain ⟨third, rest⟩ := hexDigits_cancel (List.cons.inj (List.cons.inj rest).2).2
  obtain ⟨fourth, rest⟩ := hexDigits_cancel (List.cons.inj rest).2
  have fifth := (hexDigits_cancel (x := []) (y := []) (by simpa using (List.cons.inj rest).2)).1
  -- The groups are the bits 90 to 121, 74 to 89, 62 to 73, 48 to 61 and 0 to 47.
  simp only [Nat.shiftRight_eq_div_pow] at first second third fourth
  have whole : a.bits.toNat = b.bits.toNat := by omega
  exact congrArg RunId.mk (BitVec.eq_of_toNat_eq whole)

end RunId

namespace Timestamp

-- The year of an era and the day of that year, as they are found from the day of the era.
def yearOfEra (day : Nat) : Nat := (day - day / 1460 + day / 36524 - day / 146096) / 365

def daysBefore (year : Nat) : Nat := 365 * year + year / 4 - year / 100

def dayOfYear (day : Nat) : Nat := day - daysBefore (yearOfEra day)

def shiftedMonth (dayOfYear : Nat) : Nat := (5 * dayOfYear + 2) / 153

theorem yearOfEra_century {day : Nat} (inside : day < 146096) :
    yearOfEra day / 100 = day / 36524 := by
  have century : day / 36524 = 0 ∨ day / 36524 = 1 ∨ day / 36524 = 2 ∨ day / 36524 = 3 := by omega
  have last : day / 146096 = 0 := by omega
  unfold yearOfEra
  rcases century with c | c | c | c <;> rw [c, last] <;> omega

theorem day_between {day : Nat} (inside : day < 146097) :
    daysBefore (yearOfEra day) ≤ day ∧ day ≤ daysBefore (yearOfEra day) + 365 ∧
      yearOfEra day < 400 := by
  by_cases final : day = 146096
  · subst final
    decide
  have inside : day < 146096 := by omega
  have century : day / 36524 = 0 ∨ day / 36524 = 1 ∨ day / 36524 = 2 ∨ day / 36524 = 3 := by omega
  have last : day / 146096 = 0 := by omega
  unfold daysBefore
  rw [yearOfEra_century inside]
  unfold yearOfEra
  rcases century with c | c | c | c <;> rw [c, last] <;> omega

def monthOf (shifted : Nat) : Nat := if shifted < 10 then shifted + 3 else shifted - 9

theorem dateOf_eq (days : Nat) :
    dateOf days =
      let era := (days + 719468) / 146097
      let day := (days + 719468) % 146097
      let shifted := shiftedMonth (dayOfYear day)
      { year := yearOfEra day + era * 400 + if monthOf shifted ≤ 2 then 1 else 0
        month := monthOf shifted
        day := dayOfYear day - (153 * shifted + 2) / 5 + 1 } :=
  rfl

theorem shiftedMonth_le {day : Nat} (inside : day < 146097) : shiftedMonth (dayOfYear day) ≤ 11 := by
  have between := day_between inside
  unfold shiftedMonth dayOfYear
  omega

theorem shifted_of_month {a b : Nat} (small : a ≤ 11) (smallToo : b ≤ 11)
    (same : monthOf a = monthOf b) : a = b := by
  unfold monthOf at same
  split_ifs at same <;> omega

theorem dayOfYear_of_shifted {a b : Nat} (shifted : shiftedMonth a = shiftedMonth b)
    (same : a - (153 * shiftedMonth a + 2) / 5 = b - (153 * shiftedMonth b + 2) / 5) : a = b := by
  unfold shiftedMonth at shifted same
  omega

-- No two days have one date: the year and the day of the year come back from it.
theorem dateOf_injective {a b : Nat} (same : dateOf a = dateOf b) : a = b := by
  simp only [dateOf_eq, Date.mk.injEq] at same
  obtain ⟨years, months, daysOfMonth⟩ := same
  have inside : (a + 719468) % 146097 < 146097 := Nat.mod_lt _ (by decide)
  have insideToo : (b + 719468) % 146097 < 146097 := Nat.mod_lt _ (by decide)
  have shifted := shifted_of_month (shiftedMonth_le inside) (shiftedMonth_le insideToo) months
  have dayOfYears := dayOfYear_of_shifted shifted (by omega)
  obtain ⟨begun, -, year⟩ := day_between inside
  obtain ⟨begunToo, -, yearToo⟩ := day_between insideToo
  rw [shifted] at years
  -- A year lies in one era, and in it the day of the year and the days before tell the day.
  have yearOfEras : yearOfEra ((a + 719468) % 146097) = yearOfEra ((b + 719468) % 146097) := by
    omega
  simp only [dayOfYear, yearOfEras] at dayOfYears begun years
  omega

theorem dateOf_bounds (days : Nat) : (dateOf days).month < 100 ∧ (dateOf days).day < 100 := by
  have inside : (days + 719468) % 146097 < 146097 := Nat.mod_lt _ (by decide)
  have shifted := shiftedMonth_le inside
  obtain ⟨-, within, -⟩ := day_between inside
  have short : dayOfYear ((days + 719468) % 146097) ≤ 365 := by
    unfold dayOfYear
    omega
  rw [dateOf_eq]
  refine ⟨?_, ?_⟩
  · simp only [monthOf]
    split_ifs <;> omega
  · simp only [shiftedMonth]
    omega

theorem cancel_two {a b : Nat} {x y : List Char} (small : a < 100) (smallToo : b < 100)
    (same : Decimal.padded 2 a ++ x = Decimal.padded 2 b ++ y) : a = b ∧ x = y :=
  Decimal.cancel_padded (by decide) small smallToo same

-- Only years after 9999 have a sign, and they end where the month begins.
theorem cancel_year {a b : Nat} {x y : List Char}
    (same : year a ++ '-' :: x = year b ++ '-' :: y) : a = b ∧ x = y := by
  have hyphen (x : List Char) : Clear Decimal.isDigit ('-' :: x) := .of_cons (by decide) x
  have unsigned (n : Nat) (x y : List Char) : '+' :: x ≠ Decimal.padded 4 n ++ y :=
    Decimal.sign_ne_digits (by decide) (Decimal.padded_ne_nil 4 n)
      (fun _ => Decimal.isDigit_padded) x y
  unfold year at same
  split_ifs at same with long longToo longToo
  · obtain ⟨years, rest⟩ := Decimal.cancel_ofNat (hyphen x) (hyphen y) (List.cons.inj same).2
    exact ⟨years, (List.cons.inj rest).2⟩
  · exact absurd same (unsigned _ _ _)
  · exact absurd same.symm (unsigned _ _ _)
  · obtain ⟨years, rest⟩ := Decimal.cancel_padded (by decide) (by omega) (by omega) same
    exact ⟨years, (List.cons.inj rest).2⟩

-- The nanoseconds that a fraction writes: the digits that are left out are zeros.
def fractionValue : List Char → Nat
  | [] => 0
  | _ :: digits => Nat.ofDigitChars 10 digits 0 * 10 ^ (9 - digits.length)

theorem fractionValue_padded {width n : Nat} (wide : 0 < width) (fits : n < 10 ^ width) :
    fractionValue ('.' :: Decimal.padded width n) = n * 10 ^ (9 - width) := by
  rw [fractionValue, Decimal.value_padded, Decimal.length_padded wide fits]

theorem fractionValue_fraction {n : Nat} (part : n < 1000000000) :
    fractionValue (fraction n) = n := by
  unfold fraction
  split_ifs with zero millis micros
  · exact zero.symm
  · rw [fractionValue_padded (by decide) (by omega)]
    omega
  · rw [fractionValue_padded (by decide) (by omega)]
    omega
  · rw [fractionValue_padded (by decide) (by omega)]
    omega

attribute [ext] Date

-- The parts of a time between the marks around them.
def written (y month day hour minute second part : Nat) : List Char :=
  year y ++ '-' :: (Decimal.padded 2 month ++ '-' :: (Decimal.padded 2 day ++
    'T' :: (Decimal.padded 2 hour ++ ':' :: (Decimal.padded 2 minute ++
      ':' :: (Decimal.padded 2 second ++ (fraction part ++ ['Z']))))))

theorem render_eq (t : Timestamp) :
    let seconds := t.nanoseconds / 1000000000
    let date := dateOf (seconds / 86400)
    t.render = written date.year date.month date.day (seconds / 3600 % 24) (seconds / 60 % 60)
      (seconds % 60) (t.nanoseconds % 1000000000) := by
  have flat (a b c d e f g : List Char) :
      a ++ '-' :: b ++ '-' :: c ++ 'T' :: d ++ ':' :: e ++ ':' :: f ++ g ++ ['Z'] =
        a ++ '-' :: (b ++ '-' :: (c ++ 'T' :: (d ++ ':' :: (e ++ ':' :: (f ++ (g ++ ['Z'])))))) := by
    simp
  exact flat _ _ _ _ _ _ _

theorem cancel_written {y m d h n s f : Nat} {y' m' d' h' n' s' f' : Nat}
    (month : m < 100 ∧ m' < 100) (day : d < 100 ∧ d' < 100) (hour : h < 100 ∧ h' < 100)
    (minute : n < 100 ∧ n' < 100) (second : s < 100 ∧ s' < 100)
    (part : f < 1000000000 ∧ f' < 1000000000)
    (same : written y m d h n s f = written y' m' d' h' n' s' f') :
    (y = y' ∧ m = m' ∧ d = d') ∧ h = h' ∧ n = n' ∧ s = s' ∧ f = f' := by
  unfold written at same
  obtain ⟨years, rest⟩ := cancel_year same
  obtain ⟨months, rest⟩ := cancel_two month.1 month.2 rest
  obtain ⟨days, rest⟩ := cancel_two day.1 day.2 (List.cons.inj rest).2
  obtain ⟨hours, rest⟩ := cancel_two hour.1 hour.2 (List.cons.inj rest).2
  obtain ⟨minutes, rest⟩ := cancel_two minute.1 minute.2 (List.cons.inj rest).2
  obtain ⟨seconds, rest⟩ := cancel_two second.1 second.2 (List.cons.inj rest).2
  have parts := congrArg fractionValue (List.append_cancel_right rest)
  rw [fractionValue_fraction part.1, fractionValue_fraction part.2] at parts
  exact ⟨⟨years, months, days⟩, hours, minutes, seconds, parts⟩

theorem toString_injective {a b : Timestamp} (same : a.toString = b.toString) : a = b := by
  have chars := String.ofList_injective same
  obtain ⟨month, day⟩ := dateOf_bounds (a.nanoseconds / 1000000000 / 86400)
  obtain ⟨monthToo, dayToo⟩ := dateOf_bounds (b.nanoseconds / 1000000000 / 86400)
  rw [render_eq, render_eq] at chars
  obtain ⟨⟨years, months, days⟩, hours, minutes, seconds, parts⟩ :=
    cancel_written ⟨month, monthToo⟩ ⟨day, dayToo⟩ (by omega) (by omega) (by omega) (by omega) chars
  have sameDay := dateOf_injective (Date.ext years months days)
  have whole : a.nanoseconds = b.nanoseconds := by omega
  exact congrArg Timestamp.mk whole

end Timestamp

end Converge
