import Overseer.Proofs.Number.Digits
import Overseer.Time.Calendar

/-!
# Stamps tell instants apart

A date counts back to the day that it was made from, and each part of a stamp can be read off
it: the numbers end where a separator follows them, a year with a sign differs from one
without, and the digits of a fraction say by their number what they stand for. So no two
instants have the same stamp, however far from the epoch they are.

Results:
1. `CalendarDate.toDays_ofDays`: a day is recovered from its date.
2. `CalendarDate.text_cut`, `timeOfDayText_cut`: dates and times of day are cut off a text in
   one way.
3. `Instant.stamp_inj`: the stamp determines the instant.
-/

namespace Overseer

/-! ## Days and dates -/

namespace CalendarDate

/-- A day of the 400-year cycle lies within its year, counted from March. -/
theorem dayOfYear_bounds {day year : Int} (hday : 0 ≤ day ∧ day ≤ 146096)
    (hyear : year = (day - day / 1460 + day / 36524 - day / 146096) / 365) :
    0 ≤ day - (365 * year + year / 4 - year / 100) ∧
      day - (365 * year + year / 4 - year / 100) ≤ 365 := by
  -- Only the last day of the cycle does not belong to the century that the division gives.
  have hcenturies : day / 36524 = 0 ∨ day / 36524 = 1 ∨ day / 36524 = 2 ∨ day / 36524 = 3 ∨
      day = 146096 := by omega
  have hcentury : year / 100 = day / 36524 - day / 146096 := by
    rcases hcenturies with h | h | h | h | h <;> omega
  rcases hcenturies with h | h | h | h | h <;> constructor <;> omega

/-- The date of a day of a year that is counted from March, in a cycle of 400 years. -/
def marchDate (cycle yearOfCycle dayOfYear : Int) : CalendarDate :=
  let monthFromMarch := (5 * dayOfYear + 2) / 153
  let month := if monthFromMarch < 10 then monthFromMarch + 3 else monthFromMarch - 9
  { year := yearOfCycle + cycle * 400 + (if month ≤ 2 then 1 else 0)
    month
    day := dayOfYear - (153 * monthFromMarch + 2) / 5 + 1 }

theorem ofDays_eq_marchDate (days : Int) :
    ∃ cycle year day, ofDays days = marchDate cycle year day ∧
      (0 ≤ year ∧ year ≤ 399) ∧ (0 ≤ day ∧ day ≤ 365) ∧
      days + 719468 = cycle * 146097 + year * 365 + year / 4 - year / 100 + day := by
  have hday : 0 ≤ (days + 719468) % 146097 ∧ (days + 719468) % 146097 ≤ 146096 := by omega
  have hshifted := Int.mul_ediv_add_emod (days + 719468) 146097
  exact ⟨(days + 719468) / 146097, _, _, rfl, by omega, dayOfYear_bounds hday rfl, by omega⟩

/-- The count of days for a month within its bounds. -/
theorem toDays_eq {date : CalendarDate} (hmonth : 1 ≤ date.month ∧ date.month ≤ 12) :
    date.toDays =
      let fromMarch := if date.month ≤ 2 then date.month + 9 else date.month - 3
      let year := if date.month ≤ 2 then date.year - 1 else date.year
      year / 400 * 146097 + year % 400 * 365 + year % 400 / 4 - year % 400 / 100 +
        ((153 * fromMarch + 2) / 5 + date.day - 1) - 719468 := by
  have hyear : (date.year * 12 + (date.month - 1)) / 12 = date.year := by omega
  have hsame : (date.year * 12 + (date.month - 1)) % 12 + 1 = date.month := by omega
  simp only [toDays, hyear, hsame]

theorem toDays_marchDate {cycle year day : Int} (hyear : 0 ≤ year ∧ year ≤ 399)
    (hday : 0 ≤ day ∧ day ≤ 365) :
    (marchDate cycle year day).toDays =
      cycle * 146097 + year * 365 + year / 4 - year / 100 + day - 719468 := by
  -- January and February end the year that began in March.
  by_cases hspring : (5 * day + 2) / 153 < 10
  · have hlate : ¬ (5 * day + 2) / 153 + 3 ≤ 2 := by omega
    rw [toDays_eq (by simp only [marchDate, if_pos hspring]; omega)]
    simp only [marchDate, if_pos hspring, if_neg hlate]
    omega
  · have hearly : (5 * day + 2) / 153 - 9 ≤ 2 := by omega
    rw [toDays_eq (by simp only [marchDate, if_neg hspring]; omega)]
    simp only [marchDate, if_neg hspring, if_pos hearly]
    omega

theorem toDays_ofDays (days : Int) : (ofDays days).toDays = days := by
  obtain ⟨cycle, year, day, hdate, hyear, hday, hdays⟩ := ofDays_eq_marchDate days
  rw [hdate, toDays_marchDate hyear hday]
  omega

/-- The months and days of the calendar are counted from one. -/
theorem ofDays_pos (days : Int) : 0 < (ofDays days).month ∧ 0 < (ofDays days).day := by
  obtain ⟨cycle, year, day, hdate, _, hday, _⟩ := ofDays_eq_marchDate days
  rw [hdate]
  constructor
  · by_cases hspring : (5 * day + 2) / 153 < 10
    · simp only [marchDate, if_pos hspring]
      omega
    · simp only [marchDate, if_neg hspring]
      omega
  · simp only [marchDate]
    omega

end CalendarDate

/-! ## Padded numbers -/

theorem paddedDecimal_toList (width n : Nat) :
    (paddedDecimal width n).toList =
      List.replicate (width - (Nat.toDigits 10 n).length) '0' ++ Nat.toDigits 10 n := by
  rw [paddedDecimal, String.toList_ofList]
  rfl

theorem allDigits_paddedDecimal (width n : Nat) : AllDigits (paddedDecimal width n).toList := by
  intro c hc
  rw [paddedDecimal_toList, List.mem_append] at hc
  rcases hc with hzero | hdigit
  · rw [List.eq_of_mem_replicate hzero]
    decide
  · exact allDigits_toDigits n c hdigit

/-- The zeros on the left do not count. -/
theorem ofDigitChars_paddedDecimal (width n : Nat) :
    Nat.ofDigitChars 10 (paddedDecimal width n).toList 0 = n := by
  rw [paddedDecimal_toList, Nat.ofDigitChars_append, Nat.ofDigitChars_replicate_zero, Nat.mul_zero,
    Nat.ofDigitChars_ten_toDigits]

theorem length_paddedDecimal {width n : Nat} (hwidth : 0 < width) (hn : n < powerOfTen width) :
    (paddedDecimal width n).toList.length = width := by
  have hfits := (Nat.length_toDigits_le_iff (by decide : 1 < 10) hwidth).mpr hn
  rw [paddedDecimal_toList, List.length_append, List.length_replicate]
  omega

theorem paddedDecimal_cut {width m n : Nat} {x y : List Char} (hx : EndsDigits x)
    (hy : EndsDigits y)
    (h : (paddedDecimal width m).toList ++ x = (paddedDecimal width n).toList ++ y) :
    m = n ∧ x = y := by
  obtain ⟨hdigits, hrest⟩ := (allDigits_paddedDecimal width m).cut hx
    (allDigits_paddedDecimal width n) hy h
  refine ⟨?_, hrest⟩
  rw [← ofDigitChars_paddedDecimal width m, hdigits, ofDigitChars_paddedDecimal]

theorem paddedDecimal_lead (width n : Nat) :
    ∃ c rest, (paddedDecimal width n).toList = c :: rest ∧ c.isDigit = true := by
  cases hdigits : (paddedDecimal width n).toList with
  | nil =>
    rw [paddedDecimal_toList] at hdigits
    exact absurd (List.append_eq_nil_iff.mp hdigits).2 Nat.toDigits_ne_nil
  | cons c rest =>
    exact ⟨c, rest, rfl, allDigits_paddedDecimal width n c (hdigits ▸ List.mem_cons_self)⟩

/-! ## Written dates -/

namespace CalendarDate

variable {x y : List Char}

/-- The sign of a written year. -/
def yearSign (year : Int) : List Char :=
  if 0 ≤ year ∧ year ≤ 9999 then [] else if year < 0 then ['-'] else ['+']

theorem yearText_toList (year : Int) :
    (yearText year).toList = yearSign year ++ (paddedDecimal 4 year.natAbs).toList := by
  unfold yearText yearSign
  split
  · rfl
  · split <;> rw [String.toList_append] <;> rfl

theorem yearSign_not_isDigit (year : Int) : ∀ c ∈ yearSign year, (!c.isDigit) = true := by
  unfold yearSign
  split
  · simp
  · split <;> simp

theorem yearSign_eq_minus {year : Int} : yearSign year = ['-'] ↔ year < 0 := by
  unfold yearSign
  split
  · simp only [List.ne_cons_self, false_iff]
    omega
  · split <;> simp_all

theorem yearText_cut {a b : Int} (hx : EndsDigits x) (hy : EndsDigits y)
    (h : (yearText a).toList ++ x = (yearText b).toList ++ y) : a = b ∧ x = y := by
  rw [yearText_toList, yearText_toList, List.append_assoc, List.append_assoc] at h
  -- The digits end the sign, and what follows ends the digits.
  have hends : ∀ (year : Int) (rest : List Char),
      ∀ c ∈ ((paddedDecimal 4 year.natAbs).toList ++ rest).head?, (!c.isDigit) = false := by
    intro year rest c hc
    obtain ⟨lead, more, hlead, hdigit⟩ := paddedDecimal_lead 4 year.natAbs
    rw [hlead, List.cons_append, List.head?_cons, Option.mem_some_iff] at hc
    rw [← hc, hdigit]
    rfl
  obtain ⟨hsign, hrest⟩ := append_inj_of_span (yearSign_not_isDigit a) (hends a x)
    (yearSign_not_isDigit b) (hends b y) h
  obtain ⟨habs, hxy⟩ := paddedDecimal_cut hx hy hrest
  have hside : a < 0 ↔ b < 0 := by rw [← yearSign_eq_minus, hsign, yearSign_eq_minus]
  exact ⟨by omega, hxy⟩

theorem text_toList (date : CalendarDate) :
    date.text.toList = (yearText date.year).toList ++ '-' ::
      ((paddedDecimal 2 date.month.toNat).toList ++ '-' ::
        (paddedDecimal 2 date.day.toNat).toList) := by
  simp [text]

theorem text_cut {a b : CalendarDate} (ha : 0 < a.month ∧ 0 < a.day)
    (hb : 0 < b.month ∧ 0 < b.day) (hx : EndsDigits x) (hy : EndsDigits y)
    (h : a.text.toList ++ x = b.text.toList ++ y) : a = b ∧ x = y := by
  have hdash : ∀ rest, EndsDigits ('-' :: rest) := endsDigits_cons (by decide)
  simp only [text_toList, List.append_assoc, List.cons_append] at h
  obtain ⟨hyear, h⟩ := yearText_cut (hdash _) (hdash _) h
  obtain ⟨hmonth, h⟩ := paddedDecimal_cut (hdash _) (hdash _) (List.cons.inj h).2
  obtain ⟨hday, hxy⟩ := paddedDecimal_cut hx hy (List.cons.inj h).2
  obtain ⟨year, month, day⟩ := a
  obtain ⟨year', month', day'⟩ := b
  refine ⟨?_, hxy⟩
  simp only [mk.injEq] at *
  omega

end CalendarDate

/-! ## Times of day -/

theorem timeOfDayText_toList (seconds : Nat) :
    (timeOfDayText seconds).toList = (paddedDecimal 2 (seconds / 3600)).toList ++ ':' ::
      ((paddedDecimal 2 (seconds / 60 % 60)).toList ++ ':' ::
        (paddedDecimal 2 (seconds % 60)).toList) := by
  simp [timeOfDayText]

theorem timeOfDayText_cut {m n : Nat} {x y : List Char} (hx : EndsDigits x) (hy : EndsDigits y)
    (h : (timeOfDayText m).toList ++ x = (timeOfDayText n).toList ++ y) : m = n ∧ x = y := by
  have hcolon : ∀ rest, EndsDigits (':' :: rest) := endsDigits_cons (by decide)
  simp only [timeOfDayText_toList, List.append_assoc, List.cons_append] at h
  obtain ⟨hhour, h⟩ := paddedDecimal_cut (hcolon _) (hcolon _) h
  obtain ⟨hminute, h⟩ := paddedDecimal_cut (hcolon _) (hcolon _) (List.cons.inj h).2
  obtain ⟨hsecond, hxy⟩ := paddedDecimal_cut hx hy (List.cons.inj h).2
  exact ⟨by omega, hxy⟩

/-! ## Fractions -/

/-- The nanoseconds that the digits after a point stand for. -/
def fractionValue (digits : List Char) : Nat :=
  Nat.ofDigitChars 10 digits 0 * powerOfTen (9 - digits.length)

theorem fractionValue_paddedDecimal {width n : Nat} (hwidth : 0 < width)
    (hn : n < powerOfTen width) :
    fractionValue (paddedDecimal width n).toList = n * powerOfTen (9 - width) := by
  rw [fractionValue, ofDigitChars_paddedDecimal, length_paddedDecimal hwidth hn]

theorem fractionText_cases {nanos : Nat} (h : nanos < 1000000000) :
    (fractionText nanos).toList = [] ∧ nanos = 0 ∨
      ∃ digits, (fractionText nanos).toList = '.' :: digits ∧ fractionValue digits = nanos := by
  unfold fractionText
  split
  · next hzero => exact Or.inl ⟨rfl, hzero⟩
  right
  split
  · have hfits : nanos / 1000000 < 1000 := by omega
    refine ⟨(paddedDecimal 3 (nanos / 1000000)).toList, by simp, ?_⟩
    rw [fractionValue_paddedDecimal (by decide) hfits]
    change nanos / 1000000 * 1000000 = nanos
    omega
  split
  · have hfits : nanos / 1000 < 1000000 := by omega
    refine ⟨(paddedDecimal 6 (nanos / 1000)).toList, by simp, ?_⟩
    rw [fractionValue_paddedDecimal (by decide) hfits]
    change nanos / 1000 * 1000 = nanos
    omega
  · refine ⟨(paddedDecimal 9 nanos).toList, by simp, ?_⟩
    rw [fractionValue_paddedDecimal (by decide) h]
    exact Nat.mul_one nanos

theorem fractionText_inj {m n : Nat} (hm : m < 1000000000) (hn : n < 1000000000)
    (h : (fractionText m).toList = (fractionText n).toList) : m = n := by
  rcases fractionText_cases hm with ⟨hnil, rfl⟩ | ⟨digits, hdigits, rfl⟩
  · rcases fractionText_cases hn with ⟨_, rfl⟩ | ⟨digits', hdigits', _⟩
    · rfl
    · rw [hnil, hdigits'] at h
      cases h
  · rcases fractionText_cases hn with ⟨hnil, _⟩ | ⟨digits', hdigits', rfl⟩
    · rw [hnil, hdigits] at h
      cases h
    · rw [hdigits, hdigits', List.cons.injEq] at h
      rw [h.2]

/-! ## Stamps -/

theorem Instant.stamp_toList (instant : Instant) :
    instant.stamp.toList =
      (CalendarDate.ofDays (instant.nanos / 1000000000 / 86400)).text.toList ++ 'T' ::
        ((timeOfDayText (instant.nanos / 1000000000 % 86400).toNat).toList ++
          ((fractionText (instant.nanos % 1000000000).toNat).toList ++ ['Z'])) := by
  simp [stamp]

theorem endsDigits_fraction {nanos : Nat} (h : nanos < 1000000000) :
    EndsDigits ((fractionText nanos).toList ++ ['Z']) := by
  rcases fractionText_cases h with ⟨hnil, _⟩ | ⟨digits, hdigits, _⟩
  · rw [hnil]
    exact endsDigits_cons (by decide) []
  · rw [hdigits]
    exact endsDigits_cons (by decide) _

/-- Instants with one stamp are the same. -/
theorem Instant.stamp_inj {a b : Instant} (h : a.stamp = b.stamp) : a = b := by
  have htext := congrArg String.toList h
  rw [stamp_toList, stamp_toList] at htext
  have hT : ∀ rest, EndsDigits ('T' :: rest) := endsDigits_cons (by decide)
  have hnanos : ∀ instant : Instant, (instant.nanos % 1000000000).toNat < 1000000000 := by
    intro instant
    omega
  obtain ⟨hdate, htext⟩ := CalendarDate.text_cut (CalendarDate.ofDays_pos _)
    (CalendarDate.ofDays_pos _) (hT _) (hT _) htext
  obtain ⟨hseconds, htext⟩ := timeOfDayText_cut (endsDigits_fraction (hnanos a))
    (endsDigits_fraction (hnanos b)) (List.cons.inj htext).2
  have hfraction := fractionText_inj (hnanos a) (hnanos b) (List.append_cancel_right htext)
  have hdays := congrArg CalendarDate.toDays hdate
  rw [CalendarDate.toDays_ofDays, CalendarDate.toDays_ofDays] at hdays
  obtain ⟨nanos⟩ := a
  obtain ⟨nanos'⟩ := b
  simp only [mk.injEq] at *
  omega

end Overseer
