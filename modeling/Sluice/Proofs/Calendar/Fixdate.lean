import Mathlib.Data.List.Basic
import Sluice.Proofs.Calendar.Days
import Sluice.Proofs.Text.Pieces

/-! The date of HTTP headers, read by its grammar: a weekday, a date with a year of four digits and a time of day, in
fields of fixed widths. The date that is written for an instant is read back as that instant, on its weekday, as long as
its year has four digits; in other years it has more characters and is no such date. -/

set_option autoImplicit false

namespace Sluice

structure Fixdate where
  weekday : Nat
  date : Date
  hour : Nat
  minute : Nat
  second : Nat
  deriving DecidableEq, Repr

namespace Fixdate

open Calendar

def instant (fixdate : Fixdate) : Int :=
  fixdate.date.number * 86400 + fixdate.hour * 3600 + fixdate.minute * 60 + fixdate.second

/-- The date exists, and 1 January 1970 was a Thursday. -/
structure Proper (fixdate : Fixdate) : Prop where
  date : fixdate.date.Exists
  weekday : (fixdate.weekday : Int) = (fixdate.date.number + 4) % 7
  hour : fixdate.hour < 24
  minute : fixdate.minute < 60
  second : fixdate.second < 60

/-- The grammar has a comma after the name of the weekday. -/
def dayNames : List String := ["Sun,", "Mon,", "Tue,", "Wed,", "Thu,", "Fri,", "Sat,"]

def monthNames : List String :=
  ["Jan", "Feb", "Mar", "Apr", "May", "Jun", "Jul", "Aug", "Sep", "Oct", "Nov", "Dec"]

def name? (names : List String) (text : List Char) : Option Nat := names.findIdx? (·.toList == text)

def number? (width : Nat) (text : List Char) : Option Nat :=
  if text.length = width ∧ text.all Char.isDigit then some (Nat.ofDigitChars 10 text 0) else none

def time? (text : List Char) : Option (Nat × Nat × Nat) :=
  match Text.splitOn ':' text with
  | [hour, minute, second] => return (← number? 2 hour, ← number? 2 minute, ← number? 2 second)
  | _ => none

def read? (text : String) : Option Fixdate :=
  match Text.splitOn ' ' text.toList with
  | [weekday, day, month, year, time, zone] => do
    let weekday ← name? dayNames weekday
    let day ← number? 2 day
    let month ← name? monthNames month
    let year ← number? 4 year
    let (hour, minute, second) ← time? time
    if zone = "GMT".toList then some ⟨weekday, ⟨year, month + 1, day⟩, hour, minute, second⟩ else none
  | _ => none

/-- The date on which an instant lies, and the time of that day. -/
def ofInstant (instant : Instant) : Fixdate :=
  let seconds := (instant.fmod 86400).toNat
  ⟨Calendar.weekday (instant.fdiv 86400), Date.ofDays (instant.fdiv 86400), seconds / 3600, seconds / 60 % 60,
    seconds % 60⟩

variable {n width : Nat} {moment : Int}

theorem instant_ofInstant (moment : Int) : (ofInstant moment).instant = moment := by
  have days := (Date.ofDays_spec (moment.fdiv 86400)).2
  have whole : moment.fdiv 86400 = moment / 86400 := Int.fdiv_eq_ediv_of_nonneg _ (by decide)
  have rest : moment.fmod 86400 = moment % 86400 := Int.fmod_eq_emod_of_nonneg _ (by decide)
  simp only [instant, ofInstant, days]
  omega

theorem ofInstant_proper (moment : Int) : (ofInstant moment).Proper := by
  obtain ⟨exist, number⟩ := Date.ofDays_spec (moment.fdiv 86400)
  have bounded : (moment.fmod 86400).toNat < 86400 := by
    rw [Int.fmod_eq_emod_of_nonneg _ (by decide)]
    omega
  refine ⟨exist, ?_, ?_, ?_, ?_⟩
  · simp only [ofInstant, Calendar.weekday, number, Int.fmod_eq_emod_of_nonneg _ (by decide : (0 : Int) ≤ 7)]
    omega
  all_goals
    simp only [ofInstant]
    omega

/-! Fields. -/

theorem toList_padLeft (width n : Nat) : (padLeft width (toString n)).toList =
    List.replicate (width - (Nat.toDigits 10 n).length) '0' ++ Nat.toDigits 10 n := by
  rw [padLeft, Nat.toString_eq_ofList_toDigits, String.toList_append, String.toList_ofList, String.toList_ofList,
    String.length_ofList]

theorem isDigit_padLeft {c : Char} (member : c ∈ (padLeft width (toString n)).toList) : c.isDigit = true := by
  rw [toList_padLeft, List.mem_append] at member
  rcases member with zero | digit
  · rw [(List.mem_replicate.1 zero).2]
    rfl
  · exact Nat.isDigit_of_mem_toDigits (by decide) (by decide) digit

theorem length_padLeft (positive : 0 < width) (fits : n < 10 ^ width) :
    (padLeft width (toString n)).toList.length = width := by
  have short := (Nat.length_toDigits_le_iff (by decide) positive).2 fits
  rw [toList_padLeft, List.length_append, List.length_replicate]
  omega

theorem number?_padLeft (positive : 0 < width) (fits : n < 10 ^ width) :
    number? width (padLeft width (toString n)).toList = some n := by
  have digits : (padLeft width (toString n)).toList.all Char.isDigit = true :=
    List.all_eq_true.2 fun c member => isDigit_padLeft member
  rw [number?, if_pos ⟨length_padLeft positive fits, digits⟩, toList_padLeft, Nat.ofDigitChars_append,
    Nat.ofDigitChars_replicate_zero, Nat.mul_zero, Nat.ofDigitChars_ten_toDigits]

theorem not_mem_padLeft {c : Char} (other : c.isDigit = false) : c ∉ (padLeft width (toString n)).toList :=
  fun member => by simp [isDigit_padLeft member] at other

/-- The years of four digits. -/
def Short (year : Int) : Prop := 0 ≤ year ∧ year ≤ 9999

instance (year : Int) : Decidable (Short year) := inferInstanceAs (Decidable (0 ≤ year ∧ year ≤ 9999))

theorem yearText_of_short {year : Int} (short : Short year) : yearText year = padLeft 4 (toString year.toNat) := by
  have positive : ¬ year < 0 := Int.not_lt.2 short.1
  have same : year.natAbs = year.toNat := by omega
  rw [yearText, if_neg positive, if_pos short.2, same]

/-- Any other year is written with a sign before its digits. -/
theorem yearText_of_not_short {year : Int} (long : ¬ Short year) :
    ∃ (sign : Char) (digits : List Char), (yearText year).toList = sign :: digits ∧
      sign ∈ ['-', '+'] ∧ 4 ≤ digits.length ∧ ∀ c ∈ digits, c.isDigit = true := by
  by_cases negative : year < 0
  · refine ⟨'-', (padLeft 4 (toString year.natAbs)).toList, ?_, by decide, ?_, fun c => isDigit_padLeft⟩
    · rw [yearText, if_pos negative, String.toList_append]
      rfl
    · rw [toList_padLeft, List.length_append, List.length_replicate]
      omega
  · have late : ¬ year ≤ 9999 := fun early => long ⟨Int.not_lt.1 negative, early⟩
    have each {c : Char} (member : c ∈ Nat.toDigits 10 year.natAbs) : c.isDigit = true :=
      Nat.isDigit_of_mem_toDigits (by decide) (by decide) member
    refine ⟨'+', Nat.toDigits 10 year.natAbs, ?_, by decide, ?_, fun c => each⟩
    · rw [yearText, if_neg negative, if_neg late, String.toList_append, Nat.toString_eq_ofList_toDigits,
        String.toList_ofList, String.toList_ofList]
      rfl
    · have large : ¬ (Nat.toDigits 10 year.natAbs).length ≤ 4 := by
        rw [Nat.length_toDigits_le_iff (by decide) (by decide)]
        omega
      omega

theorem number?_yearText (year : Int) :
    number? 4 (yearText year).toList = if Short year then some year.toNat else none := by
  split
  · next short =>
    rw [yearText_of_short short, number?_padLeft (by decide)]
    unfold Short at short
    omega
  · next long =>
    obtain ⟨sign, digits, text, signed, -, -⟩ := yearText_of_not_short long
    have other : sign.isDigit = false := by
      rcases List.mem_pair.1 signed with rfl | rfl <;> rfl
    simp [number?, text, other]

theorem not_mem_yearText {c : Char} (other : c.isDigit = false) (unsigned : c ∉ ['-', '+']) (year : Int) :
    c ∉ (yearText year).toList := by
  by_cases short : Short year
  · rw [yearText_of_short short]
    exact not_mem_padLeft other
  · obtain ⟨sign, digits, text, signed, -, each⟩ := yearText_of_not_short short
    rw [text, List.mem_cons]
    rintro (rfl | member)
    · exact unsigned signed
    · simp [each c member] at other

theorem length_yearText (year : Int) : (yearText year).toList.length = 4 ↔ Short year := by
  constructor
  · intro four
    by_contra long
    obtain ⟨sign, digits, text, -, count, -⟩ := yearText_of_not_short long
    rw [text, List.length_cons] at four
    omega
  · intro short
    rw [yearText_of_short short, length_padLeft (by decide)]
    unfold Short at short
    omega

/-! The whole date, in its fields. -/

def digits (n : Nat) : List Char := (padLeft 2 (toString n)).toList

def clock (fixdate : Fixdate) : List (List Char) :=
  [digits fixdate.hour, digits fixdate.minute, digits fixdate.second]

def fields (fixdate : Fixdate) : List (List Char) :=
  [((weekdays.map (· ++ ",")).getD fixdate.weekday "").toList, digits fixdate.date.day,
    (months.getD (fixdate.date.month - 1) "").toList, (yearText fixdate.date.year).toList,
    [':'].intercalate fixdate.clock, "GMT".toList]

theorem weekday_lt (moment : Int) : (ofInstant moment).weekday < 7 := by
  have weekday := (ofInstant_proper moment).weekday
  omega

theorem month_lt (moment : Int) : (ofInstant moment).date.month - 1 < 12 := by
  have month := (ofInstant_proper moment).date.month
  omega

theorem toList_httpDate (moment : Int) : (httpDate moment).toList = [' '].intercalate (ofInstant moment).fields := by
  have comma : ∀ index < 7, (weekdays.map (· ++ ",")).getD index "" = weekdays.getD index "" ++ "," := by decide
  have weekday := weekday_lt moment
  rw [fields, comma _ weekday]
  simp [httpDate, ofInstant, clock, digits, List.intercalate]

theorem number?_digits (small : n < 60) : number? 2 (digits n) = some n := number?_padLeft (by decide) (by omega)

theorem not_mem_digits {c : Char} (other : c.isDigit = false) (n : Nat) : c ∉ digits n := not_mem_padLeft other

theorem time?_clock {fixdate : Fixdate} (proper : fixdate.Proper) :
    time? ([':'].intercalate fixdate.clock) = some (fixdate.hour, fixdate.minute, fixdate.second) := by
  have absent : ∀ piece ∈ fixdate.clock, ':' ∉ piece := by simp [clock, not_mem_digits (c := ':') rfl]
  rw [time?, Text.splitOn_intercalate ':' absent (by simp [clock]), clock]
  simp only [number?_digits proper.minute, number?_digits proper.second,
    number?_digits (Nat.lt_trans proper.hour (by decide))]
  rfl

theorem name?_weekday : ∀ index < 7,
    name? dayNames ((weekdays.map (· ++ ",")).getD index "").toList = some index := by decide

theorem name?_month : ∀ index < 12, name? monthNames (months.getD index "").toList = some index := by decide

theorem blank_not_mem_fields (moment : Int) : ∀ field ∈ (ofInstant moment).fields, ' ' ∉ field := by
  have weekday : ∀ index < 7, ' ' ∉ ((weekdays.map (· ++ ",")).getD index "").toList := by decide
  have month : ∀ index < 12, ' ' ∉ (months.getD index "").toList := by decide
  have number := not_mem_digits (c := ' ') rfl
  have year := not_mem_yearText (c := ' ') rfl (by decide) (ofInstant moment).date.year
  have time : ' ' ∉ [':'].intercalate (ofInstant moment).clock := by simp [clock, List.intercalate, number]
  have zone : ' ' ∉ "GMT".toList := by decide
  simp only [fields, List.forall_mem_cons, List.not_mem_nil, false_imp_iff, implies_true, and_true]
  exact ⟨weekday _ (weekday_lt moment), number _, month _ (month_lt moment), year, time, zone⟩

theorem day_lt (moment : Int) : (ofInstant moment).date.day < 60 := by
  have last := (ofInstant_proper moment).date.day.2
  have limit := (Date.daysIn_bounds (Date.isLeap (ofInstant moment).date.year) (ofInstant moment).date.month).2
  omega

/-- The date of an instant is read back, unless its year is not one of four digits. -/
theorem read?_httpDate (moment : Int) : read? (httpDate moment) =
    if Short (ofInstant moment).date.year then some (ofInstant moment) else none := by
  have proper := ofInstant_proper moment
  have split := Text.splitOn_intercalate ' ' (blank_not_mem_fields moment) (by simp [fields])
  rw [read?, toList_httpDate, split, fields]
  simp only [name?_weekday _ (weekday_lt moment), name?_month _ (month_lt moment), number?_digits (day_lt moment),
    number?_yearText, time?_clock proper]
  by_cases short : Short (ofInstant moment).date.year
  · have month : (ofInstant moment).date.month - 1 + 1 = (ofInstant moment).date.month :=
      Nat.sub_add_cancel proper.date.month.1
    have year : ((ofInstant moment).date.year.toNat : Int) = (ofInstant moment).date.year := Int.toNat_of_nonneg short.1
    simp [if_pos short, month, year]
  · simp [if_neg short]

theorem length_digits (small : n < 60) : (digits n).length = 2 := length_padLeft (by decide) (by omega)

theorem length_httpDate (moment : Int) : (httpDate moment).length = 29 ↔ Short (ofInstant moment).date.year := by
  have weekday : ∀ index < 7, ((weekdays.map (· ++ ",")).getD index "").toList.length = 4 := by decide
  have month : ∀ index < 12, (months.getD index "").toList.length = 3 := by decide
  obtain ⟨-, -, hour, minute, second⟩ := ofInstant_proper moment
  have whole : (httpDate moment).length = 25 + (yearText (ofInstant moment).date.year).toList.length := by
    rw [← String.length_toList, toList_httpDate]
    simp only [fields, clock, List.intercalate_cons_cons, List.intercalate_singleton, List.length_append,
      List.length_singleton, weekday _ (weekday_lt moment), month _ (month_lt moment), length_digits (day_lt moment),
      length_digits minute, length_digits second, length_digits (Nat.lt_trans hour (by decide))]
    have zone : "GMT".toList.length = 3 := rfl
    omega
  rw [← length_yearText, whole]
  omega

/-- A text is a date of HTTP headers, and the day, the time and the weekday it gives are those of an instant. -/
def Denotes (text : String) (moment : Int) : Prop :=
  ∃ fixdate, read? text = some fixdate ∧ fixdate.Proper ∧ fixdate.instant = moment

theorem ofDigitChars_lt {text : List Char} (digits : ∀ c ∈ text, c.isDigit = true) (start : Nat) :
    Nat.ofDigitChars 10 text start < (start + 1) * 10 ^ text.length := by
  induction text generalizing start with
  | nil => simp
  | cons c rest ih =>
    have digit : c.toNat - '0'.toNat ≤ 9 := by
      have range := digits c List.mem_cons_self
      simp only [Char.isDigit, Bool.and_eq_true, decide_eq_true_eq, UInt32.le_iff_toNat_le] at range
      have last : c.toNat ≤ 57 := range.2
      have zero : '0'.toNat = 48 := rfl
      omega
    rw [Nat.ofDigitChars_cons, List.length_cons]
    calc Nat.ofDigitChars 10 rest (10 * start + (c.toNat - '0'.toNat))
        < (10 * start + (c.toNat - '0'.toNat) + 1) * 10 ^ rest.length :=
          ih (fun d member => digits d (List.mem_cons_of_mem c member)) _
      _ ≤ (10 * (start + 1)) * 10 ^ rest.length := Nat.mul_le_mul_right _ (by omega)
      _ = (start + 1) * 10 ^ (rest.length + 1) := by
        rw [Nat.pow_succ', Nat.mul_comm 10 (start + 1), Nat.mul_assoc]

theorem number?_lt {text : List Char} (read : number? width text = some n) : n < 10 ^ width := by
  unfold number? at read
  split at read
  · next shape =>
    obtain ⟨rfl, digits⟩ := shape
    obtain rfl := Option.some.inj read
    simpa using ofDigitChars_lt (List.all_eq_true.1 digits) 0
  · cases read

theorem short_of_read? {text : String} {fixdate : Fixdate} (read : read? text = some fixdate) :
    Short fixdate.date.year := by
  unfold read? at read
  split at read
  · simp only [Option.bind_eq_bind, Option.bind_eq_some_iff] at read
    obtain ⟨weekday, -, day, -, month, -, year, four, time, -, whole⟩ := read
    split at whole
    · obtain rfl := Option.some.inj whole
      have limit : year < 10 ^ 4 := number?_lt four
      exact ⟨Int.natCast_nonneg year, Int.ofNat_le.2 (Nat.le_of_lt_succ limit)⟩
    · cases whole
  · cases read

/-- A proper date is the one of the instant it denotes. -/
theorem Proper.ofInstant_instant {fixdate : Fixdate} (proper : fixdate.Proper) :
    ofInstant fixdate.instant = fixdate := by
  obtain ⟨exist, named, hour, minute, second⟩ := proper
  have day : fixdate.instant.fdiv 86400 = fixdate.date.number := by
    rw [Int.fdiv_eq_ediv_of_nonneg _ (by decide)]
    unfold instant
    omega
  have time : (fixdate.instant.fmod 86400).toNat = fixdate.hour * 3600 + fixdate.minute * 60 + fixdate.second := by
    rw [Int.fmod_eq_emod_of_nonneg _ (by decide)]
    unfold instant
    omega
  have weekday : Calendar.weekday fixdate.date.number = fixdate.weekday := by
    rw [Calendar.weekday, Int.fmod_eq_emod_of_nonneg _ (by decide)]
    omega
  have hours : (fixdate.hour * 3600 + fixdate.minute * 60 + fixdate.second) / 3600 = fixdate.hour := by omega
  have minutes : (fixdate.hour * 3600 + fixdate.minute * 60 + fixdate.second) / 60 % 60 = fixdate.minute := by omega
  have seconds : (fixdate.hour * 3600 + fixdate.minute * 60 + fixdate.second) % 60 = fixdate.second := by omega
  simp only [ofInstant, day, time, weekday, exist.ofDays_number, hours, minutes, seconds]

theorem Denotes.short {text : String} {moment : Int} (denotes : Denotes text moment) :
    Short (ofInstant moment).date.year := by
  obtain ⟨fixdate, read, proper, rfl⟩ := denotes
  rw [proper.ofInstant_instant]
  exact short_of_read? read

theorem denotes_httpDate_iff (moment : Int) :
    Denotes (httpDate moment) moment ↔ Short (ofInstant moment).date.year := by
  refine ⟨Denotes.short, fun short => ⟨ofInstant moment, ?_, ofInstant_proper moment, instant_ofInstant moment⟩⟩
  rw [read?_httpDate, if_pos short]

example : read? (httpDate 253402300799) = some ⟨5, ⟨9999, 12, 31⟩, 23, 59, 59⟩ := by decide +kernel

end Fixdate

end Sluice
