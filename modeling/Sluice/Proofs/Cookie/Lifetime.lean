import Sluice.Proofs.Calendar.Fixdate
import Sluice.Proofs.Cookie.Attributes

/-! The lifetime of an encoded cookie, for every count of seconds and every time of the clock. A lifetime never fails
and its count is written as it is. The date of its end is written whenever the calendar represents it, and denotes that
end to the second as long as its year has four digits. From the year 10000 on it is no date of HTTP headers. -/

set_option autoImplicit false

namespace Sluice

namespace Calendar

/-- A time of the clock, which counts nanoseconds, in whole seconds. -/
def whole (reading : Int) : Int := reading / 1000000000

def after (reading : Int) (seconds : UInt64) : Int := reading + seconds.toNat * 1000000000

def year (moment : Int) : Int := (Fixdate.ofInstant moment).date.year

/-- The years of the calendar. -/
def Represents (reading : Int) : Prop := -262143 ≤ year (whole reading) ∧ year (whole reading) ≤ 262142

instance (reading : Int) : Decidable (Represents reading) := inferInstanceAs (Decidable (_ ∧ _))

def earliest : Int := -8334601228800

variable {reading : Int}

theorem represents_iff : Represents reading ↔ earliest ≤ whole reading ∧ whole reading ≤ latest := by
  have first : Date.newYear (-262144 + 1) * 86400 = earliest := by decide
  have last : Date.newYear (262142 + 1) * 86400 = latest + 1 := by decide
  have days : (whole reading).fdiv 86400 = whole reading / 86400 := Int.fdiv_eq_ediv_of_nonneg _ (by decide)
  have begun : year (whole reading) ≤ -262144 ↔ _ := Date.year_ofDays_le_iff
  have ended : year (whole reading) ≤ 262142 ↔ _ := Date.year_ofDays_le_iff
  unfold Represents
  omega

theorem whole_after (reading : Int) (seconds : UInt64) :
    whole (after reading seconds) = whole reading + seconds.toNat := by
  unfold whole after
  omega

/-- Time only goes on, so the end of a lifetime can be out of range on one side only. -/
theorem represents_after_iff (clock : Represents reading) (seconds : UInt64) :
    Represents (after reading seconds) ↔ whole reading + seconds.toNat ≤ latest := by
  have bounds := represents_iff.1 clock
  rw [represents_iff, whole_after]
  omega

/-- The end of a lifetime is found whenever it is represented: the limit of the offset lies beyond the calendar. -/
theorem later?_eq (clock : Represents reading) (seconds : UInt64) : later? (whole reading) seconds.toNat =
    if Represents (after reading seconds) then some (whole (after reading seconds)) else none := by
  have bounds := represents_iff.1 clock
  have ends := represents_after_iff clock seconds
  unfold later?
  unfold earliest latest at *
  by_cases within : whole reading + seconds.toNat ≤ 8210266876799
  · have offset : ¬ 9223372036854775 < seconds.toNat := by omega
    rw [if_neg offset, if_neg (Int.not_lt.2 within), if_pos (ends.2 within), whole_after]
  · rw [if_neg fun represented => within (ends.1 represented), ite_eq_left_iff]
    intro _
    rw [if_pos (Int.not_le.1 within)]

/-- The addition in words of 64 bits, with the limits of the signed word and of an offset in milliseconds. -/
def laterWord? (now : Int64) (seconds : UInt64) : Option Int64 :=
  if 9223372036854775807 < seconds then none
  else if 9223372036854775 < seconds.toInt64 then none
  else if Int64.ofInt latest < now + seconds.toInt64 then none
  else some (now + seconds.toInt64)

theorem toInt_whole (clock : Represents reading) : (Int64.ofInt (whole reading)).toInt = whole reading := by
  have bounds := represents_iff.1 clock
  unfold earliest latest at bounds
  exact Int64.toInt_ofInt_of_le (by omega) (by omega)

theorem toInt_toInt64 {seconds : UInt64} (small : seconds.toNat < 2 ^ 63) : seconds.toInt64.toInt = seconds.toNat := by
  have same := Int64.toInt_ofNat_of_lt small
  rwa [← UInt64.toInt64_ofNat', UInt64.ofNat_toNat] at same

theorem signed_lt_iff (seconds : UInt64) : 9223372036854775807 < seconds ↔ 2 ^ 63 ≤ seconds.toNat := by
  rw [UInt64.lt_iff_toNat_lt]
  exact Iff.rfl

/-- No sum that is reached leaves the words. -/
theorem toInt_add (clock : Represents reading) {seconds : UInt64} (small : seconds.toNat ≤ 9223372036854775) :
    (Int64.ofInt (whole reading) + seconds.toInt64).toInt = whole reading + seconds.toNat := by
  have bounds := represents_iff.1 clock
  unfold earliest latest at bounds
  rw [Int64.toInt_add, toInt_whole clock, toInt_toInt64 (by omega)]
  exact Int.bmod_eq_of_le (by omega) (by omega)

theorem laterWord?_eq (clock : Represents reading) (seconds : UInt64) :
    (laterWord? (Int64.ofInt (whole reading)) seconds).map Int64.toInt = later? (whole reading) seconds.toNat := by
  unfold laterWord? later?
  by_cases small : seconds.toNat ≤ 9223372036854775
  · have signed : ¬ 9223372036854775807 < seconds := by
      rw [signed_lt_iff]
      omega
    have offset : ¬ 9223372036854775 < seconds.toInt64 := by
      rw [Int64.lt_iff_toInt_lt, toInt_toInt64 (by omega)]
      exact fun large => Nat.not_lt.2 small (Int.ofNat_lt.1 large)
    have last : Int64.ofInt latest < Int64.ofInt (whole reading) + seconds.toInt64 ↔
        latest < whole reading + seconds.toNat := by
      rw [Int64.lt_iff_toInt_lt, toInt_add clock small]
      exact Iff.rfl
    rw [if_neg signed, if_neg offset, if_neg (Nat.not_lt.2 small)]
    simp only [last]
    split
    · rfl
    · rw [Option.map_some, toInt_add clock small]
  · -- past the limit of the offset there is no sum, whichever limit is met first
    rw [if_pos (Nat.lt_of_not_le small)]
    by_cases signed : 9223372036854775807 < seconds
    · rw [if_pos signed]
      rfl
    · have offset : 9223372036854775 < seconds.toInt64 := by
        rw [signed_lt_iff] at signed
        rw [Int64.lt_iff_toInt_lt, toInt_toInt64 (Nat.lt_of_not_le signed)]
        exact Int.ofNat_lt.2 (Nat.lt_of_not_le small)
      rw [if_neg signed, if_pos offset]
      rfl

end Calendar

namespace SetCookie

open Calendar

def session (cookie : SetCookie) : SetCookie := { cookie with lifetime := .session }

def lasting (cookie : SetCookie) (seconds : UInt64) : SetCookie := { cookie with lifetime := .seconds seconds.toNat }

theorem encode_lasting (cookie : SetCookie) (seconds : UInt64) (now : Instant) :
    (cookie.lasting seconds).encode now = (cookie.session.encode now).map fun _ =>
      String.intercalate "; " ((cookie.lasting seconds).segments now) := by
  have same : (cookie.lasting seconds).check = cookie.session.check := rfl
  unfold encode
  rw [same]
  cases cookie.session.check <;> rfl

theorem occurrences_lasting {cookie : SetCookie} {seconds : UInt64} {reading : Int} {encoded : String}
    (clock : Represents reading) (encodes : (cookie.lasting seconds).encode (whole reading) = .ok encoded) :
    Attribute.occurrences encoded "Max-Age" = [toString seconds.toNat] ∧
      Attribute.occurrences encoded "Expires" =
        if Represents (after reading seconds) then [httpDate (whole (after reading seconds))] else [] := by
  obtain ⟨permitted, rfl⟩ := encode_eq_ok_iff.1 encodes
  refine ⟨occurrences_encoded permitted _ .maxAge, (occurrences_encoded permitted _ .expires).trans ?_⟩
  rw [Attribute.setting, lasting]
  simp only [later?_eq clock]
  split <;> rfl

/-- A lifetime of any count is encoded as exactly that count, and never makes an encoding fail: the limits of the words
that hold it are passed without overflow. The date of its end is written whenever the calendar represents that end. It
is a date of HTTP headers that denotes the end, and has its 29 characters, exactly when the year has four digits. -/
theorem lifetime_written (cookie : SetCookie) (seconds : UInt64) {reading : Int} (clock : Represents reading) :
    (laterWord? (Int64.ofInt (whole reading)) seconds).map Int64.toInt = later? (whole reading) seconds.toNat ∧
    (∀ fault, cookie.session.encode (whole reading) = .error fault →
      (cookie.lasting seconds).encode (whole reading) = .error fault) ∧
    ∀ plain, cookie.session.encode (whole reading) = .ok plain →
      ∃ encoded, (cookie.lasting seconds).encode (whole reading) = .ok encoded ∧
        Attribute.occurrences encoded "Max-Age" = [toString seconds.toNat] ∧
        Attribute.occurrences encoded "Expires" =
          (if Represents (after reading seconds) then [httpDate (whole (after reading seconds))] else []) ∧
        ∀ text ∈ Attribute.occurrences encoded "Expires",
          (Fixdate.Denotes text (whole (after reading seconds)) ↔
            Fixdate.Short (year (whole (after reading seconds)))) ∧
          (text.length = 29 ↔ Fixdate.Short (year (whole (after reading seconds)))) := by
  have total := cookie.encode_lasting seconds (whole reading)
  refine ⟨laterWord?_eq clock seconds, fun fault fails => ?_, fun plain encodes => ?_⟩
  · rw [total, fails]
    rfl
  · rw [encodes] at total
    obtain ⟨age, expires⟩ := occurrences_lasting clock total
    refine ⟨_, total, age, expires, fun text member => ?_⟩
    rw [expires] at member
    split at member
    · obtain rfl := List.mem_singleton.1 member
      exact ⟨Fixdate.denotes_httpDate_iff _, Fixdate.length_httpDate _⟩
    · cases member

def plainCookie : SetCookie := ⟨"d", "1", none, none, .session, false, false⟩

theorem last_short_year_written :
    (plainCookie.lasting 253402300799).encode 0 =
      .ok "d=1; Max-Age=253402300799; Expires=Fri, 31 Dec 9999 23:59:59 GMT" ∧
    Fixdate.Denotes "Fri, 31 Dec 9999 23:59:59 GMT" 253402300799 ∧
    (laterWord? 0 18446744073709551615).map Int64.toInt = none := by
  have clock : Represents 999999999 := by decide +kernel
  obtain ⟨-, -, total⟩ := lifetime_written plainCookie 253402300799 clock
  obtain ⟨encoded, encodes, -, expires, dates⟩ := total "d=1" (by decide +kernel)
  have text : (plainCookie.lasting 253402300799).encode (whole 999999999) =
      .ok "d=1; Max-Age=253402300799; Expires=Fri, 31 Dec 9999 23:59:59 GMT" := by decide +kernel
  have found : "Fri, 31 Dec 9999 23:59:59 GMT" ∈ Attribute.occurrences encoded "Expires" := by
    rw [expires]
    decide +kernel
  have short : Fixdate.Short (year (whole (after 999999999 253402300799))) := by decide +kernel
  exact ⟨text, (dates _ found).1.2 short, (lifetime_written plainCookie 18446744073709551615 clock).1⟩

/-- From the year 10000 on what is written is longer, and there is no date of HTTP headers that would denote it. -/
theorem year_of_five_digits_written :
    (plainCookie.lasting 253402300800).encode 0 =
      .ok "d=1; Max-Age=253402300800; Expires=Sat, 01 Jan +10000 00:00:00 GMT" ∧
    (∀ text, ¬ Fixdate.Denotes text 253402300800) ∧
    ¬ ∀ (cookie : SetCookie) (seconds : UInt64) (reading : Int) (encoded : String), Represents reading →
      (cookie.lasting seconds).encode (whole reading) = .ok encoded →
      ∀ text ∈ Attribute.occurrences encoded "Expires",
        text.length = 29 ∧ Fixdate.Denotes text (whole (after reading seconds)) := by
  have text : (plainCookie.lasting 253402300800).encode (whole 0) =
      .ok "d=1; Max-Age=253402300800; Expires=Sat, 01 Jan +10000 00:00:00 GMT" := by decide +kernel
  have long : ¬ Fixdate.Short (year 253402300800) := by decide +kernel
  refine ⟨text, fun _ denotes => long denotes.short, fun claimed => ?_⟩
  have dated := claimed plainCookie 253402300800 0 _ (by decide +kernel) text
    "Sat, 01 Jan +10000 00:00:00 GMT" (by decide +kernel)
  exact absurd dated.1 (by decide +kernel)

end SetCookie

end Sluice
