import Kernelflinger.Basic

/-
`efi_time_to_ctime` and the calendar it is meant to follow.
-/

namespace Kernelflinger.Time

/-- The fields of `EFI_TIME` that the boot loader reads or stores. -/
structure EfiTime where
  year : UInt16
  month : UInt8
  day : UInt8
  hour : UInt8
  minute : UInt8
  second : UInt8
  deriving DecidableEq, Repr

/-- `is_a_leap_year`. -/
def isALeapYear (year : Nat) : Bool :=
  (year % 4 == 0 && year % 100 != 0) || year % 400 == 0

/-- The year loop of `efi_time_to_ctime`, which gives a leap year 365 days. -/
def yearLoopDays : Nat → Nat
  | 0 => 0
  | count + 1 => yearLoopDays count + if isALeapYear (1970 + count) then 365 else 366

/-- `DAY_OF_MONTH` after February is set for the year. -/
def dayOfMonth (leap : Bool) : List Nat :=
  [31, if leap then 29 else 28, 31, 30, 31, 30, 31, 31, 30, 31, 30, 31]

/-- `DAY_OF_MONTH[i]`; past the twelve entries it reads the frame. -/
def dayOfMonthAt (leap : Bool) (beyond : Nat → UInt8) (index : Nat) : Nat :=
  if index < 12 then (dayOfMonth leap).getD index 0 else (beyond index).toNat

/-- The month loop of `efi_time_to_ctime`. -/
def monthLoopDays (leap : Bool) (beyond : Nat → UInt8) : Nat → Nat
  | 0 => 0
  | count + 1 => monthLoopDays leap beyond count + dayOfMonthAt leap beyond count

/-- The value `efi_time_to_ctime` computes before it is stored as an `INTN`. -/
def ctimeExact (beyond : Nat → UInt8) (time : EfiTime) : Int :=
  let days := yearLoopDays (time.year.toNat - 1970) +
    monthLoopDays (isALeapYear time.year.toNat) beyond (time.month.toNat - 1)
  days * 24 * 3600 + time.hour.toNat * 3600 + time.minute.toNat * 60 + time.second.toNat

/-- `efi_time_to_ctime`, wrapped once at the end as an `INTN`. -/
def efiTimeToCtime (intnBits : Nat) (beyond : Nat → UInt8) (time : EfiTime) : Int :=
  Int.bmod (ctimeExact beyond time) (2 ^ intnBits)

/-- The number of leap years among the first `count` years from 1970. -/
def leapYears : Nat → Nat
  | 0 => 0
  | count + 1 => leapYears count + if isALeapYear (1970 + count) then 1 else 0

/-- The length of the month with index `index` (January is 0) of a year. -/
def monthLength (leap : Bool) (index : Nat) : Nat :=
  match index with
  | 1 => if leap then 29 else 28
  | 3 | 5 | 8 | 10 => 30
  | _ => 31

/-- The days of the months before the month numbered `month` (January is 1). -/
def daysBeforeMonth (leap : Bool) (month : Nat) : Nat :=
  ((List.range (month - 1)).map (monthLength leap)).sum

/-- The number of seconds from 1970-01-01 00:00:00 to a calendar time. -/
def secondsSinceEpoch (time : EfiTime) : Int :=
  let years := time.year.toNat - 1970
  let days := 365 * years + leapYears years +
    daysBeforeMonth (isALeapYear time.year.toNat) time.month.toNat + (time.day.toNat - 1)
  days * 86400 + time.hour.toNat * 3600 + time.minute.toNat * 60 + time.second.toNat

/-- 1971-01-01 00:00:00. -/
def firstDayOf1971 : EfiTime := ⟨1971, 1, 1, 0, 0, 0⟩

/-- At the start of 1971 the code counts 366 days for the year 1970. -/
theorem efiTimeToCtime_firstDayOf1971 (config : BuildConfig) (beyond : Nat → UInt8) :
    efiTimeToCtime config.intnBits beyond firstDayOf1971 = 31622400 ∧
      secondsSinceEpoch firstDayOf1971 = 31536000 := by
  have exact : ctimeExact beyond firstDayOf1971 = 31622400 := by
    simp [ctimeExact, firstDayOf1971, yearLoopDays, monthLoopDays, isALeapYear]
  refine ⟨?_, by decide⟩
  rw [efiTimeToCtime, exact, BuildConfig.intnBits]
  split <;> decide

end Kernelflinger.Time
