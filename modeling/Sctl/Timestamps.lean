import Mathlib.Algebra.Group.Int.Defs
import Sctl.Calendar

/-!
The three copies of the date arithmetic: `format_iso8601_utc` (`server/src/lte.rs`)
in `u64` and `i64`, `now_iso` with `days_to_date` (`server/src/infra/mod.rs`) in `u64`,
and `format_unix_us` with `civil_from_days` (`server/src/routes/diagnostics.rs`) in
`i64`, `u32` and `i32`. An operation whose result its type does not hold has no value
here, and a cast keeps what fits, so that a result is one without overflow.
-/
namespace Sctl.Timestamps
open Calendar

/-! ### The integer types -/

/-- What a type from `least` to `most` holds; an operation that overflows has no value. -/
def holds (least most n : Int) : Option Int := if least ≤ n ∧ n ≤ most then some n else none

def u32 : Int → Option Int := holds 0 (2 ^ 32 - 1)

def u64 : Int → Option Int := holds 0 (2 ^ 64 - 1)

def i64 : Int → Option Int := holds (-2 ^ 63) (2 ^ 63 - 1)

/-- The `as` casts. -/
def asU32 (n : Int) : Int := n % 2 ^ 32

def asU64 (n : Int) : Int := n % 2 ^ 64

def asI32 (n : Int) : Int := n.bmod (2 ^ 32)

def asI64 (n : Int) : Int := n.bmod (2 ^ 64)

/-! ### The texts -/

/-- The `{:0width}` format: the sign comes before the zeros. -/
def zeroPadded (width : Nat) (n : Int) : String :=
  let sign := if n < 0 then "-" else ""
  let digits := toString n.natAbs
  sign ++ "".pushn '0' (width - sign.length - digits.length) ++ digits

/-- The part of the three formats up to the second. -/
def dateTime (year month day hour minute second : Int) : String :=
  zeroPadded 4 year ++ "-" ++ zeroPadded 2 month ++ "-" ++ zeroPadded 2 day ++ "T" ++
    zeroPadded 2 hour ++ ":" ++ zeroPadded 2 minute ++ ":" ++ zeroPadded 2 second

/-! ### The three copies -/

/-- The arithmetic on the day of the era, in whichever unsigned type: the year of the
    era, the month and the day. -/
def eraParts (unsigned : Int → Option Int) (doe : Int) : Option (Int × Int × Int) := do
  let leapless ← unsigned (doe - doe / 1460)
  let centuries ← unsigned (leapless + doe / 36524)
  let days ← unsigned (centuries - doe / 146096)
  let yoe := days / 365
  let years ← unsigned (365 * yoe)
  let fourths ← unsigned (years + yoe / 4)
  let before ← unsigned (fourths - yoe / 100)
  let doy ← unsigned (doe - before)
  let fives ← unsigned (5 * doy)
  let mp := (← unsigned (fives + 2)) / 153
  let months ← unsigned (153 * mp)
  let first := (← unsigned (months + 2)) / 5
  let since ← unsigned (doy - first)
  let d ← unsigned (since + 1)
  let m ← if mp < 10 then unsigned (mp + 3) else unsigned (mp - 9)
  some (yoe,m,d)

/-- `format_iso8601_utc`. -/
def formatIso8601Utc (unixSecs : UInt64) : Option String := do
  let secs : Int := unixSecs.toNat
  let secsOfDay := secs % 86400
  let hour := secsOfDay / 3600
  let minute := secsOfDay / 60 % 60
  let second := secsOfDay % 60
  let z ← i64 (asI64 (secs / 86400) + 719468)
  let floored ← if 0 ≤ z then some z else i64 (z - 146096)
  let era := floored.tdiv 146097
  let doe := asU64 (← i64 (z - (← i64 (era * 146097))))
  let (yoe,m,d) ← eraParts u64 doe
  let y ← i64 (asI64 yoe + (← i64 (era * 400)))
  let y ← if m ≤ 2 then i64 (y + 1) else some y
  some (dateTime y m d hour minute second ++ "Z")

/-- `days_to_date`. -/
def daysToDate (days : Int) : Option (Int × Int × Int) := do
  let z ← u64 (days + 719468)
  let era := z / 146097
  let doe ← u64 (z - (← u64 (era * 146097)))
  let (yoe,month,day) ← eraParts u64 doe
  let year ← u64 (yoe + (← u64 (era * 400)))
  let year ← if month ≤ 2 then u64 (year + 1) else some year
  some (year,month,day)

/-- `now_iso`, for the clock's seconds. -/
def nowIso (secs : UInt64) : Option String := do
  let secs : Int := secs.toNat
  let days := secs / 86400
  let timeOfDay := secs % 86400
  let hours := timeOfDay / 3600
  let mins := timeOfDay % 3600 / 60
  let sec := timeOfDay % 60
  let (year,month,day) ← daysToDate days
  some (dateTime year month day hours mins sec ++ "Z")

/-- `civil_from_days`. -/
def civilFromDays (z : Int) : Option (Int × Int × Int) := do
  let z ← i64 (z + 719468)
  let floored ← if 0 ≤ z then some z else i64 (z - 146096)
  let era := floored.tdiv 146097
  let doe := asU32 (← i64 (z - (← i64 (era * 146097))))
  let (yoe,m,d) ← eraParts u32 doe
  let y ← i64 (yoe + (← i64 (era * 400)))
  let y ← if m ≤ 2 then i64 (y + 1) else some y
  some (asI32 y,m,d)

/-- `format_unix_us`. -/
def formatUnixUs (us : UInt64) : Option String := do
  let us : Int := us.toNat
  let secs := us / 1000000
  let subsec := us % 1000000
  let daysSinceEpoch := secs / 86400
  let timeOfDay := secs % 86400
  let hours := timeOfDay / 3600
  let minutes := timeOfDay % 3600 / 60
  let seconds := timeOfDay % 60
  let (year,month,day) ← civilFromDays (asI64 daysSinceEpoch)
  some (dateTime year month day hours minutes seconds ++ "." ++ zeroPadded 6 subsec ++ "Z")

example : formatIso8601Utc 1779282470 = some "2026-05-20T13:07:50Z" := by decide +kernel
example : formatIso8601Utc 1709208000 = some "2024-02-29T12:00:00Z" := by decide +kernel

/-! ### The day of the era -/

theorem leap_last {yoe doy : Nat} (inside : doy < yearLength yoe) : doy ≤ 364 ∨ doy = 365 ∧ Leap (yoe + 1) := by
  unfold yearLength at inside
  split at inside
  · next leap => exact (Nat.le_or_eq_of_le_succ (Nat.le_of_lt_succ inside)).imp id fun last => ⟨last,leap⟩
  · exact .inl (Nat.le_of_lt_succ inside)

theorem day_small {yoe doy : Nat} (small : yoe < 400) (inside : doy < yearLength yoe) : daysBefore yoe + doy < 146097 := by
  have last := leap_last inside
  unfold daysBefore
  omega

/-- The leap days before a day are told by the day alone: a fourth year has 1461 days, a
    century has one day less than its fourth years, and an era one day more than its centuries. -/
theorem yoe_eq {yoe doy : Nat} (small : yoe < 400) (inside : doy < yearLength yoe) :
    (daysBefore yoe + doy - (daysBefore yoe + doy) / 1460 + (daysBefore yoe + doy) / 36524 -
      (daysBefore yoe + doy) / 146096) / 365 = yoe := by
  have whole : daysBefore yoe + doy + yoe / 100 = 365 * yoe + yoe / 4 + doy := by
    unfold daysBefore
    omega
  have last := leap_last inside
  generalize daysBefore yoe + doy = doe at whole ⊢
  clear inside
  -- in a century that does not end the era
  have century : ∀ {n : Nat}, n ≤ 36524 * (yoe / 100) + 36523 → 36524 * (yoe / 100) ≤ n → n < 146096 →
      n / 36524 = yoe / 100 ∧ n / 146096 = 0 := by
    intro n most least short
    exact ⟨Nat.div_eq_of_lt_le (by omega) (by omega),Nat.div_eq_of_lt short⟩
  rcases last with plain | ⟨rfl,leap⟩
  · obtain ⟨centuries,eras⟩ := @century doe (by omega) (by omega) (by omega)
    have fourths : doe / 1460 = yoe / 4 ∧ doy < 365 ∨ doe / 1460 = yoe / 4 + 1 ∧ 0 < doy := by omega
    rw [centuries,eras]
    omega
  · unfold Leap at leap
    rcases Nat.lt_or_ge yoe 399 with early | late
    · have short : yoe % 100 < 99 := by omega
      obtain ⟨centuries,eras⟩ := @century doe (by omega) (by omega) (by omega)
      have fourths : doe / 1460 = yoe / 4 + 1 := by omega
      rw [centuries,eras]
      omega
    · obtain rfl : yoe = 399 := by omega
      omega

/-- The month and the day as the code has them, without a difference below zero. -/
theorem monthDay_cast (doy : Nat) :
    (((monthDay doy).1 : Int) = if (((5 * doy + 2) / 153 : Nat) : Int) < 10 then (((5 * doy + 2) / 153 : Nat) : Int) + 3
      else (((5 * doy + 2) / 153 : Nat) : Int) - 9) ∧
      ((monthDay doy).2 : Int) = doy - (153 * ((5 * doy + 2) / 153 : Nat) + 2) / 5 + 1 := by
  dsimp only [monthDay]
  constructor
  · split <;> split <;> omega
  · omega

/-- In a type that holds 32 bits, the arithmetic does not overflow and finds the year, the month and the day. -/
theorem eraParts_eq {unsigned : Int → Option Int} (wide : ∀ n, 0 ≤ n → n < 2 ^ 32 → unsigned n = some n)
    {yoe doy : Nat} (small : yoe < 400) (inside : doy < yearLength yoe) :
    eraParts unsigned (daysBefore yoe + doy : Nat) = some ((yoe : Int),((monthDay doy).1 : Int),((monthDay doy).2 : Int)) := by
  have year := yoe_eq small inside
  have days := day_small small inside
  have whole : daysBefore yoe + yoe / 100 = 365 * yoe + yoe / 4 := by
    unfold daysBefore
    omega
  have short : doy < 366 := Nat.lt_of_lt_of_le inside (yearLength_le yoe)
  have length : daysBefore yoe ≤ daysBefore yoe + doy := Nat.le_add_right _ _
  obtain ⟨doe,same⟩ : ∃ doe, doe = daysBefore yoe + doy := ⟨_,rfl⟩
  rw [← same] at year days ⊢
  have yoe_ : ((doe : Int) - doe / 1460 + doe / 36524 - doe / 146096) / 365 = yoe := by omega
  have doy_ : (doe : Int) - (365 * yoe + yoe / 4 - yoe / 100) = doy := by omega
  have fits : ∀ {n : Int} (next : Int → Option (Int × Int × Int)), 0 ≤ n → n < 2 ^ 32 → (unsigned n).bind next = next n := by
    intro n next least most
    rw [wide n least most,Option.bind_some]
  simp only [eraParts,Option.bind_eq_bind]
  rw [fits _ (by omega) (by omega),fits _ (by omega) (by omega),fits _ (by omega) (by omega),yoe_]
  rw [fits _ (by omega) (by omega),fits _ (by omega) (by omega),fits _ (by omega) (by omega),fits _ (by omega) (by omega),doy_]
  rw [fits _ (by omega) (by omega),fits _ (by omega) (by omega)]
  have months : ((5 * (doy : Int) + 2) / 153) = ((5 * doy + 2) / 153 : Nat) := by omega
  rw [months]
  obtain ⟨month,day⟩ := monthDay_cast doy
  rw [fits _ (by omega) (by omega),fits _ (by omega) (by omega),fits _ (by omega) (by omega),fits _ (by omega) (by omega),← day,month]
  split
  · rw [fits _ (by omega) (by omega)]
  · rw [fits _ (by omega) (by omega)]

/-! ### From the epoch on -/

/-- Midnight at the epoch. -/
def epoch : Date := ⟨1970,1,1⟩

theorem march_epoch : (⟨0,3,1⟩ : Date).after 719468 = epoch := by
  obtain ⟨era,yoe,doy,small,inside,whole,found⟩ := after_march 719468
  have days := day_small small inside
  have year := yoe_eq small inside
  obtain rfl : era = 4 := by omega
  have day : daysBefore yoe + doy = 135080 := by omega
  rw [day] at year
  obtain rfl : yoe = 369 := year.symm
  obtain rfl : doy = 306 := Nat.add_left_cancel (day.trans (show 135080 = daysBefore 369 + 306 by decide))
  rw [found]
  rfl

/-- A day since the epoch by its era, its year and its day. -/
theorem day_since (days : Nat) : ∃ era yoe doy, yoe < 400 ∧ doy < yearLength yoe ∧
    days + 719468 = era * 146097 + (daysBefore yoe + doy) ∧ epoch.after days = ofMarch era yoe doy := by
  obtain ⟨era,yoe,doy,small,inside,whole,found⟩ := after_march (719468 + days)
  rw [after_add,march_epoch] at found
  exact ⟨era,yoe,doy,small,inside,by omega,found⟩

theorem u32_small {n : Int} (least : 0 ≤ n) (most : n < 2 ^ 32) : u32 n = some n := if_pos ⟨least,by omega⟩

theorem u64_small {n : Int} (least : 0 ≤ n) (most : n < 2 ^ 64) : u64 n = some n := if_pos ⟨least,by omega⟩

theorem i64_small {n : Int} (least : 0 ≤ n) (most : n < 2 ^ 63) : i64 n = some n := if_pos ⟨by omega,by omega⟩

theorem asI64_small {n : Int} (least : 0 ≤ n) (most : n < 2 ^ 63) : asI64 n = n := by
  rw [asI64,Int.bmod_def]
  omega

/-- The year of the date: the January after a March belongs to the next one. -/
theorem year_march {era yoe doy : Nat} : ((ofMarch era yoe doy).year : Int) =
    if ((monthDay doy).1 : Int) ≤ 2 then (yoe : Int) + era * 400 + 1 else (yoe : Int) + era * 400 := by
  unfold ofMarch
  dsimp only
  split <;> split <;> omega

theorem daysToDate_eq {days : Nat} (small : days < 2 ^ 48) : daysToDate days =
    some (((epoch.after days).year : Int),((epoch.after days).month : Int),((epoch.after days).day : Int)) := by
  obtain ⟨era,yoe,doy,year,inside,whole,found⟩ := day_since days
  have short := day_small year inside
  have parts := @eraParts_eq u64 (fun n least most => u64_small least (by omega)) yoe doy year inside
  have era_ : ((days : Int) + 719468) / 146097 = era := by omega
  have doe : (days : Int) + 719468 - era * 146097 = (daysBefore yoe + doy : Nat) := by omega
  simp only [daysToDate,Option.bind_eq_bind]
  rw [u64_small (by omega) (by omega),Option.bind_some,era_,u64_small (by omega) (by omega),Option.bind_some,doe,
    u64_small (by omega) (by omega),Option.bind_some,parts,Option.bind_some]
  dsimp only
  rw [u64_small (by omega) (by omega),Option.bind_some,u64_small (by omega) (by omega),Option.bind_some,found,year_march]
  split
  · rw [u64_small (by omega) (by omega)]
    rfl
  · rfl

theorem civilFromDays_eq {days : Nat} (small : days < 2 ^ 28) : civilFromDays days =
    some (((epoch.after days).year : Int),((epoch.after days).month : Int),((epoch.after days).day : Int)) := by
  obtain ⟨era,yoe,doy,year,inside,whole,found⟩ := day_since days
  have short := day_small year inside
  have parts := @eraParts_eq u32 (fun n => u32_small) yoe doy year inside
  have era_ : ((days : Int) + 719468).tdiv 146097 = era := by
    rw [Int.tdiv_eq_ediv_of_nonneg (by omega)]
    omega
  have doe : (days : Int) + 719468 - era * 146097 = (daysBefore yoe + doy : Nat) := by omega
  have cast : asU32 (daysBefore yoe + doy : Nat) = (daysBefore yoe + doy : Nat) := Int.emod_eq_of_lt (by omega) (by omega)
  have year_ : ∀ n : Int, 0 ≤ n → n < 2 ^ 31 → asI32 n = n := by
    intro n least most
    rw [asI32,Int.bmod_def]
    omega
  simp only [civilFromDays,Option.bind_eq_bind]
  rw [i64_small (by omega) (by omega),Option.bind_some,if_pos (by omega),Option.bind_some,era_,i64_small (by omega) (by omega),
    Option.bind_some,doe,i64_small (by omega) (by omega),Option.bind_some,cast,parts,Option.bind_some]
  dsimp only
  rw [i64_small (by omega) (by omega),Option.bind_some,i64_small (by omega) (by omega),Option.bind_some,found,year_march]
  split
  · rw [i64_small (by omega) (by omega),Option.bind_some,year_ _ (by omega) (by omega)]
    rfl
  · rw [Option.bind_some,year_ _ (by omega) (by omega)]
    rfl

/-- The text of a moment, up to the second. -/
def textOf (moment : Moment) : String :=
  dateTime moment.date.year moment.date.month moment.date.day moment.hour moment.minute moment.second

/-- So many seconds since the epoch. -/
def momentAt (secs : Nat) : Moment := (⟨epoch,0,0,0⟩ : Moment).after secs

theorem textOf_momentAt (secs : Nat) : textOf (momentAt secs) =
    dateTime (epoch.after (secs / 86400)).year (epoch.after (secs / 86400)).month (epoch.after (secs / 86400)).day
      (secs % 86400 / 3600 : Nat) (secs % 86400 / 60 % 60 : Nat) (secs % 86400 % 60 : Nat) := by
  rw [momentAt,moment_after]
  rfl

theorem formatIso8601Utc_eq (secs : UInt64) : formatIso8601Utc secs = some (textOf (momentAt secs.toNat) ++ "Z") := by
  have small : secs.toNat < 2 ^ 64 := secs.toNat_lt
  obtain ⟨era,yoe,doy,year,inside,whole,found⟩ := day_since (secs.toNat / 86400)
  have short := day_small year inside
  have parts := @eraParts_eq u64 (fun n least most => u64_small least (by omega)) yoe doy year inside
  have days : asI64 ((secs.toNat : Int) / 86400) = (secs.toNat / 86400 : Nat) := by
    rw [asI64_small (by omega) (by omega)]
    omega
  have era_ : (((secs.toNat / 86400 : Nat) : Int) + 719468).tdiv 146097 = era := by
    rw [Int.tdiv_eq_ediv_of_nonneg (by omega)]
    omega
  have doe : ((secs.toNat / 86400 : Nat) : Int) + 719468 - era * 146097 = (daysBefore yoe + doy : Nat) := by omega
  have cast : asU64 (daysBefore yoe + doy : Nat) = (daysBefore yoe + doy : Nat) := Int.emod_eq_of_lt (by omega) (by omega)
  simp only [formatIso8601Utc,Option.bind_eq_bind]
  rw [days,i64_small (by omega) (by omega),Option.bind_some,if_pos (by omega),Option.bind_some,era_,
    i64_small (by omega) (by omega),Option.bind_some,doe,i64_small (by omega) (by omega),Option.bind_some,cast,parts,Option.bind_some]
  dsimp only
  rw [i64_small (by omega) (by omega),Option.bind_some,asI64_small (by omega) (by omega),i64_small (by omega) (by omega),
    Option.bind_some,textOf_momentAt,found,year_march]
  split
  · rw [i64_small (by omega) (by omega)]
    rfl
  · rfl

theorem nowIso_eq (secs : UInt64) : nowIso secs = some (textOf (momentAt secs.toNat) ++ "Z") := by
  have small : secs.toNat < 2 ^ 64 := secs.toNat_lt
  have days : ((secs.toNat : Int) / 86400) = (secs.toNat / 86400 : Nat) := by omega
  have minutes : ((secs.toNat : Int) % 86400 % 3600 / 60) = (secs.toNat % 86400 / 60 % 60 : Nat) := by omega
  simp only [nowIso,Option.bind_eq_bind]
  rw [days,daysToDate_eq (by omega),Option.bind_some,minutes,textOf_momentAt]
  rfl

theorem formatUnixUs_eq (us : UInt64) : formatUnixUs us =
    some (textOf (momentAt (us.toNat / 1000000)) ++ "." ++ zeroPadded 6 (us.toNat % 1000000 : Nat) ++ "Z") := by
  have small : us.toNat < 2 ^ 64 := us.toNat_lt
  have days : asI64 ((us.toNat : Int) / 1000000 / 86400) = (us.toNat / 1000000 / 86400 : Nat) := by
    rw [asI64_small (by omega) (by omega)]
    omega
  have minutes : ((us.toNat : Int) / 1000000 % 86400 % 3600 / 60) = (us.toNat / 1000000 % 86400 / 60 % 60 : Nat) := by omega
  simp only [formatUnixUs,Option.bind_eq_bind]
  rw [days,civilFromDays_eq (by omega),Option.bind_some,minutes,textOf_momentAt]
  rfl

/-- The three copies give the moment that counting forward from the epoch comes to. -/
theorem timestamps_exact : (∀ secs : UInt64, formatIso8601Utc secs = some (textOf (momentAt secs.toNat) ++ "Z") ∧
    nowIso secs = some (textOf (momentAt secs.toNat) ++ "Z")) ∧
    ∀ us : UInt64, formatUnixUs us =
      some (textOf (momentAt (us.toNat / 1000000)) ++ "." ++ zeroPadded 6 (us.toNat % 1000000 : Nat) ++ "Z") :=
  ⟨fun secs => ⟨formatIso8601Utc_eq secs,nowIso_eq secs⟩,formatUnixUs_eq⟩

end Sctl.Timestamps
