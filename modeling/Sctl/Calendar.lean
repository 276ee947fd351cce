import Mathlib.Logic.Basic
import Mathlib.Data.List.Basic
import Mathlib.Algebra.Group.Nat.Defs

/-!
The proleptic Gregorian calendar, counted forward day by day and second by
second. A year that begins in March has its leap day at the end, so a day is told
by its era of 400 years, the year in the era and the day in the year (`ofMarch`),
and counting forward goes through these three like an odometer (`after_march`).
-/
namespace Sctl.Calendar

structure Date where
  year : Nat
  month : Nat
  day : Nat
deriving DecidableEq, Repr

/-- Every fourth year, of the centuries every fourth one. -/
def Leap (year : Nat) : Prop := year % 4 = 0 ∧ (year % 100 = 0 → year % 400 = 0)

instance : DecidablePred Leap := fun _ => inferInstanceAs (Decidable (_ ∧ _))

/-- The length of a month, when February has so many days. -/
def monthLength (february month : Nat) : Nat :=
  if month = 2 then february else if month = 4 ∨ month = 6 ∨ month = 9 ∨ month = 11 then 30 else 31

def daysIn (year month : Nat) : Nat := monthLength (if Leap year then 29 else 28) month

/-- The day after. -/
def Date.next (date : Date) : Date :=
  if date.day < daysIn date.year date.month then ⟨date.year,date.month,date.day + 1⟩
  else if date.month < 12 then ⟨date.year,date.month + 1,1⟩
  else ⟨date.year + 1,1,1⟩

/-- The date so many days later. -/
def Date.after (start : Date) : Nat → Date
  | 0 => start
  | n + 1 => (start.after n).next

theorem after_succ (start : Date) (n : Nat) : start.after (n + 1) = (start.after n).next := rfl

theorem after_add (start : Date) (n m : Nat) : start.after (n + m) = (start.after n).after m := by
  induction m with
  | zero => rfl
  | succ m ih => exact congrArg Date.next ih

structure Moment where
  date : Date
  hour : Nat
  minute : Nat
  second : Nat
deriving DecidableEq, Repr

/-- The second after. -/
def Moment.next (moment : Moment) : Moment :=
  if moment.second < 59 then { moment with second := moment.second + 1 }
  else if moment.minute < 59 then { moment with minute := moment.minute + 1, second := 0 }
  else if moment.hour < 23 then { moment with hour := moment.hour + 1, minute := 0, second := 0 }
  else ⟨moment.date.next,0,0,0⟩

/-- The moment so many seconds later. -/
def Moment.after (start : Moment) : Nat → Moment
  | 0 => start
  | n + 1 => (start.after n).next

/-- Midnight, and so many seconds later. -/
theorem moment_after (date : Date) (n : Nat) :
    (⟨date,0,0,0⟩ : Moment).after n = ⟨date.after (n / 86400),n % 86400 / 3600,n % 86400 / 60 % 60,n % 86400 % 60⟩ := by
  induction n with
  | zero => rfl
  | succ n ih =>
    have here : (⟨date,0,0,0⟩ : Moment).after (n + 1) = ((⟨date,0,0,0⟩ : Moment).after n).next := rfl
    rw [here,ih,Moment.next]
    dsimp only
    split
    · have day : (n + 1) / 86400 = n / 86400 := by omega
      rw [day,Moment.mk.injEq]
      exact ⟨rfl,by omega,by omega,by omega⟩
    · split
      · have day : (n + 1) / 86400 = n / 86400 := by omega
        rw [day,Moment.mk.injEq]
        exact ⟨rfl,by omega,by omega,by omega⟩
      · split
        · have day : (n + 1) / 86400 = n / 86400 := by omega
          rw [day,Moment.mk.injEq]
          exact ⟨rfl,by omega,by omega,by omega⟩
        · have day : (n + 1) / 86400 = n / 86400 + 1 := by omega
          rw [day,Moment.mk.injEq]
          exact ⟨rfl,by omega,by omega,by omega⟩

/-! ### Years that begin in March -/

/-- The month and the day of a day of the year, by fives of months of 153 days. -/
def monthDay (doy : Nat) : Nat × Nat :=
  let mp := (5 * doy + 2) / 153
  (if mp < 10 then mp + 3 else mp - 9,doy - (153 * mp + 2) / 5 + 1)

/-- The date of a day: its era, its year in the era and its day in the year. -/
def ofMarch (era yoe doy : Nat) : Date :=
  ⟨yoe + era * 400 + if (monthDay doy).1 ≤ 2 then 1 else 0,(monthDay doy).1,(monthDay doy).2⟩

/-- The days of an era before a year. -/
def daysBefore (yoe : Nat) : Nat := 365 * yoe + yoe / 4 - yoe / 100

/-- The leap day of the next January's year ends the year. -/
def yearLength (yoe : Nat) : Nat := if Leap (yoe + 1) then 366 else 365

theorem yearLength_le (yoe : Nat) : yearLength yoe ≤ 366 := by
  unfold yearLength
  split <;> omega

theorem daysBefore_succ {yoe : Nat} (small : yoe + 1 < 400) : daysBefore (yoe + 1) = daysBefore yoe + yearLength yoe := by
  unfold yearLength
  by_cases leap : Leap (yoe + 1)
  · rw [if_pos leap]
    unfold Leap at leap
    unfold daysBefore
    omega
  · rw [if_neg leap]
    unfold Leap at leap
    unfold daysBefore
    omega

theorem daysBefore_last : daysBefore 399 + yearLength 399 = 146097 := by decide

/-- Within a year of March the months go on as in a year of January, to the 28th of February. -/
theorem monthDay_succ : ∀ doy < 364, ∀ february, february = 28 ∨ february = 29 →
    ((monthDay doy).2 < monthLength february (monthDay doy).1 ∧ monthDay (doy + 1) = ((monthDay doy).1,(monthDay doy).2 + 1)) ∨
    (¬ (monthDay doy).2 < monthLength february (monthDay doy).1 ∧ (monthDay doy).1 < 12 ∧
      monthDay (doy + 1) = ((monthDay doy).1 + 1,1) ∧ ((monthDay doy).1 + 1 ≤ 2 ↔ (monthDay doy).1 ≤ 2)) ∨
    (¬ (monthDay doy).2 < monthLength february (monthDay doy).1 ∧ (monthDay doy).1 = 12 ∧ monthDay (doy + 1) = (1,1)) := by
  rintro doy early february (rfl | rfl)
  · revert doy
    decide +kernel
  · revert doy
    decide +kernel

theorem leap_era (era year : Nat) : Leap (year + era * 400) ↔ Leap year := by
  unfold Leap
  omega

/-- The next day of the same year. -/
theorem next_day {era yoe doy : Nat} (inside : doy + 1 < yearLength yoe) :
    (ofMarch era yoe doy).next = ofMarch era yoe (doy + 1) := by
  rcases Nat.lt_or_ge doy 364 with early | late
  · obtain ⟨february,length,days⟩ : ∃ february, (february = 28 ∨ february = 29) ∧
        daysIn (ofMarch era yoe doy).year = monthLength february := by
      refine ⟨_,?_,rfl⟩
      split
      · exact .inr rfl
      · exact .inl rfl
    unfold Date.next
    rw [days]
    unfold ofMarch
    dsimp only
    rcases monthDay_succ doy early february length with ⟨more,next⟩ | ⟨last,more,next,winter⟩ | ⟨last,december,next⟩
    · rw [if_pos more,next]
    · rw [if_neg last,if_pos more,next]
      simp only [winter]
    · rw [if_neg last,december,next]
      rfl
  · -- the leap day comes after the 28th of February
    have long : yearLength yoe = 366 := by
      unfold yearLength at inside ⊢
      split at inside
      · next leap => rw [if_pos leap]
      · omega
    obtain rfl : doy = 364 := by omega
    have leap : Leap (yoe + 1) := by
      by_contra plain
      rw [yearLength,if_neg plain] at long
      omega
    have month : Leap (yoe + era * 400 + 1) := by
      rw [show yoe + era * 400 + 1 = yoe + 1 + era * 400 by omega]
      exact (leap_era era (yoe + 1)).mpr leap
    have february : ofMarch era yoe 364 = ⟨yoe + era * 400 + 1,2,28⟩ := rfl
    have days : daysIn (yoe + era * 400 + 1) 2 = 29 := if_pos month
    rw [february,Date.next]
    dsimp only
    rw [days,if_pos (by decide)]
    rfl

/-- The first of March comes after the last day of February. -/
theorem next_year {era yoe doy : Nat} (last : doy + 1 = yearLength yoe) :
    (ofMarch era yoe doy).next = ⟨yoe + era * 400 + 1,3,1⟩ := by
  have days : ∀ {length : Nat}, (Leap (yoe + 1) ↔ length = 29) → length = 28 ∨ length = 29 →
      daysIn (yoe + era * 400 + 1) 2 = length := by
    intro length leap either
    have same : Leap (yoe + era * 400 + 1) ↔ Leap (yoe + 1) := by
      rw [show yoe + era * 400 + 1 = yoe + 1 + era * 400 by omega]
      exact leap_era era (yoe + 1)
    unfold daysIn
    rw [monthLength,if_pos rfl]
    by_cases held : Leap (yoe + 1)
    · rw [if_pos (same.mpr held),leap.mp held]
    · rw [if_neg fun found => held (same.mp found)]
      exact (either.resolve_right fun found => held (leap.mpr found)).symm
  by_cases leap : Leap (yoe + 1)
  · obtain rfl : doy = 365 := by
      rw [yearLength,if_pos leap] at last
      omega
    have february : ofMarch era yoe 365 = ⟨yoe + era * 400 + 1,2,29⟩ := rfl
    rw [february,Date.next]
    dsimp only
    rw [days (iff_of_true leap rfl) (.inr rfl)]
    rfl
  · obtain rfl : doy = 364 := by
      rw [yearLength,if_neg leap] at last
      omega
    have february : ofMarch era yoe 364 = ⟨yoe + era * 400 + 1,2,28⟩ := rfl
    rw [february,Date.next]
    dsimp only
    rw [days (iff_of_false leap (by decide)) (.inl rfl)]
    rfl

/-- Counting forward from the first of March of the year 0. -/
theorem after_march (n : Nat) : ∃ era yoe doy, yoe < 400 ∧ doy < yearLength yoe ∧
    n = era * 146097 + daysBefore yoe + doy ∧ (⟨0,3,1⟩ : Date).after n = ofMarch era yoe doy := by
  induction n with
  | zero => exact ⟨0,0,0,by decide,by decide,rfl,rfl⟩
  | succ n ih =>
    obtain ⟨era,yoe,doy,small,inside,rfl,here⟩ := ih
    rw [after_succ,here]
    rcases Nat.lt_or_ge (doy + 1) (yearLength yoe) with more | ended
    · exact ⟨era,yoe,doy + 1,small,more,Nat.add_assoc _ _ _,next_day more⟩
    · have last : doy + 1 = yearLength yoe := by omega
      rw [next_year last]
      rcases Nat.lt_or_ge (yoe + 1) 400 with year | century
      · refine ⟨era,yoe + 1,0,year,?_,?_,?_⟩
        · unfold yearLength
          split <;> decide
        · rw [daysBefore_succ year]
          omega
        · simp only [ofMarch,Date.mk.injEq]
          exact ⟨by simp [monthDay]; omega,rfl,rfl⟩
      · obtain rfl : yoe = 399 := by omega
        have whole := daysBefore_last
        refine ⟨era + 1,0,0,by decide,by decide,?_,?_⟩
        · rw [show daysBefore 0 = 0 by rfl]
          omega
        · simp only [ofMarch,Date.mk.injEq]
          exact ⟨by simp [monthDay]; omega,rfl,rfl⟩

end Sctl.Calendar
