import Mathlib.Tactic.IntervalCases
import Mathlib.Tactic.Ring
import Orchestrator.Time.Calendar

/-!
Days and dates stand for each other: every day has one date, and every date of the calendar is the
date of its day.

The proof goes by years that begin in March, four hundred of which make an era of always the same
length. A day is told apart by its era, its year in the era, its month and its place in the month.
-/

namespace Orchestrator.Date

theorem isValid_iff {d : Date} :
    d.isValid = true ↔
      1 ≤ d.month ∧ d.month ≤ 12 ∧ 1 ≤ d.day ∧ d.day ≤ monthLength d.year d.month := by
  simp only [isValid, Bool.and_eq_true, decide_eq_true_eq, and_assoc]

/-! ## Years of an era -/

def yearStart (y : Nat) : Nat := 365 * y + y / 4 - y / 100

/-- Such a year ends with the February of the next calendar year. -/
def yearLength (y : Nat) : Nat := if isLeapYear (y + 1) then 366 else 365

/-- The leap days that lie before a day of an era are taken out. -/
def withoutLeapDays (d : Nat) : Nat := d - d / 1460 + d / 36524 - d / 146096

theorem withoutLeapDays_succ (d : Nat) : withoutLeapDays d ≤ withoutLeapDays (d + 1) := by
  have hyears : (d + 1) / 1460 ≤ d / 1460 + 1 := by omega
  have hcenturies : d / 36524 ≤ (d + 1) / 36524 := by omega
  have hera : d / 146096 = d / 36524 / 4 := (Nat.div_div_eq_div_mul d 36524 4).symm
  have hera' : (d + 1) / 146096 = (d + 1) / 36524 / 4 := (Nat.div_div_eq_div_mul _ 36524 4).symm
  have hless : d / 1460 ≤ d := Nat.div_le_self ..
  have hless' : (d + 1) / 1460 ≤ d + 1 := Nat.div_le_self ..
  unfold withoutLeapDays
  rw [hera, hera']
  generalize d / 36524 = c at *
  generalize (d + 1) / 36524 = c' at *
  generalize d / 1460 = q at *
  generalize (d + 1) / 1460 = q' at *
  omega

theorem withoutLeapDays_mono {d e : Nat} (h : d ≤ e) : withoutLeapDays d ≤ withoutLeapDays e := by
  induction h with
  | refl => exact Nat.le_refl _
  | step _ ih => exact Nat.le_trans ih (withoutLeapDays_succ _)

theorem withoutLeapDays_bounds : ∀ y < 400, 365 * y ≤ withoutLeapDays (yearStart y) ∧
    withoutLeapDays (yearStart y + yearLength y - 1) < 365 * (y + 1) := by
  decide +kernel

theorem yearStart_succ : ∀ y < 399, yearStart (y + 1) = yearStart y + yearLength y := by
  decide +kernel

theorem year_in_era : ∀ y < 400, yearStart y + yearLength y ≤ 146097 := by
  decide +kernel

theorem yearOfEra_eq {d y : Nat} (hy : y < 400) (hstart : yearStart y ≤ d)
    (hend : d < yearStart y + yearLength y) : withoutLeapDays d / 365 = y := by
  obtain ⟨hfirst, hlast⟩ := withoutLeapDays_bounds y hy
  have hlow := withoutLeapDays_mono hstart
  have hhigh : withoutLeapDays d ≤ withoutLeapDays (yearStart y + yearLength y - 1) := by
    apply withoutLeapDays_mono
    omega
  omega

theorem exists_yearOfEra {d : Nat} (h : d < 146097) :
    ∃ y < 400, yearStart y ≤ d ∧ d < yearStart y + yearLength y := by
  have hupto (n : Nat) (hn : n < 400) (hd : d < yearStart n + yearLength n) :
      ∃ y ≤ n, yearStart y ≤ d ∧ d < yearStart y + yearLength y := by
    induction n with
    | zero => exact ⟨0, Nat.le_refl _, Nat.zero_le _, hd⟩
    | succ n ih =>
        have hnext := yearStart_succ n (by omega)
        by_cases hlater : yearStart (n + 1) ≤ d
        · exact ⟨n + 1, Nat.le_refl _, hlater, hd⟩
        · obtain ⟨y, hy, hin⟩ := ih (by omega) (by omega)
          exact ⟨y, by omega, hin⟩
  obtain ⟨y, hy, hin⟩ := hupto 399 (by decide) h
  exact ⟨y, by omega, hin⟩

/-! ## Dates counted from March -/

/-- The date of a day of a month, both counted from zero, where March is month zero. -/
def fromMarch (year : Int) (month day : Nat) : Date :=
  let named := if month < 10 then month + 3 else month - 9
  ⟨if named ≤ 2 then year + 1 else year, named, day + 1⟩

/-- Days from the March of the year zero to the March of a year. -/
def marchDays (year : Int) : Int :=
  365 * year + Int.fdiv year 4 - Int.fdiv year 100 + Int.fdiv year 400

theorem marchDays_era (era : Int) {y : Nat} (hy : y < 400) :
    marchDays (era * 400 + y) = era * 146097 + yearStart y := by
  have hquarter : Int.fdiv (era * 400 + y) 4 = era * 100 + (y / 4 : Nat) := by
    rw [Int.fdiv_eq_ediv_of_nonneg _ (by decide)]
    omega
  have hcentury : Int.fdiv (era * 400 + y) 100 = era * 4 + (y / 100 : Nat) := by
    rw [Int.fdiv_eq_ediv_of_nonneg _ (by decide)]
    omega
  have hera : Int.fdiv (era * 400 + y) 400 = era := by
    rw [Int.fdiv_eq_ediv_of_nonneg _ (by decide)]
    omega
  have hyears : y / 100 ≤ 365 * y + y / 4 := by omega
  simp only [marchDays, hquarter, hcentury, hera, yearStart, Nat.cast_sub hyears]
  push_cast
  ring

theorem isLeapYear_era (era : Int) (y : Nat) :
    isLeapYear (era * 400 + y + 1) = isLeapYear ((y : Int) + 1) := by
  have hquarter : (era * 400 + y + 1) % 4 = ((y : Int) + 1) % 4 := by omega
  have hcentury : (era * 400 + y + 1) % 100 = ((y : Int) + 1) % 100 := by omega
  have hera : (era * 400 + y + 1) % 400 = ((y : Int) + 1) % 400 := by omega
  simp only [isLeapYear, hquarter, hcentury, hera]

theorem toDays_fromMarch (year : Int) {month : Nat} (h : month < 12) (day : Nat) :
    (fromMarch year month day).toDays =
      marchDays year + daysBeforeMonth month + day - 719468 := by
  by_cases hlate : month < 10
  · have hback : (month + 3 + 9) % 12 = month := by omega
    have hsame : ¬ month + 3 ≤ 2 := by omega
    simp only [fromMarch, hlate, if_true, toDays, hsame, if_false, hback, marchDays]
    omega
  · have hback : (month - 9 + 9) % 12 = month := by omega
    have hnext : month - 9 ≤ 2 := by omega
    have hyear : year + 1 - 1 = year := by omega
    simp only [fromMarch, hlate, if_false, toDays, hnext, if_true, hback, marchDays, hyear]
    omega

/-- A month ends before the next one begins, and the last one with its year. -/
theorem isValid_fromMarch (year : Int) {month : Nat} (h : month < 12) (day : Nat) :
    (fromMarch year month day).isValid = true ↔ daysBeforeMonth month + day <
      if month = 11 then (if isLeapYear (year + 1) then 366 else 365)
      else daysBeforeMonth (month + 1) := by
  interval_cases month <;> simp [fromMarch, isValid, monthLength, daysBeforeMonth] <;> try omega
  split <;> omega

theorem exists_fromMarch {d : Date} (h : d.isValid = true) :
    ∃ year, ∃ month < 12, ∃ day, d = fromMarch year month day := by
  obtain ⟨year, month, day⟩ := d
  obtain ⟨hmonth, hmonth', hday', -⟩ := isValid_iff.1 h
  dsimp only at hmonth hmonth' hday'
  have hday : day - 1 + 1 = day := by omega
  refine ⟨if month ≤ 2 then year - 1 else year, (month + 9) % 12, by omega, day - 1, ?_⟩
  by_cases hearly : month ≤ 2
  · have hlast : ¬ (month + 9) % 12 < 10 := by omega
    have hback : (month + 9) % 12 - 9 = month := by omega
    simp only [fromMarch, hlast, if_false, hback, hearly, if_true, hday, Int.sub_add_cancel]
  · have hlater : (month + 9) % 12 < 10 := by omega
    have hback : (month + 9) % 12 + 3 = month := by omega
    simp only [fromMarch, hlater, if_true, hback, hearly, if_false, hday]

theorem monthOfYear_eq {month day : Nat} (h : daysBeforeMonth month + day <
      if month = 11 then 366 else daysBeforeMonth (month + 1)) :
    (5 * (daysBeforeMonth month + day) + 2) / 153 = month := by
  unfold daysBeforeMonth at *
  split at h <;> omega

theorem ofDays_fromMarch {era : Int} {y month day : Nat} (hy : y < 400) (hmonth : month < 12)
    (hvalid : (fromMarch (era * 400 + y) month day).isValid = true) :
    ofDays (marchDays (era * 400 + y) + daysBeforeMonth month + day - 719468) =
      fromMarch (era * 400 + y) month day := by
  rw [isValid_fromMarch _ hmonth, isLeapYear_era] at hvalid
  have hinYear : daysBeforeMonth month + day < yearLength y := by
    unfold yearLength
    unfold daysBeforeMonth at *
    split at hvalid
    · exact hvalid
    · split <;> omega
  have hinMonth : daysBeforeMonth month + day <
      if month = 11 then 366 else daysBeforeMonth (month + 1) := by
    unfold yearLength at hinYear
    split
    · split at hinYear <;> omega
    · next hlast => rwa [if_neg hlast] at hvalid
  have hlength := year_in_era y hy
  have hera : Int.fdiv (era * 146097 + yearStart y + daysBeforeMonth month + day) 146097 = era := by
    rw [Int.fdiv_eq_ediv_of_nonneg _ (by decide)]
    omega
  have hday : (Int.fmod (era * 146097 + yearStart y + daysBeforeMonth month + day) 146097).toNat =
      yearStart y + (daysBeforeMonth month + day) := by
    rw [Int.fmod_eq_emod_of_nonneg _ (by decide)]
    omega
  have hyear : withoutLeapDays (yearStart y + (daysBeforeMonth month + day)) / 365 = y := by
    apply yearOfEra_eq hy <;> omega
  unfold withoutLeapDays at hyear
  have hdayOfYear : yearStart y + (daysBeforeMonth month + day) - (365 * y + y / 4 - y / 100) =
      daysBeforeMonth month + day := by
    unfold yearStart
    omega
  rw [marchDays_era era hy]
  simp only [ofDays, Int.sub_add_cancel, hera, hday, hyear, hdayOfYear, monthOfYear_eq hinMonth,
    fromMarch, Nat.add_sub_cancel_left]

/-! ## Days and dates -/

theorem monthLength_le (year : Int) (month : Nat) :
    monthLength year month ≤ monthLength 2000 month := by
  have hleap : isLeapYear 2000 = true := by decide
  unfold monthLength
  split
  · rw [hleap]
    split <;> simp
  all_goals exact Nat.le_refl _

theorem monthLength_pos (year : Int) (month : Nat) : 1 ≤ monthLength year month := by
  unfold monthLength
  split
  · split <;> simp
  all_goals simp

theorem bounds_of_isValid {d : Date} (h : d.isValid = true) :
    1 ≤ d.month ∧ d.month ≤ 12 ∧ 1 ≤ d.day ∧ d.day ≤ 31 := by
  have hlength : monthLength d.year d.month ≤ 31 := by
    unfold monthLength
    split
    · split <;> decide
    all_goals decide
  obtain ⟨hfirst, hlast, hday, hend⟩ := isValid_iff.1 h
  exact ⟨hfirst, hlast, hday, Nat.le_trans hend hlength⟩

theorem ofDays_toDays {d : Date} (h : d.isValid = true) : ofDays d.toDays = d := by
  obtain ⟨year, month, hmonth, day, rfl⟩ := exists_fromMarch h
  have hnonneg : 0 ≤ year % 400 := Int.emod_nonneg year (by decide)
  obtain ⟨y, hy⟩ := Int.eq_ofNat_of_zero_le hnonneg
  have hlt : year % 400 < 400 := Int.emod_lt_of_pos _ (by decide)
  have hyear : year = year / 400 * 400 + y := by omega
  rw [hyear] at h ⊢
  rw [toDays_fromMarch _ hmonth]
  exact ofDays_fromMarch (by omega) hmonth h

theorem exists_fromMarch_of_day (n : Int) :
    ∃ (era : Int) (y month day : Nat), y < 400 ∧ month < 12 ∧
      (fromMarch (era * 400 + y) month day).isValid = true ∧
        n = marchDays (era * 400 + y) + daysBeforeMonth month + day - 719468 := by
  have hnonneg : 0 ≤ (n + 719468) % 146097 := Int.emod_nonneg _ (by decide)
  have hlt : (n + 719468) % 146097 < 146097 := Int.emod_lt_of_pos _ (by decide)
  obtain ⟨d, hd⟩ := Int.eq_ofNat_of_zero_le hnonneg
  obtain ⟨y, hy, hstart, hend⟩ := exists_yearOfEra (d := d) (by omega)
  obtain ⟨dayOfYear, rfl⟩ := Nat.exists_eq_add_of_le hstart
  have hdayOfYear : dayOfYear < 366 := by
    unfold yearLength at hend
    split at hend <;> omega
  obtain ⟨month, hm⟩ : ∃ month, month = (5 * dayOfYear + 2) / 153 := ⟨_, rfl⟩
  have hmonth : month < 12 := by omega
  obtain ⟨day, rfl⟩ : ∃ day, dayOfYear = daysBeforeMonth month + day := by
    refine ⟨dayOfYear - daysBeforeMonth month, ?_⟩
    unfold daysBeforeMonth
    omega
  refine ⟨(n + 719468) / 146097, y, month, day, hy, hmonth, ?_, ?_⟩
  · rw [isValid_fromMarch _ hmonth, isLeapYear_era]
    unfold yearLength at hend
    unfold daysBeforeMonth at *
    split <;> omega
  · rw [marchDays_era _ hy]
    omega

theorem isValid_ofDays (n : Int) : (ofDays n).isValid = true := by
  obtain ⟨era, y, month, day, hy, hmonth, hvalid, rfl⟩ := exists_fromMarch_of_day n
  rwa [ofDays_fromMarch hy hmonth hvalid]

theorem toDays_ofDays (n : Int) : (ofDays n).toDays = n := by
  obtain ⟨era, y, month, day, hy, hmonth, hvalid, rfl⟩ := exists_fromMarch_of_day n
  rw [ofDays_fromMarch hy hmonth hvalid, toDays_fromMarch _ hmonth]

/-! ## Weekdays of leap years -/

/-- A leap year to come begins five weekdays later. -/
theorem toDays_leapYear {k month : Nat} (hk : k < 7) (day : Nat) :
    toDays ⟨2000 + 4 * k, month, day⟩ = toDays ⟨2000, month, day⟩ + 1461 * k := by
  have hquarter (n : Int) : Int.fdiv n 4 = n / 4 := Int.fdiv_eq_ediv_of_nonneg n (by decide)
  have hcentury (n : Int) : Int.fdiv n 100 = n / 100 := Int.fdiv_eq_ediv_of_nonneg n (by decide)
  have hera (n : Int) : Int.fdiv n 400 = n / 400 := Int.fdiv_eq_ediv_of_nonneg n (by decide)
  simp only [toDays, hquarter, hcentury, hera]
  split <;> omega

theorem isValid_leapYear {k month day : Nat} (hk : k < 7) (hmonth : 1 ≤ month ∧ month ≤ 12)
    (hday : 1 ≤ day ∧ day ≤ monthLength 2000 month) :
    isValid ⟨2000 + 4 * k, month, day⟩ = true := by
  have hleap : ∀ k : Nat, k < 7 → isLeapYear (2000 + 4 * k) = isLeapYear 2000 := by
    decide
  have hlength : monthLength (2000 + 4 * k) month = monthLength 2000 month := by
    simp only [monthLength, hleap k hk]
  rw [isValid_iff, hlength]
  exact ⟨hmonth.1, hmonth.2, hday⟩

/-- Every day of a month falls on every weekday in some leap year. -/
theorem exists_day {month day w : Nat} (hmonth : 1 ≤ month ∧ month ≤ 12)
    (hday : 1 ≤ day ∧ day ≤ monthLength 2000 month) (hw : w ≤ 6) :
    ∃ n : Int, (ofDays n).month = month ∧ (ofDays n).day = day ∧ weekday n = w := by
  obtain ⟨k, hk, hturn⟩ : ∃ k : Nat, k < 7 ∧
      (toDays ⟨2000, month, day⟩ + 1461 * k + 4) % 7 = w := by
    refine ⟨((3 * (w - 4 - toDays ⟨2000, month, day⟩)) % 7).toNat, ?_, ?_⟩ <;> omega
  refine ⟨toDays ⟨2000 + 4 * k, month, day⟩, ?_⟩
  rw [ofDays_toDays (isValid_leapYear hk hmonth hday), toDays_leapYear hk]
  refine ⟨rfl, rfl, ?_⟩
  rw [weekday, Int.fmod_eq_emod_of_nonneg _ (by decide), hturn, Int.toNat_natCast]

end Orchestrator.Date
