import Mathlib
import CompletionGateway.Calendar

/-! Day numbers and dates: a day number is the number of its date, the date is a legal one, and later days have later
dates. -/
namespace CompletionGateway.Date

/-- Days before a year that begins in March. -/
def daysBefore (y : Int) : Int := 365 * y + y / 4 - y / 100 + y / 400

/-- The date of a day, counted from 0, in a year that begins in March. -/
def ofMarch (y : Int) (doy : Nat) : Date :=
  let mp := (5 * doy + 2) / 153
  let month := if mp < 10 then mp + 3 else mp - 9
  ⟨if month ≤ 2 then y + 1 else y, month, doy - (153 * mp + 2) / 5 + 1⟩

/-- A day that there is in the year. -/
def InYear (y : Int) (doy : Nat) : Prop := doy ≤ 365 ∧ (doy = 365 → isLeap (y + 1) = true)

lemma isLeap_iff {y : Int} : isLeap y = true ↔ (y % 4 = 0 ∧ y % 100 ≠ 0) ∨ y % 400 = 0 := by simp [isLeap]

/-! ### From days to dates -/

/-- A day of an era of 400 years, by centuries, fours of years, and years. The last century and the last year of a four
are a day longer. -/
lemma exists_parts {doe : Nat} (h : doe < 146097) : ∃ c q a doy, doe = 36524 * c + 1461 * q + 365 * a + doy ∧
    c ≤ 3 ∧ q ≤ 24 ∧ a ≤ 3 ∧ doy ≤ 365 ∧ (doy = 365 → a = 3 ∧ (q = 24 → c = 3)) := by
  obtain ⟨c, hc⟩ : ∃ c, c = min (doe / 36524) 3 := ⟨_, rfl⟩
  obtain ⟨r, hr⟩ : ∃ r, r = doe - 36524 * c := ⟨_, rfl⟩
  obtain ⟨a, ha⟩ : ∃ a, a = min (r % 1461 / 365) 3 := ⟨_, rfl⟩
  exact ⟨c, r / 1461, a, r % 1461 - 365 * a, by omega, by omega, by omega, by omega, by omega, by omega⟩

lemma yearOfEra {doe c q a doy : Nat} (hdoe : doe = 36524 * c + 1461 * q + 365 * a + doy) (hc : c ≤ 3) (hq : q ≤ 24)
    (ha : a ≤ 3) (hdoy : doy ≤ 365) (hleap : doy = 365 → a = 3 ∧ (q = 24 → c = 3)) :
    (doe - doe / 1460 + doe / 36524 - doe / 146096) / 365 = 100 * c + 4 * q + a := by
  have hcenturies : doe / 36524 - doe / 146096 = c := by omega
  have hfours : doe / 1460 = 25 * c + q + (24 * c + q + 365 * a + doy) / 1460 := by omega
  have hlast : doe / 146096 ≤ doe / 36524 := by omega
  omega

/-- Every day is a day of a year that begins in March. -/
lemma exists_ofMarch (days : Int) :
    ∃ y doy, ofDays days = ofMarch y doy ∧ InYear y doy ∧ days = daysBefore y + doy - 719468 := by
  obtain ⟨era, hera⟩ : ∃ era, era = (days + 719468) / 146097 := ⟨_, rfl⟩
  obtain ⟨doe, hdoe⟩ : ∃ doe, doe = (days + 719468 - era * 146097).toNat := ⟨_, rfl⟩
  obtain ⟨c, q, a, doy, hparts, hc, hq, ha, hdoy, hleap⟩ := exists_parts (show doe < 146097 by omega)
  have hdays : days = era * 146097 + doe - 719468 := by omega
  have hfours : (100 * c + 4 * q + a) / 4 = 25 * c + q := by omega
  have hcenturies : (100 * c + 4 * q + a) / 100 = c := by omega
  have hday : doe - (365 * (100 * c + 4 * q + a) + (100 * c + 4 * q + a) / 4 - (100 * c + 4 * q + a) / 100) = doy := by
    rw [hfours, hcenturies]
    omega
  have hyoe := yearOfEra hparts hc hq ha hdoy hleap
  refine ⟨era * 400 + (100 * c + 4 * q + a : Nat), doy, ?_, ⟨hdoy, ?_⟩, ?_⟩
  · simp only [ofDays, ← hera, ← hdoe, hyoe, hday]
    rfl
  · intro hlast
    rw [isLeap_iff]
    omega
  · have hfours : (era * 400 + (100 * c + 4 * q + a : Nat)) / 4 = 100 * era + 25 * c + q := by omega
    have hcenturies : (era * 400 + (100 * c + 4 * q + a : Nat)) / 100 = 4 * era + c := by omega
    have heras : (era * 400 + (100 * c + 4 * q + a : Nat)) / 400 = era := by omega
    rw [daysBefore, hfours, hcenturies, heras, hdays, hparts]
    push_cast
    ring

/-! ### From dates to days -/

lemma toDays_ofMarch {y : Int} {doy : Nat} (h : doy ≤ 365) : (ofMarch y doy).toDays = daysBefore y + doy - 719468 := by
  obtain ⟨mp, hmp⟩ : ∃ mp, mp = (5 * doy + 2) / 153 := ⟨_, rfl⟩
  have hday : (153 * mp + 2) / 5 ≤ doy := by omega
  have hyear : (ofMarch y doy).marchYear = y := by
    simp only [ofMarch, marchYear, ← hmp]
    split <;> omega
  have hmarch : (ofMarch y doy).marchDay = doy := by
    have hmonth : (if (if mp < 10 then mp + 3 else mp - 9) ≤ 2 then (if mp < 10 then mp + 3 else mp - 9) + 9
        else (if mp < 10 then mp + 3 else mp - 9) - 3) = mp := by
      split_ifs <;> omega
    simp only [ofMarch, marchDay, ← hmp, hmonth]
    omega
  rw [toDays, hyear, hmarch, daysBefore]

lemma isValid_ofMarch {y : Int} {doy : Nat} (h : InYear y doy) : (ofMarch y doy).isValid = true := by
  obtain ⟨hdoy, hleap⟩ := h
  obtain ⟨mp, hmp⟩ : ∃ mp, mp = (5 * doy + 2) / 153 := ⟨_, rfl⟩
  have hlt : mp < 12 := by omega
  simp only [isValid, ofMarch, ← hmp, Bool.and_eq_true, decide_eq_true_eq]
  refine ⟨by omega, ?_⟩
  by_cases hfebruary : mp = 11
  · -- the last day of a year from March is the leap day
    subst hfebruary
    norm_num [daysInMonth]
    by_cases hlast : doy = 365
    · rw [if_pos (hleap hlast)]
      omega
    · split <;> omega
  · interval_cases mp <;> norm_num [daysInMonth] <;> omega

theorem toDays_ofDays (days : Int) : (ofDays days).toDays = days := by
  obtain ⟨y, doy, hdate, hyear, hdays⟩ := exists_ofMarch days
  rw [hdate, toDays_ofMarch hyear.1, hdays]

theorem isValid_ofDays (days : Int) : (ofDays days).isValid = true := by
  obtain ⟨y, doy, hdate, hyear, -⟩ := exists_ofMarch days
  rw [hdate]
  exact isValid_ofMarch hyear

/-! ### Order -/

/-- Later in year, month or day. -/
def Before (d e : Date) : Prop :=
  d.year < e.year ∨ d.year = e.year ∧ (d.month < e.month ∨ d.month = e.month ∧ d.day < e.day)

lemma before_trichotomy (d e : Date) : d.Before e ∨ d = e ∨ e.Before d := by
  obtain ⟨y, m, day⟩ := d
  obtain ⟨y', m', day'⟩ := e
  simp only [Before, mk.injEq]
  omega

/-- The first day of a month, the months being numbered from March of year 0. -/
def monthStart (k : Int) : Int := daysBefore (k / 12) + (153 * (k % 12) + 2) / 5

/-- The number of a date's month. -/
def monthNumber (d : Date) : Int := 12 * d.year + d.month - 3

lemma month_of_isValid {d : Date} (h : d.isValid = true) : 1 ≤ d.month ∧ d.month ≤ 12 := by
  simp only [isValid, Bool.and_eq_true, decide_eq_true_eq] at h
  by_contra hmonth
  have hnone : daysInMonth d.year d.month = 0 := by
    unfold daysInMonth
    split <;> omega
  omega

lemma day_of_isValid {d : Date} (h : d.isValid = true) : 1 ≤ d.day ∧ d.day ≤ 31 := by
  simp only [isValid, Bool.and_eq_true, decide_eq_true_eq] at h
  have hlength : daysInMonth d.year d.month ≤ 31 := by
    unfold daysInMonth
    split <;> try omega
    split <;> omega
  omega

lemma toDays_eq {d : Date} (h : d.isValid = true) :
    d.toDays = monthStart d.monthNumber + (d.day - 1 : Nat) - 719468 := by
  obtain ⟨hleast, hgreatest⟩ := month_of_isValid h
  have hyear : d.marchYear = d.monthNumber / 12 := by
    unfold marchYear monthNumber
    split <;> omega
  have hday : (d.marchDay : Int) = (153 * (d.monthNumber % 12) + 2) / 5 + (d.day - 1 : Nat) := by
    simp only [marchDay, monthNumber]
    split <;> omega
  rw [toDays, hday, hyear, monthStart, daysBefore]
  ring

lemma daysBefore_succ (y : Int) : daysBefore (y + 1) = daysBefore y + if isLeap (y + 1) then 366 else 365 := by
  unfold daysBefore
  by_cases hleap : isLeap (y + 1) = true
  · rw [if_pos hleap]
    rw [isLeap_iff] at hleap
    omega
  · rw [if_neg hleap]
    rw [isLeap_iff] at hleap
    omega

/-- A month is over when the next one starts. -/
lemma monthStart_succ {d : Date} (h : d.isValid = true) :
    monthStart (d.monthNumber + 1) = monthStart d.monthNumber + daysInMonth d.year d.month := by
  obtain ⟨hleast, hgreatest⟩ := month_of_isValid h
  obtain ⟨y, month, day⟩ := d
  dsimp only at hleast hgreatest
  simp only [monthStart, monthNumber]
  by_cases hfebruary : month = 2
  · subst hfebruary
    have hnext : (12 * y + (2 : Nat) - 3 + 1) / 12 = (12 * y + (2 : Nat) - 3) / 12 + 1 := by omega
    have hlast : (12 * y + (2 : Nat) - 3) / 12 + 1 = y := by omega
    rw [hnext, daysBefore_succ, hlast]
    simp only [daysInMonth]
    split <;> omega
  · have hsame : (12 * y + month - 3 + 1) / 12 = (12 * y + month - 3) / 12 := by omega
    rw [hsame]
    interval_cases month <;> simp only [daysInMonth] <;> omega

lemma monthStart_strictMono : StrictMono monthStart := by
  apply strictMono_int_of_lt_succ
  intro k
  by_cases hyear : (k + 1) / 12 = k / 12
  · simp only [monthStart, hyear]
    omega
  · have hnext : (k + 1) / 12 = k / 12 + 1 := by omega
    simp only [monthStart, hnext, daysBefore_succ]
    split <;> omega

lemma Before.toDays_lt {d e : Date} (h : d.Before e) (hd : d.isValid = true) (he : e.isValid = true) :
    d.toDays < e.toDays := by
  rw [toDays_eq hd, toDays_eq he]
  have hd' := hd
  simp only [isValid, Bool.and_eq_true, decide_eq_true_eq] at hd'
  obtain ⟨hleast, hgreatest⟩ := month_of_isValid hd
  obtain ⟨hleast', hgreatest'⟩ := month_of_isValid he
  rcases Int.lt_or_le d.monthNumber e.monthNumber with hlt | hle
  · have hover := monthStart_strictMono.monotone (show d.monthNumber + 1 ≤ e.monthNumber from hlt)
    rw [monthStart_succ hd] at hover
    omega
  · have hmonth : d.month = e.month ∧ d.year = e.year ∧ d.day < e.day := by
      unfold Before at h
      unfold monthNumber at hle
      omega
    have hnumber : d.monthNumber = e.monthNumber := by rw [monthNumber, monthNumber, hmonth.1, hmonth.2.1]
    rw [hnumber]
    omega

/-- Later days have later dates. -/
theorem ofDays_before {a b : Int} (h : a < b) : (ofDays a).Before (ofDays b) := by
  rcases before_trichotomy (ofDays a) (ofDays b) with hbefore | heq | hbefore
  · exact hbefore
  · have := congrArg toDays heq
    rw [toDays_ofDays, toDays_ofDays] at this
    omega
  · have := hbefore.toDays_lt (isValid_ofDays b) (isValid_ofDays a)
    rw [toDays_ofDays, toDays_ofDays] at this
    omega

/-- The days of the years from 0 to 9999. -/
lemma days_bounds {days : Int} (h : 0 ≤ (ofDays days).year ∧ (ofDays days).year ≤ 9999) :
    -719528 ≤ days ∧ days ≤ 2932896 := by
  have hvalid := isValid_ofDays days
  have hmonth := month_of_isValid hvalid
  have hday := day_of_isValid hvalid
  have hdays := toDays_eq hvalid
  rw [toDays_ofDays] at hdays
  have hleast := monthStart_strictMono.monotone (show -2 ≤ (ofDays days).monthNumber by unfold monthNumber; omega)
  have hgreatest := monthStart_strictMono.monotone
    (show (ofDays days).monthNumber ≤ 119997 by unfold monthNumber; omega)
  have hfirst : monthStart (-2) = -60 := by decide
  have hlast : monthStart 119997 = 3652334 := by decide
  omega

end CompletionGateway.Date
