import QueryDesk.Time.Calendar

/-!
# The date of a day

* `Date.Place`     a day of a cycle as a year and a day of that year;
* `exists_place`   every day of a cycle has its place: its century, its four years, its year.

**`Date.toDays_ofDays`, `Date.valid_ofDays`**: every day has a date, which exists, and is the day of
that date.
-/

namespace QueryDesk.Date

/-- the year that a day of a cycle lies in, as `ofDays` computes it -/
def yearOfCycle (dayOfCycle : Nat) : Nat :=
  (dayOfCycle - dayOfCycle / 1460 + dayOfCycle / 36524 - dayOfCycle / 146096) / 365

/-- day `rest` of year `y` of a cycle; both are counted from nought -/
structure Place (dayOfCycle y rest : Nat) : Prop where
  year_lt : y < 400
  rest_le : rest ≤ 365
  day_eq : dayOfCycle = yearStart y + rest
  year_eq : yearOfCycle dayOfCycle = y
  /-- only a year that ends in a leap day has so many days -/
  leap : rest = 365 → y % 4 = 3 ∧ (y % 100 ≠ 99 ∨ y = 399)

theorem exists_place {d : Nat} (h : d < 146097) : ∃ y rest, Place d y rest := by
  obtain ⟨c, e, hc, hd, he, he'⟩ : ∃ c e, c ≤ 3 ∧ d = 36524 * c + e ∧ e ≤ 36524 ∧
      (c < 3 → e < 36524) := by
    refine ⟨min (d / 36524) 3, d - 36524 * min (d / 36524) 3, ?_⟩
    omega
  have hcentury : d / 36524 = c + d / 146096 := by omega
  obtain ⟨q, f, hq, heq, hf⟩ : ∃ q f, q ≤ 24 ∧ e = 1461 * q + f ∧ f ≤ 1460 :=
    ⟨e / 1461, e % 1461, by omega, by omega, by omega⟩
  -- the first quotient is one too large near the end of four years, where that does no harm
  have hquot : d / 1460 = 25 * c + q ∧ f < 1460 ∨ d / 1460 = 25 * c + q + 1 ∧ 1364 ≤ f := by
    clear hcentury
    omega
  have hyear : yearOfCycle d = (d - d / 1460 + c) / 365 := by
    rw [yearOfCycle, hcentury, ← Nat.add_assoc, Nat.add_sub_cancel]
  obtain ⟨s, rest, hs, hfeq, hrest, hlast⟩ : ∃ s rest, s ≤ 3 ∧ f = 365 * s + rest ∧ rest ≤ 365 ∧
      (rest = 365 → s = 3) := by
    refine ⟨min (f / 365) 3, f - 365 * min (f / 365) 3, ?_⟩
    omega
  have hfours : (100 * c + 4 * q + s) / 4 = 25 * c + q := by omega
  have hhundreds : (100 * c + 4 * q + s) / 100 = c := by omega
  refine ⟨100 * c + 4 * q + s, rest, by omega, hrest, ?_, ?_, by omega⟩
  · rw [yearStart, hfours, hhundreds]
    omega
  · rw [hyear]
    generalize d / 1460 = quotient at hquot
    clear hcentury hyear hfours hhundreds
    omega

/-- the month that a day of a year lies in, counted from March -/
theorem month_of_rest {rest : Nat} (h : rest ≤ 365) :
    (5 * rest + 2) / 153 ≤ 11 ∧ monthStart ((5 * rest + 2) / 153) ≤ rest ∧
      rest < monthStart ((5 * rest + 2) / 153 + 1) := by
  unfold monthStart
  omega

theorem valid_mk {year : Int} {month day : Nat} (hmonth : 1 ≤ month) (hmonth' : month ≤ 12)
    (hday : 1 ≤ day) (hday' : day ≤ monthLength year month) : (Date.mk year month day).valid := by
  rw [valid, decide_eq_true hmonth, decide_eq_true hmonth', decide_eq_true hday,
    decide_eq_true hday']
  rfl

theorem bounds_of_valid {d : Date} (h : d.valid = true) : d.month ≤ 12 ∧ d.day ≤ 31 := by
  have hlength : monthLength d.year d.month ≤ 31 := by
    unfold monthLength
    split
    next => split <;> omega
    next => split <;> omega
  simp only [valid, Bool.and_eq_true, decide_eq_true_eq] at h
  omega

/-- the months from March to December -/
theorem day_le_early {year : Int} {month rest : Nat} (h : month < 10)
    (hstart : monthStart month ≤ rest) (hend : rest < monthStart (month + 1)) :
    rest - monthStart month + 1 ≤ monthLength year (month + 3) := by
  unfold monthStart at *
  unfold monthLength
  rw [if_neg (by omega)]
  split <;> omega

/-- January and February -/
theorem day_le_late {year : Int} {month rest : Nat} (h : 10 ≤ month) (h' : month ≤ 11)
    (hstart : monthStart month ≤ rest) (hrest : rest < monthStart (month + 1)) (hle : rest ≤ 365)
    (hleap : rest = 365 → isLeap year = true) :
    rest - monthStart month + 1 ≤ monthLength year (month - 9) := by
  obtain rfl | rfl : month = 10 ∨ month = 11 := by omega
  · show _ ≤ 31
    unfold monthStart at *
    omega
  · show _ ≤ if isLeap year then 29 else 28
    unfold monthStart at *
    split
    next => omega
    next hcommon =>
      have : rest ≠ 365 := fun h => hcommon (hleap h)
      omega

section
variable (days : Int)

/-- a date in the year that begins in March -/
structure OfDays (y rest : Nat) : Prop where
  place : Place ((days + 719468) % 146097).toNat y rest
  date_eq : ofDays days =
    let month := (5 * rest + 2) / 153
    let year := y + (days + 719468) / 146097 * 400
    let day := rest - monthStart month + 1
    if month < 10 then ⟨year, month + 3, day⟩ else ⟨year + 1, month - 9, day⟩

theorem exists_ofDays : ∃ y rest, OfDays days y rest := by
  obtain ⟨y, rest, hplace⟩ := exists_place (d := ((days + 719468) % 146097).toNat) (by omega)
  refine ⟨y, rest, hplace, ?_⟩
  have hyear := hplace.year_eq
  have hrest : ((days + 719468) % 146097).toNat - yearStart y = rest := by
    rw [hplace.day_eq, Nat.add_sub_cancel_left]
  unfold yearOfCycle at hyear
  unfold ofDays
  dsimp only
  rw [hyear, hrest]

/-- **A day is the day of its date.** -/
theorem toDays_ofDays : (ofDays days).toDays = days := by
  obtain ⟨y, rest, hplace, hdate⟩ := exists_ofDays days
  have hday := hplace.day_eq
  obtain ⟨hmonth, hstart, -⟩ := month_of_rest hplace.rest_le
  have hyear : (y + (days + 719468) / 146097 * 400 : Int) % 400 = y := by
    have := hplace.year_lt
    omega
  have hcycle : (y + (days + 719468) / 146097 * 400 : Int) / 400 = (days + 719468) / 146097 := by
    have := hplace.year_lt
    omega
  rw [hdate]
  generalize (5 * rest + 2) / 153 = month at hmonth hstart
  dsimp only
  split
  next hearly =>
    rw [toDays]
    dsimp only
    rw [if_neg (by omega), if_neg (by omega), hyear, hcycle, Int.toNat_natCast,
      Nat.add_sub_cancel, Nat.add_sub_cancel]
    omega
  next hlate =>
    have hback : month - 9 + 9 = month := by omega
    rw [toDays]
    dsimp only
    rw [if_pos (by omega), if_pos (by omega), Int.add_sub_cancel, hyear, hcycle,
      Int.toNat_natCast, Nat.add_sub_cancel, hback]
    omega

/-- **The date of a day exists.** -/
theorem valid_ofDays : (ofDays days).valid = true := by
  obtain ⟨y, rest, hplace, hdate⟩ := exists_ofDays days
  obtain ⟨hmonth, hstart, hend⟩ := month_of_rest hplace.rest_le
  have hleap : rest = 365 → isLeap (y + (days + 719468) / 146097 * 400 + 1) = true := by
    intro hrest
    have := hplace.leap hrest
    simp only [isLeap, Bool.and_eq_true, Bool.or_eq_true, decide_eq_true_eq]
    omega
  rw [hdate]
  generalize (5 * rest + 2) / 153 = month at hmonth hstart hend
  dsimp only
  split
  next hearly =>
    exact valid_mk (by omega) (by omega) (by omega) (day_le_early hearly hstart hend)
  next hlate =>
    exact valid_mk (by omega) (by omega) (by omega)
      (day_le_late (by omega) hmonth hstart hend hplace.rest_le hleap)

end

end QueryDesk.Date
