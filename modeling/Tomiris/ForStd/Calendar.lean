import Mathlib.Data.Int.Notation
import Mathlib.Data.List.DropRight
import Tomiris.ForStd.Separated

/-!
# Civil dates and their ISO 8601 text

The proleptic Gregorian calendar on day numbers, and the text of a UTC time. A date determines its
day number, and a text its time, so that texts can stand for times in keys.
-/

namespace Calendar

/-- A civil date. -/
@[ext] structure Date where
  year : Int
  month : Int
  day : Int
deriving DecidableEq

/-- The date of a day number, with day 0 on 1970-01-01. -/
def dateOf (days : Int) : Date :=
  -- years begin in March here, so that a leap day is the last day of its year, century and era
  let z := days + 719468
  let century := min (z % 146097 / 36524) 3
  let inCentury := z % 146097 - 36524 * century
  let inCycle := inCentury % 1461
  let yearOfCycle := min (inCycle / 365) 3
  let dayOfYear := inCycle - 365 * yearOfCycle
  let monthOfYear := (5 * dayOfYear + 2) / 153
  { year := 400 * (z / 146097) + 100 * century + 4 * (inCentury / 1461) + yearOfCycle +
      if monthOfYear < 10 then 0 else 1
    month := if monthOfYear < 10 then monthOfYear + 3 else monthOfYear - 9
    day := dayOfYear - (153 * monthOfYear + 2) / 5 + 1 }

/-- The day number of a date. -/
def dayNumber (date : Date) : Int :=
  let y := if date.month ≤ 2 then date.year - 1 else date.year
  let monthOfYear := if date.month ≤ 2 then date.month + 9 else date.month - 3
  365 * y + y / 4 - y / 100 + y / 400 + (153 * monthOfYear + 2) / 5 + date.day - 1 - 719468

/-- The parts of a date are numbers without a sign, from the year 0 on. -/
theorem dateOf_nonneg {days : Int} (h : -719468 ≤ days) :
    0 ≤ (dateOf days).year ∧ 0 ≤ (dateOf days).month ∧ 0 ≤ (dateOf days).day := by
  unfold dateOf
  simp only
  refine ⟨?_, ?_, ?_⟩
  · split <;> omega
  · split <;> omega
  · omega

/-- The date of a day has the number of that day. -/
theorem dayNumber_dateOf (days : Int) : dayNumber (dateOf days) = days := by
  obtain ⟨z, hz⟩ : ∃ z, z = days + 719468 := ⟨_, rfl⟩
  obtain ⟨century, hcentury⟩ : ∃ century, century = min (z % 146097 / 36524) 3 := ⟨_, rfl⟩
  obtain ⟨inCentury, hin⟩ : ∃ n, n = z % 146097 - 36524 * century := ⟨_, rfl⟩
  obtain ⟨inCycle, hcycle⟩ : ∃ n, n = inCentury % 1461 := ⟨_, rfl⟩
  obtain ⟨yearOfCycle, hyear⟩ : ∃ y, y = min (inCycle / 365) 3 := ⟨_, rfl⟩
  obtain ⟨dayOfYear, hday⟩ : ∃ n, n = inCycle - 365 * yearOfCycle := ⟨_, rfl⟩
  obtain ⟨monthOfYear, hmonth⟩ : ∃ m, m = (5 * dayOfYear + 2) / 153 := ⟨_, rfl⟩
  obtain ⟨y, hy⟩ : ∃ y, y = 400 * (z / 146097) + 100 * century + 4 * (inCentury / 1461) +
    yearOfCycle := ⟨_, rfl⟩
  have hcenturyRange : 0 ≤ century ∧ century ≤ 3 ∧ 0 ≤ inCentury ∧ inCentury ≤ 36524 := by omega
  have hcycleRange : 0 ≤ inCentury / 1461 ∧ inCentury / 1461 ≤ 24 := by omega
  have hyearRange : 0 ≤ yearOfCycle ∧ yearOfCycle ≤ 3 := by omega
  have hdayRange : 0 ≤ dayOfYear ∧ dayOfYear ≤ 365 := by omega
  have hmonthRange : 0 ≤ monthOfYear ∧ monthOfYear ≤ 11 := by omega
  have hdate : dateOf days = ⟨y + (if monthOfYear < 10 then 0 else 1),
      if monthOfYear < 10 then monthOfYear + 3 else monthOfYear - 9,
      dayOfYear - (153 * monthOfYear + 2) / 5 + 1⟩ := by
    subst hy hmonth hday hyear hcycle hin hcentury hz
    rfl
  -- the quotients of the year
  have h400 : y / 400 = z / 146097 := by omega
  have h100 : y / 100 = 4 * (z / 146097) + century := by omega
  have h4 : y / 4 = 100 * (z / 146097) + 25 * century + inCentury / 1461 := by omega
  rw [hdate]
  unfold dayNumber
  simp only
  split
  · rename_i hlt
    rw [if_neg (by omega), if_neg (by omega)]
    simp only [Int.add_zero]
    omega
  · rename_i hge
    rw [if_pos (by omega), if_pos (by omega), Int.add_sub_cancel]
    omega

/-- `f"{n:0{width}d}"` -/
def zfill (width n : Nat) : String :=
  String.ofList (List.replicate (width - (Nat.toDigits 10 n).length) '0' ++ Nat.toDigits 10 n)

/-- A padded number has digits only. -/
theorem zfill_isDigit {width n : Nat} {c : Char} (h : c ∈ (zfill width n).toList) :
    c.isDigit = true := by
  rw [zfill, String.toList_ofList, List.mem_append] at h
  rcases h with h | h
  · rw [(List.mem_replicate.mp h).2]
    decide
  · exact Nat.isDigit_of_mem_toDigits (by decide) (by decide) h

/-- So a separator does not occur in it. -/
theorem zfill_not_mem {width n : Nat} {c : Char} (hc : c.isDigit = false) :
    c ∉ (zfill width n).toList := by
  intro h
  rw [zfill_isDigit h] at hc
  cases hc

/-- Padded to one width, numbers stay apart. -/
theorem zfill_inj {width n n' : Nat} (h : zfill width n = zfill width n') : n = n' := by
  -- leading zeros do not count
  have hread : ∀ k, Nat.ofDigitChars 10 (zfill width k).toList 0 = k := by
    intro k
    rw [zfill, String.toList_ofList, Nat.ofDigitChars_append, Nat.ofDigitChars_replicate_zero,
      Nat.mul_zero, Nat.ofDigitChars_ten_toDigits]
  rw [← hread n, h, hread]

/-- A number is itself padded to no width. -/
theorem toString_eq_zfill (n : Nat) : toString n = zfill 0 n := by
  rw [zfill, Nat.zero_sub, List.replicate_zero, List.nil_append]
  exact Nat.repr_eq_ofList_toDigits

/-- The text of a date. -/
def dateText (date : Date) : String :=
  "-".intercalate [zfill 4 date.year.toNat, zfill 2 date.month.toNat, zfill 2 date.day.toNat]

/-- Microseconds in a day. -/
def dayLength : Int := 86400000000

/-- The seconds of a time of day in microseconds, with a fraction unless that is zero, and the
    offset of UTC. -/
def secondsText (time : Int) : String :=
  let fraction := if time % 1000000 = 0 then "" else "." ++ zfill 6 (time % 1000000).toNat
  zfill 2 (time / 1000000 % 60).toNat ++ fraction ++ "+00:00"

/-- The text of a time of day. -/
def timeText (time : Int) : String :=
  ":".intercalate [zfill 2 (time / 3600000000).toNat, zfill 2 (time / 60000000 % 60).toNat,
    secondsText time]

/-- `isoformat()` of a UTC time in microseconds since 1970. -/
def isoformat (t : Int) : String :=
  dateText (dateOf (t / dayLength)) ++ "T" ++ timeText (t % dayLength)

/-- The text of a UTC time with `Z` for the offset, as JSON dumps write it. -/
def isoformatZ (t : Int) : String := String.ofList ((isoformat t).toList.rdrop 6 ++ ['Z'])

/-- The text of a date determines its fields. -/
theorem dateText_inj {date date' : Date} (h : dateText date = dateText date') :
    date.year.toNat = date'.year.toNat ∧ date.month.toNat = date'.month.toNat ∧
      date.day.toNat = date'.day.toNat := by
  have hfree : ∀ field ∈ [zfill 4 date.year.toNat, zfill 2 date.month.toNat,
      zfill 2 date.day.toNat], '-' ∉ field.toList := by
    simp only [List.forall_mem_cons]
    exact ⟨zfill_not_mem (by decide), zfill_not_mem (by decide), zfill_not_mem (by decide),
      by simp⟩
  have hfields := Separated.string_intercalate_inj (c := '-') rfl (by simp) hfree (by simp) h
  simp only [List.cons.injEq, and_true] at hfields
  exact ⟨zfill_inj hfields.1, zfill_inj hfields.2.1, zfill_inj hfields.2.2⟩

/-- The text of the seconds determines them, and the fraction. -/
theorem secondsText_inj {time time' : Int} (h : secondsText time = secondsText time') :
    time / 1000000 % 60 = time' / 1000000 % 60 ∧ time % 1000000 = time' % 1000000 := by
  have hfree : ∀ n, '.' ∉ (zfill 2 n).toList := fun n => zfill_not_mem (by decide)
  have hlists := congrArg String.toList h
  unfold secondsText at hlists
  simp only [String.toList_append, List.append_cancel_right_eq] at hlists
  split at hlists
  · rename_i hwhole
    split at hlists
    · rename_i hwhole'
      have hseconds := zfill_inj (String.toList_inj.mp (by simpa using hlists))
      omega
    · -- only one of them has a point
      have hmem : '.' ∈ (zfill 2 (time / 1000000 % 60).toNat).toList ++ "".toList := by
        rw [hlists]
        simp
      rw [List.mem_append] at hmem
      exact absurd hmem (by simp [hfree])
  · split at hlists
    · have hmem : '.' ∈ (zfill 2 (time' / 1000000 % 60).toNat).toList ++ "".toList := by
        rw [← hlists]
        simp
      rw [List.mem_append] at hmem
      exact absurd hmem (by simp [hfree])
    · obtain ⟨hseconds, hfraction⟩ := Separated.append_sep_inj (x := '.') (hfree _) (hfree _)
        (by simpa using hlists)
      have hseconds' := zfill_inj (String.toList_inj.mp hseconds)
      have hfraction' := zfill_inj (String.toList_inj.mp hfraction)
      omega

/-- The text of a time of day determines it. -/
theorem timeText_inj {time time' : Int} (hpos : 0 ≤ time) (hpos' : 0 ≤ time')
    (h : timeText time = timeText time') : time = time' := by
  -- hours and minutes are digits, so the colons tell the fields apart
  have hfree : ∀ u : Int, ∀ field ∈ [zfill 2 (u / 3600000000).toNat,
      zfill 2 (u / 60000000 % 60).toNat], ':' ∉ field.toList := by
    intro u
    simp only [List.forall_mem_cons]
    exact ⟨zfill_not_mem (by decide), zfill_not_mem (by decide), by simp⟩
  obtain ⟨hfields, hlast⟩ := Separated.string_intercalate_concat_inj (c := ':') rfl (by simp)
    (hfree time) (hfree time') h
  simp only [List.cons.injEq, and_true] at hfields
  have hhours := zfill_inj hfields.1
  have hminutes := zfill_inj hfields.2
  obtain ⟨hseconds, hfraction⟩ := secondsText_inj hlast
  omega

/-- There is no `T` in the text of a date. -/
theorem dateText_not_mem (date : Date) : 'T' ∉ (dateText date).toList := by
  have hfree : ∀ width n, 'T' ∉ (zfill width n).toList := fun width n => zfill_not_mem (by decide)
  simp [dateText, hfree]

/-- From the year 0 on, a text is that of one time only. -/
theorem isoformat_inj {t t' : Int} (hpos : -719468 ≤ t / dayLength)
    (hpos' : -719468 ≤ t' / dayLength) (h : isoformat t = isoformat t') : t = t' := by
  have hlists := congrArg String.toList h
  unfold isoformat at hlists
  rw [String.toList_append, String.toList_append, String.toList_append, String.toList_append,
    List.append_assoc, List.append_assoc] at hlists
  -- no `T` in the date, so it ends at the first one
  obtain ⟨hdate, htime⟩ :=
    Separated.append_sep_inj (dateText_not_mem _) (dateText_not_mem _) hlists
  -- equal fields, since neither year is negative
  have hday : dateOf (t / dayLength) = dateOf (t' / dayLength) := by
    obtain ⟨hyear, hmonth, hday⟩ := dateText_inj (String.toList_inj.mp hdate)
    have hnonneg := dateOf_nonneg hpos
    have hnonneg' := dateOf_nonneg hpos'
    ext
    · omega
    · omega
    · omega
  have hdays : t / dayLength = t' / dayLength := by
    rw [← dayNumber_dateOf (t / dayLength), hday, dayNumber_dateOf]
  have htimeOfDay : t % dayLength = t' % dayLength := by
    have hlength : dayLength ≠ 0 := by decide
    exact timeText_inj (Int.emod_nonneg t hlength) (Int.emod_nonneg t' hlength)
      (String.toList_inj.mp htime)
  rw [← Int.mul_ediv_add_emod t dayLength, hdays, htimeOfDay, Int.mul_ediv_add_emod]

section Length

/-- A number of at most six digits stays so, padded to at most six. -/
theorem zfill_length_le {width n : Nat} (hwidth : width ≤ 6) (hn : n < 1000000) :
    (zfill width n).length ≤ 6 := by
  have hdigits : (Nat.toDigits 10 n).length ≤ 6 :=
    (Nat.length_toDigits_le_iff (by decide) (by decide)).mpr hn
  rw [zfill, String.length_ofList, List.length_append, List.length_replicate]
  omega

/-- The parts of a date up to the year 9999 have at most six digits. -/
theorem dateOf_lt {days : Int} (h : days ≤ 2932896) :
    (dateOf days).year.toNat < 1000000 ∧ (dateOf days).month.toNat < 1000000 ∧
      (dateOf days).day.toNat < 1000000 := by
  unfold dateOf
  simp only
  refine ⟨?_, ?_, ?_⟩
  · split <;> omega
  · split <;> omega
  · omega

/-- The text of a time up to the year 9999 is short. -/
theorem isoformat_length_le {t : Int} (h : t / dayLength ≤ 2932896) :
    (isoformat t).length ≤ 64 := by
  -- each field has at most four digits
  obtain ⟨hyear, hmonth, hday⟩ := dateOf_lt h
  have htime : 0 ≤ t % dayLength ∧ t % dayLength < 86400000000 := by
    unfold dayLength
    omega
  have hfraction : ∀ time : Int, (if time % 1000000 = 0 then ""
      else "." ++ zfill 6 (time % 1000000).toNat).length ≤ 7 := by
    intro time
    split
    · decide
    · rw [String.length_append]
      have := @zfill_length_le 6 (time % 1000000).toNat (by decide) (by omega)
      have hdot : ".".length = 1 := rfl
      omega
  have hyearText := @zfill_length_le 4 _ (by decide) hyear
  have hmonthText := @zfill_length_le 2 _ (by decide) hmonth
  have hdayText := @zfill_length_le 2 _ (by decide) hday
  have hhours := @zfill_length_le 2 (t % dayLength / 3600000000).toNat (by decide) (by omega)
  have hminutes := @zfill_length_le 2 (t % dayLength / 60000000 % 60).toNat (by decide) (by omega)
  have hseconds := @zfill_length_le 2 (t % dayLength / 1000000 % 60).toNat (by decide) (by omega)
  have hfractionText := hfraction (t % dayLength)
  rw [← String.length_toList]
  simp only [isoformat, dateText, timeText, secondsText, String.toList_append,
    String.toList_intercalate, List.map_cons, List.map_nil, List.intercalate_cons_cons,
    List.intercalate_singleton, List.length_append, String.length_toList]
  -- the separators and the offset
  have hdash : "-".length = 1 := rfl
  have hcolon : ":".length = 1 := rfl
  have hletter : "T".length = 1 := rfl
  have hoffset : "+00:00".length = 6 := rfl
  omega

/-- The text with `Z` is at most one character longer. -/
theorem isoformatZ_length_le (t : Int) : (isoformatZ t).length ≤ (isoformat t).length + 1 := by
  rw [isoformatZ, String.length_ofList, List.length_append, List.length_singleton, List.rdrop,
    List.length_take, String.length_toList]
  omega

end Length

end Calendar
