import Mathlib.Algebra.BigOperators.Group.List.Basic
import Mathlib.Tactic.Ring
import PostalRegions.Calendar.Rfc3339

/-!
# Reading moments back

The written form of a moment is read back as this moment if its year has four digits, and not at
all otherwise.  The offset of a text can lead into a year that has more of them, so not every
moment that is read has a written form that is read again.
-/

namespace PostalRegions

/-! ## Dates and their numbers -/

namespace Date

theorem daysBeforeYear_add_one (year : Int) :
    daysBeforeYear (year + 1) = daysBeforeYear year + (monthLengths (isLeapYear year)).sum := by
  cases hleap : isLeapYear year with
  | true =>
      have hsum : (monthLengths true).sum = 366 := by decide
      simp only [isLeapYear, Bool.and_eq_true, Bool.or_eq_true, beq_iff_eq, bne_iff_ne] at hleap
      rw [hsum]
      simp only [daysBeforeYear]
      omega
  | false =>
      have hsum : (monthLengths false).sum = 365 := by decide
      simp only [isLeapYear, Bool.and_eq_false_iff, Bool.or_eq_false_iff, beq_eq_false_iff_ne,
        bne_eq_false_iff_eq] at hleap
      rw [hsum]
      simp only [daysBeforeYear]
      omega

/-- A day of a year lies in one of its months. -/
theorem monthAndDay_eq (lengths : List Nat) (month : Nat) {day : Nat} (hday : day < lengths.sum) :
    ∃ index length rest, lengths[index]? = some length ∧ rest < length ∧
      (lengths.take index).sum + rest = day ∧
      monthAndDay month lengths day = (month + index, rest + 1) := by
  induction lengths generalizing month day with
  | nil => simp at hday
  | cons first later ih =>
      rw [List.sum_cons] at hday
      rw [monthAndDay]
      by_cases hfirst : day < first
      · rw [if_pos hfirst]
        exact ⟨0, first, day, rfl, hfirst, by simp, rfl⟩
      · rw [if_neg hfirst]
        have hlater : day - first < later.sum := by omega
        obtain ⟨index, length, rest, hlength, hrest, hsum, hmonth⟩ := ih (month + 1) hlater
        refine ⟨index + 1, length, rest, hlength, hrest, ?_, ?_⟩
        · rw [List.take_succ_cons, List.sum_cons]
          omega
        · rw [hmonth, Nat.add_right_comm, Nat.add_assoc]

theorem dayNumber_ofDayNumber (day : Int) :
    (ofDayNumber day).dayNumber = day ∧ (ofDayNumber day).exists? = true := by
  obtain ⟨hfrom, hto⟩ := yearOfDay_bounds day
  rw [daysBeforeYear_add_one] at hto
  have hday : (day - daysBeforeYear (yearOfDay day)).toNat <
      (monthLengths (isLeapYear (yearOfDay day))).sum := by
    omega
  obtain ⟨index, length, rest, hlength, hrest, hsum, hmonth⟩ := monthAndDay_eq _ 1 hday
  have hdate : ofDayNumber day = ⟨yearOfDay day, 1 + index, rest + 1⟩ := by
    unfold ofDayNumber
    simp only [hmonth]
  rw [hdate]
  constructor
  · simp only [dayNumber, Nat.add_sub_cancel_left, Nat.add_sub_cancel, ← List.sum_eq_foldl]
    omega
  · simp only [exists?, Nat.add_sub_cancel_left, hlength]
    simp
    omega

end Date

/-! ## Numbers of a fixed width -/

namespace Text

theorem isDigit_of_mem_padded {width value : Nat} {c : Char} (hc : c ∈ padded width value) :
    c.isDigit = true := by
  rcases List.mem_append.mp hc with hzero | hdigit
  · rw [List.eq_of_mem_replicate hzero]
    decide
  · exact Nat.isDigit_of_mem_toDigits (by decide) (by decide) hdigit

theorem length_padded {width value : Nat} (hwidth : 0 < width) (hvalue : value < 10 ^ width) :
    (padded width value).length = width := by
  have hdigits : (Nat.toDigits 10 value).length ≤ width :=
    (Nat.length_toDigits_le_iff (by decide) hwidth).mpr hvalue
  simp only [padded, List.length_append, List.length_replicate]
  omega

theorem ofDigitChars_replicate_zero (count value : Nat) :
    Nat.ofDigitChars 10 (List.replicate count '0') value = value * 10 ^ count := by
  induction count generalizing value with
  | zero => simp
  | succ count ih =>
      rw [List.replicate_succ, Nat.ofDigitChars_cons, ih, Nat.pow_succ]
      simp only [Nat.sub_self, Nat.add_zero]
      ring

theorem ofDigitChars_padded (width value : Nat) :
    Nat.ofDigitChars 10 (padded width value) 0 = value := by
  unfold padded
  rw [Nat.ofDigitChars_append, ofDigitChars_replicate_zero, Nat.zero_mul,
    Nat.ofDigitChars_ten_toDigits]

end Text

namespace Instant

theorem digits?_append {digits : List Char} (hdigits : ∀ c ∈ digits, c.isDigit = true)
    (value : Nat) (rest : List Char) :
    digits? digits.length value (digits ++ rest) =
      some (Nat.ofDigitChars 10 digits value, rest) := by
  induction digits generalizing value with
  | nil => rfl
  | cons c later ih =>
      rw [List.length_cons, List.cons_append, digits?, if_pos (hdigits c List.mem_cons_self),
        Nat.ofDigitChars_cons]
      exact ih (fun other hother => hdigits other (List.mem_cons_of_mem c hother)) _

theorem digits?_padded {width value : Nat} (hwidth : 0 < width) (hvalue : value < 10 ^ width)
    (rest : List Char) :
    digits? width 0 (Text.padded width value ++ rest) = some (value, rest) := by
  have hdigits : ∀ c ∈ Text.padded width value, c.isDigit = true :=
    fun _ => Text.isDigit_of_mem_padded
  have hread := digits?_append hdigits 0 rest
  rwa [Text.length_padded hwidth hvalue, Text.ofDigitChars_padded] at hread

/-! ## Times and dates -/

theorem fraction?_digits {digits : List Char} (hdigits : ∀ c ∈ digits, c.isDigit = true)
    (hnonempty : digits ≠ []) (hshort : digits.length ≤ 9) (tail : List Char) :
    fraction? ('.' :: (digits ++ '+' :: tail)) =
      some (Nat.ofDigitChars 10 digits 0 * 10 ^ (9 - digits.length), '+' :: tail) := by
  have htake : (digits ++ '+' :: tail).takeWhile Char.isDigit = digits := by
    rw [List.takeWhile_append_of_pos hdigits]
    simp
  have hdrop : (digits ++ '+' :: tail).dropWhile Char.isDigit = '+' :: tail := by
    rw [List.dropWhile_append_of_pos hdigits]
    simp
  have hfilled : ∀ c ∈ digits ++ List.replicate (9 - digits.length) '0', c.isDigit = true := by
    intro c hc
    rcases List.mem_append.mp hc with hdigit | hzero
    · exact hdigits c hdigit
    · rw [List.eq_of_mem_replicate hzero]
      decide
  have hread := digits?_append hfilled 0 []
  rw [List.append_nil, List.length_append, List.length_replicate,
    Nat.add_sub_cancel' hshort, Nat.ofDigitChars_append,
    Text.ofDigitChars_replicate_zero] at hread
  simp only [fraction?, htake, hdrop, List.take_of_length_le hshort, hread]
  simp [hnonempty]

theorem fraction?_fractionText {nanos : Nat} (hnanos : nanos < nanosPerSecond)
    (tail : List Char) :
    fraction? (fractionText nanos ++ '+' :: tail) = some (nanos, '+' :: tail) := by
  have hread {width value : Nat} (hwidth : 0 < width) (hshort : width ≤ 9)
      (hvalue : value < 10 ^ width) :
      fraction? ('.' :: (Text.padded width value ++ '+' :: tail)) =
        some (value * 10 ^ (9 - width), '+' :: tail) := by
    have hlength := Text.length_padded hwidth hvalue
    have hnonempty : Text.padded width value ≠ [] := by
      intro hnil
      rw [hnil] at hlength
      exact hwidth.ne hlength
    have hdigits := fraction?_digits (fun _ => Text.isDigit_of_mem_padded) hnonempty
      (by omega) tail
    rwa [hlength, Text.ofDigitChars_padded] at hdigits
  simp only [nanosPerSecond] at hnanos
  unfold fractionText
  split
  · rename_i hzero
    rw [hzero]
    rfl
  · split
    · rw [List.cons_append, hread (by decide) (by decide) (by omega)]
      congr 2
      omega
    · split
      · rw [List.cons_append, hread (by decide) (by decide) (by omega)]
        congr 2
        omega
      · rw [List.cons_append, hread (by decide) (by decide) (by omega)]
        congr 2
        omega

theorem date?_dateText {date : Date} (hexists : date.exists? = true)
    (hyear : 0 ≤ date.year ∧ date.year ≤ 9999) (rest : List Char) :
    date? (dateText date ++ rest) = some (date, rest) := by
  obtain ⟨year, month, day⟩ := date
  have hbounds : month < 10 ^ 2 ∧ day < 10 ^ 2 := by
    have hlengths : ∀ leap,
        (monthLengths leap).length = 12 ∧ ∀ length ∈ monthLengths leap, length ≤ 31 := by
      decide
    unfold Date.exists? at hexists
    split at hexists
    · rename_i length hlength
      obtain ⟨hindex, _⟩ := List.getElem?_eq_some_iff.mp hlength
      have hlong := (hlengths (isLeapYear year)).2 length (List.mem_of_getElem? hlength)
      rw [(hlengths _).1] at hindex
      simp only [Bool.and_eq_true, decide_eq_true_eq] at hexists
      dsimp only at hindex hexists
      omega
    · cases hexists
  have hyearText : yearText year = Text.padded 4 year.toNat := by
    unfold yearText
    rw [if_pos hyear]
  dsimp only at hyear
  unfold date? dateText
  simp only [hyearText, List.append_assoc, List.cons_append]
  rw [digits?_padded (by decide) (by omega)]
  simp only [Option.bind_eq_bind, Option.bind_some, char?, if_true]
  rw [digits?_padded (by decide) hbounds.1]
  simp only [Option.bind_some, if_true]
  rw [digits?_padded (by decide) hbounds.2]
  simp only [Option.bind_some]
  rw [Int.toNat_of_nonneg hyear.1, if_pos hexists]

/-- A moment as clocks show it: a leap second is only the last one of a minute. -/
def IsProper (instant : Instant) : Prop :=
  instant.nano < nanosPerSecond ∨
    (instant.nano < 2 * nanosPerSecond ∧ instant.secondOfDay % 60 = 59)

instance (instant : Instant) : Decidable instant.IsProper :=
  inferInstanceAs (Decidable (_ ∨ _))

theorem time?_timeText {second nano : Nat} (hsecond : second < secondsPerDay)
    (hnano : nano < nanosPerSecond ∨ (nano < 2 * nanosPerSecond ∧ second % 60 = 59))
    (tail : List Char) :
    time? (timeText second nano ++ '+' :: tail) = some ((second, nano), '+' :: tail) := by
  have hfraction : nano % nanosPerSecond < nanosPerSecond := Nat.mod_lt nano (by decide)
  have hparts : nano % nanosPerSecond + nano / nanosPerSecond * nanosPerSecond = nano := by
    rw [Nat.mul_comm]
    exact Nat.mod_add_div nano nanosPerSecond
  have hcarry : nano / nanosPerSecond = 0 ∨ (nano / nanosPerSecond = 1 ∧ second % 60 = 59) := by
    simp only [nanosPerSecond] at hnano ⊢
    omega
  simp only [secondsPerDay] at hsecond
  unfold time? timeText
  simp only [List.append_assoc, List.cons_append]
  rw [digits?_padded (by decide) (by omega)]
  simp only [Option.bind_eq_bind, Option.bind_some, char?, if_true]
  rw [digits?_padded (by decide) (by omega)]
  simp only [Option.bind_some, if_true]
  rw [digits?_padded (by decide) (by omega)]
  simp only [Option.bind_some, fraction?_fractionText hfraction]
  rw [if_pos (by omega)]
  have hleap : (second % 60 + nano / nanosPerSecond) / 60 = nano / nanosPerSecond := by omega
  rw [hleap, hparts]
  congr 3
  omega

/-! ## Moments -/

def year (instant : Instant) : Int :=
  yearOfDay instant.day

/-- The year of the moment is written in four digits. -/
def HasFourDigitYear (instant : Instant) : Prop :=
  0 ≤ instant.year ∧ instant.year ≤ 9999

instance (instant : Instant) : Decidable instant.HasFourDigitYear :=
  inferInstanceAs (Decidable (_ ∧ _))

theorem day_add_secondOfDay (instant : Instant) :
    instant.day * secondsPerDay + instant.secondOfDay = instant.second := by
  simp only [day, secondOfDay, secondsPerDay]
  omega

theorem parse?_written {instant : Instant} (hproper : instant.IsProper)
    (hyear : instant.HasFourDigitYear) : parse? instant.written = some instant := by
  obtain ⟨hday, hexists⟩ := Date.dayNumber_ofDayNumber instant.day
  have hsecond : instant.secondOfDay < secondsPerDay := by
    simp only [secondOfDay, secondsPerDay]
    omega
  unfold parse? written parseChars?
  rw [String.toList_ofList, List.append_assoc]
  simp only [date?_dateText hexists hyear, List.cons_append, Option.bind_eq_bind, Option.bind_some,
    separator?, true_or, if_true]
  have htime := time?_timeText hsecond hproper "00:00".toList
  have hzone : "+00:00".toList = '+' :: "00:00".toList := by decide
  have hoffset : offset? ('+' :: "00:00".toList) = some (0, []) := by decide
  simp only [hzone, htime, hoffset, Option.bind_some, List.isEmpty_nil, if_true]
  rw [hday, Int.sub_zero, day_add_secondOfDay]

/-- A year of other than four digits is written with its sign, which no reader expects. -/
theorem parse?_written_eq_none {instant : Instant} (hyear : ¬ instant.HasFourDigitYear) :
    parse? instant.written = none := by
  have hyearText : yearText (Date.ofDayNumber instant.day).year =
      (if (Date.ofDayNumber instant.day).year < 0 then '-' else '+') ::
        Text.padded 4 (Date.ofDayNumber instant.day).year.natAbs := by
    unfold yearText
    exact if_neg hyear
  have hsign (year : Int) : (if year < 0 then '-' else '+').isDigit = false := by
    split <;> decide
  unfold parse? written parseChars? date? dateText
  rw [String.toList_ofList, hyearText]
  simp only [List.append_assoc, List.cons_append, digits?, hsign]
  rfl

/-! ## What is read is proper -/

theorem lt_of_digits? {count value read : Nat} {text rest : List Char}
    (hread : digits? count value text = some (read, rest)) : read < (value + 1) * 10 ^ count := by
  induction count generalizing value text with
  | zero =>
      cases hread
      simp
  | succ count ih =>
      cases text with
      | nil => cases hread
      | cons c later =>
          rw [digits?] at hread
          split at hread
          · rename_i hdigit
            have hle : c.toNat - '0'.toNat ≤ 9 := by
              simp only [Char.isDigit, Bool.and_eq_true, decide_eq_true_eq] at hdigit
              have hnine : c.toNat ≤ 57 := hdigit.2
              have hzero : '0'.toNat = 48 := rfl
              omega
            have hlater := ih hread
            refine lt_of_lt_of_le hlater ?_
            rw [Nat.pow_succ, Nat.mul_comm (10 ^ count), ← Nat.mul_assoc]
            exact Nat.mul_le_mul_right _ (by omega)
          · cases hread

theorem lt_of_fraction? {text rest : List Char} {nanos : Nat}
    (hread : fraction? text = some (nanos, rest)) : nanos < nanosPerSecond := by
  unfold fraction? at hread
  split at hread
  · dsimp only at hread
    split at hread
    · cases hread
    · obtain ⟨⟨read, behind⟩, hdigits, hfound⟩ := Option.bind_eq_some_iff.mp hread
      cases hfound
      simpa [nanosPerSecond] using lt_of_digits? hdigits
  · cases hread
    decide

theorem proper_of_time? {text rest : List Char} {second nano : Nat}
    (hread : time? text = some ((second, nano), rest)) :
    nano < nanosPerSecond ∨ (nano < 2 * nanosPerSecond ∧ second % 60 = 59) := by
  unfold time? at hread
  obtain ⟨⟨hour, _⟩, _, hread⟩ := Option.bind_eq_some_iff.mp hread
  obtain ⟨_, _, hread⟩ := Option.bind_eq_some_iff.mp hread
  obtain ⟨⟨minute, _⟩, _, hread⟩ := Option.bind_eq_some_iff.mp hread
  obtain ⟨_, _, hread⟩ := Option.bind_eq_some_iff.mp hread
  obtain ⟨⟨low, _⟩, _, hread⟩ := Option.bind_eq_some_iff.mp hread
  obtain ⟨⟨nanos, _⟩, hfraction, hread⟩ := Option.bind_eq_some_iff.mp hread
  have hnanos := lt_of_fraction? hfraction
  dsimp only at hread hnanos
  split at hread
  · rename_i hrange
    cases hread
    rcases Nat.lt_or_eq_of_le hrange.2.2 with hlow | rfl
    · left
      rw [Nat.div_eq_of_lt hlow]
      omega
    · right
      simp only [nanosPerSecond] at hnanos ⊢
      omega
  · cases hread

theorem dvd_of_offset? {text rest : List Char} {offset : Int}
    (hread : offset? text = some (offset, rest)) : 60 ∣ offset := by
  unfold offset? at hread
  split at hread
  · cases hread
    exact dvd_zero 60
  · cases hread
    exact dvd_zero 60
  · obtain ⟨⟨sign, _⟩, _, hread⟩ := Option.bind_eq_some_iff.mp hread
    obtain ⟨⟨hours, _⟩, _, hread⟩ := Option.bind_eq_some_iff.mp hread
    obtain ⟨_, _, hread⟩ := Option.bind_eq_some_iff.mp hread
    obtain ⟨⟨minutes, _⟩, _, hread⟩ := Option.bind_eq_some_iff.mp hread
    dsimp only at hread
    split at hread
    · cases hread
      apply Dvd.dvd.mul_left
      omega
    · cases hread

theorem isProper_of_parse? {text : String} {instant : Instant}
    (hread : parse? text = some instant) : instant.IsProper := by
  unfold parse? parseChars? at hread
  obtain ⟨⟨date, _⟩, _, hread⟩ := Option.bind_eq_some_iff.mp hread
  obtain ⟨_, _, hread⟩ := Option.bind_eq_some_iff.mp hread
  obtain ⟨⟨⟨second, nanos⟩, _⟩, htime, hread⟩ := Option.bind_eq_some_iff.mp hread
  obtain ⟨⟨offset, _⟩, hoffset, hread⟩ := Option.bind_eq_some_iff.mp hread
  dsimp only at hread
  split at hread
  · cases hread
    rcases proper_of_time? htime with hshort | ⟨hlong, hlast⟩
    · exact Or.inl hshort
    · refine Or.inr ⟨hlong, ?_⟩
      obtain ⟨minutes, hminutes⟩ := dvd_of_offset? hoffset
      simp only [secondOfDay, secondsPerDay, hminutes]
      omega
  · cases hread

theorem parse?_written_iff {instant : Instant} (hproper : instant.IsProper) {found : Instant} :
    parse? instant.written = some found ↔ instant.HasFourDigitYear ∧ found = instant := by
  by_cases hyear : instant.HasFourDigitYear
  · rw [parse?_written hproper hyear]
    simp [hyear, eq_comm]
  · rw [parse?_written_eq_none hyear]
    simp [hyear]

end Instant

end PostalRegions
