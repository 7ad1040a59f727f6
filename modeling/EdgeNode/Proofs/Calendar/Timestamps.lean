import EdgeNode.Proofs.Calendar.Dates
import Mathlib.Algebra.Group.Nat.Defs
import Mathlib.Order.Basic
/-!
# Timestamps that are written can be read

The text of an instant is a sequence of numbers of fixed width with a mark behind each, so that a
reader that takes digits as long as there are any takes each number whole.
-/

namespace EdgeNode.Calendar

/-- The day of an instant has a date.  A clock shows no other instants. -/
def HasDay (nanos : Nat) : Prop :=
  ((nanos / 1000000000 / 86400 : Nat) : Int) ≤ lastDay

instance (nanos : Nat) : Decidable (HasDay nanos) :=
  inferInstanceAs (Decidable (_ ≤ lastDay))

/-! ### Digits -/

lemma isDigit_of_mem_padded {len n : Nat} {c : Char} (h : c ∈ (padded len n).toList) :
    c.isDigit := by
  rw [padded, String.toList_ofList] at h
  rcases List.mem_append.1 h with h | h
  · rw [List.eq_of_mem_replicate h]
    rfl
  · exact Nat.isDigit_of_mem_toDigits (by decide) (by decide) h

lemma length_padded {len n : Nat} (hpos : 0 < len) (h : n < 10 ^ len) :
    (padded len n).toList.length = len := by
  have hle : (Nat.toDigits 10 n).length ≤ len := (Nat.length_toDigits_le_iff (by decide) hpos).2 h
  rw [padded, String.toList_ofList, List.length_append, List.length_replicate]
  omega

lemma padded_ne_nil (len n : Nat) : (padded len n).toList ≠ [] := by
  rw [padded, String.toList_ofList]
  simp [Nat.toDigits_ne_nil]

lemma exists_padded_eq_cons (len n : Nat) :
    ∃ d ds, (padded len n).toList = d :: ds ∧ d.isDigit := by
  obtain ⟨d, ds, hds⟩ := List.exists_cons_of_ne_nil (padded_ne_nil len n)
  have hmem : d ∈ (padded len n).toList := by
    rw [hds]
    exact List.mem_cons_self
  exact ⟨d, ds, hds, isDigit_of_mem_padded hmem⟩

lemma foldl_padded (len n : Nat) :
    (padded len n).toList.foldl (fun n c => n * 10 + (c.toNat - 48)) 0 = n := by
  have hvalue : Nat.ofDigitChars 10 (padded len n).toList 0 = n := by
    rw [padded, String.toList_ofList, Nat.ofDigitChars_append, Nat.ofDigitChars_replicate_zero,
      Nat.mul_zero, Nat.ofDigitChars_ten_toDigits]
  rw [Nat.ofDigitChars_eq_foldl] at hvalue
  simpa [Nat.mul_comm] using hvalue

/-- A number is read whole in front of something else. -/
lemma takeNumber_padded {len n most : Nat} {c : Char} (rest : List Char)
    (hmost : (padded len n).toList.length ≤ most) (hc : c.isDigit = false) :
    takeNumber most ((padded len n).toList ++ c :: rest) = some (n, c :: rest) := by
  have htake : ((padded len n).toList ++ c :: rest).takeWhile Char.isDigit
      = (padded len n).toList := by
    rw [List.takeWhile_append_of_pos fun d hd => isDigit_of_mem_padded hd, List.takeWhile_cons]
    simp [hc]
  have hsome : (padded len n).toList.isEmpty = false := by
    simpa using padded_ne_nil len n
  unfold takeNumber
  simp only [htake, List.take_of_length_le hmost, hsome, foldl_padded, List.drop_left]
  rfl

/-- No blanks are passed in front of a number. -/
lemma trimLeft_padded (len n : Nat) (rest : List Char) :
    Text.trimLeft ((padded len n).toList ++ rest) = (padded len n).toList ++ rest := by
  obtain ⟨d, ds, hds, hdigit⟩ := exists_padded_eq_cons len n
  have hblank : Text.isBlank d = false := by
    have hrange : 48 ≤ d.toNat ∧ d.toNat ≤ 57 := by
      simpa [Char.isDigit, UInt32.le_iff_toNat_le] using hdigit
    simp only [Text.isBlank, Bool.or_eq_false_iff, Bool.and_eq_false_iff, decide_eq_false_iff_not,
      beq_eq_false_iff_ne]
    omega
  rw [hds, List.cons_append, Text.trimLeft, List.dropWhile_cons]
  simp [hblank]

/-- A field of two digits is read whole. -/
lemma takeField_padded {n : Nat} {c : Char} (h : n < 100) (hc : c.isDigit = false)
    (rest : List Char) :
    takeField ((padded 2 n).toList ++ c :: rest) = some (n, c :: rest) := by
  have hlength : (padded 2 n).toList.length = 2 := length_padded (by decide) h
  rw [takeField, trimLeft_padded]
  exact takeNumber_padded rest hlength.le hc

/-- A mark is passed. -/
lemma takeChar_trimLeft {c : Char} (hc : Text.isBlank c = false) (rest : List Char) :
    takeChar c (Text.trimLeft (c :: rest)) = some rest := by
  rw [Text.trimLeft, List.dropWhile_cons]
  simp [hc, takeChar]

/-- A number does not begin with a sign. -/
lemma padded_append_ne_cons {len n : Nat} {c : Char} (hc : c.isDigit = false)
    (rest rest' : List Char) : (padded len n).toList ++ rest ≠ c :: rest' := by
  intro h
  obtain ⟨d, ds, hds, hdigit⟩ := exists_padded_eq_cons len n
  rw [hds, List.cons_append] at h
  obtain ⟨rfl, -⟩ := List.cons.inj h
  simp [hc] at hdigit

lemma takeYear_yearText {c : Char} (year : Nat) (hc : c.isDigit = false) (rest : List Char) :
    takeYear ((yearText year).toList ++ c :: rest) = some ((year : Int), c :: rest) := by
  unfold yearText
  by_cases h : year ≤ 9999
  · have hlength : (padded 4 year).toList.length = 4 := length_padded (by decide) (by omega)
    rw [if_pos h, takeYear, trimLeft_padded]
    split
    · next hsign => exact absurd hsign (padded_append_ne_cons (by decide) _ _)
    · next hsign => exact absurd hsign (padded_append_ne_cons (by decide) _ _)
    · rw [takeNumber_padded rest hlength.le hc]
      rfl
  · have htrim : Text.trimLeft (("+" ++ padded 4 year).toList ++ c :: rest)
        = '+' :: ((padded 4 year).toList ++ c :: rest) := by
      rw [String.toList_append]
      rfl
    rw [if_neg h, takeYear, htrim]
    simp only
    rw [takeNumber_padded rest (by simp) hc]
    rfl

/-- The fraction of a second is nothing or a number behind a point. -/
lemma fraction_eq (nanos : Nat) :
    (fraction nanos).toList = [] ∨
      ∃ len n, (fraction nanos).toList = '.' :: (padded len n).toList := by
  have hpoint : ∀ len n, ("." ++ padded len n).toList = '.' :: (padded len n).toList := by
    intro len n
    rw [String.toList_append]
    rfl
  unfold fraction
  split
  · exact .inl rfl
  · split
    · exact .inr ⟨_, _, hpoint _ _⟩
    · split <;> exact .inr ⟨_, _, hpoint _ _⟩

/-! ### Instants -/

/-- The time of day and the date of an instant. -/
lemma exists_ofSeconds (seconds : Nat) :
    ∃ year month day hour minute second : Nat,
      DateTime.ofSeconds seconds = ⟨year, month, day, hour, minute, second⟩ ∧
        1 ≤ month ∧ month ≤ 12 ∧ 1 ≤ day ∧ day ≤ daysIn year month ∧ hour < 24 ∧ minute < 60 ∧
        second < 60 ∧ daysFromCivil year month day = (seconds / 86400 : Nat) := by
  obtain ⟨year, month, day, hcivil, hmonth, hmonth', hday, hday', hback⟩ :=
    civilFromDays_spec (seconds / 86400)
  have hdays : Int.fdiv seconds 86400 = (seconds / 86400 : Nat) := by
    rw [Int.fdiv_eq_ediv_of_nonneg _ (by decide)]
    omega
  have hrest : ((seconds : Int) - (seconds / 86400 : Nat) * 86400).toNat = seconds % 86400 := by
    omega
  refine ⟨year, month, day, seconds % 86400 / 3600, seconds % 86400 / 60 % 60, seconds % 86400 % 60,
    ?_, hmonth, hmonth', hday, hday', by omega, by omega, by omega, hback⟩
  unfold DateTime.ofSeconds
  simp only [hdays, hrest, hcivil]

lemma daysIn_le (year : Int) (month : Nat) : daysIn year month ≤ 31 := by
  unfold daysIn
  split
  · split <;> decide
  · split <;> decide

lemma hasDate_natCast {day : Nat} (h : (day : Int) ≤ lastDay) : hasDate day := by
  have hfirst : firstDay ≤ 0 := by decide
  rw [hasDate, Bool.and_eq_true, decide_eq_true_eq, decide_eq_true_eq]
  exact ⟨Int.le_trans hfirst (Int.natCast_nonneg day), h⟩

/-- A leap second does not lead to another day. -/
lemma hasDate_seconds {year month day hour minute second days : Nat}
    (hdays : daysFromCivil year month day = days) (hhour : hour < 24) (hminute : minute < 60)
    (hlast : (days : Int) ≤ lastDay) :
    hasDate (Int.fdiv
      (DateTime.seconds ⟨year, month, day, hour, minute, min second 59⟩ - 0) 86400) := by
  have hsum : DateTime.seconds ⟨year, month, day, hour, minute, min second 59⟩ - 0
      = (days * 86400 + (hour * 3600 + minute * 60 + min second 59) : Nat) := by
    rw [DateTime.seconds, hdays]
    dsimp only
    omega
  have hfdiv : Int.fdiv (DateTime.seconds ⟨year, month, day, hour, minute, min second 59⟩ - 0)
      86400 = days := by
    rw [hsum, Int.fdiv_eq_ediv_of_nonneg _ (by decide)]
    omega
  rw [hfdiv]
  exact hasDate_natCast hlast

/-- Behind the second of an instant there is the mark of the zone or a fraction. -/
lemma takeSecond_fraction {second : Nat} (hsecond : second < 60) (nanos : Nat) :
    ∃ cs, takeField ((padded 2 second).toList ++ ((fraction nanos).toList ++ ['Z']))
        = some (second, cs) ∧
      (cs = ['Z'] ∨
        ∃ rest n, cs = '.' :: rest ∧ takeNumber rest.length rest = some (n, ['Z'])) := by
  rcases fraction_eq nanos with hfraction | ⟨len, n, hfraction⟩
  · refine ⟨['Z'], ?_, .inl rfl⟩
    rw [hfraction]
    exact takeField_padded (by omega) (by decide) []
  · refine ⟨'.' :: ((padded len n).toList ++ ['Z']), ?_, .inr ⟨_, n, rfl, ?_⟩⟩
    · rw [hfraction]
      exact takeField_padded (by omega) (by decide) _
    · exact takeNumber_padded [] (by simp) (by decide)

/-- The text of an instant, part by part. -/
lemma toList_timestamp {nanos year month day hour minute second : Nat}
    (hof : DateTime.ofSeconds (nanos / 1000000000 : Nat)
      = ⟨year, month, day, hour, minute, second⟩) :
    (timestamp nanos).toList = (yearText year).toList ++ '-' :: ((padded 2 month).toList
      ++ '-' :: ((padded 2 day).toList ++ 'T' :: ((padded 2 hour).toList ++ ':' ::
      ((padded 2 minute).toList ++ ':' :: ((padded 2 second).toList ++
      ((fraction (nanos % 1000000000)).toList ++ ['Z'])))))) := by
  have hseconds : (nanos : Int) / 1000000000 = (nanos / 1000000000 : Nat) := by omega
  unfold timestamp
  simp only [hseconds, hof, String.toList_append, Int.toNat_natCast, List.append_assoc]
  rfl

/-- **The text of an instant is a timestamp.** -/
theorem isTimestamp_timestamp {nanos : Nat} (h : HasDay nanos) : isTimestamp (timestamp nanos) := by
  obtain ⟨year, month, day, hour, minute, second, hof, hmonth, hmonth', hday, hday', hhour, hminute,
    hsecond, hback⟩ := exists_ofSeconds (nanos / 1000000000)
  have hdaysIn := daysIn_le year month
  obtain ⟨cs, hsecondField, hcs⟩ := takeSecond_fraction hsecond (nanos % 1000000000)
  have hdate : hasDate (daysFromCivil year month day) := by
    rw [hback]
    exact hasDate_natCast h
  have hvalid : List.all [] Text.isBlank ∧ 1 ≤ month ∧ month ≤ 12 ∧ 1 ≤ day ∧
      day ≤ daysIn year month ∧ hour < 24 ∧ minute < 60 ∧ second ≤ 60 ∧ (0 : Int).natAbs < 86400 ∧
      hasDate (daysFromCivil year month day) ∧ hasDate (Int.fdiv
        (DateTime.seconds ⟨year, month, day, hour, minute, min second 59⟩ - 0) 86400) :=
    ⟨rfl, hmonth, hmonth', hday, hday', hhour, hminute, by omega, by decide, hdate,
      hasDate_seconds hback hhour hminute h⟩
  rw [isTimestamp, Option.isSome_iff_exists, toList_timestamp hof]
  refine ⟨(), ?_⟩
  unfold isTimestamp.read
  -- the parts are read one after another
  refine Option.bind_eq_some_iff.2 ⟨_, takeYear_yearText year (by decide) _, ?_⟩
  refine Option.bind_eq_some_iff.2 ⟨_, takeChar_trimLeft (by decide) _, ?_⟩
  refine Option.bind_eq_some_iff.2 ⟨_, takeField_padded (by omega) (by decide) _, ?_⟩
  refine Option.bind_eq_some_iff.2 ⟨_, takeChar_trimLeft (by decide) _, ?_⟩
  refine Option.bind_eq_some_iff.2 ⟨_, takeField_padded (by omega) (by decide) _, ?_⟩
  dsimp only
  rw [if_pos (by decide)]
  refine Option.bind_eq_some_iff.2 ⟨_, rfl, ?_⟩
  refine Option.bind_eq_some_iff.2 ⟨_, takeField_padded (by omega) (by decide) _, ?_⟩
  refine Option.bind_eq_some_iff.2 ⟨_, takeChar_trimLeft (by decide) _, ?_⟩
  refine Option.bind_eq_some_iff.2 ⟨_, takeField_padded (by omega) (by decide) _, ?_⟩
  refine Option.bind_eq_some_iff.2 ⟨_, takeChar_trimLeft (by decide) _, ?_⟩
  refine Option.bind_eq_some_iff.2 ⟨_, hsecondField, ?_⟩
  have hzone : takeOffset (Text.trimLeft ['Z']) = some (0, []) := rfl
  rcases hcs with rfl | ⟨rest, n, rfl, hnumber⟩
  · refine Option.bind_eq_some_iff.2 ⟨['Z'], rfl, ?_⟩
    refine Option.bind_eq_some_iff.2 ⟨_, hzone, ?_⟩
    exact if_pos hvalid
  · have hpassed : (takeNumber rest.length rest).map Prod.snd = some ['Z'] := by
      rw [hnumber]
      rfl
    refine Option.bind_eq_some_iff.2 ⟨_, hpassed, ?_⟩
    refine Option.bind_eq_some_iff.2 ⟨_, hzone, ?_⟩
    exact if_pos hvalid

end EdgeNode.Calendar
