import Mathlib
import OfflineAgent.Calendar

/-!
# Reading back stored moments

Whatever a clock shows before the year 10000 is read back from its stored form.
-/

namespace OfflineAgent.Moment

/-- A date of the calendar and a time of day, as a clock shows them before the year 10000. -/
def IsClock (m : Moment) : Prop :=
  (0 ≤ m.year ∧ m.year ≤ 9999) ∧ (1 ≤ m.month ∧ m.month ≤ 12) ∧
    (1 ≤ m.day ∧ m.day ≤ daysIn m.year m.month) ∧
    m.hour ≤ 23 ∧ m.minute ≤ 59 ∧ m.second ≤ 60

instance (m : Moment) : Decidable m.IsClock :=
  inferInstanceAs (Decidable (_ ∧ _ ∧ _ ∧ _ ∧ _ ∧ _))

/-- A moment for the runs that are written out. -/
def noon : Moment := ⟨2024, 1, 1, 12, 0, 0⟩

theorem isClock_noon : noon.IsClock := by decide

theorem daysIn_le (year : Int) (month : Nat) : daysIn year month ≤ 31 := by
  unfold daysIn
  repeat' split
  all_goals omega

section

variable {width n low high : Nat} {c : Char} {text rest : List Char}

/-! ### Numbers -/

theorem isDigit_of_mem_digits (hmem : c ∈ digits width n) : isDigit c = true := by
  obtain hzero | hdigit := List.mem_append.mp hmem
  · obtain rfl := List.eq_of_mem_replicate hzero
    rfl
  · have hc := Nat.isDigit_of_mem_toDigits (by decide) (by decide) hdigit
    simpa [isDigit, Char.isDigit, Char.le_def] using hc

theorem length_digits (hwidth : 0 < width) (hn : n < 10 ^ width) :
    (digits width n).length = width := by
  have hlength := (Nat.length_toDigits_le_iff (by decide) hwidth).mpr hn
  simp only [digits, List.length_append, List.length_replicate]
  omega

theorem value_digits : value (digits width n) = n := by
  have hvalue (list : List Char) : value list = Nat.ofDigitChars 10 list 0 := rfl
  rw [hvalue, digits, Nat.ofDigitChars_append, Nat.ofDigitChars_replicate_zero, Nat.mul_zero,
    Nat.ofDigitChars_ten_toDigits]

/-- As many digits as are expected are read as their number, whatever follows. -/
theorem number_digits (hwidth : 0 < width) (hn : n < 10 ^ width) (hrange : n < 2 ^ 63) :
    number width (digits width n ++ rest) = .ok (n, rest) := by
  have hlength := length_digits hwidth hn
  have hfound : ((digits width n ++ rest).take width).takeWhile isDigit = digits width n := by
    rw [List.take_left' hlength]
    exact List.takeWhile_eq_self_iff.mpr fun c hmem => isDigit_of_mem_digits hmem
  have hnonempty : (digits width n).isEmpty = false := by
    rw [List.isEmpty_eq_false_iff, ← List.length_pos_iff, hlength]
    exact hwidth
  have hsmall : ¬Int64.maxValue.toInt < (n : Int) := by
    rw [Int64.toInt_maxValue]
    omega
  simp only [number, hfound, hnonempty, value_digits]
  rw [if_neg (by simp), if_neg hsmall, List.drop_left' rfl]

/-! ### Fields -/

theorem trimStart_cons (hblank : Text.isBlank c = false) :
    Text.trimStart (c :: text) = c :: text := by
  rw [Text.trimStart, List.dropWhile_cons_of_neg (by simp [hblank])]

theorem isBlank_of_isDigit (hdigit : isDigit c = true) : Text.isBlank c = false := by
  have hrange : 48 ≤ c.toNat ∧ c.toNat ≤ 57 := by
    simpa [isDigit, Char.le_def, UInt32.le_iff_toNat_le] using hdigit
  simp only [Text.isBlank]
  simp
  omega

theorem exists_digit (hwidth : 0 < width) (hn : n < 10 ^ width) :
    ∃ c tail, digits width n = c :: tail ∧ isDigit c = true := by
  cases hdigits : digits width n with
  | nil =>
      have hlength := length_digits hwidth hn
      rw [hdigits] at hlength
      exact absurd hlength (Nat.ne_of_lt hwidth)
  | cons c tail => exact ⟨c, tail, rfl, isDigit_of_mem_digits (hdigits ▸ List.mem_cons_self)⟩

theorem trimStart_digits (hwidth : 0 < width) (hn : n < 10 ^ width) :
    Text.trimStart (digits width n ++ rest) = digits width n ++ rest := by
  obtain ⟨c, tail, hdigits, hdigit⟩ := exists_digit hwidth hn
  rw [hdigits, List.cons_append, trimStart_cons (isBlank_of_isDigit hdigit)]

theorem field_digits (hlow : low ≤ n) (hhigh : n ≤ high) (hn : n < 100) :
    field low high (digits 2 n ++ rest) = .ok (n, rest) := by
  have hread : number 2 (digits 2 n ++ rest) = .ok (n, rest) :=
    number_digits (by decide) hn (by omega)
  rw [field, trimStart_digits (by decide) hn, hread]
  change (if n < low ∨ high < n then _ else _) = _
  rw [if_neg (by omega)]
  rfl

theorem yearField_digits (hn : n < 10000) :
    yearField (digits 4 n ++ rest) = .ok ((n : Int), rest) := by
  have hread : number 4 (digits 4 n ++ rest) = .ok (n, rest) :=
    number_digits (by decide) hn (by omega)
  obtain ⟨c, tail, hdigits, hdigit⟩ : ∃ c tail, digits 4 n = c :: tail ∧ isDigit c = true :=
    exists_digit (by decide) hn
  rw [yearField, trimStart_digits (by decide) hn]
  rw [hdigits, List.cons_append] at hread ⊢
  split
  · rename_i hsign
    obtain rfl := (List.cons.inj hsign).1
    cases hdigit
  · rename_i hsign
    obtain rfl := (List.cons.inj hsign).1
    cases hdigit
  · rw [hread]
    rfl

/-! ### Whole texts -/

theorem mark_cons : mark c (c :: rest) = .ok rest := if_pos rfl

/-- **A stored moment is read as the moment.** -/
theorem parse_stored {m : Moment} (hclock : m.IsClock) : parse m.stored = .ok m := by
  obtain ⟨⟨hlow, hhigh⟩, hmonth, hday, hhour, hminute, hsecond⟩ := hclock
  obtain ⟨year, month, day, hour, minute, second⟩ := m
  obtain ⟨year, rfl⟩ := Int.eq_ofNat_of_zero_le hlow
  dsimp only at *
  have hlast := daysIn_le year month
  have hyearText : yearText year = digits 4 year := if_pos ⟨hlow, hhigh⟩
  have hyear (rest : List Char) : yearField (digits 4 year ++ rest) = .ok ((year : Int), rest) :=
    yearField_digits (by omega)
  have hmonths (rest : List Char) : field 1 12 (digits 2 month ++ rest) = .ok (month, rest) :=
    field_digits hmonth.1 hmonth.2 (by omega)
  have hdays (rest : List Char) : field 1 31 (digits 2 day ++ rest) = .ok (day, rest) :=
    field_digits hday.1 (hday.2.trans hlast) (by omega)
  have hhours (rest : List Char) : field 0 23 (digits 2 hour ++ rest) = .ok (hour, rest) :=
    field_digits (Nat.zero_le _) hhour (by omega)
  have hminutes (rest : List Char) : field 0 59 (digits 2 minute ++ rest) = .ok (minute, rest) :=
    field_digits (Nat.zero_le _) hminute (by omega)
  have hseconds : field 0 60 (digits 2 second ++ []) = .ok (second, []) :=
    field_digits (Nat.zero_le _) hsecond (by omega)
  have htrim (rest : List Char) :
      Text.trimStart (' ' :: (digits 2 hour ++ rest)) = digits 2 hour ++ rest :=
    trimStart_digits (by decide) (by omega)
  rw [List.append_nil] at hseconds
  rw [parse, stored, String.toList_ofList]
  simp only [dateText, timeText, hyearText, List.append_assoc, List.cons_append, hyear, mark_cons,
    hmonths, hdays, htrim, hhours, hminutes, hseconds, bind, Except.bind]
  have hrange : ¬((year : Int) < Int32.minValue.toInt ∨ Int32.maxValue.toInt < (year : Int)) := by
    rw [Int32.toInt_minValue, Int32.toInt_maxValue]
    omega
  have hcalendar :
      ¬((year : Int) < minYear ∨ maxYear < (year : Int) ∨ daysIn year month < day) := by
    unfold minYear maxYear
    omega
  rw [if_neg hrange, if_neg (by simp), if_neg hcalendar]
  rfl

/-! ### The form of a stored text -/

/-- The text with a zero for each digit. -/
def pattern (text : String) : String :=
  text.map fun c => if isDigit c then '0' else c

theorem map_digits (hwidth : 0 < width) (hn : n < 10 ^ width) :
    (digits width n).map (fun c => if isDigit c then '0' else c) = List.replicate width '0' := by
  refine List.eq_replicate_iff.mpr ⟨?_, fun c hmem => ?_⟩
  · rw [List.length_map, length_digits hwidth hn]
  · obtain ⟨digit, hdigit, rfl⟩ := List.mem_map.mp hmem
    exact if_pos (isDigit_of_mem_digits hdigit)

theorem pattern_stored {m : Moment} (hclock : m.IsClock) :
    pattern m.stored = "0000-00-00 00:00:00" := by
  obtain ⟨⟨hlow, hhigh⟩, hmonth, hday, hhour, hminute, hsecond⟩ := hclock
  have hlast := daysIn_le m.year m.month
  have hyear : (yearText m.year).map (fun c => if isDigit c then '0' else c) =
      List.replicate 4 '0' := by
    rw [yearText, if_pos ⟨hlow, hhigh⟩]
    exact map_digits (by decide) (by omega)
  have htwo {n : Nat} (hn : n < 100) :
      (digits 2 n).map (fun c => if isDigit c then '0' else c) = List.replicate 2 '0' :=
    map_digits (by decide) hn
  apply String.toList_inj.mp
  rw [pattern, String.toList_map, stored, String.toList_ofList]
  simp only [dateText, timeText, List.map_append, List.map_cons, hyear,
    htwo (show m.month < 100 by omega), htwo (show m.day < 100 by omega),
    htwo (show m.hour < 100 by omega), htwo (show m.minute < 100 by omega),
    htwo (show m.second < 100 by omega)]
  rfl

example : stored ⟨0, 2, 29, 23, 59, 59⟩ = "0000-02-29 23:59:59" := by decide

end

end OfflineAgent.Moment
