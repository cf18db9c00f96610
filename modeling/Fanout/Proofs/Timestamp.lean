import Fanout.Time.Timestamp
import Mathlib.Tactic.SplitIfs

/-!
Timestamps and their text. Main statement: an instant of the years 0 to 9999 is read back from its text,
to the nanosecond and also inside a leap second.
-/
namespace Fanout.Time

theorem isDigit_eq (c : Char) : isDigit c = c.isDigit := rfl

theorem isDigit_of_mem_padded {width n : Nat} {c : Char} (h : c ∈ padded width n) :
    isDigit c = true := by
  rcases List.mem_append.mp h with hzero | hdigit
  · rw [(List.mem_replicate.mp hzero).2]
    rfl
  · rw [isDigit_eq]
    exact Nat.isDigit_of_mem_toDigits (by decide) (by decide) hdigit

/-- A number that fits the width takes up exactly the width. -/
theorem length_padded {width n : Nat} (hw : 0 < width) (h : n < Nat.pow 10 width) :
    (padded width n).length = width := by
  have hlen : (Nat.toDigits 10 n).length ≤ width := (Nat.length_toDigits_le_iff (by decide) hw).mpr h
  rw [padded, List.length_append, List.length_replicate]
  omega

theorem numberValue_eq (ds : List Char) : numberValue ds = Nat.ofDigitChars 10 ds 0 := by
  unfold numberValue Nat.ofDigitChars
  congr 1
  funext n c
  rw [Nat.mul_comm]
  rfl

theorem numberValue_padded (width n : Nat) : numberValue (padded width n) = n := by
  rw [numberValue_eq, padded, Nat.ofDigitChars_append, Nat.ofDigitChars_replicate_zero, Nat.mul_zero,
    Nat.ofDigitChars_toDigits (by decide) (by decide)]

theorem toNat_of_isDigit {c : Char} (h : isDigit c = true) : 48 ≤ c.toNat ∧ c.toNat ≤ 57 := by
  rw [isDigit, Bool.and_eq_true, decide_eq_true_eq, decide_eq_true_eq] at h
  exact h

theorem isBlank_of_isDigit {c : Char} (h : isDigit c = true) : Text.isBlank c = false := by
  have hrange := toNat_of_isDigit h
  simp [Text.isBlank]
  omega

/-- A number starts with a digit. -/
theorem exists_padded (width n : Nat) :
    ∃ c cs, padded width n = c :: cs ∧ isDigit c = true := by
  cases h : padded width n with
  | nil =>
    have hnil := (List.append_eq_nil_iff.mp h).2
    exact absurd hnil Nat.toDigits_ne_nil
  | cons c cs => exact ⟨c, cs, rfl, isDigit_of_mem_padded (h ▸ List.mem_cons_self)⟩

theorem trimStart_cons {c : Char} (h : Text.isBlank c = false) (cs : List Char) :
    Text.trimStart (c :: cs) = c :: cs := List.dropWhile_cons_of_neg (by simp [h])

theorem trimStart_padded (width n : Nat) (rest : List Char) :
    Text.trimStart (padded width n ++ rest) = padded width n ++ rest := by
  obtain ⟨c, cs, hcs, hdigit⟩ := exists_padded width n
  rw [hcs, List.cons_append, trimStart_cons (isBlank_of_isDigit hdigit)]

/-- Digits are read up to the width, or up to something else. -/
theorem readDigits_append {width : Nat} {ds rest : List Char} (hd : ∀ c ∈ ds, isDigit c = true)
    (hne : ds ≠ []) (hlen : ds.length ≤ width)
    (hstop : ds.length = width ∨ rest.head?.any isDigit = false) :
    readDigits width (ds ++ rest) = .ok (ds, rest) := by
  have hnone : (rest.take (width - ds.length)).takeWhile isDigit = [] := by
    rcases hstop with heq | hrest
    · simp [heq]
    · cases rest with
      | nil => simp
      | cons c r =>
        have hc : isDigit c = false := by simpa using hrest
        cases width - ds.length with
        | zero => rfl
        | succ k => simp [hc]
  have htake : ((ds ++ rest).take width).takeWhile isDigit = ds := by
    rw [List.take_append, List.take_of_length_le hlen, List.takeWhile_append_of_pos hd, hnone,
      List.append_nil]
  simp [readDigits, htake, hne]

theorem readDigits_padded {width n : Nat} (hw : 0 < width) (h : n < Nat.pow 10 width)
    (rest : List Char) : readDigits width (padded width n ++ rest) = .ok (padded width n, rest) := by
  have hlen := length_padded hw h
  obtain ⟨c, cs, hcs, -⟩ := exists_padded width n
  exact readDigits_append (fun c hc => isDigit_of_mem_padded hc) (by simp [hcs])
    (Nat.le_of_eq hlen) (.inl hlen)

theorem readWithin_padded {lo hi n : Nat} (h : n < 100) (hlo : lo ≤ n) (hhi : n ≤ hi)
    (rest : List Char) : readWithin 2 lo hi (padded 2 n ++ rest) = .ok (n, rest) := by
  simp [readWithin, trimStart_padded, @readDigits_padded 2 n (by decide) h,
    numberValue_padded, hlo, hhi, bind, Except.bind]

theorem readMark_cons {mark : Char} (h : Text.isBlank mark = false) (rest : List Char) :
    readMark mark (mark :: rest) = .ok rest := by
  simp [readMark, trimStart_cons h]

/-- Unfolding the monad beside the bounds of a word would have the kernel evaluate them. -/
theorem ok_bind {ε α β : Type} (a : α) (k : α → Except ε β) : (Except.ok a >>= k) = k a :=
  rfl

/-- Four digits are a year without a sign. -/
theorem readYear_yearChars {y : Int} (h : 0 ≤ y ∧ y ≤ 9999) (rest : List Char) :
    readYear (yearChars y ++ rest) = .ok (y, rest) := by
  have hread := @readDigits_padded 4 y.toNat (by decide) (show y.toNat < 10000 by omega) rest
  obtain ⟨c, cs, hcs, hdigit⟩ := exists_padded 4 y.toNat
  have hminus : c ≠ '-' := by
    rintro rfl
    cases hdigit
  have hplus : c ≠ '+' := by
    rintro rfl
    cases hdigit
  have hvalue : (numberValue (padded 4 y.toNat) : Int) = y := by
    rw [numberValue_padded]
    omega
  have hword : -(Nat.pow 2 31 : Nat) ≤ y ∧ y < (Nat.pow 2 31 : Nat) := by
    have hpow : 9999 < Nat.pow 2 31 := by decide
    omega
  rw [hcs, List.cons_append] at hread
  rw [hcs] at hvalue
  rw [yearChars, if_pos h, hcs, List.cons_append]
  simp only [readYear, trimStart_cons (isBlank_of_isDigit hdigit)]
  split
  · rename_i heq
    exact absurd (List.cons.inj heq).1 hminus
  · rename_i heq
    exact absurd (List.cons.inj heq).1 hplus
  · rw [hread, ok_bind, ok_bind]
    simp only [hvalue]
    rw [if_pos hword]

/-- Three, six or nine digits are read as what they were cut from. -/
theorem readFraction_digits {width n : Nat} (hw : 0 < width) (hwidth : width ≤ 9)
    (h : n < Nat.pow 10 width) :
    readFraction ('.' :: padded width n ++ ['Z']) = .ok (n * Nat.pow 10 (9 - width), ['Z']) := by
  have hlen := length_padded hw h
  obtain ⟨c, cs, hcs, -⟩ := exists_padded width n
  have hread : readDigits 9 (padded width n ++ ['Z']) = .ok (padded width n, ['Z']) :=
    readDigits_append (fun c hc => isDigit_of_mem_padded hc) (by simp [hcs]) (by omega) (.inr rfl)
  simp [readFraction, hread, numberValue_padded, hlen, isDigit, bind, Except.bind]

theorem readFraction_fractionChars {n : Nat} (h : n < nanosPerSecond) :
    readFraction (fractionChars .exact n ++ ['Z']) = .ok (n, ['Z']) := by
  have hbound : n < 1000000000 := h
  unfold fractionChars
  split_ifs with hzero hmillis hmicros
  · rw [hzero]
    rfl
  · rw [readFraction_digits (by decide) (by decide) (show n / 1000000 < 1000 by omega)]
    congr 2
    exact Nat.div_mul_cancel (Nat.dvd_of_mod_eq_zero hmillis)
  · rw [readFraction_digits (by decide) (by decide) (show n / 1000 < 1000000 by omega)]
    congr 2
    exact Nat.div_mul_cancel (Nat.dvd_of_mod_eq_zero hmicros)
  · rw [readFraction_digits (by decide) (by decide) hbound]
    congr 2
    exact Nat.mul_one n

namespace Timestamp

/-- A day of the calendar, a second of the day, and a leap second only where a minute ends. -/
structure Proper (t : Timestamp) : Prop where
  date : t.date.Valid
  second_lt : t.second < secondsPerDay
  nanos_lt : t.nanos < 2 * nanosPerSecond
  leap : nanosPerSecond ≤ t.nanos → t.second % 60 = 59

/-- Universal time is local time where that is not ahead. -/
theorem ofLocal_zero {date : Date} (hd : date.Valid) {second : Nat} (hs : second < secondsPerDay)
    (nanos : Nat) : ofLocal date second nanos 0 = .ok ⟨date, second, nanos⟩ := by
  have hpos : ¬ ((second : Int) - 0 < 0) := by omega
  have hday : ¬ ((secondsPerDay : Int) ≤ (second : Int) - 0) := by omega
  have hoffset : ¬ (¬ date.Valid ∨ (0 : Int).natAbs ≥ secondsPerDay) := by
    simp [hd, secondsPerDay]
  rw [ofLocal, if_neg hoffset]
  simp only [if_neg hpos, if_neg hday]
  congr 1

theorem day_le_of_valid {date : Date} (h : date.Valid) : date.day ≤ 31 := by
  have hday : date.day ≤ daysInMonth date.year date.month := h.2.2.2.2.2
  unfold daysInMonth at hday
  split_ifs at hday <;> omega

/-- What the parts of a text add up to, if each is within its range. -/
theorem ofChars_parts {date : Date} (hdate : date.Valid)
    (hyear : 0 ≤ date.year ∧ date.year ≤ 9999) {hour minute second nanos : Nat} (hhour : hour ≤ 23)
    (hminute : minute ≤ 59) (hsecond : second ≤ 60) (hnanos : nanos < nanosPerSecond) :
    ofChars (yearChars date.year ++ '-' :: padded 2 date.month ++ '-' :: padded 2 date.day ++
        'T' :: padded 2 hour ++ ':' :: padded 2 minute ++ ':' :: padded 2 second ++
        fractionChars .exact nanos ++ ['Z']) =
      ofLocal date (hour * 3600 + minute * 60 + if second = 60 then 59 else second)
        (nanos + if second = 60 then nanosPerSecond else 0) 0 := by
  have hday := day_le_of_valid hdate
  obtain ⟨-, -, hmonth, hmonth', hday', -⟩ := hdate
  simp only [List.append_assoc, List.cons_append, ofChars, readYear_yearChars hyear, ok_bind,
    readMark_cons (show Text.isBlank '-' = false by decide),
    readMark_cons (show Text.isBlank ':' = false by decide),
    readWithin_padded (show date.month < 100 by omega) hmonth hmonth',
    readWithin_padded (show date.day < 100 by omega) hday' hday,
    readWithin_padded (show hour < 100 by omega) (Nat.zero_le hour) hhour,
    readWithin_padded (show minute < 100 by omega) (Nat.zero_le minute) hminute,
    readWithin_padded (show second < 100 by omega) (Nat.zero_le second) hsecond,
    readFraction_fractionChars hnanos]
  rfl

theorem parse_render {t : Timestamp} (h : t.Proper)
    (hyear : 0 ≤ t.date.year ∧ t.date.year ≤ 9999) : parse t.render = .ok t := by
  obtain ⟨hdate, hsecond, hnanos, hleap⟩ := h
  have hbound : t.second < 86400 := hsecond
  have hhour : t.second / 3600 ≤ 23 := by omega
  have hminute : t.second / 60 % 60 ≤ 59 := by omega
  rw [parse, render, String.toList_ofList, chars]
  by_cases hl : nanosPerSecond ≤ t.nanos
  · -- the sixtieth second of a minute is read as its last one, a second of nanoseconds later
    have hlast := hleap hl
    have hsixty : t.second % 60 + 1 = 60 := by omega
    have htotal : t.second / 3600 * 3600 + t.second / 60 % 60 * 60 + 59 = t.second := by omega
    simp only [if_pos hl]
    rw [ofChars_parts hdate hyear hhour hminute (by omega) (by omega), if_pos hsixty, if_pos hsixty,
      htotal, Nat.sub_add_cancel hl]
    exact ofLocal_zero hdate hsecond t.nanos
  · have hsixty : t.second % 60 + 0 ≠ 60 := by omega
    have htotal : t.second / 3600 * 3600 + t.second / 60 % 60 * 60 + (t.second % 60 + 0) =
        t.second := by omega
    simp only [if_neg hl]
    rw [ofChars_parts hdate hyear hhour hminute (by omega) (by omega), if_neg hsixty, if_neg hsixty,
      htotal]
    exact ofLocal_zero hdate hsecond t.nanos

end Timestamp

end Fanout.Time
