import Fanout.Json.Printer
import Fanout.Json.Reader
import Mathlib.Tactic.SplitIfs

/-! Reading integers and strings back from the text in which they are written. -/
namespace Fanout.Json

/-- What may stand behind a value: nothing, a comma or a closing bracket. -/
def Delimited : List Char → Prop
  | [] => True
  | c :: _ => c = ',' ∨ c = ']' ∨ c = '\x7d'

theorem isDigit_eq (c : Char) : isDigit c = c.isDigit := rfl

theorem ne_of_isDigit {c x : Char} (hc : isDigit c = true) (hx : isDigit x = false) : c ≠ x := by
  rintro rfl
  rw [hc] at hx
  cases hx

theorem isSpace_of_isDigit {c : Char} (hc : isDigit c = true) : isSpace c = false := by
  simp [isSpace, ne_of_isDigit hc (x := ' ') rfl, ne_of_isDigit hc (x := '\n') rfl,
    ne_of_isDigit hc (x := '\t') rfl, ne_of_isDigit hc (x := '\r') rfl]

theorem isDigit_of_mem_natDigits {n : Nat} {c : Char} (h : c ∈ natDigits n) : isDigit c = true := by
  rw [isDigit_eq]
  exact Nat.isDigit_of_mem_toDigits (by decide) (by decide) h

theorem Delimited.not_isDigit {rest : List Char} (h : Delimited rest) :
    rest.head?.any isDigit = false := by
  match rest, h with
  | [], _ => rfl
  | _ :: _, .inl rfl => rfl
  | _ :: _, .inr (.inl rfl) => rfl
  | _ :: _, .inr (.inr rfl) => rfl

theorem takeWhile_natDigits (n : Nat) {rest : List Char} (h : Delimited rest) :
    (natDigits n ++ rest).takeWhile isDigit = natDigits n := by
  rw [List.takeWhile_append_of_pos fun c hc => isDigit_of_mem_natDigits hc]
  have hrest : rest.takeWhile isDigit = [] := by
    cases rest with
    | nil => rfl
    | cons c r => exact List.takeWhile_cons_of_neg (by simpa using h.not_isDigit)
  rw [hrest, List.append_nil]

theorem dropWhile_natDigits (n : Nat) {rest : List Char} (h : Delimited rest) :
    (natDigits n ++ rest).dropWhile isDigit = rest := by
  rw [List.dropWhile_append_of_pos fun c hc => isDigit_of_mem_natDigits hc]
  cases rest with
  | nil => rfl
  | cons c r => exact List.dropWhile_cons_of_neg (by simpa using h.not_isDigit)

theorem head?_natDigits_ne_zero {n : Nat} (h : 0 < n) : (natDigits n).head? ≠ some '0' := by
  induction n using Nat.strongRecOn with
  | ind n ih =>
    unfold natDigits at *
    by_cases hn : n < 10
    · rw [Nat.toDigits_of_lt_base hn]
      have : ∀ d < 10, 0 < d → [Nat.digitChar d].head? ≠ some '0' := by decide
      exact this n hn h
    · have hhead := ih (n / 10) (by omega) (by omega)
      rw [Nat.toDigits_of_base_le (by decide) (by omega), List.head?_append]
      cases hds : (Nat.toDigits 10 (n / 10)).head? with
      | none => exact absurd (List.head?_eq_none_iff.mp hds) Nat.toDigits_ne_nil
      | some c => simpa [hds] using hhead

/-- No number but zero is written with a zero in front. -/
theorem eq_nil_of_natDigits_eq {n : Nat} {tail : List Char} (h : natDigits n = '0' :: tail) :
    tail = [] := by
  cases n with
  | zero => exact ((List.cons.inj h).2).symm
  | succ n =>
    have hhead := head?_natDigits_ne_zero (Nat.succ_pos n)
    rw [h] at hhead
    exact absurd rfl hhead

theorem le_ofDigitChars (ds : List Char) (s : Nat) : s ≤ Nat.ofDigitChars 10 ds s := by
  induction ds generalizing s with
  | nil => exact Nat.le_refl s
  | cons d ds ih =>
    rw [Nat.ofDigitChars_cons]
    exact Nat.le_trans (by omega) (ih _)

/-- Digits of a number that fits are all taken. -/
theorem absorb_eq {ds : List Char} {s : Nat} (h : Nat.ofDigitChars 10 ds s ≤ maxUnsigned) :
    absorb s ds = (Nat.ofDigitChars 10 ds s, ds.length) := by
  induction ds generalizing s with
  | nil => rfl
  | cons d ds ih =>
    have hnext : s * 10 + digitValue d = 10 * s + (d.toNat - '0'.toNat) := by
      rw [Nat.mul_comm]
      rfl
    rw [Nat.ofDigitChars_cons] at h
    have hfits := Nat.le_trans (le_ofDigitChars ds _) h
    rw [absorb, hnext, if_pos hfits, ih h, Nat.ofDigitChars_cons]
    rfl

theorem readNumber_natDigits (negative : Bool) {n : Nat} (hn : n ≤ maxUnsigned) {rest : List Char}
    (hr : Delimited rest) :
    readNumber negative (natDigits n ++ rest) = .ok (finishInteger negative n, rest) := by
  have hvalue : Nat.ofDigitChars 10 (natDigits n) 0 = n :=
    Nat.ofDigitChars_toDigits (by decide) (by decide)
  have habsorb : absorb 0 (natDigits n) = (n, (natDigits n).length) := by
    rw [absorb_eq (by rwa [hvalue]), hvalue]
  have htake := takeWhile_natDigits n hr
  have hdrop := dropWhile_natDigits n hr
  cases hds : natDigits n with
  | nil => exact absurd hds Nat.toDigits_ne_nil
  | cons c tail =>
    have hc : isDigit c = true := isDigit_of_mem_natDigits (hds ▸ List.mem_cons_self)
    have hzero : ¬ (c = '0' ∧ (tail ++ rest).head?.any isDigit = true) := by
      rintro ⟨rfl, htail⟩
      rw [eq_nil_of_natDigits_eq hds, List.nil_append, hr.not_isDigit] at htail
      cases htail
    rw [hds, List.cons_append] at htake hdrop
    rw [hds] at habsorb
    simp only [List.cons_append, readNumber, hc, Bool.not_true, Bool.false_eq_true, if_false,
      if_neg hzero, htake, hdrop, habsorb, Nat.sub_self, if_true]
    match rest, hr with
    | [], _ => rfl
    | _ :: _, .inl rfl => rfl
    | _ :: _, .inr (.inl rfl) => rfl
    | _ :: _, .inr (.inr rfl) => rfl

theorem hexValue?_hexDigit : ∀ n < 16, hexValue? (hexDigit n) = some n := by decide

/-- The two leading zeros leave room for the control characters alone. -/
theorem readHex_control {n : Nat} (h : n < 0x20) (rest : List Char) :
    readHex ('0' :: '0' :: hexDigit (n / 16) :: hexDigit (n % 16) :: rest) = .ok (n, rest) := by
  have hlong : ¬ byteCount ('0' :: '0' :: hexDigit (n / 16) :: hexDigit (n % 16) :: rest) < 4 := by
    have h₁ := Char.utf8Size_pos (hexDigit (n / 16))
    have h₂ := Char.utf8Size_pos (hexDigit (n % 16))
    have h₀ : '0'.utf8Size = 1 := rfl
    simp only [byteCount, List.foldr_cons, h₀]
    omega
  have hz : hexValue? '0' = some 0 := rfl
  rw [readHex, if_neg hlong]
  simp only [hz, hexValue?_hexDigit (n / 16) (by omega), hexValue?_hexDigit (n % 16) (by omega)]
  congr 2
  omega

/-- A written character is read as one step. -/
theorem readChars_escapeChar (fuel : Nat) (acc : List Char) (c : Char) (cs : List Char) :
    readChars (fuel + 1) acc (escapeChar c ++ cs) = readChars fuel (c :: acc) cs := by
  unfold escapeChar
  split_ifs with hquote hslash hcontrol hb hf hn hr ht
  · subst hquote; rfl
  · subst hslash; rfl
  · subst hb; rfl
  · subst hf; rfl
  · subst hn; rfl
  · subst hr; rfl
  · subst ht; rfl
  · have hhex := readHex_control hcontrol cs
    have hlow : ¬ (0xDC00 ≤ c.toNat ∧ c.toNat ≤ 0xDFFF) := by omega
    have hlead : ¬ (0xD800 ≤ c.toNat ∧ c.toNat ≤ 0xDBFF) := by omega
    have hescape : readEscape ('u' :: '0' :: '0' :: hexDigit (c.toNat / 16) ::
        hexDigit (c.toNat % 16) :: cs) = .ok (c, cs) := by
      simp only [readEscape, hhex, bind, Except.bind, if_neg hlow, if_neg hlead, Char.ofNat_toNat]
    simp only [List.cons_append, List.nil_append, readChars, hescape]
  · simp only [List.cons_append, List.nil_append, readChars]
    rw [if_neg hcontrol]

theorem readChars_escaped {l : List Char} {fuel : Nat} (h : l.length < fuel)
    (acc rest : List Char) :
    readChars fuel acc (l.flatMap escapeChar ++ '"' :: rest) =
      .ok (String.ofList (acc.reverse ++ l), rest) := by
  induction l generalizing fuel acc with
  | nil =>
    obtain ⟨fuel, rfl⟩ := Nat.exists_eq_add_of_lt h
    simp [readChars]
  | cons c l ih =>
    cases fuel with
    | zero => cases h
    | succ fuel =>
      rw [List.flatMap_cons, List.append_assoc, readChars_escapeChar,
        ih (Nat.lt_of_succ_lt_succ h)]
      simp

theorem length_le_flatMap_escapeChar (l : List Char) :
    l.length ≤ (l.flatMap escapeChar).length := by
  induction l with
  | nil => exact Nat.le_refl 0
  | cons c l ih =>
    have hpos : 1 ≤ (escapeChar c).length := by
      unfold escapeChar
      split_ifs <;> simp
    rw [List.flatMap_cons, List.length_append, List.length_cons]
    omega

/-- A string is read back from behind its opening quote. -/
theorem readString_escaped (s : String) (rest : List Char) :
    readString (s.toList.flatMap escapeChar ++ '"' :: rest) = .ok (s, rest) := by
  have hlen := length_le_flatMap_escapeChar s.toList
  rw [readString, readChars_escaped (by rw [List.length_append]; omega)]
  simp

end Fanout.Json
