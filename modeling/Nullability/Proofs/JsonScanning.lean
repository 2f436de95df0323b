import Nullability.Json.Decode

/-!
Scanning what has been written. Each step of a reader is followed on the text that the writer leaves for it:
blanks, words, strings character by character, and whole numbers digit by digit. What stands behind is left
as it is, provided that it does not go on where a number ends.
-/

namespace Nullability.Json.Reader

variable {α β : Type}

theorem bind_of_ok {r : Reader α} {f : α → Reader β} {cs rest : List Char} {a : α}
    (h : r cs = .ok (a, rest)) : (r >>= f) cs = f a rest := by
  show Except.bind (r cs) _ = _
  rw [h]
  rfl

theorem get_run (cs : List Char) : (get : Reader (List Char)) cs = .ok (cs, cs) := rfl

theorem set_run (cs rest : List Char) : (set rest : Reader PUnit) cs = .ok (⟨⟩, rest) := rfl

theorem drop_cons (c : Char) (rest : List Char) : drop 1 (c :: rest) = .ok ((), rest) := rfl

/-- Characters that may stand between the parts of a text. -/
def Blanks (cs : List Char) : Prop := ∀ c ∈ cs, isBlank c = true

theorem blanks_nil : Blanks [] := fun _ h => absurd h List.not_mem_nil

theorem blanks_newline : Blanks "\n".toList := by
  intro c hc
  rw [List.mem_singleton.mp hc]
  rfl

theorem dropWhile_blanks {blanks : List Char} (hblanks : Blanks blanks) {c : Char} (hc : isBlank c = false)
    (rest : List Char) : (blanks ++ c :: rest).dropWhile isBlank = c :: rest := by
  rw [List.dropWhile_append_of_pos hblanks, List.dropWhile_cons, hc, if_neg Bool.false_ne_true]

theorem skipBlank_blanks {blanks : List Char} (hblanks : Blanks blanks) {c : Char} (hc : isBlank c = false)
    (rest : List Char) : skipBlank (blanks ++ c :: rest) = .ok (c :: rest, c :: rest) := by
  show Except.ok ((blanks ++ c :: rest).dropWhile isBlank, (blanks ++ c :: rest).dropWhile isBlank) = _
  rw [dropWhile_blanks hblanks hc]

theorem skipBlank_cons {c : Char} (hc : isBlank c = false) (rest : List Char) :
    skipBlank (c :: rest) = .ok (c :: rest, c :: rest) :=
  skipBlank_blanks blanks_nil hc rest

theorem start_blanks {blanks : List Char} (hblanks : Blanks blanks) {c : Char} (hc : isBlank c = false)
    (rest : List Char) : start (blanks ++ c :: rest) = .ok (c, c :: rest) := by
  rw [start, bind_of_ok (skipBlank_blanks hblanks hc rest)]
  rfl

theorem word_append (ws rest : List Char) : word ws (ws ++ rest) = .ok ((), rest) := by
  induction ws with
  | nil => rfl
  | cons w ws ih =>
      rw [word, bind_of_ok (get_run _)]
      simp only [List.cons_append, if_true]
      rw [bind_of_ok (set_run _ _), ih]

theorem hexValue?_hexDigit : ∀ n < 16, hexValue? (hexDigit n) = some n := by decide

/-- A control character is written by its number in four digits, of which the first two are zero. -/
theorem numberedChar_control {c : Char} (hc : c.toNat < 0x20) (rest : List Char) :
    numberedChar true ('0' :: '0' :: hexDigit (c.toNat / 16) :: hexDigit (c.toNat % 16) :: rest) =
      .ok (c, rest) := by
  have hzero : hexValue? '0' = some 0 := hexValue?_hexDigit 0 (by decide)
  have hdigits : fourDigits ('0' :: '0' :: hexDigit (c.toNat / 16) :: hexDigit (c.toNat % 16) :: rest) =
      .ok (c.toNat, rest) := by
    rw [fourDigits, bind_of_ok (get_run _)]
    simp only [hzero, hexValue?_hexDigit (c.toNat / 16) (by omega),
      hexValue?_hexDigit (c.toNat % 16) (by omega)]
    rw [bind_of_ok (set_run _ _)]
    show Except.ok (_, _) = _
    rw [show ((0 * 16 + 0) * 16 + c.toNat / 16) * 16 + c.toNat % 16 = c.toNat by omega]
  rw [numberedChar, bind_of_ok hdigits]
  have hlow : (decide (0xDC00 ≤ c.toNat) && decide (c.toNat ≤ 0xDFFF)) = false := by
    rw [decide_eq_false (by omega : ¬0xDC00 ≤ c.toNat), Bool.false_and]
  have hplain : (decide (c.toNat < 0xD800) || decide (0xDBFF < c.toNat)) = true := by
    rw [decide_eq_true (by omega : c.toNat < 0xD800), Bool.true_or]
  simp only [Bool.not_true, Bool.false_eq_true, if_false, hlow, hplain, if_true, Char.ofNat_toNat]
  rfl

theorem stringBody_escape {c : Char} {fuel : Nat} {escaped text cs rest : List Char}
    (hc : escape true escaped = .ok (c, text)) (h : stringBody true fuel text = .ok (cs, rest)) :
    stringBody true (fuel + 1) ('\\' :: escaped) = .ok (c :: cs, rest) := by
  rw [stringBody, bind_of_ok (get_run _)]
  show (escape true >>= fun c => stringBody true fuel >>= fun cs => pure (c :: cs)) escaped = _
  rw [bind_of_ok hc, bind_of_ok h]
  rfl

theorem stringBody_plain {c : Char} {fuel : Nat} {text cs rest : List Char} (hquote : c ≠ '"')
    (hslash : c ≠ '\\') (hc : ¬c.toNat < 0x20) (h : stringBody true fuel text = .ok (cs, rest)) :
    stringBody true (fuel + 1) (c :: text) = .ok (c :: cs, rest) := by
  rw [stringBody, bind_of_ok (get_run _)]
  simp only [if_neg hquote, if_neg hslash, if_neg hc]
  rw [bind_of_ok (set_run _ _), bind_of_ok h]
  rfl

/-- One character of a string is read from what is written for it. -/
theorem stringBody_escapedChar (c : Char) {fuel : Nat} {text cs rest : List Char}
    (h : stringBody true fuel text = .ok (cs, rest)) :
    stringBody true (fuel + 1) (escapedChar c ++ text) = .ok (c :: cs, rest) := by
  unfold escapedChar
  split
  case h_8 hquote hslash _ _ _ _ _ =>
    split
    · next hc => exact stringBody_escape (numberedChar_control hc text) h
    · next hc => exact stringBody_plain hquote hslash hc h
  all_goals exact stringBody_escape rfl h

theorem stringBody_reads (cs rest : List Char) {fuel : Nat} (hfuel : cs.length < fuel) :
    stringBody true fuel (cs.flatMap escapedChar ++ '"' :: rest) = .ok (cs, rest) := by
  induction cs generalizing fuel with
  | nil =>
      obtain ⟨fuel, rfl⟩ := Nat.exists_eq_add_one_of_ne_zero (Nat.ne_zero_of_lt hfuel)
      rfl
  | cons c cs ih =>
      obtain ⟨fuel, rfl⟩ := Nat.exists_eq_add_one_of_ne_zero (Nat.ne_zero_of_lt hfuel)
      rw [List.flatMap_cons, List.append_assoc]
      exact stringBody_escapedChar c (ih (Nat.lt_of_succ_lt_succ hfuel))

theorem length_le_escaped (cs : List Char) : cs.length ≤ (cs.flatMap escapedChar).length := by
  induction cs with
  | nil => exact Nat.le_refl 0
  | cons c cs ih =>
      have hc : 0 < (escapedChar c).length := by
        unfold escapedChar
        split
        case h_8 => split <;> exact Nat.succ_pos _
        all_goals exact Nat.succ_pos _
      rw [List.flatMap_cons, List.length_append, List.length_cons]
      omega

theorem string_quoted (s : String) (rest : List Char) :
    string true (quotedString s ++ rest) = .ok (s, rest) := by
  have htext : quotedString s ++ rest = '"' :: (s.toList.flatMap escapedChar ++ '"' :: rest) := by
    rw [quotedString, List.cons_append, List.cons_append, List.append_assoc]
    rfl
  rw [htext, string, bind_of_ok (drop_cons _ _), bind_of_ok (get_run _),
    bind_of_ok (stringBody_reads _ rest ?_)]
  · show Except.ok (_, _) = _
    rw [String.ofList_toList]
  · have hle := length_le_escaped s.toList
    rw [List.length_append]
    omega

/-- A text that does not go on where a number ends. -/
def EndsNumber (rest : List Char) : Prop :=
  ∀ c ∈ rest.head?, c.isDigit = false ∧ c ≠ '.' ∧ c ≠ 'e' ∧ c ≠ 'E'

theorem le_ofDigitChars (digits : List Char) (value : Nat) : value ≤ Nat.ofDigitChars 10 digits value := by
  induction digits generalizing value with
  | nil => exact Nat.le_refl value
  | cons d digits ih =>
      rw [Nat.ofDigitChars_cons]
      have hnext := ih (10 * value + (d.toNat - '0'.toNat))
      omega

/-- Digits are read into a number for as long as it fits, and so to their end if the whole number does. -/
theorem digitsInto_append {digits rest : List Char} (hdigits : ∀ c ∈ digits, c.isDigit = true)
    (hrest : EndsNumber rest) {value : Nat} (h : Nat.ofDigitChars 10 digits value < Nat.pow 2 64)
    (count : Nat) :
    digitsInto value count (digits ++ rest) =
      (Nat.ofDigitChars 10 digits value, count + digits.length, false, rest) := by
  induction digits generalizing value count with
  | nil =>
      cases rest with
      | nil => rfl
      | cons c rest =>
          have hc : c.isDigit = false := (hrest c rfl).1
          rw [List.nil_append, digitsInto, hc, if_neg Bool.false_ne_true]
          rfl
  | cons d digits ih =>
      have hd : d.isDigit = true := hdigits d List.mem_cons_self
      have hnext : value * 10 + (d.toNat - '0'.toNat) = 10 * value + (d.toNat - '0'.toNat) := by
        rw [Nat.mul_comm]
      rw [Nat.ofDigitChars_cons, ← hnext] at h ⊢
      have hfits : value * 10 + (d.toNat - '0'.toNat) < Nat.pow 2 64 :=
        Nat.lt_of_le_of_lt (le_ofDigitChars digits _) h
      rw [List.cons_append, digitsInto, if_pos hd]
      simp only [if_pos hfits]
      rw [ih (fun c hc => hdigits c (List.mem_cons_of_mem d hc)) h, List.length_cons]
      simp only [Nat.add_assoc, Nat.add_comm 1]

/-- A positive number is not written with a zero in front. -/
theorem head?_toDigits_ne_zero {n : Nat} (h : 0 < n) : (Nat.toDigits 10 n).head? ≠ some '0' := by
  induction n using Nat.strongRecOn with
  | ind n ih =>
      rw [Nat.toDigits_eq_if (by decide)]
      split
      · next hlt =>
          have hdigit : ∀ m < 10, 0 < m → m.digitChar ≠ '0' := by decide
          exact fun heq => hdigit n hlt h (Option.some.inj heq)
      · next hge =>
          have hdiv := ih (n / 10) (by omega) (by omega)
          obtain ⟨d, ds, hds⟩ := List.exists_cons_of_ne_nil (Nat.toDigits_ne_nil (n := n / 10) (b := 10))
          rw [hds] at hdiv ⊢
          exact hdiv

theorem finish_natural {n : Nat} {rest : List Char} (hrest : EndsNumber rest) :
    number.finish true n 0 false rest = .ok (.natural n, rest) := by
  rw [number.finish, bind_of_ok (get_run _)]
  split
  · exact absurd rfl (hrest _ rfl).2.1
  · exact absurd rfl (hrest _ rfl).2.2.1
  · exact absurd rfl (hrest _ rfl).2.2.2
  · rfl

theorem finish_negative {n : Nat} {rest : List Char} (hrest : EndsNumber rest) (hpos : 0 < n)
    (h : n ≤ Nat.pow 2 63) : number.finish false n 0 false rest = .ok (.negative n, rest) := by
  have hfits : (decide (n = 0) || decide (Nat.pow 2 63 < n)) = false := by
    rw [decide_eq_false (by omega : ¬n = 0), decide_eq_false (Nat.not_lt.mpr h), Bool.false_or]
  rw [number.finish, bind_of_ok (get_run _)]
  split
  · exact absurd rfl (hrest _ rfl).2.1
  · exact absurd rfl (hrest _ rfl).2.2.1
  · exact absurd rfl (hrest _ rfl).2.2.2
  · simp only [Bool.false_eq_true, if_false, hfits]
    rfl

/-- The digits of a number that fits are read into it, whatever its sign. -/
theorem number_digits (positive : Bool) {n : Nat} (h : n < Nat.pow 2 64) {rest : List Char}
    (hrest : EndsNumber rest) :
    number positive (Nat.toDigits 10 n ++ rest) = number.finish positive n 0 false rest := by
  have hdigits : ∀ c ∈ Nat.toDigits 10 n, c.isDigit = true :=
    fun c => Nat.isDigit_of_mem_toDigits (by decide) (by decide)
  have hvalue : Nat.ofDigitChars 10 (Nat.toDigits 10 n) 0 = n :=
    Nat.ofDigitChars_toDigits (by decide) (by decide)
  have hfits : Nat.ofDigitChars 10 (Nat.toDigits 10 n) 0 < Nat.pow 2 64 := by rwa [hvalue]
  have hread := digitsInto_append hdigits hrest hfits 0
  rw [hvalue] at hread
  rw [number, bind_of_ok (get_run _)]
  obtain ⟨d, ds, hds⟩ := List.exists_cons_of_ne_nil (Nat.toDigits_ne_nil (n := n) (b := 10))
  rw [hds] at hread hdigits ⊢
  simp only [List.cons_append]
  rw [bind_of_ok (set_run _ _)]
  by_cases hn : n = 0
  · subst hn
    cases hds.symm.trans (Nat.toDigits_zero 10)
    rw [if_pos rfl]
    cases rest with
    | nil => rfl
    | cons c rest => simp only [List.nil_append, (hrest c rfl).1, Bool.false_eq_true, if_false]
  · have hne : d ≠ '0' := by
      have hhead := head?_toDigits_ne_zero (Nat.pos_of_ne_zero hn)
      rw [hds] at hhead
      exact fun heq => hhead (congrArg some heq)
    rw [if_neg hne, if_pos (hdigits d List.mem_cons_self)]
    rw [List.cons_append] at hread
    simp only [hread]
    rw [bind_of_ok (set_run _ _)]
    simp only [Bool.false_eq_true, if_false]

theorem number_natural {n : Nat} (h : n < Nat.pow 2 64) {rest : List Char} (hrest : EndsNumber rest) :
    number true (Nat.toDigits 10 n ++ rest) = .ok (.natural n, rest) := by
  rw [number_digits true h hrest, finish_natural hrest]

theorem number_negative {n : Nat} (hpos : 0 < n) (h : n ≤ Nat.pow 2 63) {rest : List Char}
    (hrest : EndsNumber rest) : number false (Nat.toDigits 10 n ++ rest) = .ok (.negative n, rest) := by
  rw [number_digits false (Nat.lt_of_le_of_lt h (by decide)) hrest, finish_negative hrest hpos h]

end Nullability.Json.Reader
