import Nullability.Source.Nesting

/-!
Where lexemes stand. Every scanner leaves a text that is shorter than the one it was given, so the scan of a
text comes to its end, the marks of its lexemes fall from one lexeme to the next, and none of them is larger
than the text is long. Since a mark counts the characters behind it, line breaks in front of a text change no
lexeme and no mark.
-/

namespace Nullability

open Text

namespace Mark

/-- Line breaks put in front of a text move no column. -/
theorem column_append_newlines {text : List Char} {m : Mark} (k : Nat) (h : m ≤ text.length) :
    column (List.replicate k '\n' ++ text) m = column text m := by
  rw [column, column, textBefore_append _ h, List.reverse_append, List.reverse_replicate]
  congr 2
  induction (textBefore text m).reverse with
  | nil => cases k <;> rfl
  | cons c cs ih => rw [List.cons_append, List.takeWhile_cons, List.takeWhile_cons, ih]

end Mark

namespace Literal

variable {cs rest : List Char}

/-! ### Literals -/

/-- What a scanner leaves is shorter than what it was given. -/
def Shortens (scan : List Char → Scan) : Prop :=
  ∀ ⦃cs rest⦄, scan cs = some rest → rest.length < cs.length

theorem after_eq {ps : List Char} (h : after ps cs = some rest) : cs = ps ++ rest := by
  fun_induction after ps cs <;> simp_all

theorem after_length {ps : List Char} (h : after ps cs = some rest) :
    cs.length = ps.length + rest.length := by
  rw [after_eq h, List.length_append]

namespace Shortens

variable {p q : List Char → Scan}

theorem orElse (hp : Shortens p) (hq : Shortens q) : Shortens fun cs => p cs <|> q cs := by
  intro cs rest (h : (p cs <|> q cs) = some rest)
  cases hcs : p cs with
  | some left =>
      rw [hcs] at h
      cases h
      exact hp hcs
  | none =>
      rw [hcs] at h
      exact hq h

theorem after_bind (ps : List Char) (hq : Shortens q) : Shortens fun cs => (after ps cs).bind q := by
  intro cs rest h
  obtain ⟨left, hleft, hrest⟩ := Option.bind_eq_some_iff.mp h
  have := after_length hleft
  have := hq hrest
  omega

end Shortens

theorem identifier_length {name : List Char} (h : identifier cs = some (name, rest)) :
    rest.length < cs.length := by
  fun_cases identifier cs <;> simp only [identifier, *, if_true, if_false, reduceCtorEq] at h
  next c cs _ =>
    cases h
    exact Nat.lt_succ_of_le (List.dropWhile_suffix isIdentifierPart).length_le

theorem suffix_length (cs : List Char) : (suffix cs).length ≤ cs.length := by
  fun_cases suffix cs with
  | case1 _ _ h => exact Nat.le_of_lt (identifier_length h)
  | case2 => exact Nat.le_refl _

theorem unicodeDigits_length {count value n : Nat} (h : unicodeDigits count value cs = some (n, rest)) :
    rest.length < cs.length := by
  fun_induction unicodeDigits count value cs <;> grind

theorem escape_length (rules : QuoteRules) : Shortens (escape rules) := by
  intro cs rest h
  rw [escape.eq_def] at h
  split at h
  · grind
  · split at h
    · next hdigits =>
      have := unicodeDigits_length hdigits
      grind
    · cases h
  · grind
  · cases h

theorem continuation_length (h : continuation cs = some rest) : rest.length ≤ cs.length := by
  fun_induction continuation cs <;> grind

theorem quotedBody_length (rules : QuoteRules) (fuel : Nat) : Shortens (quotedBody rules fuel) := by
  induction fuel with
  | zero => intro cs rest h; cases h
  | succ fuel ih =>
    intro cs rest h
    unfold quotedBody at h
    split at h
    · cases h
    · next left =>
      cases h
      exact Nat.lt_succ_of_le (suffix_length left)
    · next left =>
      have := ih h
      simp only [List.length_cons]; omega
    · cases h
    · next left =>
      obtain ⟨mid, hmid, hrest⟩ := Option.bind_eq_some_iff.mp h
      have := continuation_length hmid
      have := ih hrest
      simp only [List.length_cons] at *; omega
    · next left =>
      obtain ⟨mid, hmid, hrest⟩ := Option.bind_eq_some_iff.mp h
      have := continuation_length hmid
      have := ih hrest
      simp only [List.length_cons] at *; omega
    · next left _ _ =>
      obtain ⟨mid, hmid, hrest⟩ := Option.bind_eq_some_iff.mp h
      have := escape_length rules hmid
      have := ih hrest
      simp only [List.length_cons] at *; omega
    · split at h
      · have := ih h
        simp only [List.length_cons]; omega
      · cases h

theorem quoted_length (rules : QuoteRules) : Shortens (quoted rules) :=
  .after_bind _ fun _ _ h => quotedBody_length rules _ h

theorem rawBody_length (admits : Char → Bool) (hashes : List Char) : Shortens (rawBody admits hashes) := by
  intro cs rest h
  fun_induction rawBody admits hashes cs with
  | case2 left ih =>
    have := ih h
    simp only [List.length_cons]; omega
  | case4 c left _ _ mid hmid =>
    cases h
    split at hmid
    · have := after_length hmid
      have := suffix_length mid
      simp only [List.length_cons]; omega
    · cases hmid
  | case5 c left _ _ _ _ ih =>
    have := ih h
    simp only [List.length_cons]; omega
  | _ => cases h

theorem raw_length (admits : Char → Bool) : Shortens (raw admits) := by
  intro cs rest h
  rw [raw] at h
  split at h
  · cases h
  · exact (Shortens.after_bind _ (rawBody_length admits _)) h

theorem singleQuoted_length (rules : QuoteRules) : Shortens (singleQuoted rules) := by
  intro cs rest h
  obtain ⟨left, hleft, rfl⟩ := Option.map_eq_some_iff.mp h
  obtain ⟨body, hbody, hclose⟩ := Option.bind_eq_some_iff.mp hleft
  obtain ⟨inner, hopen, hinner⟩ := Option.bind_eq_some_iff.mp hbody
  have := after_length hopen
  have := after_length hclose
  have := suffix_length left
  have : body.length ≤ inner.length := by
    split at hinner
    · next mid =>
      have := escape_length rules hinner
      simp only [List.length_cons]; omega
    · split at hinner
      · cases hinner
        simp
      · cases hinner
    · cases hinner
  simp only [List.length_cons] at *; omega

theorem floatDigits_length : Shortens floatDigits := by
  intro cs rest h
  rw [floatDigits.eq_def] at h
  split at h
  · cases h
  next first tail =>
    split at h
    · cases h
    dsimp only at h
    have hdrop (p : Char → Bool) (cs : List Char) : (cs.dropWhile p).length ≤ cs.length :=
      (List.dropWhile_suffix p).length_le
    split at h
    next => cases h
    next point mantissa hpoint =>
      have hmantissa : mantissa.length ≤ tail.length := by
        grind
      split at h
      next e exponent =>
        split at h
        next =>
          grind
        next => grind
      next => grind

theorem wholeDigits_go_length {base : Nat} {blank : Bool} (h : wholeDigits.go base blank cs = some rest) :
    rest.length ≤ cs.length ∧ (blank = true → rest.length < cs.length) := by
  fun_induction wholeDigits.go base blank cs <;> grind

theorem wholeDigits_length : Shortens wholeDigits := by
  intro cs rest h
  have := (wholeDigits_go_length h).2 rfl
  grind

theorem number_length {digits : List Char → Scan} (hdigits : Shortens digits) :
    Shortens (number digits) := by
  intro cs rest h
  obtain ⟨left, hleft, hrest⟩ := Option.bind_eq_some_iff.mp h
  have := hdigits hleft
  have := suffix_length left
  grind

theorem scan_length : Shortens scan :=
  (quoted_length _).orElse <| (Shortens.after_bind _ (raw_length _)).orElse <|
    (Shortens.after_bind _ (quoted_length _)).orElse <| (Shortens.after_bind _ (raw_length _)).orElse <|
    (Shortens.after_bind _ (quoted_length _)).orElse <| (Shortens.after_bind _ (raw_length _)).orElse <|
    (Shortens.after_bind _ (singleQuoted_length _)).orElse <| (singleQuoted_length _).orElse <|
    (number_length floatDigits_length).orElse (number_length wholeDigits_length)

end Literal

namespace Lexeme

open Literal

variable {cs rest : List Char}

/-! ### Comments and words -/

theorem blockComment_length {depth : Nat} {found : List Char × List Char}
    (h : blockComment depth cs = some found) : found.2.length < cs.length := by
  fun_induction blockComment depth cs generalizing found with
  | case1 depth cs ih | case3 depth cs _ ih | case4 depth c cs _ _ ih =>
      obtain ⟨found, hfound, rfl⟩ := Option.map_eq_some_iff.mp h
      have := ih hfound
      simp only [List.length_cons]; omega
  | case2 depth cs _ =>
      cases h
      simp only [List.length_cons]; omega
  | case5 => cases h

theorem lineEnd_length (cs : List Char) : (lineEnd cs).2.length ≤ cs.length := by
  fun_induction lineEnd cs <;> grind

theorem plainComment_length : Shortens plainComment := by
  intro cs rest h
  unfold plainComment at h
  split at h
  · next cs =>
    have := lineEnd_length cs
    grind
  · next cs =>
    have hplain : ∀ left, (blockComment 1 cs).map Prod.snd = some left → left.length < cs.length := by
      intro left hleft
      obtain ⟨found, hfound, rfl⟩ := Option.map_eq_some_iff.mp hleft
      exact blockComment_length hfound
    grind
  · cases h

theorem docComment_length {found : Bool × List Char × List Char} (h : docComment cs = some found) :
    found.2.2.length < cs.length := by
  obtain ⟨hfound, -⟩ := Option.filter_eq_some_iff.mp h
  split at hfound
  · next tail =>
      cases hfound
      have := lineEnd_length tail
      simp only [List.length_cons]; omega
  · obtain ⟨block, hblock, rfl⟩ := Option.map_eq_some_iff.mp hfound
    have := blockComment_length hblock
    simp only [List.length_cons] at *; omega
  · cases hfound
  · next tail _ =>
      cases hfound
      have := lineEnd_length tail
      simp only [List.length_cons]; omega
  · cases hfound
  · obtain ⟨block, hblock, rfl⟩ := Option.map_eq_some_iff.mp hfound
    have := blockComment_length hblock
    simp only [List.length_cons] at *; omega
  · cases hfound

theorem punctuation_length {found : Char × List Char} (h : punctuation cs = some found) :
    found.2.length < cs.length := by
  fun_cases punctuation cs with
  | case3 c tail _ _ hmem =>
      rw [punctuation, if_pos hmem] at h
      · cases h
        exact Nat.lt_succ_self _
      · assumption
      · assumption
  | case4 c tail _ _ hmem =>
      rw [punctuation, if_neg hmem] at h
      · cases h
      · assumption
      · assumption
  | _ => cases h

theorem word_length {name : List Char} (h : word cs = some (name, rest)) : rest.length < cs.length := by
  have := @identifier_length
  unfold word rawOrPlain at h
  grind

theorem next?_length {lexeme : Lexeme} (h : next? cs = some (lexeme, rest)) : rest.length < cs.length := by
  unfold next? at h
  split at h
  · next hdoc =>
      cases h
      exact docComment_length hdoc
  split at h
  · next hafter =>
      cases h
      have := after_length hafter
      have : 0 < erroneous.length := by decide
      omega
  split at h
  · cases h
  split at h
  · cases h
    simp
  · cases h
    simp
  split at h
  · next hliteral =>
      cases h
      exact scan_length hliteral
  split at h
  · next hpunct =>
      split at h
      · cases h
        exact punctuation_length hpunct
      · cases h
  · next hpunct =>
      cases h
      exact punctuation_length hpunct
  · obtain ⟨found, hword, heq⟩ := Option.map_eq_some_iff.mp h
    cases heq
    exact word_length hword

/-! ### The scan of a text -/

theorem skipBlank_length (fuel : Nat) (cs : List Char) : (skipBlank fuel cs).length ≤ cs.length := by
  fun_induction skipBlank fuel cs with
  | case2 fuel cs rest hcomment ih =>
      have := plainComment_length hcomment
      omega
  | case3 fuel c rest _ _ ih =>
      rw [List.length_cons]
      omega
  | _ => exact Nat.le_refl _

theorem skipBlank_newline (cs : List Char) :
    skipBlank ('\n' :: cs).length ('\n' :: cs) = skipBlank cs.length cs :=
  rfl

/-- More steps than characters are enough to read all lexemes. -/
theorem scan_congr {m n : Nat} (hm : cs.length < m) (hn : cs.length < n) : scan m cs = scan n cs := by
  induction m generalizing n cs with
  | zero => omega
  | succ m ih =>
      obtain ⟨n, rfl⟩ := Nat.exists_eq_succ_of_ne_zero (Nat.ne_zero_of_lt hn)
      rw [scan, scan]
      have := skipBlank_length cs.length cs
      dsimp only
      split
      · rfl
      · split
        · rfl
        · next hnext =>
          have := next?_length hnext
          rw [ih (n := n) (by omega) (by omega)]

theorem ofText_newline (cs : List Char) : ofText ('\n' :: cs) = ofText cs := by
  have hhere := skipBlank_length cs.length cs
  rw [ofText, ofText, scan, scan, skipBlank_newline]
  dsimp only
  split
  · rfl
  · split
    · rfl
    · next hnext =>
      have := next?_length hnext
      rw [List.length_cons, scan_congr (m := cs.length + 1) (n := cs.length) (by omega) (by omega)]

/-- Line breaks in front of a text change no lexeme and no mark. -/
theorem ofText_newlines (k : Nat) (cs : List Char) : ofText (List.replicate k '\n' ++ cs) = ofText cs := by
  induction k with
  | zero => rfl
  | succ k ih => rw [List.replicate_succ, List.cons_append, ofText_newline, ih]

/-- What a scan answers stands in a text of the given length: its lexemes from the front of the text to the
back, and the place at which it stopped. -/
structure Placed (length : Nat) (found : List (Lexeme × Mark) × Option Mark) : Prop where
  marks_le : ∀ m ∈ found.1.map Prod.snd, m ≤ length
  sorted : (found.1.map Prod.snd).Pairwise (· ≥ ·)
  bad_le : ∀ m, found.2 = some m → m ≤ length

theorem scan_placed (fuel : Nat) (cs : List Char) : Placed cs.length (scan fuel cs) := by
  induction fuel generalizing cs with
  | zero => exact ⟨by simp [scan], by simp [scan], by simp [scan]⟩
  | succ fuel ih =>
      rw [scan]
      have hhere := skipBlank_length cs.length cs
      dsimp only
      split
      · exact ⟨by simp, by simp, by simp⟩
      · split
        · exact ⟨by simp, by simp, by simpa⟩
        · next lexeme rest hnext =>
          have hrest := Nat.le_of_lt (next?_length hnext)
          obtain ⟨hle, hsorted, hbad⟩ := ih rest
          refine ⟨?_, ?_, ?_⟩
          · intro m hm
            rcases List.mem_cons.mp hm with rfl | hm
            · exact hhere
            · exact Nat.le_trans (hle m hm) (Nat.le_trans hrest hhere)
          · exact List.pairwise_cons.mpr ⟨fun m hm => Nat.le_trans (hle m hm) hrest, hsorted⟩
          · exact fun m hm => Nat.le_trans (hbad m hm) (Nat.le_trans hrest hhere)

theorem ofText_placed (cs : List Char) : Placed cs.length (ofText cs) := scan_placed _ cs

end Lexeme

end Nullability
