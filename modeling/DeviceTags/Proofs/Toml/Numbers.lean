import DeviceTags.Proofs.Toml.Tokens

/-!
# Whole numbers that were written

The decimal text of a whole number is read back as the number. Dates, times and numbers in other
bases are tried first, but none of them looks like a run of digits with a blank, a comma or a line
break after it.
-/

namespace DeviceTags.Toml

open Text

/-! ## Runs of digits -/

theorem isDigit_of_mem_decimal {n : Nat} {d : Char} (hd : d ∈ decimal n) : d.isDigit :=
  Nat.isDigit_of_mem_toDigits (b := 10) (by decide) (by decide) hd

theorem decimal_ne_nil (n : Nat) : decimal n ≠ [] := by
  by_cases hn : n < 10
  · rw [decimal_of_lt hn]
    simp
  · rw [decimal_of_ten_le (by omega)]
    simp

/-- Only zero starts with a zero. -/
theorem exists_decimal {n : Nat} (hn : 0 < n) : ∃ d more, decimal n = d :: more ∧ d ≠ '0' := by
  induction n using Nat.strongRecOn with
  | ind n ih =>
    by_cases hlt : n < 10
    · have hdigit : ∀ d, d < 10 → 0 < d → Nat.digitChar d ≠ '0' := by decide
      exact ⟨_, _, decimal_of_lt hlt, hdigit n hlt hn⟩
    · obtain ⟨d, more, hdigits, hd⟩ := ih (n / 10) (by omega) (by omega)
      exact ⟨d, _, by rw [decimal_of_ten_le (by omega), hdigits]; rfl, hd⟩

/-- A character that is a digit is one of base ten. -/
theorem isDigitOf_of_isDigit {d : Char} (hd : d.isDigit) : isDigitOf 10 d := by
  have hcodes : ∀ n, 48 ≤ n → n ≤ 57 → isDigitOf 10 (Char.ofNat n) := by
    intro n hlow hhigh
    interval_cases n <;> rfl
  obtain ⟨hlow, hhigh⟩ : 48 ≤ d.toNat ∧ d.toNat ≤ 57 := by
    simpa [Char.isDigit, Char.le_def, UInt32.le_iff_toNat_le] using hd
  rw [← Char.ofNat_toNat d]
  exact hcodes _ hlow hhigh

theorem isDigitOf_delimiter {c : Char} (hc : Delimits c) : isDigitOf 10 c = false := by
  rcases hc with rfl | rfl | rfl <;> rfl

theorem Delimits.not_isDigit {c : Char} (hc : Delimits c) : c.isDigit = false := by
  rcases hc with rfl | rfl | rfl <;> rfl

section Runs

variable {digits : List Char} (hdigits : ∀ d ∈ digits, d.isDigit) {c : Char} (hc : Delimits c)
  (rest : List Char)

include hdigits

/-- What follows digits is a digit or the end of the token. -/
theorem after?_run {mark : Char} (hmark : mark.isDigit = false) (hne : mark ≠ c) (count : Nat) :
    after? mark (digits.drop count ++ c :: rest) = none := by
  cases hdrop : digits.drop count with
  | nil => simp [after?, hne.symm]
  | cons d more =>
    have hd : d.isDigit := hdigits d (List.mem_of_mem_drop (by rw [hdrop]; exact List.mem_cons_self))
    have hne : d ≠ mark := by
      rintro rfl
      rw [hmark] at hd
      cases hd
    simp [after?, hne]

include hc

/-- So many digits can be cut off if there are so many. -/
theorem digits?_run (count : Nat) :
    digits? count (digits ++ c :: rest) =
      if count ≤ digits.length then
        some (ofDigits 10 (digits.take count), digits.drop count ++ c :: rest)
      else none := by
  unfold digits?
  by_cases hcount : count ≤ digits.length
  · have htake : (digits ++ c :: rest).take count = digits.take count :=
      List.take_append_of_le_length hcount
    have hall : (digits.take count).all Char.isDigit := by
      rw [List.all_eq_true]
      exact fun d hd => hdigits d (List.mem_of_mem_take hd)
    rw [if_pos hcount, htake, List.drop_append_of_le_length hcount]
    simp [hall, hcount]
  · have hmem : c ∈ (digits ++ c :: rest).take count := by
      rw [List.take_append, List.mem_append]
      right
      obtain ⟨more, hmore⟩ : ∃ more, count - digits.length = more + 1 :=
        ⟨count - digits.length - 1, by omega⟩
      rw [hmore]
      simp
    have hstop : ((digits ++ c :: rest).take count).all Char.isDigit = false := by
      rw [List.all_eq_false]
      exact ⟨c, hmem, by simp [hc.not_isDigit]⟩
    simp [hcount, hstop]

theorem date?_run : date? (digits ++ c :: rest) = none := by
  have hmark : '-' ≠ c := by
    rcases hc with rfl | rfl | rfl <;> decide
  unfold date?
  rw [digits?_run hdigits hc]
  split
  · change (after? '-' (digits.drop 4 ++ c :: rest) >>= _) = none
    rw [after?_run hdigits rest (by decide) hmark]
    rfl
  · rfl

theorem time?_run : time? (digits ++ c :: rest) = none := by
  have hmark : ':' ≠ c := by
    rcases hc with rfl | rfl | rfl <;> decide
  unfold time? pair?
  rw [digits?_run hdigits hc]
  split
  · change ((if _ then some (_, digits.drop 2 ++ c :: rest) else none) >>= _) = none
    split
    · change (after? ':' (digits.drop 2 ++ c :: rest) >>= _) = none
      rw [after?_run hdigits rest (by decide) hmark]
      rfl
    · rfl
  · rfl

/-- All the digits are read. -/
theorem moreDigits_run : moreDigits 10 (digits ++ c :: rest) = (digits, c :: rest) := by
  induction digits with
  | nil =>
    have hplain : c ≠ '_' := by
      rcases hc with rfl | rfl | rfl <;> decide
    have hstop := isDigitOf_delimiter hc
    rw [List.nil_append]
    unfold moreDigits
    split
    · next heq => exact absurd (List.cons.inj heq).1 hplain
    · next heq =>
      cases heq
      rw [hstop]
      rfl
    · next heq => cases heq
  | cons d digits ih =>
    have hd := hdigits d List.mem_cons_self
    have hplain : d ≠ '_' := by
      rintro rfl
      cases hd
    have hrest := ih fun e he => hdigits e (List.mem_cons_of_mem d he)
    rw [List.cons_append]
    unfold moreDigits
    split
    · next heq => exact absurd (List.cons.inj heq).1 hplain
    · next heq =>
      cases heq
      rw [if_pos (isDigitOf_of_isDigit hd), hrest]
    · next heq => cases heq

theorem run?_run (hsome : digits ≠ []) :
    run? 10 (digits ++ c :: rest) = some (digits, c :: rest) := by
  cases digits with
  | nil => exact absurd rfl hsome
  | cons d digits =>
    have hd := hdigits d List.mem_cons_self
    rw [List.cons_append, run?, if_pos (isDigitOf_of_isDigit hd),
      moreDigits_run (fun e he => hdigits e (List.mem_cons_of_mem d he)) hc]

end Runs

/-! ## Whole numbers -/

section Numbers

variable {c : Char} (hc : Delimits c) (rest : List Char) (n : Nat)

theorem sign_decimal : sign (decimal n ++ c :: rest) = (false, decimal n ++ c :: rest) := by
  obtain ⟨d, more, hdigits⟩ := List.exists_cons_of_ne_nil (decimal_ne_nil n)
  have hd : d.isDigit := isDigit_of_mem_decimal (n := n) (by simp [hdigits])
  rw [hdigits, List.cons_append]
  unfold sign
  split
  · next heq =>
    rw [(List.cons.inj heq).1] at hd
    cases hd
  · next heq =>
    rw [(List.cons.inj heq).1] at hd
    cases hd
  · rfl

include hc

/-- A written number is all whole part. -/
theorem wholePart?_decimal : wholePart? (decimal n ++ c :: rest) = some (decimal n, c :: rest) := by
  have hrun := run?_run (fun d hd => isDigit_of_mem_decimal hd) hc rest (decimal_ne_nil n)
  by_cases hn : n = 0
  · subst hn
    rfl
  · obtain ⟨d, more, hdigits, hd⟩ := exists_decimal (Nat.pos_of_ne_zero hn)
    rw [hdigits] at hrun ⊢
    rw [List.cons_append] at hrun ⊢
    unfold wholePart?
    split
    · next heq => exact absurd (List.cons.inj heq).1 hd
    · exact hrun

theorem based?_decimal : based? (decimal n ++ c :: rest) = none := by
  by_cases hn : n = 0
  · subst hn
    rcases hc with rfl | rfl | rfl <;> rfl
  · obtain ⟨d, more, hdigits, hd⟩ := exists_decimal (Nat.pos_of_ne_zero hn)
    rw [hdigits, List.cons_append]
    unfold based?
    split
    · next heq => exact absurd (List.cons.inj heq).1 hd
    · rfl

theorem fractionDigits?_none : fractionDigits? (c :: rest) = none := by
  rcases hc with rfl | rfl | rfl <;> rfl

theorem exponent?_none : exponent? (c :: rest) = none := by
  rcases hc with rfl | rfl | rfl <;> rfl

/-- With or without a sign, the digits give the number. -/
theorem decimal?_of_sign {text : List Char} {negative : Bool}
    (hsign : sign text = (negative, decimal n ++ c :: rest))
    (hfits : (decimal n).length ≤ longestNumeral) :
    decimal? text = some (.ok (.integer (if negative then -n else n), c :: rest)) := by
  unfold decimal?
  rw [hsign]
  change (wholePart? (decimal n ++ c :: rest) >>= _) = _
  rw [wholePart?_decimal hc]
  have hshort : ¬ (decimal n).length > longestNumeral := by omega
  simp [fractionDigits?_none hc, exponent?_none hc, hshort, ofDigits_decimal]

theorem scalar_decimal (hfits : (decimal n).length ≤ longestNumeral) :
    scalar (decimal n ++ c :: rest) = .ok (.integer n, c :: rest) := by
  have hdigits : ∀ d ∈ decimal n, d.isDigit := fun d hd => isDigit_of_mem_decimal hd
  have hmoment : moment? (decimal n ++ c :: rest) = none := by
    rw [moment?, date?_run hdigits hc]
    rfl
  unfold scalar
  rw [hmoment, time?_run hdigits hc, based?_decimal hc,
    decimal?_of_sign hc rest n (sign_decimal rest n) hfits]
  rfl

theorem scalar_minus (hfits : (decimal n).length ≤ longestNumeral) :
    scalar ('-' :: (decimal n ++ c :: rest)) = .ok (.integer (-n), c :: rest) := by
  have hdate : date? ('-' :: (decimal n ++ c :: rest)) = none := by
    simp [date?, digits?]
  have htime : time? ('-' :: (decimal n ++ c :: rest)) = none := by
    simp [time?, pair?, digits?]
  have hmoment : moment? ('-' :: (decimal n ++ c :: rest)) = none := by
    rw [moment?, hdate]
    rfl
  have hbased : based? ('-' :: (decimal n ++ c :: rest)) = none := rfl
  unfold scalar
  rw [hmoment, htime, hbased, decimal?_of_sign hc rest n rfl hfits]
  rfl

end Numbers

/-- The text of a number starts with a digit or a minus sign. -/
theorem exists_decimalInt (n : Int) :
    ∃ first more, (decimalInt n).toList = first :: more ∧ (first = '-' ∨ first.isDigit) := by
  cases n with
  | ofNat n =>
    obtain ⟨d, more, hdigits⟩ := List.exists_cons_of_ne_nil (decimal_ne_nil n)
    refine ⟨d, more, ?_, .inr (isDigit_of_mem_decimal (n := n) (by simp [hdigits]))⟩
    rw [decimalInt, String.toList_ofList, hdigits]
  | negSucc n => exact ⟨'-', decimal (n + 1), String.toList_ofList, .inl rfl⟩

theorem return_not_mem_decimalInt (n : Int) : '\r' ∉ (decimalInt n).toList := by
  have hdigits : ∀ n, '\r' ∉ decimal n := fun n hreturn =>
    absurd (isDigit_of_mem_decimal hreturn) (by decide)
  cases n with
  | ofNat n => simp [decimalInt, hdigits]
  | negSucc n => simp [decimalInt, hdigits]

/-- A whole number that has a text is read back from it. -/
theorem scalar_integer {n : Int} (hfits : isWritable n) {c : Char} (hc : Delimits c)
    (rest : List Char) :
    scalar ((decimalInt n).toList ++ c :: rest) = .ok (.integer n, c :: rest) := by
  have hshort : (decimal n.natAbs).length ≤ longestNumeral := by simpa [isWritable] using hfits
  cases n with
  | ofNat n =>
    rw [decimalInt, String.toList_ofList]
    exact scalar_decimal hc rest n hshort
  | negSucc n =>
    rw [decimalInt, String.toList_ofList]
    exact scalar_minus hc rest (n + 1) hshort

theorem scalar_boolean (b : Bool) {c : Char} (rest : List Char) :
    scalar ((if b then "true" else "false").toList ++ c :: rest) = .ok (.boolean b, c :: rest) := by
  cases b <;> rfl

end DeviceTags.Toml
