import DeviceTags.Toml.Reader
import DeviceTags.Toml.Writer
import Mathlib.Tactic.IntervalCases
import Mathlib.Tactic.SplitIfs

/-!
# Tokens that were written

A string, a key, a whole number and a truth value are read back from the text that is written for
them, up to the character after it. In a written document that is a blank, a comma or a line break,
none of which continues a token.
-/

namespace DeviceTags.Toml

/-! ## Strings -/

theorem basicBody_control {n : Nat} (hn : n < 32 ∨ n = 127) (rest : List Char) :
    basicBody false .outside ('\\' :: 'u' :: Text.hex 4 n ++ rest) =
      prepend (Char.ofNat n) (basicBody false .outside rest) := by
  rcases hn with hn | rfl
  · interval_cases n <;> rfl
  · rfl

/-- Every character is read back from what is written for it. -/
theorem basicBody_writtenChar (c : Char) (rest : List Char) :
    basicBody false .outside (writtenChar c ++ rest) =
      prepend c (basicBody false .outside rest) := by
  unfold writtenChar
  split_ifs with hescaped hbackspace hbreak hfeed hreturn hcontrol
  · rcases hescaped with rfl | rfl <;> rfl
  · subst hbackspace
    rfl
  · subst hbreak
    rfl
  · subst hfeed
    rfl
  · subst hreturn
    rfl
  · have hcode : c.toNat < 32 ∨ c.toNat = 127 := hcontrol.imp_left And.left
    rw [basicBody_control hcode, Char.ofNat_toNat]
  · have hallowed : isForbidden c = false := by
      simp_all [isForbidden]
    rw [List.singleton_append, basicBody.eq_def]
    simp_all

theorem basicBody_written (text rest : List Char) :
    basicBody false .outside (text.flatMap writtenChar ++ '"' :: rest) = .ok (text, rest) := by
  induction text with
  | nil =>
    rw [List.flatMap_nil, List.nil_append, basicBody.eq_def]
    rfl
  | cons c text ih =>
    rw [List.flatMap_cons, List.append_assoc, basicBody_writtenChar, ih]
    rfl

/-- What is written for a character does not start with a quote. -/
theorem exists_writtenChar (c : Char) : ∃ first more, writtenChar c = first :: more ∧ first ≠ '"' := by
  unfold writtenChar
  split_ifs with hescaped
  · exact ⟨_, _, rfl, by decide⟩
  · exact ⟨_, _, rfl, by decide⟩
  · exact ⟨_, _, rfl, by decide⟩
  · exact ⟨_, _, rfl, by decide⟩
  · exact ⟨_, _, rfl, by decide⟩
  · exact ⟨_, _, rfl, by decide⟩
  · exact ⟨_, _, rfl, fun hquote => hescaped (.inl hquote)⟩

/-- A carriage return is escaped. -/
theorem return_not_mem_writtenChar (c : Char) : '\r' ∉ writtenChar c := by
  unfold writtenChar
  split_ifs with hescaped _ _ _ hreturn hcontrol
  · rcases hescaped with rfl | rfl <;> decide
  · decide
  · decide
  · decide
  · decide
  · have hcode : c.toNat < 32 ∨ c.toNat = 127 := hcontrol.imp_left And.left
    have hdigits : ∀ n, n < 32 ∨ n = 127 → '\r' ∉ '\\' :: 'u' :: Text.hex 4 n := by
      rintro n (hn | rfl)
      · interval_cases n <;> decide
      · decide
    exact hdigits _ hcode
  · simpa using Ne.symm hreturn

theorem return_not_mem_writtenString (text : String) : '\r' ∉ (writtenString text).toList := by
  have hbody : '\r' ∉ text.toList.flatMap writtenChar := by
    rw [List.mem_flatMap]
    rintro ⟨c, -, hc⟩
    exact return_not_mem_writtenChar c hc
  simp [writtenString, hbody]

/-- The character after a token in a written document. -/
def Delimits (c : Char) : Prop := c = ' ' ∨ c = ',' ∨ c = '\n'

variable {c : Char} (hc : Delimits c) (rest : List Char)

include hc in
theorem string?_written (text : String) :
    string? ((writtenString text).toList ++ c :: rest) = some (.ok (text, c :: rest)) := by
  have htext : (writtenString text).toList ++ c :: rest =
      '"' :: (text.toList.flatMap writtenChar ++ '"' :: c :: rest) := by
    simp [writtenString]
  have hsingle : ∀ after, text.toList.flatMap writtenChar ++ '"' :: c :: rest ≠ '"' :: '"' :: after := by
    intro after
    cases text.toList with
    | nil =>
      have hquote : c ≠ '"' := by
        rcases hc with rfl | rfl | rfl <;> decide
      simp [hquote]
    | cons d more =>
      obtain ⟨first, others, hwritten, hfirst⟩ := exists_writtenChar d
      simp [hwritten, hfirst]
  rw [htext]
  unfold string?
  split
  · next after heq => exact absurd (List.cons.inj heq).2 (hsingle after)
  · next after _ heq =>
    rw [← (List.cons.inj heq).2, basicBody_written]
    simp [Except.map]
  · next heq => cases heq
  · next heq => cases heq
  · next _ hother _ _ => exact absurd rfl (hother _)

/-! ## Keys -/

theorem takeWhile_append_of_stop {p : Char → Bool} {text : List Char} (htext : ∀ d ∈ text, p d = true)
    {stop : Char} (hstop : p stop = false) (more : List Char) :
    (text ++ stop :: more).takeWhile p = text := by
  induction text with
  | nil => simp [hstop]
  | cons d text ih =>
    have hd := htext d List.mem_cons_self
    simp only [List.cons_append, List.takeWhile_cons, hd, ite_true]
    rw [ih fun e he => htext e (List.mem_cons_of_mem d he)]

/-- A bare part of a key ends where its characters do. -/
theorem keyPart_bare {name : String} (hname : name ≠ "") (hbare : ∀ d ∈ name.toList, isBareKeyChar d)
    {stop : Char} (hstop : isBareKeyChar stop = false) :
    keyPart (name.toList ++ stop :: rest) = .ok (name, stop :: rest) := by
  have hchars : name.toList ≠ [] := by simpa using hname
  obtain ⟨d, more, hd⟩ := List.exists_cons_of_ne_nil hchars
  have hfirst : isBareKeyChar d := hbare d (by simp [hd])
  have htake := takeWhile_append_of_stop hbare hstop rest
  have hkey : keyPart (name.toList ++ stop :: rest) =
      if (name.toList ++ stop :: rest).takeWhile isBareKeyChar = [] then .error .malformed
      else .ok (String.ofList ((name.toList ++ stop :: rest).takeWhile isBareKeyChar),
        (name.toList ++ stop :: rest).drop
          ((name.toList ++ stop :: rest).takeWhile isBareKeyChar).length) := by
    rw [hd]
    unfold keyPart
    split
    · next heq =>
      rw [(List.cons.inj heq).1] at hfirst
      exact absurd hfirst (by decide)
    · next heq =>
      rw [(List.cons.inj heq).1] at hfirst
      exact absurd hfirst (by decide)
    · simp
  rw [hkey, htake, if_neg hchars, String.ofList_toList, List.drop_left]

/-- Every key is read back from what is written for it. -/
theorem keyPart_written (key : String) {stop : Char} (hstop : isBareKeyChar stop = false) :
    keyPart ((writtenKey key).toList ++ stop :: rest) = .ok (key, stop :: rest) := by
  unfold writtenKey
  split
  · next hbare =>
    simp only [Bool.and_eq_true, Bool.not_eq_true', List.all_eq_true] at hbare
    refine keyPart_bare rest ?_ ?_ hstop
    · simpa using hbare.1
    · simpa [isBareKeyChar] using hbare.2
  · have htext : (writtenString key).toList ++ stop :: rest =
        '"' :: (key.toList.flatMap writtenChar ++ '"' :: stop :: rest) := by
      simp [writtenString]
    rw [htext, keyPart, basicBody_written]
    simp [Except.map]

/-- A key starts with a bare character or a quote. -/
def StartsKey (first : Char) : Prop := isBareKeyChar first ∨ first = '"'

theorem StartsKey.ne {first other : Char} (hstarts : StartsKey first)
    (hbare : isBareKeyChar other = false) (hquote : other ≠ '"') : first ≠ other := by
  rintro rfl
  rcases hstarts with hstarts | hstarts
  · rw [hbare] at hstarts
    cases hstarts
  · exact hquote hstarts

theorem StartsKey.isBlank {first : Char} (hstarts : StartsKey first) : isBlank first = false := by
  have hspace : first ≠ ' ' := hstarts.ne rfl (by decide)
  have htab : first ≠ '\t' := hstarts.ne rfl (by decide)
  simp [Toml.isBlank, hspace, htab]

theorem exists_writtenKey (key : String) :
    ∃ first more, (writtenKey key).toList = first :: more ∧ StartsKey first := by
  unfold writtenKey
  split
  · next hbare =>
    simp only [Bool.and_eq_true, Bool.not_eq_true', List.all_eq_true] at hbare
    have hsome : key.toList ≠ [] := by simpa using hbare.1
    obtain ⟨first, more, hkey⟩ := List.exists_cons_of_ne_nil hsome
    exact ⟨first, more, hkey, .inl (hbare.2 first (by simp [hkey]))⟩
  · exact ⟨'"', _, String.toList_ofList, .inr rfl⟩

theorem return_not_mem_writtenKey (key : String) : '\r' ∉ (writtenKey key).toList := by
  unfold writtenKey
  split
  · next hbare =>
    simp only [Bool.and_eq_true, List.all_eq_true] at hbare
    intro hreturn
    exact absurd (hbare.2 _ hreturn) (by decide)
  · exact return_not_mem_writtenString key

/-- A key of one part, before an equals sign. -/
theorem key_written (name : String) :
    key ((writtenKey name).toList ++ ' ' :: '=' :: rest) = .ok ([name], '=' :: rest) := by
  unfold key keyParts
  rw [keyPart_written _ _ (by decide)]
  rfl

end DeviceTags.Toml
