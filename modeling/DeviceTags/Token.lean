import DeviceTags.Failure

/-!
# Tag tokens

A token `NAME=value` names a tag. The name ends at the first equals sign. A value that starts with a
quote runs to the last occurrence of that quote and what follows is dropped; any other value runs to
the end of the token.
-/

namespace DeviceTags.Token

/-- Cuts a text at the first occurrence of a character, which is dropped. -/
def cutAt (separator : Char) : List Char → Option (List Char × List Char)
  | [] => none
  | c :: rest =>
    if c = separator then some ([], rest)
    else (cutAt separator rest).map fun parts => (c :: parts.1, parts.2)

/-- The text before the last occurrence of a character. -/
def beforeLast (separator : Char) : List Char → Option (List Char)
  | [] => none
  | c :: rest =>
    match beforeLast separator rest with
    | some before => some (c :: before)
    | none => if c = separator then some [] else none

/-- The two quotes that may surround a value. -/
def isQuote (c : Char) : Bool :=
  c = '"' || c = '\''

/-- The value that the text after the equals sign stands for, unless its quote is never closed. -/
def unquote : List Char → Option (List Char)
  | [] => some []
  | c :: rest => if isQuote c then beforeLast c rest else some (c :: rest)

def parse (token : Option String) : Except Failure (String × String) :=
  match token with
  | none => .error (.notATag none)
  | some text =>
    match cutAt '=' text.toList with
    | none => .error (.notATag (some text))
    | some (name, value) =>
      match unquote value with
      | none => .error (.unclosedQuote text)
      | some value => .ok (String.ofList name, String.ofList value)

theorem cutAt_eq_some_iff {separator : Char} {text before after : List Char} :
    cutAt separator text = some (before, after) ↔
      text = before ++ separator :: after ∧ separator ∉ before := by
  induction text generalizing before with
  | nil => simp [cutAt]
  | cons c rest ih =>
    rw [cutAt]
    split
    · next hc =>
      subst hc
      constructor
      · intro hsome
        simp only [Option.some.injEq, Prod.mk.injEq] at hsome
        obtain ⟨rfl, rfl⟩ := hsome
        simp
      · rintro ⟨htext, hbefore⟩
        cases before with
        | nil => simp_all
        | cons d before => simp_all
    · next hc =>
      cases before with
      | nil => simp [hc]
      | cons d before =>
        simp only [Option.map_eq_some_iff, Prod.mk.injEq, List.cons.injEq, List.cons_append,
          List.mem_cons, not_or]
        constructor
        · rintro ⟨⟨b, a⟩, hcut, ⟨rfl, rfl⟩, rfl⟩
          obtain ⟨htext, hbefore⟩ := ih.1 hcut
          exact ⟨⟨rfl, htext⟩, fun heq => hc heq.symm, hbefore⟩
        · rintro ⟨⟨rfl, htext⟩, _, hbefore⟩
          exact ⟨(before, after), ih.2 ⟨htext, hbefore⟩, ⟨rfl, rfl⟩, rfl⟩

theorem beforeLast_eq_none_iff {separator : Char} {text : List Char} :
    beforeLast separator text = none ↔ separator ∉ text := by
  induction text with
  | nil => simp [beforeLast]
  | cons c rest ih =>
    rw [beforeLast]
    split
    · next before hbefore =>
      simp only [reduceCtorEq, List.mem_cons, not_or, false_iff, not_and, Decidable.not_not]
      intro _
      exact Decidable.of_not_not fun hrest => by simp [ih.2 hrest] at hbefore
    · next hbefore =>
      have hrest := ih.1 hbefore
      split
      · next hc => simp [hc]
      · next hc =>
        simp only [List.mem_cons, not_or, true_iff]
        exact ⟨fun heq => hc heq.symm, hrest⟩

theorem beforeLast_eq_some_iff {separator : Char} {text before : List Char} :
    beforeLast separator text = some before ↔
      ∃ after, text = before ++ separator :: after ∧ separator ∉ after := by
  induction text generalizing before with
  | nil => simp [beforeLast]
  | cons c rest ih =>
    rw [beforeLast]
    split
    · next found hfound =>
      obtain ⟨after, hrest, hafter⟩ := ih.1 hfound
      constructor
      · intro hsome
        simp only [Option.some.injEq] at hsome
        subst hsome
        exact ⟨after, by simp [hrest], hafter⟩
      · rintro ⟨after', htext, hafter'⟩
        cases before with
        | nil =>
          simp only [List.nil_append, List.cons.injEq] at htext
          rw [← htext.2, hrest] at hafter'
          simp at hafter'
        | cons d before =>
          simp only [List.cons_append, List.cons.injEq] at htext
          have := ih.2 ⟨after', htext.2, hafter'⟩
          rw [hfound] at this
          simp_all
    · next hnone =>
      have hrest := beforeLast_eq_none_iff.1 hnone
      split
      · next hc =>
        subst hc
        constructor
        · intro hsome
          simp only [Option.some.injEq] at hsome
          subst hsome
          exact ⟨rest, rfl, hrest⟩
        · rintro ⟨after, htext, hafter⟩
          cases before with
          | nil => rfl
          | cons d before =>
            simp only [List.cons_append, List.cons.injEq] at htext
            rw [htext.2] at hrest
            simp at hrest
      · next hc =>
        simp only [reduceCtorEq, false_iff, not_exists, not_and]
        intro after htext
        cases before with
        | nil => simp_all
        | cons d before =>
          simp only [List.cons_append, List.cons.injEq] at htext
          rw [htext.2] at hrest
          simp at hrest

end DeviceTags.Token
