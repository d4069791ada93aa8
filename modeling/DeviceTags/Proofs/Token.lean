import DeviceTags.Description
import DeviceTags.Proofs.Lookup.Settled

/-!
# The grammar of tokens

A name has no equals sign, so the first equals sign of a token ends its name. A quoted value may hold
its own quote, because only the last quote closes it, and what follows that one cannot hold it. So a
token has at most one reading, every value can be written in quotes, and the pairs that a line shows
for a device can be read back.
-/

namespace DeviceTags.Token

variable {token name value : String}

def Quote (q : Char) : Prop := q = '"' ∨ q = '\''

theorem isQuote_iff {q : Char} : isQuote q = true ↔ Quote q := by
  simp [isQuote, Quote]

def inQuotes (q : Char) (value : String) : String :=
  String.singleton q ++ value ++ String.singleton q

/-- The token is the name, an equals sign, and the value: bare, if it starts with no quote, or
between two quotes, of which the second is the last one of the token. -/
structure Reads (token name value : String) : Prop where
  unambiguous : '=' ∉ name.toList
  shape : (token = name ++ "=" ++ value ∧ ∀ q, Quote q → value.toList.head? ≠ some q) ∨
    ∃ q rest, Quote q ∧ q ∉ rest.toList ∧ token = name ++ "=" ++ inQuotes q value ++ rest

/-! ## The text after the equals sign -/

/-- What the text after the equals sign gives, by the two ways to write a value. -/
inductive Gives : List Char → List Char → Prop
  | bare {value : List Char} (hbare : ∀ q, Quote q → value.head? ≠ some q) : Gives value value
  | quoted {q : Char} {value rest : List Char} (hquote : Quote q) (hlast : q ∉ rest) :
      Gives (q :: (value ++ q :: rest)) value

theorem unquote_eq_some_iff {text value : List Char} :
    unquote text = some value ↔ Gives text value := by
  constructor
  · intro hread
    cases text with
    | nil =>
      cases hread
      exact .bare fun _ _ => nofun
    | cons c rest =>
      rw [unquote] at hread
      split at hread
      · next hc =>
        obtain ⟨after, rfl, hafter⟩ := beforeLast_eq_some_iff.mp hread
        exact .quoted (isQuote_iff.mp hc) hafter
      · next hc =>
        cases hread
        refine .bare fun q hq hhead => hc ?_
        rw [List.head?_cons, Option.some.injEq] at hhead
        exact isQuote_iff.mpr (hhead ▸ hq)
  · rintro (hbare | ⟨hquote, hlast⟩)
    · cases text with
      | nil => rfl
      | cons c rest =>
        exact if_neg fun hc => hbare c (isQuote_iff.mp hc) rfl
    · rw [unquote, if_pos (isQuote_iff.mpr hquote)]
      exact beforeLast_eq_some_iff.mpr ⟨_, rfl, hlast⟩

/-! ## Whole tokens -/

@[simp]
theorem toList_inQuotes (q : Char) (value : String) :
    (inQuotes q value).toList = q :: (value.toList ++ [q]) := by
  simp [inQuotes]

theorem toList_named (name text : String) :
    (name ++ "=" ++ text).toList = name.toList ++ '=' :: text.toList := by
  simp

/-- A token reads as its name and what the text after the equals sign gives. -/
theorem reads_iff :
    Reads token name value ↔ ∃ after, token.toList = name.toList ++ '=' :: after ∧
      '=' ∉ name.toList ∧ Gives after value.toList := by
  constructor
  · rintro ⟨hname, ⟨rfl, hbare⟩ | ⟨q, rest, hquote, hlast, rfl⟩⟩
    · exact ⟨_, toList_named name value, hname, .bare hbare⟩
    · exact ⟨q :: (value.toList ++ q :: rest.toList), by simp, hname,
        .quoted hquote hlast⟩
  · rintro ⟨after, htoken, hname, hgives⟩
    refine ⟨hname, ?_⟩
    cases hgives with
    | bare hbare =>
      refine .inl ⟨String.toList_inj.mp ?_, hbare⟩
      rw [htoken, toList_named]
    | quoted hquote hlast =>
      next q rest =>
      refine .inr ⟨q, String.ofList rest, hquote, by simpa using hlast, String.toList_inj.mp ?_⟩
      rw [htoken]
      simp

theorem parse_eq_ok_iff : parse (some token) = .ok (name, value) ↔ Reads token name value := by
  rw [reads_iff]
  unfold parse
  constructor
  · intro hparse
    dsimp only at hparse
    split at hparse
    · cases hparse
    · next before after hcut =>
      split at hparse
      · cases hparse
      · next found hfound =>
        cases hparse
        obtain ⟨htoken, hbefore⟩ := cutAt_eq_some_iff.mp hcut
        refine ⟨after, ?_, ?_, ?_⟩ <;> rw [String.toList_ofList]
        · exact htoken
        · exact hbefore
        · exact unquote_eq_some_iff.mp hfound
  · rintro ⟨after, htoken, hname, hgives⟩
    have hcut := cutAt_eq_some_iff.mpr ⟨htoken, hname⟩
    have hread := unquote_eq_some_iff.mpr hgives
    simp only [hcut, hread, String.ofList_toList]

/-- The last quote closes the value, and what follows it is passed over. -/
example : parse (some "LABEL=\"a=\"b\" c") = .ok ("LABEL", "a=\"b") := by rfl

/-- No token at all has no reading. -/
theorem parse_eq_ok_iff_exists {token : Option String} :
    parse token = .ok (name, value) ↔ ∃ text, token = some text ∧ Reads text name value := by
  cases token with
  | none => simp [parse]
  | some text => simp [parse_eq_ok_iff]

theorem Reads.unique {name' value' : String} (hreads : Reads token name value)
    (hother : Reads token name' value') : name = name' ∧ value = value' := by
  have hparse := (parse_eq_ok_iff.mpr hreads).symm.trans (parse_eq_ok_iff.mpr hother)
  simpa using hparse

theorem reads_inQuotes {q : Char} (hname : '=' ∉ name.toList) (hquote : Quote q)
    (value : String) : Reads (name ++ "=" ++ inQuotes q value) name value :=
  ⟨hname, .inr ⟨q, "", hquote, by simp, by simp⟩⟩

theorem kind_of_parse {token : Option String} {failure : Failure}
    (hparse : parse token = .error failure) : failure.kind = .format := by
  unfold parse at hparse
  split at hparse
  · cases hparse
    rfl
  · split at hparse
    · cases hparse
      rfl
    · split at hparse
      · cases hparse
        rfl
      · cases hparse

/-! ## Lines that show devices -/

/-- A pair as the line of its device shows it. -/
def pairText (pair : String × String) : String :=
  pair.1 ++ "=" ++ inQuotes '"' pair.2

theorem deviceLine_eq (name : String) (pairs : List (String × String)) :
    deviceLine name pairs =
      if pairs = [] then name ++ ":"
      else name ++ ": " ++ " ".intercalate (pairs.map pairText) := by
  have htext : pairText = fun pair => pair.1 ++ "=\"" ++ pair.2 ++ "\"" := by
    funext pair
    apply String.toList_inj.mp
    simp [pairText, inQuotes]
  rw [htext]
  simp only [deviceLine, List.isEmpty_iff]

/-! ## Reading tokens -/

theorem exists_log (level : Level) (source : Source) (message : String) (memory : Memory) :
    ∃ after, SameButLog memory after ∧ Op.log level source message memory = .ok () after := by
  refine ⟨_, ?_, rfl⟩
  exact ⟨rfl, rfl⟩

/-- Reading a token reads what the token holds, and leaves a record of it in the log. -/
theorem parseToken_apply (token : Option String) (memory : Memory) :
    ∃ after, SameButLog memory after ∧
      Lookup.parseToken token memory =
        match parse token with
        | .ok pair => .ok pair after
        | .error failure => .error failure after := by
  refine (exists_log .debug .tag _ memory).imp fun after hlogged =>
    ⟨hlogged.1, (Op.bind_of_ok hlogged.2 _).trans ?_⟩
  cases parse token <;> rfl

/-- Reading a token gives a name and a value exactly when the token reads as these, which are then
the only ones, and fails on every other token and on none. Whatever is written in quotes under a name
without an equals sign is read back, and so is every such pair on the line of a device. -/
theorem parseToken_accepts_grammar (memory : Memory) :
    (∀ token, ∃ after, SameButLog memory after ∧
      (∀ name value, Lookup.parseToken token memory = .ok (name, value) after ↔
        ∃ text, token = some text ∧ Reads text name value) ∧
      ((∀ text name value, token = some text → ¬ Reads text name value) →
        ∃ failure, Lookup.parseToken token memory = .error failure after ∧
          failure.kind = .format)) ∧
    (∀ token name value name' value', Reads token name value → Reads token name' value' →
      name = name' ∧ value = value') ∧
    (∀ name value q, '=' ∉ name.toList → Quote q → ∃ after, SameButLog memory after ∧
      Lookup.parseToken (some (name ++ "=" ++ inQuotes q value)) memory =
        .ok (name, value) after) ∧
    ∀ d, memory.store.deviceText d =
        (if memory.store.pairs d = [] then (memory.store.device d).name ++ ":"
        else (memory.store.device d).name ++ ": " ++
          " ".intercalate ((memory.store.pairs d).map pairText)) ∧
      ∀ pair ∈ memory.store.pairs d, '=' ∉ pair.1.toList → ∃ after, SameButLog memory after ∧
        Lookup.parseToken (some (pairText pair)) memory = .ok pair after := by
  have hquoted : ∀ name value q, '=' ∉ name.toList → Quote q → ∃ after, SameButLog memory after ∧
      Lookup.parseToken (some (name ++ "=" ++ inQuotes q value)) memory =
        .ok (name, value) after := by
    intro name value q hname hquote
    obtain ⟨after, hsame, hparse⟩ := parseToken_apply (some (name ++ "=" ++ inQuotes q value)) memory
    rw [parse_eq_ok_iff.mpr (reads_inQuotes hname hquote value)] at hparse
    exact ⟨after, hsame, hparse⟩
  refine ⟨fun token => ?_, fun _ _ _ _ _ hreads hother => hreads.unique hother, hquoted,
    fun d => ⟨deviceLine_eq _ _, fun pair _ hname => hquoted pair.1 pair.2 '"' hname (.inl rfl)⟩⟩
  obtain ⟨after, hsame, hparse⟩ := parseToken_apply token memory
  refine ⟨after, hsame, fun name value => ?_, fun hnone => ?_⟩
  · rw [← parse_eq_ok_iff_exists, hparse]
    cases parse token <;> simp
  · rw [hparse]
    cases hread : parse token with
    | ok pair =>
      obtain ⟨text, htoken, hreads⟩ := parse_eq_ok_iff_exists.mp hread
      exact absurd hreads (hnone text pair.1 pair.2 htoken)
    | error failure => exact ⟨failure, rfl, kind_of_parse hread⟩

end DeviceTags.Token
