import DeviceTags.Proofs.Cli.Listing
import DeviceTags.Proofs.Searching

/-!
# JSON output

Where JSON is asked for, a command that ends well prints one JSON value, and the value tells what the
cache holds by then. The text of a JSON value is free of escapes, so the layer that takes control
sequences out of the output leaves it alone. The command for the value of one tag does not know JSON:
it prints the value bare, without the control sequences that are in it.
-/

namespace DeviceTags

open FileTree Inventory

/-! ## The text of a JSON value -/

theorem not_mem_intercalate {c : Char} (separator : String) {parts : List String}
    (hseparator : c ∉ separator.toList) (hparts : ∀ part ∈ parts, c ∉ part.toList) :
    c ∉ (separator.intercalate parts).toList := by
  rw [String.toList_intercalate]
  induction parts with
  | nil => exact List.not_mem_nil
  | cons part rest ih =>
    have hpart := hparts part List.mem_cons_self
    have hrest := ih fun other hother => hparts other (List.mem_cons_of_mem _ hother)
    cases rest with
    | nil => simpa using hpart
    | cons next rest =>
      rw [List.map_cons, List.map_cons, List.intercalate_cons_cons]
      rw [List.map_cons] at hrest
      simp only [List.mem_append, not_or]
      exact ⟨⟨hpart, hseparator⟩, hrest⟩

namespace Json

theorem escape_not_mem_toDigits (n : Nat) : '\x1b' ∉ Nat.toDigits 16 n := by
  have hdigit : ∀ d < 16, '\x1b' ∉ [Nat.digitChar d] := by decide
  induction n using Nat.strongRecOn with
  | ind n ih =>
    rw [Nat.toDigits_eq_if (by decide)]
    split
    · next hlt => exact hdigit n hlt
    · next hle =>
      rw [List.mem_append, not_or]
      exact ⟨ih (n / 16) (by omega), hdigit (n % 16) (by omega)⟩

theorem escape_not_mem_unitEscape (unit : Nat) : '\x1b' ∉ unitEscape unit := by
  simp [unitEscape, Text.hex, Text.padZeros, escape_not_mem_toDigits]

/-- An escape has a number below those of the characters that stand for themselves. -/
theorem escape_not_mem_escapedChar (c : Char) : '\x1b' ∉ escapedChar c := by
  unfold escapedChar
  have hbackslash : '\x1b' ≠ '\\' := by decide
  split_ifs with hquoted hline hreturn htab hfeed hback hplain hsmall
  · rcases hquoted with rfl | rfl <;> decide
  · decide
  · decide
  · decide
  · decide
  · decide
  · rw [List.mem_singleton]
    rintro rfl
    exact absurd hplain.1 (by decide)
  · exact escape_not_mem_unitEscape _
  · rw [List.mem_append, not_or]
    exact ⟨escape_not_mem_unitEscape _, escape_not_mem_unitEscape _⟩

theorem escape_not_mem_stringText (value : String) : '\x1b' ∉ (stringText value).toList := by
  rw [stringText, String.toList_ofList]
  simp [escape_not_mem_escapedChar]

theorem escape_not_mem_decimalInt (value : Int) : '\x1b' ∉ (Text.decimalInt value).toList := by
  cases value with
  | ofNat n => simp [Text.decimalInt, Text.escape_not_mem_decimal]
  | negSucc n => simp [Text.decimalInt, Text.escape_not_mem_decimal]

theorem escape_not_mem_enclose {opening closing : String} {lines : List String} (level : Nat)
    (hopening : '\x1b' ∉ opening.toList) (hclosing : '\x1b' ∉ closing.toList)
    (hlines : ∀ line ∈ lines, '\x1b' ∉ line.toList) :
    '\x1b' ∉ (enclose opening closing level lines).toList := by
  have hbreak : ∀ level, '\x1b' ∉ (lineBreak level).toList := by simp [lineBreak]
  have hbody : '\x1b' ∉ (("," ++ lineBreak (level + 1)).intercalate lines).toList :=
    not_mem_intercalate _ (by simp [hbreak]) hlines
  unfold enclose
  split
  · simp [hopening, hclosing]
  · simp only [String.toList_append, List.mem_append, not_or]
    exact ⟨⟨⟨⟨hopening, hbreak _⟩, hbody⟩, hbreak _⟩, hclosing⟩

mutual

theorem escape_not_mem_text (value : Json) : '\x1b' ∉ value.text.toList := by
  cases value with
  | boolean value => cases value <;> decide
  | integer value => exact escape_not_mem_decimalInt value
  | string value => exact escape_not_mem_stringText value
  | array items =>
    have hitems := not_mem_intercalate ", " (by decide) (escape_not_mem_itemTexts items)
    simp only [text, String.toList_append, List.mem_append, not_or]
    exact ⟨⟨by decide, hitems⟩, by decide⟩
  | object members =>
    have hmembers := not_mem_intercalate ", " (by decide) (escape_not_mem_memberTexts members)
    simp only [text, String.toList_append, List.mem_append, not_or]
    exact ⟨⟨by decide, hmembers⟩, by decide⟩

theorem escape_not_mem_itemTexts (items : List Json) :
    ∀ part ∈ itemTexts items, '\x1b' ∉ part.toList := by
  cases items with
  | nil => exact fun _ => nofun
  | cons item rest =>
    rw [itemTexts]
    exact List.forall_mem_cons.mpr ⟨escape_not_mem_text item, escape_not_mem_itemTexts rest⟩

theorem escape_not_mem_memberTexts (members : List (String × Json)) :
    ∀ part ∈ memberTexts members, '\x1b' ∉ part.toList := by
  cases members with
  | nil => exact fun _ => nofun
  | cons member rest =>
    obtain ⟨name, value⟩ := member
    have hname := escape_not_mem_stringText name
    have hvalue := escape_not_mem_text value
    rw [memberTexts]
    exact List.forall_mem_cons.mpr ⟨by simp [hname, hvalue], escape_not_mem_memberTexts rest⟩

end

mutual

theorem escape_not_mem_indentedAt (level : Nat) (value : Json) :
    '\x1b' ∉ (value.indentedAt level).toList := by
  cases value with
  | boolean value => cases value <;> simp [indentedAt]
  | integer value => exact escape_not_mem_decimalInt value
  | string value => exact escape_not_mem_stringText value
  | array items =>
    exact escape_not_mem_enclose level (by decide) (by decide)
      (escape_not_mem_indentedItems level items)
  | object members =>
    exact escape_not_mem_enclose level (by decide) (by decide)
      (escape_not_mem_indentedMembers level members)

theorem escape_not_mem_indentedItems (level : Nat) (items : List Json) :
    ∀ part ∈ indentedItems level items, '\x1b' ∉ part.toList := by
  cases items with
  | nil => exact fun _ => nofun
  | cons item rest =>
    rw [indentedItems]
    exact List.forall_mem_cons.mpr
      ⟨escape_not_mem_indentedAt (level + 1) item, escape_not_mem_indentedItems level rest⟩

theorem escape_not_mem_indentedMembers (level : Nat) (members : List (String × Json)) :
    ∀ part ∈ indentedMembers level members, '\x1b' ∉ part.toList := by
  cases members with
  | nil => exact fun _ => nofun
  | cons member rest =>
    obtain ⟨name, value⟩ := member
    have hname := escape_not_mem_stringText name
    have hvalue := escape_not_mem_indentedAt (level + 1) value
    rw [indentedMembers]
    exact List.forall_mem_cons.mpr
      ⟨by simp [hname, hvalue], escape_not_mem_indentedMembers level rest⟩

end

/-- What the text of a value may start with. -/
def isOpening (c : Char) : Bool :=
  c.isDigit || ['t', 'f', '-', '"', '[', '\x7b'].contains c

theorem opens_decimalInt (value : Int) :
    (Text.decimalInt value).toList.head?.any isOpening = true := by
  cases value with
  | ofNat n =>
    rw [Text.decimalInt, String.toList_ofList]
    cases hdigits : Text.decimal n with
    | nil => exact absurd hdigits Nat.toDigits_ne_nil
    | cons c rest =>
      have hc : c ∈ Nat.toDigits 10 n := by
        change c ∈ Text.decimal n
        rw [hdigits]
        exact List.mem_cons_self
      have hdigit := Nat.isDigit_of_mem_toDigits (b := 10) (by decide) (by decide) hc
      simp [isOpening, hdigit]
  | negSucc n =>
    rw [Text.decimalInt, String.toList_ofList]
    rfl

theorem opens_text (value : Json) : value.text.toList.head?.any isOpening = true := by
  cases value with
  | boolean value => cases value <;> decide
  | integer value => exact opens_decimalInt value
  | string value => simp [text, stringText, isOpening]
  | array items => simp [text, isOpening]
  | object members => simp [text, isOpening]

theorem exists_enclose (opening closing : String) (level : Nat) (lines : List String) :
    ∃ rest, (enclose opening closing level lines).toList = opening.toList ++ rest := by
  unfold enclose
  split
  · exact ⟨_, String.toList_append⟩
  · simp only [String.toList_append, List.append_assoc]
    exact ⟨_, rfl⟩

theorem opens_indented (value : Json) : value.indented.toList.head?.any isOpening = true := by
  cases value with
  | boolean value => cases value <;> simp [indented, indentedAt, isOpening]
  | integer value => exact opens_decimalInt value
  | string value => simp [indented, indentedAt, stringText, isOpening]
  | array items =>
    obtain ⟨rest, hrest⟩ := exists_enclose "[" "]" 0 (indentedItems 0 items)
    rw [indented, indentedAt, hrest]
    rfl
  | object members =>
    obtain ⟨rest, hrest⟩ := exists_enclose "\x7b" "\x7d" 0 (indentedMembers 0 members)
    rw [indented, indentedAt, hrest]
    rfl

end Json

/-! ## What commands tell -/

namespace Cli

variable {kit : Toolkit} {tree : FileTree} {environment : Environment} {clock : String}
  {arguments : List String} {settings : Settings} {directory : Path} {config : Config}
  {host : Host} {c : CacheId} {memory : Memory}

/-- Where a lookup of a name leads: a device name stands for itself, and a pair for a device of the
cache that carries it. -/
def Reaches (store : Store) (c : CacheId) (device : String) : String ⊕ String × String → Prop
  | .inl name => device = name
  | .inr pair => ∃ d ∈ (store.cache c).devices, (store.device d).name = device ∧
      store.hasPair d pair.1 pair.2 = true

/-- A JSON value tells what a query asks for, as the cache holds it. -/
def Query.Tells (store : Store) (c : CacheId) : Query → Json → Prop
  | .find token given, answer => ∃ device aim,
      (Inquiry.deviceName (some token) given).aim = .ok aim ∧ Reaches store c device aim ∧
      answer = .object [("device", .string device)]
  | .tags device, answer => ∃ d, Attachment.named? store c device = some d ∧
      answer = .object [("device", .string (store.device d).name),
        ("tags", .array ((store.pairs d).map pairJson))]
  | .value name device, answer => ∃ d t, Attachment.named? store c device = some d ∧
      store.firstTag? d name = some t ∧ answer = .string (store.tag t).value
  | .list, answer => answer = .array ((store.cache c).devices.map store.deviceJson)
  | .check, answer => Audit.problems store c = [] ∧
      answer = .object [("ok", .boolean true), ("problems", .array [])]

/-- Whether a query knows no JSON. -/
def Query.isBare : Query → Bool
  | .value _ _ => true
  | .find _ _ | .tags _ | .list | .check => false

/-- How a query lays out its answer where JSON is asked for. -/
def Query.layout : Query → Json → String
  | .value _ _, .string text => text
  | .list, answer => answer.indented
  | _, answer => answer.text

/-- The layout of a query that knows JSON is the text of a JSON value, without escapes. -/
theorem Toolkit.shown_layout (kit : Toolkit) {query : Query} (hjson : query.isBare = false)
    (answer : Json) : kit.shown (query.layout answer) = query.layout answer := by
  apply kit.shown_plain
  cases query with
  | value name device => cases hjson
  | list => exact Json.escape_not_mem_indentedAt 0 answer
  | find token given => exact Json.escape_not_mem_text answer
  | tags device => exact Json.escape_not_mem_text answer
  | check => exact Json.escape_not_mem_text answer

/-- An operation that goes through with the status for success replies with what a query asks for,
laid out as the query does. -/
def Replies (query : Query) (c : CacheId) (operation : Op Reply) (memory : Memory) : Prop :=
  Does operation memory
    (fun reply after => reply.status = 0 → ∃ answer, query.Tells after.store c answer ∧
      reply.text = some (query.layout answer))
    fun _ _ => True

namespace Replies

variable {query : Query}

theorem bind {α : Type} {operation : Op α} {next : α → Op Reply} {done : α → Memory → Prop}
    (hfirst : Does operation memory done fun _ _ => True)
    (hnext : ∀ value after, done value after → Replies query c (next value) after) :
    Replies query c (operation >>= next) memory :=
  Does.bind hfirst hnext fun _ _ _ => trivial

/-- The first part of an operation may do anything. -/
theorem after {α : Type} {operation : Op α} {next : α → Op Reply}
    (hnext : ∀ value after, Replies query c (next value) after) :
    Replies query c (operation >>= next) memory := by
  have hany : Does operation memory (fun _ _ => True) fun _ _ => True := by
    unfold Does
    split <;> trivial
  exact Replies.bind hany fun value after _ => hnext value after

theorem notFound : Replies query c (pure Reply.notFound) memory := nofun

theorem printing {text : String} {answer : Json} (htells : query.Tells memory.store c answer)
    (htext : text = query.layout answer) :
    Replies query c (pure (Reply.printing text)) memory :=
  fun _ => ⟨answer, htells, congrArg some htext⟩

end Replies

theorem does_findDevice (device : String) :
    Does (Attachment.find c (some device)) memory
      (fun found after => memory = after ∧ found = Attachment.named? memory.store c device)
      fun _ _ => True := by
  by_cases hdevice : device = ""
  · rw [hdevice]
    trivial
  · rw [Does, find_named c hdevice]
    exact ⟨rfl, rfl⟩

theorem replies_tags (device : String) :
    Replies (.tags device) c (tags host true c device) memory := by
  unfold tags
  refine .after fun _ filled => .bind (does_findDevice device) fun found _ hfound => ?_
  obtain ⟨rfl, rfl⟩ := hfound
  cases hnamed : Attachment.named? filled.store c device with
  | none => exact .notFound
  | some d =>
    have hname : (filled.store.device d).name = device := by
      simpa using List.find?_some hnamed
    have hanswer : Json.object [("device", .string (filled.store.device d).name),
          ("tags", .array ((filled.store.pairs d).map pairJson))] =
        .object [("device", .string device),
          ("tags", .array ((filled.store.pairs d).map pairJson))] := by rw [hname]
    exact Does.look_bind (Replies.printing ⟨d, hnamed, hanswer.symm⟩ rfl)

theorem does_findTag (d : DeviceId) (name : String) :
    Does (Tagging.find (some d) (.string name)) memory
      (fun found after => memory = after ∧ found = memory.store.firstTag? d name)
      fun _ _ => True := by
  by_cases hname : name = ""
  · rw [hname]
    trivial
  · rw [Does, find_firstTag d hname]
    exact ⟨rfl, rfl⟩

theorem replies_value (name device : String) :
    Replies (.value name device) c (value host c name device) memory := by
  unfold value Lookup.tagValue
  refine .after fun _ filled => ?_
  rw [bind_assoc]
  refine .bind (does_findDevice device) fun found _ hfound => ?_
  obtain ⟨rfl, rfl⟩ := hfound
  cases hnamed : Attachment.named? filled.store c device with
  | none => exact .notFound
  | some d =>
    dsimp only
    rw [bind_assoc]
    refine .bind (does_findTag d name) fun found _ hfound => ?_
    obtain ⟨rfl, rfl⟩ := hfound
    cases hfirst : filled.store.firstTag? d name with
    | none => exact .notFound
    | some t => exact .printing ⟨d, t, hnamed, hfirst, rfl⟩ rfl

theorem replies_list : Replies .list c (list host true c) memory := by
  unfold list
  refine .after fun _ filled => ?_
  refine Does.look_bind (Does.look_bind ?_)
  rw [if_pos rfl]
  split
  · exact Replies.printing rfl rfl
  · exact Does.throw trivial

theorem replies_check : Replies .check c (check host true c) memory := by
  unfold check
  refine .after fun _ filled => ?_
  refine Does.look_bind (Does.look_bind (.pure fun hstatus => ?_))
  have hnone : Audit.problems filled.store c = [] := by
    by_contra hsome
    rw [if_neg (by simpa using hsome)] at hstatus
    cases hstatus
  refine ⟨_, ⟨hnone, rfl⟩, ?_⟩
  rw [hnone]
  rfl

theorem does_deviceName (token : String) (given : Option String) (hsound : memory.store.Sound)
    (hc : memory.store.caches.Holds c) (hregistered : memory.store.Registered c)
    (hprober : ∀ p ∈ (memory.store.cache c).prober, p.IsPackaged)
    (hverifier : ∀ v ∈ (memory.store.cache c).verifier, v.IsPackaged) :
    Does (Lookup.deviceName host (some c) (some token) given) memory
      (fun found after => ∀ device ∈ found, ∃ aim,
        (Inquiry.deviceName (some token) given).aim = .ok aim ∧ Reaches after.store c device aim)
      fun _ _ => True := by
  obtain ⟨logged, hlogged, hrun⟩ :=
    Inquiry.answer_apply host c (.deviceName (some token) given) memory
  rw [← hlogged.store] at hsound hc hregistered hprober hverifier
  have hreach : Does (do
      Inquiry.reach host c (← Tagging.checked (Inquiry.deviceName (some token) given).aim)) logged
      (fun found after => ∀ device ∈ found, ∃ aim,
        (Inquiry.deviceName (some token) given).aim = .ok aim ∧ Reaches after.store c device aim)
      fun _ _ => True := by
    cases (Inquiry.deviceName (some token) given).aim with
    | error failure => exact Does.throw trivial
    | ok aim =>
      cases aim with
      | inl name => exact Does.pure fun device hdevice => ⟨_, rfl, (Option.some.inj hdevice).symm⟩
      | inr pair =>
        change Does ((Lookup.dialogue host c pair.1 pair.2 none none).toOp >>=
          Lookup.foundName) logged _ _
        refine Does.bind (advances_dialogue host pair.1 pair.2 hsound hc hprober hverifier)
          (fun found after hfound => ?_) fun _ _ _ => trivial
        cases found with
        | none => exact Does.pure nofun
        | some d =>
          obtain ⟨hcache, hpair⟩ := hfound.2 d rfl
          have hd := hfound.1.registered c hregistered d hcache
          exact Does.look_bind (Does.pure fun device hdevice =>
            ⟨_, rfl, d, hd, Option.some.inj hdevice, hpair⟩)
  unfold Does at hreach ⊢
  rw [← hrun] at hreach
  exact hreach

theorem replies_find (token : String) (given : Option String) (hsound : memory.store.Sound)
    (hc : memory.store.caches.Holds c) (hregistered : memory.store.Registered c)
    (hprober : ∀ p ∈ (memory.store.cache c).prober, p.IsPackaged)
    (hverifier : ∀ v ∈ (memory.store.cache c).verifier, v.IsPackaged) :
    Replies (.find token given) c (find host true c token given) memory := by
  unfold find
  refine .bind (does_deviceName token given hsound hc hregistered hprober hverifier)
    fun found _ hfound => ?_
  cases found with
  | none => exact .notFound
  | some device =>
    obtain ⟨aim, haim, hreaches⟩ := hfound device rfl
    exact .printing ⟨device, aim, haim, hreaches, rfl⟩ rfl

theorem replies_query (query : Query) (hsound : memory.store.Sound)
    (hc : memory.store.caches.Holds c) (hregistered : memory.store.Registered c)
    (hprober : ∀ p ∈ (memory.store.cache c).prober, p.IsPackaged)
    (hverifier : ∀ v ∈ (memory.store.cache c).verifier, v.IsPackaged) :
    Replies query c (query.answer host true c) memory := by
  cases query with
  | find token given => exact replies_find token given hsound hc hregistered hprober hverifier
  | tags device => exact replies_tags device
  | value name device => exact replies_value name device
  | list => exact replies_list
  | check => exact replies_check

/-! ## What runs print -/

/-- The cache of a configuration has packaged collaborators. -/
theorem packaged_of_made (hmade : config.Made c memory.store) :
    (∀ p ∈ (memory.store.cache c).prober, p.IsPackaged) ∧
      ∀ v ∈ (memory.store.cache c).verifier, v.IsPackaged := by
  rw [hmade.prober, hmade.verifier]
  constructor
  · intro p hp
    split at hp
    · cases hp
      trivial
    · cases hp
  · intro v hv
    cases hv
    unfold Config.verifier
    split <;> trivial

/-- A crash has the status for failures. -/
theorem status_of_crashed {after : FileTree} {execution : Execution} {failure : Failure}
    {notices : List Notice}
    (hrun : outcome (crashed files environment clock failure notices) tree =
      (.ok execution, after)) : execution.status = 1 := by
  have hshown : shownBy (crashed files environment clock failure notices) tree =
      environment.errorLog.map fun _ => (1, .nothing) := shownBy_crashed tree failure notices
  rw [shownBy, hrun] at hshown
  cases hlog : environment.errorLog with
  | error unknown =>
    rw [hlog] at hshown
    cases hshown
  | ok path =>
    rw [hlog] at hshown
    exact congrArg Prod.fst (Except.ok.inj hshown)

/-- A run of a query that ends with the status for success prints what the query replied. -/
theorem exists_reply {after : FileTree} {logging : Logging} {execution : Execution}
    {query : Query} (hbuild : config.buildCache {} = .ok c memory)
    (hrun : outcome (askCache kit files environment clock logging true query host config) tree =
      (.ok execution, after)) (hstatus : execution.status = 0) :
    ∃ reply filled, query.answer host true c memory = .ok reply filled ∧ reply.status = 0 ∧
      execution.output = match reply.text with
        | none => .nothing
        | some text => .text (kit.shown text ++ "\n") := by
  cases hanswer : query.answer host true c memory with
  | ok reply filled =>
    rw [outcome_askCache hbuild hanswer] at hrun
    cases hrun
    exact ⟨reply, filled, rfl, hstatus, rfl⟩
  | error failure failed =>
    rw [outcome_askCache_failed hbuild hanswer] at hrun
    split at hrun
    · cases hrun
      cases hstatus
    · rw [status_of_crashed hrun] at hstatus
      cases hstatus

theorem output_runParse {logging : Logging} {token : String}
    (hstatus : (runParse kit logging true token).status = 0) :
    ∃ name value, Token.parse (some token) = .ok (name, value) ∧
      (runParse kit logging true token).output = .text
        ((Json.object [("name", .string name), ("value", .string value)]).text ++ "\n") := by
  unfold runParse parse Lookup.parseToken at *
  cases hread : Token.parse (some token) with
  | error failure =>
    rw [hread] at hstatus
    cases hstatus
  | ok pair =>
    refine ⟨pair.1, pair.2, rfl, ?_⟩
    rw [← kit.shown_plain _ (Json.escape_not_mem_text (.object _))]
    rfl

/-- A run over an accepted configuration that is asked for JSON and ends with the status for success
prints one JSON value and a line break, and the value tells what the cache of the configuration
holds by then; reading a token prints its parts in the same way. The command for the value of a tag
is the exception: it prints the value as it prints it without JSON. -/
theorem loaded_prints_json
    (hload : outcome (Config.load files directory) tree = (.ok config, tree))
    (hjson : settings.json = true) (kit : Toolkit) (environment : Environment) (clock : String) :
    (∀ arguments token execution after,
      kit.invocation arguments = .command settings (.parse token) →
      outcome (run kit files environment clock arguments) tree = (.ok execution, after) →
      execution.status = 0 →
      ∃ name value, Token.parse (some token) = .ok (name, value) ∧
        execution.output = .text
          ((Json.object [("name", .string name), ("value", .string value)]).text ++ "\n")) ∧
    ∀ arguments query, Asks kit environment arguments settings query directory →
      ∃ c built, config.buildCache {} = .ok c built ∧
        ∀ execution after,
          outcome (run kit files environment clock arguments) tree = (.ok execution, after) →
          execution.status = 0 →
          ∃ reply filled, query.answer (hostOf tree config) true c built = .ok reply filled ∧
            (query.isBare = false → ∃ answer, query.Tells filled.store c answer ∧
              execution.output = .text (query.layout answer ++ "\n")) ∧
            (query.isBare = true → ∃ text, query.Tells filled.store c (.string text) ∧
              execution.output = .text (kit.shown text ++ "\n")) := by
  constructor
  · intro arguments token execution after hcommand hrun hstatus
    rw [run, hcommand] at hrun
    cases hrun
    rw [hjson] at hstatus ⊢
    exact output_runParse hstatus
  · intro arguments query hasks
    have hstart : ({} : Memory).store.Sound := Store.sound_empty
    obtain ⟨c, built, hbuild, -, hmade⟩ :=
      (goes_buildCache hstart (Config.valid_of_load hload)).exists_ok rfl
    refine ⟨c, built, hbuild, fun execution after hrun hstatus => ?_⟩
    rw [outcome_run hasks hload, hjson] at hrun
    obtain ⟨reply, filled, hanswer, hsuccess, houtput⟩ := exists_reply hbuild hrun hstatus
    have hpackaged := packaged_of_made hmade
    have hreplies : Replies query c (query.answer (hostOf tree config) true c) built :=
      replies_query query hmade.reflects.sound hmade.reflects.held hmade.reflects.registered
        hpackaged.1 hpackaged.2
    rw [Replies, Does, hanswer] at hreplies
    obtain ⟨answer, htells, htext⟩ := hreplies hsuccess
    rw [htext] at houtput
    refine ⟨reply, filled, hanswer, fun hknows => ⟨answer, htells, ?_⟩, fun hbare => ?_⟩
    · dsimp only at houtput
      rw [houtput, kit.shown_layout hknows]
    · cases query with
      | value name device =>
        obtain ⟨d, t, hd, ht, rfl⟩ := htells
        exact ⟨_, ⟨d, t, hd, ht, rfl⟩, houtput⟩
      | find token given => cases hbare
      | tags device => cases hbare
      | list => cases hbare
      | check => cases hbare

/-- The tags of one of the twins are printed as JSON. -/
theorem twins_print_json :
    ∃ c built execution filled answer,
      Config.twins.buildCache {} = .ok c built ∧
      outcome (run .standard files (environmentAt "/") "" ["--json", "tags", "sdb"])
        (Config.treeHolding Config.twinsText) = (.ok execution, Config.treeHolding Config.twinsText) ∧
      execution.status = 0 ∧ (Query.tags "sdb").Tells filled c answer ∧
      execution.output = .text (answer.text ++ "\n") := by
  have hasks : Asks .standard (environmentAt "/") ["--json", "tags", "sdb"] ⟨false, true, none⟩
      (.tags "sdb") Config.rootDirectory := ⟨by decide +kernel, asks_check.directory⟩
  obtain ⟨-, hcommand⟩ := loaded_prints_json Config.load_twins
    (rfl : (⟨false, true, none⟩ : Settings).json = true) .standard (environmentAt "/") ""
  obtain ⟨c, built, hbuild, hprints⟩ := hcommand _ _ hasks
  have hstart : ({} : Memory).store.Sound := Store.sound_empty
  obtain ⟨_, _, filled, hbuild', -, -, hfill, hmirrors⟩ :=
    Config.exists_filled (hostOf (Config.treeHolding Config.twinsText) Config.twins)
      hstart rfl (Config.valid_of_load Config.load_twins)
  rw [hbuild] at hbuild'
  cases hbuild'
  have htags := tags_apply hfill hmirrors true (by decide : "sdb" ≠ "")
  rw [if_pos (by decide +kernel)] at htags
  have hrun : outcome (run .standard files (environmentAt "/") "" ["--json", "tags", "sdb"]) _ = _ :=
    (outcome_run hasks Config.load_twins).trans (outcome_askCache hbuild htags)
  obtain ⟨_, told, -, hknows, -⟩ := hprints _ _ hrun rfl
  obtain ⟨answer, htells, houtput⟩ := hknows rfl
  exact ⟨c, built, _, told.store, answer, hbuild, hrun, rfl, htells, houtput⟩

/-- The value of a tag is printed bare although JSON is asked for, and what is printed is the text of
no JSON value. -/
theorem twins_value_bare :
    shownBy (run .standard files (environmentAt "/") "" ["--json", "value", "L", "sda"])
        (Config.treeHolding Config.twinsText) = .ok (0, .text "x\n") ∧
      ∀ answer : Json, answer.text ≠ "x" ∧ answer.indented ≠ "x" := by
  constructor
  · have hasks : Asks .standard (environmentAt "/") ["--json", "value", "L", "sda"]
        ⟨false, true, none⟩ (.value "L" "sda") Config.rootDirectory :=
      ⟨by decide +kernel, asks_check.directory⟩
    have hstart : ({} : Memory).store.Sound := Store.sound_empty
    obtain ⟨c, built, filled, hbuild, -, -, hfill, hmirrors⟩ :=
      Config.exists_filled (hostOf (Config.treeHolding Config.twinsText) Config.twins)
        hstart rfl (Config.valid_of_load Config.load_twins)
    have hvalue := value_apply hfill hmirrors "L" (by decide : "sda" ≠ "")
    have hpair : (declaredPairs Config.twins.devices "sda").lookup "L" = some "x" := by
      decide +kernel
    rw [if_neg (by simp), hpair] at hvalue
    rw [shownBy_answered hasks Config.load_twins hbuild hvalue, shown_valueReply, shownText,
      Toolkit.shown_plain _ _ (by decide)]
    rfl
  · intro answer
    have htext := answer.opens_text
    have hindented := answer.opens_indented
    constructor
    · intro heq
      rw [heq] at htext
      exact absurd htext (by decide)
    · intro heq
      rw [heq] at hindented
      exact absurd hindented (by decide)

end Cli

end DeviceTags
