import DeviceTags.Proofs.Cli.Find
import DeviceTags.Proofs.Cli.Listing
import DeviceTags.Proofs.FileTree

/-!
# How a run ends

Over an accepted configuration that does not check paths, a run answers, reports a complaint about its
arguments in one line, or crashes. What the arguments say decides which. Only a crash writes to the
error log, and few arguments lead to one: the tags of an empty device name, a list in JSON with a
priority that has too many digits, and a directory that cannot be looked up.
-/

namespace DeviceTags

open FileTree Inventory

/-- The failure that something comes to, if it fails. -/
def failureOf {α : Type} : Except Failure α → Option Failure
  | .ok _ => none
  | .error failure => some failure

/-- The priorities of all declared devices are short enough to be written. -/
def Config.shortPriorities (config : Config) : Bool :=
  (config.inventory.roster config.devices).all fun entry => entry.2.isWritable

namespace Cli

/-! ## What is wrong with arguments -/

/-- The complaint about the arguments of a query, which is reported. The name of a tag is only looked
at where the device is declared. -/
def Query.complaint? (config : Config) : Query → Option Failure
  | .find token given => failureOf (Inquiry.deviceName (some token) given).aim
  | .value name device =>
    if device = "" then some .deviceNameRequired
    else if name = "" ∧ device ∈ listedNames config then some (.tagNameInvalid (.string ""))
    else none
  | .tags _ | .list | .check => none

/-- The failure by which a query crashes. -/
def Query.crash? (config : Config) (json : Bool) : Query → Option Failure
  | .tags device => if device = "" then some .deviceNameRequired else none
  | .list => if json && !config.shortPriorities then some .integerUnwritable else none
  | .find _ _ | .value _ _ | .check => none

def Invocation.complaint? (config : Config) : Invocation → Option Failure
  | .command _ (.parse token) => failureOf (Token.parse (some token))
  | .command _ (.ask query) => query.complaint? config
  | .help | .version | .misuse | .unusableDirectory _ => none

def Invocation.crash? (config : Config) : Invocation → Option Failure
  | .command settings (.ask query) => query.crash? config settings.json
  | .unusableDirectory path => some (.file ⟨.nullCharacter, .ofString path⟩)
  | .command _ (.parse _) | .help | .version | .misuse => none

theorem isOwn_of_parse {token : String} {failure : Failure}
    (hparse : Token.parse (some token) = .error failure) : failure.isOwn = true := by
  unfold Token.parse at hparse
  split at hparse
  · cases hparse
    rfl
  · next heq =>
    split at hparse
    · cases hparse
      rfl
    · split at hparse
      · cases hparse
        rfl
      · cases hparse

/-- Where the arguments of a lookup do not pass, the failure is one of the library's own; where they
pass and something is looked for, it has a name. -/
def IsChecked : Except Failure (String ⊕ String × String) → Prop
  | .error failure => failure.isOwn = true
  | .ok (.inl _) => True
  | .ok (.inr pair) => pair.1 ≠ ""

theorem isChecked_of_aim {token : String} {given : Option String}
    {result : Except Failure (String ⊕ String × String)}
    (haim : (Inquiry.deviceName (some token) given).aim = result) : IsChecked result := by
  subst haim
  unfold Inquiry.aim
  dsimp only
  by_cases htoken : token = ""
  · rw [if_pos htoken]
    rfl
  · rw [if_neg htoken, Inquiry.aimOf.eq_def]
    cases given with
    | some value => exact htoken
    | none =>
      dsimp only
      by_cases hequals : token.toList.contains '='
      · rw [if_pos hequals]
        cases hparse : Token.parse (some token) with
        | error unread => exact isOwn_of_parse hparse
        | ok pair =>
          change IsChecked
            (Except.map Sum.inr (if pair.1 = "" then .error .tagTypeRequired else .ok pair))
          by_cases hname : pair.1 = ""
          · rw [if_pos hname]
            rfl
          · rw [if_neg hname]
            exact hname
      · rw [if_neg hequals]
        trivial

/-! ## How queries end -/

/-- A query answers, complains and is one that reports complaints, or crashes and is none that
does. -/
inductive Query.Ends (config : Config) (json : Bool) (query : Query) :
    EStateM.Result Failure Memory Reply → Prop
  | answered {reply : Reply} {after : Memory} (hcrash : query.crash? config json = none)
      (hcomplaint : query.complaint? config = none)
      (hstatus : reply.status = 0 ∨ reply.status = 2) : Ends config json query (.ok reply after)
  | complained {failure : Failure} {after : Memory} (hcrash : query.crash? config json = none)
      (hcomplaint : query.complaint? config = some failure)
      (hreports : query.reportsFailures = true) (hown : failure.isOwn = true) :
      Ends config json query (.error failure after)
  | crashed {failure : Failure} {after : Memory} (hcrash : query.crash? config json = some failure)
      (hsilent : query.reportsFailures = false) : Ends config json query (.error failure after)

section Queries

variable {config : Config} {host : Host} {c : CacheId} {built filled : Memory}

/-- Once the arguments of a lookup have passed, it goes through. -/
theorem goes_reach (hvalid : config.Valid) (htrusting : config.verifyPaths = false)
    (hmade : config.Made c built.store) {token : String} {given : Option String}
    {target : String ⊕ String × String}
    (haim : (Inquiry.deviceName (some token) given).aim = .ok target) :
    GoesThrough (Inquiry.reach host c target) built fun _ _ => True := by
  cases target with
  | inl device => exact .pure trivial
  | inr pair =>
    obtain ⟨name, value⟩ := pair
    have hname : name ≠ "" := isChecked_of_aim haim
    have hpair : Inquiry.pairFor (some name) (some value) = .ok (name, value) := if_neg hname
    have hreach : Inquiry.reach host c (.inr (name, value)) = (do
        Lookup.foundName (← Lookup.find host (some c) (some name) (some value) none none)) := by
      rw [Inquiry.find_eq, hpair]
      rfl
    rw [hreach]
    refine (Lookup.goes_find hvalid htrusting hmade hname).bind fun found _ _ => ?_
    cases found with
    | none => exact .pure trivial
    | some d => exact .look_bind (.pure trivial)

theorem ends_find (hvalid : config.Valid) (htrusting : config.verifyPaths = false)
    (hmade : config.Made c built.store) (hspare : built.supply = .unlimited) (json : Bool)
    (token : String) (given : Option String) :
    (Query.find token given).Ends config json (find host json c token given built) := by
  obtain ⟨logged, hlogged, hanswer⟩ :=
    Inquiry.answer_apply host c (.deviceName (some token) given) built
  change Lookup.deviceName host (some c) (some token) given built = _ at hanswer
  cases haim : (Inquiry.deviceName (some token) given).aim with
  | error failure =>
    rw [haim] at hanswer
    have hfailed : find host json c token given built = .error failure logged :=
      Op.bind_of_error hanswer _
    rw [hfailed]
    have hown : failure.isOwn = true := isChecked_of_aim haim
    refine .complained rfl ?_ rfl hown
    rw [Query.complaint?, haim]
    rfl
  | ok target =>
    rw [haim] at hanswer
    have hmade' : config.Made c logged.store := hlogged.store ▸ hmade
    obtain ⟨found, after, hreach, -⟩ :=
      (goes_reach hvalid htrusting hmade' haim).exists_ok (hlogged.supply.trans hspare)
    have hfound : Lookup.deviceName host (some c) (some token) given built = .ok found after :=
      hanswer.trans hreach
    have hnone : (Query.find token given).complaint? config = none := by
      rw [Query.complaint?, haim]
      rfl
    rw [find, Op.bind_of_ok hfound]
    cases found with
    | none => exact .answered rfl hnone (.inr rfl)
    | some name => exact .answered rfl hnone (.inl rfl)

section Filled

variable (hfill : ensureProbed host c built = .ok () filled)
  (hmirrors : Mirrors config.inventory c config.devices filled.store) (json : Bool)

include hfill hmirrors

theorem ends_tags (device : String) :
    (Query.tags device).Ends config json (tags host json c device built) := by
  by_cases hdevice : device = ""
  · subst hdevice
    rw [tags_unnamed hfill]
    exact .crashed rfl rfl
  · rw [tags_apply hfill hmirrors json hdevice]
    have hcrash : (Query.tags device).crash? config json = none := if_neg hdevice
    refine .answered hcrash rfl ?_
    split
    · exact .inl rfl
    · exact .inr rfl

theorem ends_value (name device : String) :
    (Query.value name device).Ends config json (value host c name device built) := by
  by_cases hdevice : device = ""
  · subst hdevice
    rw [value_unnamed hfill]
    exact .complained rfl rfl rfl rfl
  · have hcomplaint : (Query.value name device).complaint? config =
        if name = "" ∧ device ∈ listedNames config then some (.tagNameInvalid (.string ""))
        else none := if_neg hdevice
    rw [value_apply hfill hmirrors name hdevice]
    split
    · next hname => exact .complained rfl (hcomplaint.trans (if_pos hname)) rfl rfl
    · next hname =>
      refine .answered rfl (hcomplaint.trans (if_neg hname)) ?_
      cases (declaredPairs config.devices device).lookup name with
      | none => exact .inr rfl
      | some text => exact .inl rfl

omit hfill in
/-- The priorities of the devices of the filled cache are the declared ones. -/
theorem all_isWritable :
    ((filled.store.cache c).devices.all fun d => (filled.store.device d).priority.isWritable) =
      config.shortPriorities := by
  change _ = (config.inventory.roster config.devices).all _
  rw [← hmirrors.members, Store.members, List.all_map]
  rfl

theorem ends_list : Query.list.Ends config json (list host json c built) := by
  have hwritable := all_isWritable hmirrors
  rw [list, Op.bind_of_ok hfill]
  change Query.list.Ends config json ((if json then
    if (filled.store.cache c).devices.all fun d => (filled.store.device d).priority.isWritable
    then _ else _ else if _ then _ else _ : Op Reply) filled)
  rw [hwritable]
  cases json with
  | false =>
    have hanswered : ∀ text after, Query.list.Ends config false (.ok (.printing text) after) :=
      fun _ _ => .answered rfl rfl (.inl rfl)
    rw [if_neg Bool.false_ne_true]
    split
    · exact hanswered _ _
    · exact hanswered _ _
  | true =>
    rw [if_pos rfl]
    by_cases hshort : config.shortPriorities = true
    · have hcrash : Query.list.crash? config true = none := by simp [Query.crash?, hshort]
      rw [if_pos hshort]
      exact .answered hcrash rfl (.inl rfl)
    · have hcrash : Query.list.crash? config true = some .integerUnwritable := by
        simp [Query.crash?, hshort]
      rw [if_neg hshort]
      exact .crashed hcrash rfl

end Filled

theorem ends_query (hvalid : config.Valid) (htrusting : config.verifyPaths = false)
    (hmade : config.Made c built.store) (hspare : built.supply = .unlimited)
    (hfill : ensureProbed host c built = .ok () filled)
    (hmirrors : Mirrors config.inventory c config.devices filled.store) (json : Bool)
    (query : Query) : query.Ends config json (query.answer host json c built) := by
  cases query with
  | find token given => exact ends_find hvalid htrusting hmade hspare json token given
  | tags device => exact ends_tags hfill hmirrors json device
  | value name device => exact ends_value hfill hmirrors json name device
  | list => exact ends_list hfill hmirrors json
  | check =>
    obtain ⟨reply, after, hcheck, -, hstatus, -⟩ :=
      (goes_check host json hvalid hmade).exists_ok hspare
    change Query.Ends config json .check (check host json c built)
    rw [hcheck]
    exact .answered rfl rfl (.inl hstatus)

end Queries

/-! ## How runs end -/

/-- Whether a notice tells of no failure. -/
def Notice.isQuiet : Notice → Bool
  | .record _ | .usage => true
  | .failure _ | .details _ => false

/-- How an execution ends that is no crash. A complaint is one of the library's own failures and all
that is told beside log records, with the status for that. Without one, no failure is told of. -/
def Execution.Settles (execution : Execution) : Option Failure → Prop
  | some complaint => complaint.isOwn = true ∧
      ∃ records : List Record, execution = reported complaint (records.map .record)
  | none => (execution.status = 0 ∨ execution.status = 2) ∧
      ∀ notice ∈ execution.notices, notice.isQuiet = true

section Runs

variable {kit : Toolkit} {tree : FileTree} {environment : Environment} {clock : String}
  {arguments : List String} {settings : Settings} {directory : Path} {config : Config}

theorem settles_reported {complaint : Failure} (hown : complaint.isOwn = true) (logging : Logging)
    (memory : Memory) :
    (reported complaint (recordNotices logging memory)).Settles (some complaint) :=
  ⟨hown, _, rfl⟩

theorem settles_answered {reply : Reply} (hstatus : reply.status = 0 ∨ reply.status = 2)
    (logging : Logging) (memory : Memory) :
    (reply.execution kit.shown (recordNotices logging memory)).Settles none := by
  refine ⟨hstatus, fun notice hnotice => ?_⟩
  obtain ⟨record, -, rfl⟩ := List.mem_map.mp hnotice
  rfl

theorem settles_parse (kit : Toolkit) (config : Config) (logging : Logging) (settings : Settings)
    (token : String) :
    (runParse kit logging settings.json token).Settles
      ((Invocation.command settings (.parse token)).complaint? config) := by
  rw [Invocation.complaint?, runParse, Cli.parse, Lookup.parseToken]
  cases hread : Token.parse (some token) with
  | error failure => exact settles_reported (isOwn_of_parse hread) logging _
  | ok pair => exact settles_answered (.inl rfl) logging _

/-- A run that asks a query settles as the query ends, unless the query crashes. -/
theorem asked_settles {query : Query}
    (hasks : Asks kit environment arguments settings query directory)
    (hload : outcome (Config.load files directory) tree = (.ok config, tree))
    (htrusting : config.verifyPaths = false) :
    (query.crash? config settings.json = none →
      ∃ execution, outcome (run kit files environment clock arguments) tree = (.ok execution, tree) ∧
        execution.Settles (query.complaint? config)) ∧
    ∀ failure, query.crash? config settings.json = some failure →
      ∃ records : List Record, outcome (run kit files environment clock arguments) tree =
        outcome (crashed files environment clock failure (records.map .record)) tree := by
  have hvalid := Config.valid_of_load hload
  have hstart : ({} : Memory).store.Sound := Store.sound_empty
  obtain ⟨c, built, filled, hbuild, hspare, hmade, hfill, hmirrors⟩ :=
    Config.exists_filled (hostOf tree config) hstart rfl hvalid
  have hends := ends_query hvalid htrusting hmade hspare hfill hmirrors settings.json query
  rw [outcome_run hasks hload]
  cases hanswer : query.answer (hostOf tree config) settings.json c built with
  | ok reply after =>
    rw [hanswer] at hends
    obtain ⟨hcrash, hcomplaint, hstatus⟩ := hends
    rw [outcome_askCache hbuild hanswer, hcomplaint]
    exact ⟨fun _ => ⟨_, rfl, settles_answered hstatus _ after⟩,
      fun _ h => absurd (hcrash.symm.trans h) nofun⟩
  | error failure after =>
    rw [hanswer] at hends
    rw [outcome_askCache_failed hbuild hanswer]
    cases hends with
    | complained hcrash hcomplaint hreports hown =>
      rw [if_pos (by rw [hreports, hown]; rfl), hcomplaint]
      exact ⟨fun _ => ⟨_, rfl, settles_reported hown _ after⟩,
        fun _ h => absurd (hcrash.symm.trans h) nofun⟩
    | crashed hcrash hsilent =>
      rw [if_neg (by rw [hsilent]; exact Bool.false_ne_true)]
      refine ⟨fun h => absurd (hcrash.symm.trans h) nofun, fun other hother => ?_⟩
      cases hcrash.symm.trans hother
      exact ⟨_, rfl⟩

/-- A run over an accepted configuration that does not check paths settles, unless what the arguments
ask for crashes; then it ends as the crash does. -/
theorem loaded_run_settles
    (hload : outcome (Config.load files directory) tree = (.ok config, tree))
    (htrusting : config.verifyPaths = false) (kit : Toolkit) (environment : Environment)
    (clock : String) (arguments : List String)
    (hdirectory : ∀ settings query,
      kit.invocation arguments = .command settings (.ask query) →
      environment.commandDirectory settings.directory = .ok directory) :
    ((kit.invocation arguments).crash? config = none →
      ∃ execution, outcome (run kit files environment clock arguments) tree = (.ok execution, tree) ∧
        execution.Settles ((kit.invocation arguments).complaint? config)) ∧
    ∀ failure, (kit.invocation arguments).crash? config = some failure →
      ∃ records : List Record, outcome (run kit files environment clock arguments) tree =
        outcome (crashed files environment clock failure (records.map .record)) tree := by
  have hquiet : ∀ execution : Execution, (execution.status = 0 ∨ execution.status = 2) →
      (∀ notice ∈ execution.notices, notice.isQuiet = true) → execution.Settles none :=
    fun _ hstatus hnotices => ⟨hstatus, hnotices⟩
  cases hinvocation : kit.invocation arguments with
  | help =>
    refine ⟨fun _ => ⟨⟨0, .help, []⟩, ?_, hquiet _ (.inl rfl) (by simp)⟩, fun _ h => nomatch h⟩
    rw [run, hinvocation]
    rfl
  | version =>
    refine ⟨fun _ => ⟨⟨0, .text (versionText ++ "\n"), []⟩, ?_, hquiet _ (.inl rfl) (by simp)⟩,
      fun _ h => nomatch h⟩
    rw [run, hinvocation]
    rfl
  | misuse =>
    refine ⟨fun _ => ⟨⟨2, .nothing, [.usage]⟩, ?_, hquiet _ (.inr rfl) (by simp [Notice.isQuiet])⟩,
      fun _ h => nomatch h⟩
    rw [run, hinvocation]
    rfl
  | unusableDirectory path =>
    refine ⟨fun h => (nomatch h), fun failure h => ⟨[], ?_⟩⟩
    cases h
    rw [run, hinvocation]
    rfl
  | command settings command =>
    cases command with
    | parse token =>
      refine ⟨fun _ =>
        ⟨_, ?_, settles_parse kit config (loggingOf environment settings) settings token⟩,
        fun _ h => nomatch h⟩
      rw [run, hinvocation]
      rfl
    | ask query =>
      have hasks : Asks kit environment arguments settings query directory :=
        ⟨hinvocation, hdirectory settings query hinvocation⟩
      exact asked_settles hasks hload htrusting

/-- A run over the twins that complains. -/
theorem twins_settle :
    ∃ records : List Record, outcome (run .standard files (environmentAt "/") "" ["value", "L", ""])
        (Config.treeHolding Config.twinsText) =
      (.ok (reported .deviceNameRequired (records.map .record)),
        Config.treeHolding Config.twinsText) := by
  have hasks := asks_value "" (.inr rfl)
  have hdirectory : ∀ settings query,
      Toolkit.standard.invocation ["value", "L", ""] = .command settings (.ask query) →
        (environmentAt "/").commandDirectory settings.directory = .ok Config.rootDirectory := by
    intro settings query hcommand
    rw [hasks.command] at hcommand
    cases hcommand
    exact hasks.directory
  have hruns := loaded_run_settles Config.load_twins rfl .standard (environmentAt "/") "" _ hdirectory
  rw [hasks.command] at hruns
  obtain ⟨execution, hrun, -, records, rfl⟩ := hruns.1 rfl
  exact ⟨records, hrun⟩

/-- A crash tells of its failure and of the error log, and the log is longer afterwards. -/
theorem outcome_crashed {log : Path} {failure : Failure} {notices : List Notice} {after : FileTree}
    (hlog : environment.errorLog = .ok log)
    (hparent : tree.makeDirectories log.parent = (.ok (), tree))
    (happend : tree.appendPrivate log
      (LogEntry.ofFailure clock crashContext failure).text.toUTF8 = .ok after) :
    outcome (crashed files environment clock failure notices) tree =
      (.ok ⟨1, .nothing, notices ++ [.failure failure, .details log]⟩, after) := by
  have hwritten : (files.appendPrivate log
      (LogEntry.ofFailure clock crashContext failure).text.toUTF8).run tree = (.ok (), after) := by
    change FileTree.become (fun tree => tree.appendPrivate log
      (LogEntry.ofFailure clock crashContext failure).text.toUTF8) tree = _
    rw [FileTree.become, happend]
  have hentry : (LogEntry.append files log (.ofFailure clock crashContext failure)).run tree =
      ((), after) := by
    have hmade : (files.makeDirectories log.parent).run tree = (.ok (), tree) := hparent
    rw [LogEntry.append, StateT.run_bind, hmade]
    change (Functor.map (fun _ => ()) (files.appendPrivate log
      (LogEntry.ofFailure clock crashContext failure).text.toUTF8)).run tree = _
    rw [StateT.run_map, hwritten]
    rfl
  rw [crashed, hlog]
  dsimp only
  rw [outcome_lift_bind hentry]
  rfl

/-- The error log beside a configuration in the root directory. -/
def rootLog : Path := ⟨.root, [Environment.logName]⟩

theorem errorLog_environmentAt : (environmentAt "/").errorLog = .ok rootLog := by
  have hgiven : (environmentAt "/").givenDirectory = some Config.rootDirectory := by
    decide +kernel
  have hlog : Config.rootDirectory.child Environment.logName = rootLog := by
    decide +kernel
  rw [Environment.errorLog, hgiven]
  exact congrArg Except.ok hlog

theorem appendPrivate_rootLog (text : String) (content : ByteArray) :
    (Config.treeHolding text).appendPrivate rootLog content =
      .ok ((Config.treeHolding text).put [Environment.logName] (.file (.empty ++ content) 0o600)) := by
  have hvacant : (Config.treeHolding text).entryAt ([] ++ [Environment.logName]) = none := rfl
  have hlocate : (Config.treeHolding text).locate .file rootLog =
      .ok (.vacant [] Environment.logName) := by
    rw [locate, if_neg (by decide +kernel), if_neg (by decide +kernel), if_neg (by decide)]
    dsimp only [rootLog]
    rw [walk_vacant (by decide) (by decide +kernel) hvacant]
    rfl
  rw [appendPrivate, change, hlocate]
  rfl

/-- Asking for the tags of an empty device name leaves an error log behind. -/
theorem twins_tags_unnamed :
    ∃ execution after, outcome (run .standard files (environmentAt "/") "" ["tags", ""])
        (Config.treeHolding Config.twinsText) = (.ok execution, after) ∧
      execution.status = 1 ∧ .details rootLog ∈ execution.notices ∧
      (Config.treeHolding Config.twinsText).entryAt [Environment.logName] = none ∧
      ∃ content, after.entryAt [Environment.logName] = some (.file content 0o600) := by
  have hasks : Asks .standard (environmentAt "/") ["tags", ""] ⟨false, false, none⟩ (.tags "")
      Config.rootDirectory := ⟨by decide +kernel, asks_check.directory⟩
  obtain ⟨memory, hcrash⟩ := outcome_tags_unnamed "" hasks Config.load_twins
  have hpath : Config.fileIn Config.rootDirectory = ⟨.root, [] ++ [Config.fileName]⟩ := by
    decide +kernel
  have hplace := Config.locate_treeHolding Config.twinsText
  rw [hpath] at hplace
  have hparent : (Config.treeHolding Config.twinsText).makeDirectories rootLog.parent =
      (.ok (), Config.treeHolding Config.twinsText) := makeDirectories_above hplace
  rw [outcome_crashed errorLog_environmentAt hparent (appendPrivate_rootLog _ _)] at hcrash
  refine ⟨_, _, hcrash, rfl, List.mem_append_right _ (by simp), rfl, ?_⟩
  rw [entryAt_put _ (by decide), if_pos rfl]
  exact ⟨_, rfl⟩

end Runs

end Cli

end DeviceTags
