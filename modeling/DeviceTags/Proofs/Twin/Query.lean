import DeviceTags.Proofs.Cli.Query
import DeviceTags.Proofs.Twin.Inquiry

/-!
# Queries of a cache that is filled now or later

Every query of the command line fills the cache before it looks at it, or asks the lookup that does.
So a query gives the same reply whether the cache waits to be filled or was filled at once, and a run
prints the same.
-/

namespace DeviceTags.Cli

open Store FileTree

variable {host : Host} {json : Bool} {c : CacheId} {p : Prober} {given : Verifier}
  {inventory : Inventory} {start filled first second : Memory}

/-! ## Filling the cache -/

/-- The listing commands fill the cache that waits for it, and leave the one that is full. -/
theorem first_ensureProbed (host : Host) (hfilling : Filling inventory c start filled)
    (hawaits : Memory.Awaits inventory c given start filled first second) :
    EndAlike (Memory.Alike c (some (.inventory inventory)) (some given) True)
      (ensureProbed host c first) (ensureProbed host c second) := by
  obtain ⟨after, hprobe, halike⟩ := hawaits.fill hfilling
  have hfirst : ensureProbed host c first = .ok () after := by
    rw [ensureProbed, Op.cache, Op.bind_of_ok (Op.look_apply _ _), hawaits.alike.guided,
      hawaits.unprobed hfilling]
    exact hprobe
  have hsecond : ensureProbed host c second = .ok () second := by
    rw [ensureProbed, Op.cache, Op.bind_of_ok (Op.look_apply _ _), halike.unguided]
    rfl
  rw [hfirst, hsecond]
  exact ⟨rfl, halike⟩

/-! ## What is read of a full cache -/

section Reading

variable {prober : Option Prober} {verifier : Option Verifier} {known : Prop}

theorem problems_withProber (store : Store) :
    Audit.problems (store.withProber c prober) c = Audit.problems store c := by
  have hlink : Audit.linkProblems (store.withProber c prober) c = Audit.linkProblems store c := by
    funext device t
    unfold Audit.linkProblems
    simp only [headOf?_withProber]
    rfl
  have howner : Audit.ownerProblems (store.withProber c prober) c = Audit.ownerProblems store c := by
    funext name t
    unfold Audit.ownerProblems
    simp only [devices_withProber]
    rfl
  unfold Audit.problems
  rw [devices_withProber, heads_withProber]
  unfold Audit.deviceProblems Audit.tagProblems Audit.headProblems Audit.entryProblems
  rw [hlink, howner]
  rfl

theorem respects_store_bind {β : Type} {next : Store → Op β}
    (hnext : ∀ store : Store, next (store.withProber c prober) = next store)
    (hrespects : ∀ store, Respects (Memory.Alike c prober verifier known) (next store)) :
    Respects (Memory.Alike c prober verifier known) (Op.look id >>= next) := by
  intro first second halike
  change EndAlike _ (next first.store first) (next second.store second)
  rw [halike.store, hnext]
  exact hrespects _ first second halike

theorem respects_tagValue (name : Datum) (device : Option String) :
    Respects (Memory.Alike c prober verifier known) (Lookup.tagValue (some c) name device) := by
  unfold Lookup.tagValue
  refine (respects_findDevice c device).bind fun found => ?_
  cases found with
  | none => exact .pure none
  | some d =>
    have hfind : Respects (Memory.Alike c prober verifier known) (Tagging.find (some d) name) := by
      refine (respects_requireDevice _).bind fun d => (respects_checked _).bind fun name => ?_
      exact respects_look fun _ => rfl
    refine hfind.bind fun found => ?_
    cases found with
    | none => exact .pure none
    | some t => exact respects_look_bind (fun _ => rfl) fun tag => .pure _

end Reading

/-! ## Queries -/

/-- A query gives the same reply for the cache that waits to be filled and for the full one. -/
theorem answer_alike (host : Host) (json : Bool) (hgiven : ∀ number, given ≠ .custom number)
    (hfilling : Filling inventory c start filled)
    (hawaits : Memory.Awaits inventory c given start filled first second) (query : Query) :
    EndAlike (fun _ _ => True) (query.answer host json c first) (query.answer host json c second) := by
  have hready := first_ensureProbed host hfilling hawaits
  cases query with
  | find token value =>
    have hname : EndAlike (fun _ _ => True)
        ((Inquiry.deviceName (some token) value).answer host c first)
        ((Inquiry.deviceName (some token) value).answer host c second) := by
      cases hsearch : (Inquiry.deviceName (some token) value).searches with
      | true =>
        exact (Inquiry.first_answer host hgiven hfilling hawaits hsearch).mono fun _ _ _ => trivial
      | false => exact Inquiry.answer_unsearched host c hsearch fun _ _ _ _ => trivial
    refine hname.bind (fun found => ?_) fun _ _ _ => trivial
    cases found with
    | none => exact Respects.pure _
    | some name => exact Respects.pure _
  | tags device =>
    refine hready.followed fun _ => (respects_findDevice c _).bind fun found => ?_
    cases found with
    | none => exact .pure _
    | some d => exact respects_look_bind (fun _ => rfl) fun pairs => .pure _
  | value name device =>
    refine hready.followed fun _ => (respects_tagValue _ _).bind fun found => ?_
    cases found with
    | none => exact .pure _
    | some text => exact .pure _
  | list =>
    refine hready.followed fun _ => ?_
    refine respects_cache_bind c (fun _ _ => rfl) fun cache => ?_
    refine respects_store_bind (fun _ => rfl) fun store => ?_
    split
    · split
      · exact .pure _
      · exact .throw _
    · split
      · exact .pure _
      · exact .pure _
  | check =>
    refine hready.followed fun _ => respects_look_bind problems_withProber fun problems => ?_
    exact respects_cache_bind c (fun _ _ => rfl) fun cache => .pure _

/-! ## Runs -/

section Runs

variable {kit : Toolkit} {tree other : FileTree} {environment : Environment} {clock : String}
  {config : Config} {query : Query}

/-- What a run shows to the caller: its status and its output. -/
def Execution.shown (execution : Execution) : Nat × Output := (execution.status, execution.output)

/-- What a run shows over a file tree, unless it fails. -/
def shownBy (operation : ExceptT Failure (StateM FileTree) Execution) (tree : FileTree) :
    Except Failure (Nat × Output) :=
  (outcome operation tree).1.map Execution.shown

/-- A crash shows the same over every tree and with whatever notices. -/
theorem shownBy_crashed (tree : FileTree) (failure : Failure) (notices : List Notice) :
    shownBy (crashed files environment clock failure notices) tree =
      environment.errorLog.map fun _ => (1, .nothing) := by
  unfold shownBy crashed
  cases environment.errorLog with
  | error unknown => rfl
  | ok log =>
    rcases happend : (LogEntry.append files log
      (.ofFailure clock crashContext failure)).run tree with ⟨_, after⟩
    dsimp only
    rw [outcome_lift_bind happend]
    rfl

/-- A run that asks no query shows the same over every tree. -/
theorem shownBy_run_unasked {arguments : List String}
    (hunasked : ∀ settings query directory,
      ¬ Asks kit environment arguments settings query directory) (tree other : FileTree) :
    shownBy (run kit files environment clock arguments) tree =
      shownBy (run kit files environment clock arguments) other := by
  unfold run
  cases hcommand : kit.invocation arguments with
  | help => rfl
  | version => rfl
  | misuse => rfl
  | unusableDirectory directory =>
    dsimp only
    rw [shownBy_crashed, shownBy_crashed]
  | command settings command =>
    cases command with
    | parse token => rfl
    | ask query =>
      dsimp only
      unfold runQuery
      cases hdirectory : environment.commandDirectory settings.directory with
      | error failure =>
        dsimp only
        rw [shownBy_crashed, shownBy_crashed]
      | ok directory => exact absurd ⟨hcommand, hdirectory⟩ (hunasked settings query directory)

theorem shownBy_askCache {early : Config} {logging : Logging} {first second : Memory}
    (hfirst : config.buildCache {} = .ok c first) (hsecond : early.buildCache {} = .ok c second)
    (hends : EndAlike (fun _ _ => True) (query.answer host json c first)
      (query.answer host json c second)) :
    shownBy (askCache kit files environment clock logging json query host config) tree =
      shownBy (askCache kit files environment clock logging json query host early) other := by
  unfold askCache
  rw [hfirst, hsecond]
  dsimp only
  unfold EndAlike at hends
  split at hends
  · next hreply hreply' =>
    rw [hreply, hreply', hends.1]
    rfl
  · next hfailed hfailed' =>
    rw [hfailed, hfailed', hends.1]
    dsimp only
    split
    · rfl
    · rw [shownBy_crashed, shownBy_crashed]
  · exact hends.elim

end Runs

end DeviceTags.Cli
