import DeviceTags.Cli.Execution
import DeviceTags.Proofs.Config.Loading

/-!
# Queries over a file tree

Where a configuration can be loaded, a run of a query asks the cache that is built of it, with a host
that knows which of the declared devices have a path. Neither changes the file tree.
-/

namespace DeviceTags.Cli

open FileTree

variable {kit : Toolkit} {tree : FileTree} {environment : Environment} {clock : String}
  {arguments : List String} {settings : Settings} {query : Query} {directory : Path}
  {config : Config}

/-- The paths of declared devices, each with whether it is there. -/
def pathsIn (tree : FileTree) (specs : List DeviceSpec) : List (Path × Except FileError Bool) :=
  specs.map fun spec => (devicePath none spec.name, tree.contains (devicePath none spec.name))

/-- The host that a query over a file tree knows. -/
def hostOf (tree : FileTree) (config : Config) : Host := hostKnowing (pathsIn tree config.devices)

theorem existingPaths_run (specs : List DeviceSpec) :
    (existingPaths files specs).run tree = (pathsIn tree specs, tree) := by
  induction specs with
  | nil => rfl
  | cons spec rest ih =>
    unfold existingPaths
    rw [StateT.run_bind]
    change ((existingPaths files rest >>= fun more => _).run tree) = _
    rw [StateT.run_bind, ih]
    rfl

/-- The arguments ask a query of the configuration of a directory. -/
structure Asks (kit : Toolkit) (environment : Environment) (arguments : List String)
    (settings : Settings) (query : Query) (directory : Path) : Prop where
  command : kit.invocation arguments = .command settings (.ask query)
  directory : environment.commandDirectory settings.directory = .ok directory

/-- A run that asks a query asks the cache of the configuration. -/
theorem outcome_run (hasks : Asks kit environment arguments settings query directory)
    (hload : outcome (Config.load files directory) tree = (.ok config, tree)) :
    outcome (run kit files environment clock arguments) tree =
      outcome (askCache kit files environment clock (loggingOf environment settings) settings.json
        query (hostOf tree config) config) tree := by
  have hcreate := Config.outcome_loadOrCreate kit.writer hload
  unfold run
  rw [hasks.command]
  dsimp only
  unfold runQuery
  rw [hasks.directory]
  dsimp only
  rw [outcome_lift_bind hcreate]
  exact outcome_lift_bind (existingPaths_run config.devices)

/-- What a query answers is what the run prints. -/
theorem outcome_askCache {logging : Logging} {json : Bool} {host : Host} {c : CacheId}
    {built after : Memory} {reply : Reply} (hbuild : config.buildCache {} = .ok c built)
    (hanswer : query.answer host json c built = .ok reply after) :
    outcome (askCache kit files environment clock logging json query host config) tree =
      (.ok (reply.execution kit.shown (recordNotices logging after)), tree) := by
  unfold askCache
  rw [hbuild]
  dsimp only
  rw [hanswer]
  rfl

/-- Where a query fails, the run reports the failure if it is one that the query expects, and crashes
otherwise. -/
theorem outcome_askCache_failed {logging : Logging} {json : Bool} {host : Host} {c : CacheId}
    {built after : Memory} {failure : Failure} (hbuild : config.buildCache {} = .ok c built)
    (hanswer : query.answer host json c built = .error failure after) :
    outcome (askCache kit files environment clock logging json query host config) tree =
      if query.reportsFailures && failure.isOwn then
        (.ok (reported failure (recordNotices logging after)), tree)
      else outcome (crashed files environment clock failure (recordNotices logging after)) tree := by
  unfold askCache
  rw [hbuild]
  dsimp only
  rw [hanswer]
  dsimp only
  split <;> rfl

/-- An environment that says where the configuration is. -/
def environmentAt (directory : String) : Environment where
  directory := some directory
  verbose := none
  home := none
  homeOf _ := none

theorem asks_check : Asks .standard (environmentAt "/") ["check"] ⟨false, false, none⟩ .check
    Config.rootDirectory where
  command := by decide +kernel
  directory := by
    have hgiven : (environmentAt "/").givenDirectory = some Config.rootDirectory := by
      decide +kernel
    rw [Environment.commandDirectory, hgiven]

end DeviceTags.Cli
