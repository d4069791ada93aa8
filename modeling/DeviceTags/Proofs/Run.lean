import DeviceTags.Proofs.Searching

/-!
# Runs

A run starts with nothing and performs one public operation after the other, on records that exist
and with collaborators of the package. Each operation may find any file system and any supply of
memory, and the run goes on after an operation that failed. A run also keeps in which order the tags
arrived in the index: a tag arrives with the operation after which it is on an attached device for
the first time. Whatever happens, the store stays sound. That every cache lists all devices that
point to it is lost with the first registration that breaks off, and with nothing else.
-/

namespace DeviceTags

open Store (Sound Packaged Progress)

/-- A public operation with its arguments. -/
inductive Action where
  | newCache (prober : Option Prober) (verifier : Option Verifier)
  | newDevice (name : String) (priority : Priority) (flags : DeviceFlags)
  | findDevice (c : CacheId) (name : Option String)
  | obtainDevice (c : CacheId) (name : Option String)
  | addDevice (c : CacheId) (d : Option DeviceId)
  | removeDevice (c : CacheId) (d : Option DeviceId)
  | setTag (d : Option DeviceId) (name value : Datum) (replace : Bool)
  | setPriority (d : DeviceId) (priority : Priority)
  | clearChanged (c : CacheId)
  | markChanged (c : CacheId)
  | markProbed (c : CacheId)
  | probe (prober : Prober) (c : CacheId)
  | verify (verifier : Verifier) (c : CacheId) (d : DeviceId)
  | find (c : Option CacheId) (name value : Option String) (prober : Option Prober)
      (verifier : Option Verifier)
  | deviceName (c : Option CacheId) (token value : Option String)

namespace Action

/-- Performs an operation and drops its result. -/
def perform (host : Host) : Action → Op Unit
  | newCache prober verifier => discard (Op.newCache { prober, verifier })
  | newDevice name priority flags => discard (Op.newDevice { name, priority, flags })
  | findDevice c name => discard (Attachment.find c name)
  | obtainDevice c name => discard (Attachment.obtain c name)
  | addDevice c d => Attachment.add c d
  | removeDevice c d => Attachment.remove c d
  | setTag d name value replace => Tagging.set d name value replace
  | setPriority d priority => Op.edit (·.setPriority d priority)
  | clearChanged c => Op.edit (·.clearChanged c)
  | markChanged c => Op.edit (·.markChanged c)
  | markProbed c => Op.edit (·.markProbed c)
  | probe prober c => prober.probe host c
  | verify verifier c d => discard (verifier.verify host c (some d))
  | find c name value prober verifier => discard (Lookup.find host c name value prober verifier)
  | deviceName c token value => discard (Lookup.deviceName host c token value)

/-- The records that an operation names exist, and its collaborators are packaged ones. -/
def Admissible (store : Store) : Action → Prop
  | newCache prober verifier =>
    (∀ p ∈ prober, p.IsPackaged) ∧ ∀ v ∈ verifier, v.IsPackaged
  | newDevice _ _ _ => True
  | findDevice c _ | obtainDevice c _ | clearChanged c | markChanged c | markProbed c =>
    store.caches.Holds c
  | addDevice c d | removeDevice c d =>
    store.caches.Holds c ∧ ∀ e ∈ d, store.devices.Holds e
  | setTag d _ _ _ => ∀ e ∈ d, store.devices.Holds e
  | setPriority d _ => store.devices.Holds d
  | probe prober c => prober.IsPackaged ∧ store.caches.Holds c
  | verify verifier c d =>
    verifier.IsPackaged ∧ store.caches.Holds c ∧ store.devices.Holds d
  | find c _ _ prober verifier =>
    (∀ k ∈ c, store.caches.Holds k) ∧ (∀ p ∈ prober, p.IsPackaged) ∧
      ∀ v ∈ verifier, v.IsPackaged
  | deviceName c _ _ => ∀ k ∈ c, store.caches.Holds k

end Action

/-- The state after an operation, whether it went through or failed. -/
def Op.after {α : Type} (operation : Op α) (memory : Memory) : Memory :=
  match operation memory with
  | .ok _ after => after
  | .error _ after => after

/-- What an operation fails for, if it fails. -/
def Op.failure? {α : Type} (operation : Op α) (memory : Memory) : Option Failure :=
  match operation memory with
  | .ok _ _ => none
  | .error failure _ => some failure

theorem Op.exists_error {α : Type} {operation : Op α} {memory : Memory} {failure : Failure}
    (hfailure : operation.failure? memory = some failure) :
    ∃ after, operation memory = .error failure after := by
  unfold Op.failure? at hfailure
  split at hfailure
  · cases hfailure
  · next hrun =>
    cases hfailure
    exact ⟨_, hrun⟩

/-- The operation does not fail for plain want of memory. Every shortage is taken back and reported as
the want of a resource but one: that of a place in the device list of a cache, which a device points
to by then. -/
def Op.Unbroken {α : Type} (operation : Op α) (memory : Memory) : Prop :=
  (operation.failure? memory).map Failure.kind ≠ some .memory

instance {α : Type} (operation : Op α) (memory : Memory) : Decidable (operation.Unbroken memory) :=
  inferInstanceAs (Decidable (_ ≠ _))

/-- The device that owns a tag is in a cache. -/
def Store.isOnAttached (store : Store) (t : TagId) : Bool :=
  match (store.tag t).device with
  | none => false
  | some d => (store.device d).cache.isSome

/-- The tags that are on attached devices after an operation and were not before it, in the order in
which they were made. -/
def Store.newcomers (before after : Store) : List TagId :=
  ((List.range after.tags.size).map Id.mk).filter fun t =>
    after.isOnAttached t && !before.isOnAttached t

/-- A run that leads to a state, with the tags that arrived in the index, the earliest first. -/
inductive Run : Memory → List TagId → Prop where
  | start : Run {} []
  | step {memory : Memory} {arrivals : List TagId} (host : Host) (supply : Supply)
      (action : Action) (hrun : Run memory arrivals)
      (hadmissible : action.Admissible memory.store) :
      Run ((action.perform host).after { memory with supply })
        (arrivals ++ memory.store.newcomers
          ((action.perform host).after { memory with supply }).store)

/-- Performs operations one after the other and notes the tags that arrive. -/
def Action.performAll (host : Host) (supply : Supply) :
    List Action → Memory × List TagId → Memory × List TagId
  | [], state => state
  | action :: rest, (memory, arrivals) =>
    let after := (action.perform host).after { memory with supply }
    performAll host supply rest (after, arrivals ++ memory.store.newcomers after.store)

/-- Every operation of a list is admissible when its turn comes. -/
def Action.AllAdmissible (host : Host) (supply : Supply) : List Action → Memory → Prop
  | [], _ => True
  | action :: rest, memory =>
    action.Admissible memory.store ∧
      AllAdmissible host supply rest ((action.perform host).after { memory with supply })

/-- No operation of a list breaks a registration off. -/
def Action.AllUnbroken (host : Host) (supply : Supply) : List Action → Memory → Prop
  | [], _ => True
  | action :: rest, memory =>
    (action.perform host).Unbroken { memory with supply } ∧
      AllUnbroken host supply rest ((action.perform host).after { memory with supply })

instance Action.decidableAllUnbroken (host : Host) (supply : Supply) :
    ∀ actions memory, Decidable (Action.AllUnbroken host supply actions memory)
  | [], _ => inferInstanceAs (Decidable True)
  | action :: rest, memory =>
    have := decidableAllUnbroken host supply rest ((action.perform host).after { memory with supply })
    inferInstanceAs (Decidable (_ ∧ _))

/-- A state that some run leads to. -/
def Reachable (memory : Memory) : Prop := ∃ arrivals, Run memory arrivals

/-- A state that a run leads to in which no registration breaks off. -/
inductive Orderly : Memory → Prop where
  | start : Orderly {}
  | step {memory : Memory} (host : Host) (supply : Supply) (action : Action)
      (horderly : Orderly memory) (hadmissible : action.Admissible memory.store)
      (hunbroken : (action.perform host).Unbroken { memory with supply }) :
      Orderly ((action.perform host).after { memory with supply })

theorem Reachable.step {memory : Memory} (hreachable : Reachable memory) (host : Host)
    (supply : Supply) (action : Action) (hadmissible : action.Admissible memory.store) :
    Reachable ((action.perform host).after { memory with supply }) := by
  obtain ⟨arrivals, hrun⟩ := hreachable
  exact ⟨_, hrun.step host supply action hadmissible⟩

theorem Orderly.reachable {memory : Memory} (horderly : Orderly memory) : Reachable memory := by
  induction horderly with
  | start => exact ⟨[], .start⟩
  | step host supply action horderly hadmissible hunbroken ih =>
    exact ih.step host supply action hadmissible

/-! ## One operation -/

/-- What every public operation keeps, and how far the heads move on. -/
structure Store.Steps (before after : Store) : Prop where
  sound : after.Sound
  packaged : after.Packaged
  progress : Progress before after fun t => (before.tag t).head = none
  aliased : before.Aliased → after.Aliased

theorem Does.after {α : Type} {operation : Op α} {memory : Memory} (holds : Memory → Prop)
    (hdoes : Does operation memory (fun _ after => holds after) fun _ after => holds after) :
    holds (operation.after memory) := by
  unfold Op.after
  cases hrun : operation memory with
  | ok value after => exact hdoes.of_ok hrun
  | error failure after => exact hdoes.of_error hrun

/-- An unbroken operation that does not go through fails for anything but plain want of memory. -/
theorem Does.after_of_unbroken {α : Type} {operation : Op α} {memory : Memory}
    (holds : Memory → Prop)
    (hdoes : Does operation memory (fun _ after => holds after) fun failure after =>
      failure.kind ≠ .memory → holds after)
    (hunbroken : operation.Unbroken memory) : holds (operation.after memory) := by
  unfold Op.Unbroken Op.failure? at hunbroken
  unfold Op.after
  cases hrun : operation memory with
  | ok value after => exact hdoes.of_ok hrun
  | error failure after =>
    rw [hrun] at hunbroken
    exact hdoes.of_error hrun fun hkind => hunbroken (congrArg some hkind)

theorem Does.after_of_broken {α : Type} {operation : Op α} {memory : Memory}
    (holds : Memory → Prop)
    (hdoes : Does operation memory (fun _ _ => True) fun failure after =>
      failure.kind = .memory → holds after)
    (hbroken : ¬ operation.Unbroken memory) : holds (operation.after memory) := by
  unfold Op.Unbroken Op.failure? at hbroken
  unfold Op.after
  cases hrun : operation memory with
  | ok value after =>
    rw [hrun] at hbroken
    exact absurd nofun hbroken
  | error failure after =>
    rw [hrun] at hbroken
    exact hdoes.of_error hrun (by simpa using hbroken)

section Steps

variable {memory : Memory} {α : Type} {operation : Op α} {result : α → Memory → Prop}

/-- The operation keeps what every public operation keeps. It leaves no device half registered,
unless it fails for plain want of memory. -/
def Stepping (operation : Op α) (memory : Memory) : Prop :=
  Does operation memory
    (fun _ after => memory.store.Steps after.store ∧
      ∀ c, memory.store.Registered c → after.store.Registered c)
    fun failure after => memory.store.Steps after.store ∧
      (failure.kind ≠ .memory → ∀ c, memory.store.Registered c → after.store.Registered c) ∧
      (failure.kind = .memory → (∀ c, memory.store.Registered c) → after.store.HalfRegistered)

theorem Store.Onward.steps {before after : Store} (honward : before.Onward after)
    (hpackaged : before.Packaged) : before.Steps after where
  sound := honward.sound
  packaged := hpackaged.of_same honward.collaborators
  progress := honward.progress.mono fun t hnew => by
    rw [Store.tag_of_not_holds hnew]
    rfl
  aliased := honward.aliased

theorem Advances.stepping (hadvances : Advances Memory.store operation memory result)
    (hpackaged : memory.store.Packaged) : Stepping operation memory :=
  Does.mono hadvances
    (fun _ _ hdone => ⟨hdone.1.toOnward.steps hpackaged, hdone.1.registered⟩)
    fun _ _ hfailed => ⟨hfailed.toOnward.steps hpackaged, hfailed.registered, hfailed.half⟩

theorem Advances.discard (hadvances : Advances Memory.store operation memory result) :
    Advances Memory.store (Functor.discard operation) memory fun _ _ => True :=
  Does.discard (Does.mono hadvances (fun _ _ hdone => ⟨hdone.1, trivial⟩) fun _ _ h => h)

theorem Store.Packaged.addCache {store : Store} (hpackaged : store.Packaged)
    {prober : Option Prober} {verifier : Option Verifier} (hprober : ∀ p ∈ prober, p.IsPackaged)
    (hverifier : ∀ v ∈ verifier, v.IsPackaged) :
    ({ store with caches := store.caches.add { prober, verifier } } : Store).Packaged := by
  constructor
  all_goals
    intro c
    rw [Store.cache, Table.get_add]
    split
  · exact hprober
  · exact hpackaged.prober c
  · exact hverifier
  · exact hpackaged.verifier c

theorem steps_newCache (hsound : memory.store.Sound) (hpackaged : memory.store.Packaged)
    {prober : Option Prober} {verifier : Option Verifier} (hprober : ∀ p ∈ prober, p.IsPackaged)
    (hverifier : ∀ v ∈ verifier, v.IsPackaged) :
    memory.store.Steps { memory.store with
      caches := memory.store.caches.add { prober, verifier } } where
  sound := hsound.of_sameIndex (Store.sameIndex_addCache prober verifier)
  packaged := hpackaged.addCache hprober hverifier
  progress := (Progress.of_sameLinks
    (Store.sameIndex_addCache prober verifier).toSameLinks).mono fun _ => False.elim
  aliased haliased := ⟨haliased.behind, haliased.first⟩

/-- A device that is attached brings in tags that were in no head. -/
theorem stepping_add (hsound : memory.store.Sound) (hpackaged : memory.store.Packaged)
    {c : CacheId} {d : Option DeviceId} (hc : memory.store.caches.Holds c)
    (hd : ∀ e ∈ d, memory.store.devices.Holds e) :
    Stepping (Attachment.add c d) memory := by
  refine (does_add hsound hc hd).mono (fun _ after hafter => ?_) fun failure after hafter => ?_
  · obtain ⟨e, he, ⟨-, hkept⟩ | ⟨hinvites, hstore⟩⟩ := hafter
    · rw [hkept]
      exact ⟨(Store.Advance.refl hsound).toOnward.steps hpackaged, fun _ => id⟩
    · rw [hstore]
      refine ⟨?_, fun _ hregistered => hregistered.attach hc (hd e he)⟩
      exact
        { sound := hsound.attach hc (hd e he) hinvites
          packaged := hpackaged.of_same (Store.sameCollaborators_attach hc e)
          progress := (hsound.progress_attach hc hinvites).mono fun _ ht => ht.2
          aliased := fun haliased => haliased.attach hsound (hd e he) c }
  · obtain ⟨hrestored, hkind⟩ | ⟨rfl, -, e, he, hinvites, hstore⟩ := hafter
    · have hfails := hsound.fails_restored hrestored hkind
      exact ⟨hfails.toOnward.steps hpackaged, hfails.registered, hfails.half⟩
    · rw [hstore]
      refine ⟨?_, fun hkind => absurd rfl hkind, fun _ hregistered =>
        hsound.halfRegistered_connect hregistered hc (hd e he) hinvites⟩
      exact
        { sound := hsound.connect hc (hd e he) hinvites
          packaged := hpackaged.of_same (Store.sameCollaborators_connect hc e)
          progress := (hsound.progress_connect hc hinvites).mono fun _ ht => ht.2
          aliased := fun haliased => haliased.connect hsound (hd e he) c }

theorem Action.stepping (action : Action) (host : Host) (memory : Memory)
    (hsound : memory.store.Sound) (hpackaged : memory.store.Packaged)
    (hadmissible : action.Admissible memory.store) : Stepping (action.perform host) memory := by
  cases action with
  | newCache prober verifier =>
    exact ⟨steps_newCache hsound hpackaged hadmissible.1 hadmissible.2,
      fun _ => (Store.sameIndex_addCache prober verifier).sameMembers.registered⟩
  | newDevice name priority flags =>
    exact (advances_newDevice hsound name priority flags).discard.stepping hpackaged
  | findDevice c name =>
    have hfind : Advances Memory.store (Attachment.find c name) memory fun _ _ => True := by
      unfold Attachment.find
      refine (advances_checked hsound (kind_requireDeviceName name)).bind
        fun n _ hread _ => ?_
      exact (advances_look hread.sound _).mono fun _ _ _ => trivial
    exact hfind.discard.stepping hpackaged
  | obtainDevice c name =>
    exact (advances_obtain hsound hadmissible name).discard.stepping hpackaged
  | addDevice c d => exact stepping_add hsound hpackaged hadmissible.1 hadmissible.2
  | removeDevice c d => exact (advances_remove hsound d).stepping hpackaged
  | setTag d name value replace =>
    exact (advances_set hsound hadmissible name value replace).stepping hpackaged
  | setPriority d priority =>
    exact (advances_edit (·.setPriority d priority) hsound
      (Store.sameIndex_setPriority d priority)
      (Store.sameCollaborators_of_caches fun _ => rfl)
      (Store.sameAliases_setPriority d priority)).stepping hpackaged
  | clearChanged c =>
    exact (advances_edit (·.clearChanged c) hsound (Store.sameIndex_clearChanged c)
      (Store.sameCollaborators_updateCache c fun _ => ⟨rfl, rfl⟩)
      (Store.sameAliases_clearChanged c)).stepping hpackaged
  | markChanged c =>
    exact (advances_edit (·.markChanged c) hsound (Store.sameIndex_markChanged c)
      (Store.sameCollaborators_markChanged c) (Store.sameAliases_markChanged c)).stepping hpackaged
  | markProbed c =>
    exact (advances_edit (·.markProbed c) hsound (Store.sameIndex_markProbed c)
      sameCollaborators_markProbed (Store.sameAliases_markProbed c)).stepping hpackaged
  | probe prober c =>
    exact (advances_prober host hadmissible.1 hsound hadmissible.2).stepping hpackaged
  | verify verifier c d =>
    exact (advances_verifier host hadmissible.1 hsound (some d)).discard.stepping hpackaged
  | find c name value prober verifier =>
    obtain ⟨hc, hprober, hverifier⟩ := hadmissible
    exact (advances_find host name value hsound hpackaged hc hprober hverifier).discard.stepping
      hpackaged
  | deviceName c token value =>
    exact (advances_deviceName host token value hsound hpackaged hadmissible).discard.stepping
      hpackaged

/-- Every admissible operation keeps the store sound, on whatever file system and supply. -/
theorem Action.steps (action : Action) (host : Host) (memory : Memory)
    (hsound : memory.store.Sound) (hpackaged : memory.store.Packaged)
    (hadmissible : action.Admissible memory.store) :
    memory.store.Steps ((action.perform host).after memory).store := by
  refine Does.after (fun after => memory.store.Steps after.store) ?_
  exact (action.stepping host memory hsound hpackaged hadmissible).mono
    (fun _ _ hdone => hdone.1) fun _ _ hfailed => hfailed.1

/-- Unless a registration breaks off, a cache that lists all devices that point to it goes on to
list them. -/
theorem Action.registered_of_unbroken (action : Action) (host : Host) (memory : Memory)
    (hsound : memory.store.Sound) (hpackaged : memory.store.Packaged)
    (hadmissible : action.Admissible memory.store)
    (hunbroken : (action.perform host).Unbroken memory) {c : CacheId}
    (hregistered : memory.store.Registered c) :
    ((action.perform host).after memory).store.Registered c := by
  refine Does.after_of_unbroken (fun after => after.store.Registered c) ?_ hunbroken
  exact (action.stepping host memory hsound hpackaged hadmissible).mono
    (fun _ _ hdone => hdone.2 c hregistered) fun _ _ hfailed hkind =>
      hfailed.2.1 hkind c hregistered

/-- A registration that breaks off leaves a device half registered, whatever operation it is part
of. -/
theorem Action.halfRegistered_of_broken (action : Action) (host : Host) (memory : Memory)
    (hsound : memory.store.Sound) (hpackaged : memory.store.Packaged)
    (hadmissible : action.Admissible memory.store) (hregistered : ∀ c, memory.store.Registered c)
    (hbroken : ¬ (action.perform host).Unbroken memory) :
    ((action.perform host).after memory).store.HalfRegistered := by
  refine Does.after_of_broken (fun after => after.store.HalfRegistered) ?_ hbroken
  exact (action.stepping host memory hsound hpackaged hadmissible).mono (fun _ _ _ => trivial)
    fun _ _ hfailed hkind => hfailed.2.2 hkind hregistered

end Steps

/-! ## Whole runs -/

/-- A store without records is sound. -/
theorem Store.sound_empty : ({} : Store).Sound := by
  have htag : ∀ t, ({} : Store).tag t = default := fun t => tag_of_not_holds (Nat.not_lt_zero _)
  have hhead : ∀ h, ({} : Store).head h = default := fun h => head_of_not_holds (Nat.not_lt_zero _)
  have hdevice : ∀ d, ({} : Store).device d = default :=
    fun d => Table.get_of_not_holds (Nat.not_lt_zero _)
  have hcache : ∀ c, ({} : Store).cache c = default :=
    fun c => Table.get_of_not_holds (Nat.not_lt_zero _)
  refine ⟨?_, by simp [hdevice, default], by simp [hcache, default], by simp [hcache, default]⟩
  constructor
  case headNamed => simp [hcache, default]
  all_goals simp [htag, hhead, hdevice, hcache, headNames, default]

theorem Store.packaged_empty : ({} : Store).Packaged := by
  have hcache : ∀ c, ({} : Store).cache c = default :=
    fun c => Table.get_of_not_holds (Nat.not_lt_zero _)
  constructor <;> simp [hcache, default]

theorem Run.sound {memory : Memory} {arrivals : List TagId} (hrun : Run memory arrivals) :
    memory.store.Sound ∧ memory.store.Packaged := by
  induction hrun with
  | start => exact ⟨Store.sound_empty, Store.packaged_empty⟩
  | @step memory arrivals host supply action hrun hadmissible ih =>
    have hsteps := action.steps host { memory with supply } ih.1 ih.2 hadmissible
    exact ⟨hsteps.sound, hsteps.packaged⟩

theorem Store.registered_empty (c : CacheId) : ({} : Store).Registered c := by
  intro d hpointed
  have hdevice : ({} : Store).device d = default := Table.get_of_not_holds (Nat.not_lt_zero _)
  rw [hdevice] at hpointed
  cases hpointed

/-- As long as no registration breaks off, every cache lists all devices that point to it. -/
theorem Orderly.registered {memory : Memory} (horderly : Orderly memory) (c : CacheId) :
    memory.store.Registered c := by
  induction horderly with
  | start => exact Store.registered_empty c
  | @step memory host supply action horderly hadmissible hunbroken ih =>
    obtain ⟨_, hrun⟩ := horderly.reachable
    obtain ⟨hsound, hpackaged⟩ := hrun.sound
    exact action.registered_of_unbroken host { memory with supply } hsound hpackaged hadmissible
      hunbroken ih

theorem Store.aliased_empty : ({} : Store).Aliased := by
  have hdevice : ∀ d, ({} : Store).device d = default :=
    fun d => Table.get_of_not_holds (Nat.not_lt_zero _)
  constructor
  · intro d which t hbehind
    rw [hdevice] at hbehind
    cases which <;> cases hbehind
  · intro d t hfirst
    rw [Store.firstTag?, hdevice] at hfirst
    cases hfirst

/-- Along every run the direct accesses agree with the tags. -/
theorem Run.aliased {memory : Memory} {arrivals : List TagId} (hrun : Run memory arrivals) :
    memory.store.Aliased := by
  induction hrun with
  | start => exact Store.aliased_empty
  | @step memory arrivals host supply action hrun hadmissible ih =>
    obtain ⟨hsound, hpackaged⟩ := hrun.sound
    exact (action.steps host { memory with supply } hsound hpackaged hadmissible).aliased ih

theorem Reachable.aliased {memory : Memory} (hreachable : Reachable memory) :
    memory.store.Aliased := by
  obtain ⟨arrivals, hrun⟩ := hreachable
  exact hrun.aliased

/-- A run goes on with any list of admissible operations. -/
theorem Run.performAll {memory : Memory} {arrivals : List TagId} (hrun : Run memory arrivals)
    (host : Host) (supply : Supply) (actions : List Action)
    (hadmissible : Action.AllAdmissible host supply actions memory) :
    Run (Action.performAll host supply actions (memory, arrivals)).1
      (Action.performAll host supply actions (memory, arrivals)).2 := by
  induction actions generalizing memory arrivals with
  | nil => exact hrun
  | cons action rest ih =>
    obtain ⟨hfirst, hrest⟩ := hadmissible
    exact ih (hrun.step host supply action hfirst) hrest

/-- A run stays orderly as long as no operation breaks off. -/
theorem Orderly.performAll {memory : Memory} {arrivals : List TagId} (horderly : Orderly memory)
    (host : Host) (supply : Supply) (actions : List Action)
    (hadmissible : Action.AllAdmissible host supply actions memory)
    (hunbroken : Action.AllUnbroken host supply actions memory) :
    Orderly (Action.performAll host supply actions (memory, arrivals)).1 := by
  induction actions generalizing memory arrivals with
  | nil => exact horderly
  | cons action rest ih =>
    obtain ⟨hfirst, hrest⟩ := hadmissible
    obtain ⟨hunbroken, hlater⟩ := hunbroken
    exact ih (horderly.step host supply action hfirst hunbroken) hrest hlater

/-- A host that knows every path and brings no collaborators. -/
def Host.bare : Host where
  contains _ := .ok true
  probe _ _ := pure ()
  verify _ _ d := pure d

/-- Two devices with the same label. The first one is tagged first but attached last. -/
def lateAttachment : List Action :=
  [.newCache none none, .newDevice "/dev/sda1" .default {}, .newDevice "/dev/sdb1" .default {},
    .setTag (some ⟨0⟩) (.string "LABEL") (.string "data") false,
    .addDevice ⟨0⟩ (some ⟨1⟩),
    .setTag (some ⟨1⟩) (.string "LABEL") (.string "data") false,
    .addDevice ⟨0⟩ (some ⟨0⟩)]

/-- The state after the late attachment, and the tags in the order of their arrival. -/
def lateAttached : Memory × List TagId :=
  Action.performAll .bare .unlimited lateAttachment ({}, [])

theorem admissible_lateAttachment :
    Action.AllAdmissible .bare .unlimited lateAttachment {} := by
  refine ⟨⟨by simp, by simp⟩, trivial, trivial, ?_, ⟨by decide, ?_⟩, ?_, ⟨by decide, ?_⟩, trivial⟩
  all_goals
    intro e he
    cases he
    decide

theorem run_lateAttached : Run lateAttached.1 lateAttached.2 :=
  Run.start.performAll .bare .unlimited lateAttachment admissible_lateAttachment

theorem orderly_lateAttached : Orderly lateAttached.1 :=
  Orderly.start.performAll .bare .unlimited lateAttachment admissible_lateAttachment
    (by decide +kernel)

end DeviceTags
