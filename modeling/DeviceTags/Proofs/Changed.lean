import DeviceTags.Proofs.Atomicity
import DeviceTags.Proofs.Changes
import DeviceTags.Proofs.Inventory.Along
import DeviceTags.Proofs.Store.Latest
import DeviceTags.Proofs.Store.Removed

/-!
# No modification goes unmarked

What a cache has to save is which devices it has, in order, and which pairs each of them carries. In
every run, an operation after which this differs has marked the cache as changed, also where it
failed on its way. Nothing but the operation that is there for it takes a mark away, and operations
that have nothing to do, or that take back what they did, leave the flags of all caches alone.
-/

namespace DeviceTags

open Store (Sound Beside Change Restored Extends)

namespace Store

/-- The devices of a cache, each with its pairs. -/
def contents (store : Store) (c : CacheId) : List (DeviceId × List (String × String)) :=
  (store.cache c).devices.map fun d => (d, store.pairs d)

/-- No mark is taken away, and every cache with other contents has one. -/
structure Remembers (before after : Store) : Prop where
  lasting : ∀ c, (before.cache c).changed = true → (after.cache c).changed = true
  marked : ∀ c, after.contents c ≠ before.contents c → (after.cache c).changed = true

variable {store before middle after : Store} {c k : CacheId} {d : DeviceId} {name : String}

theorem contents_congr (hdevices : (after.cache c).devices = (before.cache c).devices)
    (hpairs : ∀ d ∈ (before.cache c).devices, after.pairs d = before.pairs d) :
    after.contents c = before.contents c := by
  unfold contents
  rw [hdevices]
  exact List.map_congr_left fun d hd => by rw [hpairs d hd]

theorem Remembers.refl (store : Store) : Remembers store store :=
  ⟨fun _ => id, fun _ hdiffers => absurd rfl hdiffers⟩

theorem Remembers.trans (hfirst : Remembers before middle) (hsecond : Remembers middle after) :
    Remembers before after where
  lasting c hchanged := hsecond.lasting c (hfirst.lasting c hchanged)
  marked c hdiffers := by
    by_cases hsame : middle.contents c = before.contents c
    · exact hsecond.marked c (hsame ▸ hdiffers)
    · exact hsecond.lasting c (hfirst.marked c hsame)

theorem holds_cache_of_changed (hchanged : (store.cache k).changed = true) :
    store.caches.Holds k := by
  by_contra hmissing
  rw [cache, Table.get_of_not_holds hmissing] at hchanged
  cases hchanged

/-- A mark is kept by whatever cache is marked next. -/
theorem changed_markChanged (c : CacheId) (hchanged : (store.cache k).changed = true) :
    ((store.markChanged c).cache k).changed = true := by
  have hheld := holds_cache_of_changed hchanged
  by_cases hk : k = c
  · subst hk
    rw [markChanged, cache_updateCache_self store hheld]
  · rw [markChanged, cache_updateCache_of_ne store hk, hchanged]

theorem changed_markDeviceChanged (d : DeviceId) (hchanged : (store.cache k).changed = true) :
    ((store.markDeviceChanged d).cache k).changed = true := by
  unfold markDeviceChanged
  split
  · exact hchanged
  · exact changed_markChanged _ hchanged

/-! ## Changes beside the tags -/

theorem Beside.changed (hbeside : Beside before after)
    (hchanged : (before.cache k).changed = true) : (after.cache k).changed = true := by
  cases hbeside with
  | restored hrestored => rw [hrestored.cache, hchanged]
  | newCache prober verifier =>
    rw [cache_add_of_holds before (holds_cache_of_changed hchanged), hchanged]
  | markProbed c => rw [changed_markProbed, hchanged]
  | markChanged c => exact changed_markChanged c hchanged
  | _ => exact hchanged

theorem Beside.pairs (hbeside : Beside before after) (hsound : before.Sound) (d : DeviceId) :
    after.pairs d = before.pairs d := by
  refine pairs_congr (hbeside.sameIndex.deviceTags d) fun t ht => ?_
  rw [hbeside.tag (holds_tag_of_device ((hsound.linked.listed d t).mp ht))]
  exact ⟨rfl, rfl⟩

theorem Beside.remembers (hbeside : Beside before after) (hsound : before.Sound) :
    Remembers before after where
  lasting _ := hbeside.changed
  marked c hdiffers :=
    absurd (contents_congr (hbeside.sameIndex.cacheDevices c) fun d _ => hbeside.pairs hsound d)
      hdiffers

/-! ## Setting a tag -/

/-- Once the tags of a device are revised, its cache is marked. Other caches do not have it. -/
theorem Revises.remembers {revision : Revision} (hrevises : Revises d name revision before middle)
    (hsound : before.Sound) (hlasting : Extends before middle)
    (hsame : ∀ k, (middle.cache k).changed = (before.cache k).changed) (link : Option TagId)
    (hd : middle.devices.Holds d) :
    Remembers before ((middle.linkAlias d name link).markDeviceChanged d) where
  lasting k hchanged := by
    refine changed_markDeviceChanged d ?_
    rw [cache_linkAlias, hsame, hchanged]
  marked c hdiffers := by
    have hfinished := hrevises.finish hd link
    by_cases hcache : (before.device d).cache = some c
    · have hc := hlasting.holds_cache (hsound.held _ _ hcache)
      exact changed_finish (hrevises.look.2.2.trans hcache) hc name
    · -- The device is in another cache or in none, and all other devices keep their tags.
      refine absurd (contents_congr (hfinished.devices c) fun e he => ?_) hdiffers
      have hne : e ≠ d := by
        rintro rfl
        exact hcache (hsound.attached c e he)
      refine pairs_congr (by rw [hfinished.otherDevices e hne]) fun t ht => ?_
      have howner := (hsound.linked.listed e t).mp ht
      rw [hfinished.otherTags t (holds_tag_of_device howner) fun hother => ?_]
      · exact ⟨rfl, rfl⟩
      · rw [howner] at hother
        exact absurd (Option.some.inj hother) hne

/-- Linking a tag changes nothing of a cache but which heads it has. -/
theorem field_linkTag {β : Type} (field : Cache → β)
    (hkeep : ∀ cache heads, field { cache with heads } = field cache) (store : Store) (c : CacheId)
    (t : TagId) (k : CacheId) :
    field ((store.linkTag c t).cache k) = field (store.cache k) := by
  change field ((store.ensureHead c (store.tag t).name).cache k) = _
  unfold ensureHead
  split
  · rfl
  · exact Table.field_update field (fun cache => hkeep cache _) store.caches c k

theorem field_linkMissing {β : Type} (field : Cache → β)
    (hkeep : ∀ cache heads, field { cache with heads } = field cache) (c : CacheId)
    (ts : List TagId) (store : Store) (k : CacheId) :
    field ((linkMissing c ts store).cache k) = field (store.cache k) := by
  induction ts generalizing store with
  | nil => rfl
  | cons t rest ih =>
    rw [linkMissing, ih]
    split
    · rfl
    · exact field_linkTag field hkeep store c t k

theorem changed_appendTag (d : DeviceId) (name text : String) (k : CacheId) :
    ((store.appendTag d name text).cache k).changed = (store.cache k).changed := by
  unfold appendTag
  split
  · rfl
  · exact field_linkTag Cache.changed (fun _ _ => rfl) _ _ _ k

/-- No way to set a tag marks a cache before the end. -/
theorem Prepares.changed {revision : Revision} {link : Option TagId}
    (hprepares : store.Prepares d name revision middle link) (k : CacheId) :
    (middle.cache k).changed = (store.cache k).changed := by
  cases hprepares with
  | clearing => rw [dropNamed, cache_updateDevice, cache_unlinkTags]
  | rewriting => rfl
  | adding => exact changed_appendTag d name _ k
  | doubling => exact changed_appendTag d name _ k

theorem Sound.remembers_setTag (hsound : store.Sound) (hd : store.devices.Holds d) (name : String)
    (value : Option String) (replace : Bool) :
    Remembers store (store.setTag d name value replace) := by
  obtain ⟨-, hset⟩ | ⟨_, middle, link, -, hprepares, hset⟩ :=
    store.setTag_cases d name value replace
  · rw [hset]
    exact .refl store
  · have hlasting := hprepares.sameAliases.lasting
    rw [hset]
    exact (hprepares.revises hsound hd).remembers hsound hlasting hprepares.changed link
      (hlasting.holds_device hd)

/-! ## Attaching and removing a device -/

theorem flags_connect (store : Store) (c : CacheId) (d : DeviceId) (k : CacheId) :
    ((store.connect c d).cache k).flags = (store.cache k).flags :=
  field_linkMissing Cache.flags (fun _ _ => rfl) c (store.device d).tags store k

theorem Sound.pairs_connect (hsound : store.Sound) (hd : store.devices.Holds d) (c : CacheId)
    (e : DeviceId) : (store.connect c d).pairs e = store.pairs e := by
  have hspares := spares_attach hd c
  refine pairs_congr ?_ fun t ht => ?_
  · rw [device_connect hd]
    split <;> rfl
  · have hheld := holds_tag_of_device ((hsound.linked.listed e t).mp ht)
    exact ⟨hspares.tagName t hheld, hspares.value t hheld⟩

/-- What comes before the cache lists the device has nothing to be marked. -/
theorem Sound.remembers_connect (hsound : store.Sound) (hc : store.caches.Holds c)
    (hd : store.devices.Holds d) : Remembers store (store.connect c d) where
  lasting k hchanged := by
    refine (field_linkMissing Cache.changed (fun _ _ => rfl) c _ store k).trans hchanged
  marked k hdiffers :=
    absurd (contents_congr (devices_connect hc d k) fun e _ => hsound.pairs_connect hd c e) hdiffers

/-- The cache is marked as it lists the device. -/
theorem remembers_enlist (hc : store.caches.Holds c) (d : DeviceId) :
    Remembers store ((store.enterCache c d).markChanged c) where
  lasting k hchanged := by
    have hkept := @Table.field_update _ _ _ _ Cache.changed
      (fun cache => { cache with devices := cache.devices ++ [d] }) (fun _ => rfl) store.caches c k
    exact changed_markChanged c (hkept.trans hchanged)
  marked k hdiffers := by
    by_cases hk : k = c
    · subst hk
      rw [markChanged, cache_updateCache_self]
      exact (Table.holds_update _ _ _ _).mpr hc
    · have hdevices : (((store.enterCache c d).markChanged c).cache k).devices =
          (store.cache k).devices := by
        rw [markChanged, cache_updateCache_of_ne _ hk, enterCache, cache_updateCache_of_ne _ hk]
      exact absurd (contents_congr hdevices fun _ _ => rfl) hdiffers

theorem Sound.remembers_attach (hsound : store.Sound) (hc : store.caches.Holds c)
    (hd : store.devices.Holds d) : Remembers store (store.attach c d) :=
  (hsound.remembers_connect hc hd).trans
    (remembers_enlist ((extends_connect store c d).holds_cache hc) d)

theorem Sound.remembers_detach (hsound : store.Sound) (hmem : d ∈ (store.cache c).devices) :
    Remembers store (store.detach c d) := by
  have hcache := cache_detach (holds_cache_of_mem hmem) d
  constructor
  case lasting =>
    intro k hchanged
    rw [hcache]
    split
    · rfl
    · exact hchanged
  case marked =>
    intro k hdiffers
    rw [hcache]
    split
    · rfl
    · next hk =>
      refine absurd (contents_congr ?_ fun e he => ?_) hdiffers
      · rw [hcache, if_neg hk]
      · have hne : e ≠ d := by
          rintro rfl
          have hhere := hsound.attached c e hmem
          rw [hsound.attached k e he] at hhere
          exact hk (Option.some.inj hhere)
        exact ((hsound.removed_detach hmem).others e hne).pairs

/-! ## Changes one after the other -/

theorem Sound.remembers_change (hsound : before.Sound) (hchange : Change before after) :
    Remembers before after := by
  cases hchange with
  | set hd name value replace => exact hsound.remembers_setTag hd name value replace
  | attach hc hd _ => exact hsound.remembers_attach hc hd
  | detach hmem => exact hsound.remembers_detach hmem
  | beside hbeside => exact hbeside.remembers hsound

theorem Sound.remembers_changes (hsound : before.Sound) (hchanges : Changes before after) :
    Remembers before after :=
  hsound.changes_keep hchanges (.refl before) fun hnow hchange hremembers =>
    hremembers.trans (hnow.remembers_change hchange)

end Store

/-! ## Lookups that find without a prober -/

section Hits

variable {host : Host} {c : CacheId} {memory : Memory} {state : Memory × List Call}
  {name value : String}

theorem does_anything {σ α : Type} (operation : EStateM Failure σ α) (before : σ) :
    Does operation before (fun _ _ => True) fun _ _ => True := by
  unfold Does
  split <;> trivial

/-- A verifier of the package changes no cache where it confirms a device. -/
theorem Verifier.IsPackaged.does_confirm {verifier : Verifier} (hpackaged : verifier.IsPackaged)
    (host : Host) (c : CacheId) (d : Option DeviceId) :
    Does (verifier.verify host c d) memory
      (fun answer after => answer.isSome → after.store.caches = memory.store.caches)
      fun _ _ => True := by
  cases verifier with
  | trusting => exact fun _ => rfl
  | paths root =>
    cases d with
    | none => exact .throw trivial
    | some d =>
      change Does (verifyPath host root c d) memory _ _
      unfold verifyPath
      refine .look_bind ?_
      cases host.contains (devicePath root (memory.store.device d).name) with
      | error error => exact .throw trivial
      | ok found =>
        cases found with
        | true => exact .edit_bind (.pure fun _ => rfl)
        | false =>
          refine (does_anything _ _).bind (fun _ logged _ => ?_) fun _ _ _ => trivial
          refine (does_anything _ _).bind (fun _ marked _ => ?_) fun _ _ _ => trivial
          split
          · exact (does_anything _ _).bind (fun _ _ _ => .pure nofun) fun _ _ _ => trivial
          · exact .pure nofun
  | custom number => exact hpackaged.elim

namespace Lookup

theorem does_attempt_hit {verifier : Verifier} (hverifier : verifier.IsPackaged) :
    Does (attempt host c name value verifier) state
      (fun found after => found.isSome → after.1.store.caches = state.1.store.caches)
      fun _ _ => True := by
  obtain ⟨memory, calls⟩ := state
  unfold attempt
  refine .ofOp_bind ((unmoved_candidate c name value memory).mono
    (fun found looked hlooked => ?_) fun _ _ _ => trivial)
  subst hlooked
  cases found with
  | none => exact .pure nofun
  | some owner =>
    refine .record_bind (.ofOp_bind ((hverifier.does_confirm host c owner).mono
      (fun answer verified hverified => .record_bind ?_) fun _ _ _ => trivial))
    cases answer with
    | none =>
      refine .ofOp ((does_anything _ _).bind (fun _ _ _ => ?_) fun _ _ _ => trivial)
      exact (does_anything _ _).bind (fun _ _ _ => .pure nofun) fun _ _ _ => trivial
    | some d =>
      refine .ofOp (.look_bind (.look_bind ?_))
      split
      · refine (does_log _ _ _).andThen fun _ logged hlogged => .pure fun _ => ?_
        exact (congrArg Store.caches hlogged).trans (hverified rfl)
      · exact (does_anything _ _).bind (fun _ _ _ => .pure nofun) fun _ _ _ => trivial

/-- A search that finds a device and calls no prober changes no cache. -/
theorem does_search_hit {prober : Option Prober} {verifier : Verifier}
    (hprober : ∀ p ∈ prober, p.IsPackaged) (hverifier : verifier.IsPackaged) (allowed : Nat)
    (hc : state.1.store.caches.Holds c) :
    Does (search host c name value prober verifier allowed) state
      (fun found after => found.isSome → .probing ∉ after.2 →
        after.1.store.caches = state.1.store.caches)
      fun _ _ => True := by
  cases allowed with
  | zero => exact .pure (by simp)
  | succ further =>
    unfold search
    have hattempt : Moves Aside (attempt host c name value verifier) state :=
      aside_attempt hverifier
    refine ((does_attempt_hit hverifier).and hattempt).bind (fun found tried htried => ?_)
      fun _ _ _ => trivial
    obtain ⟨hhit, haside⟩ := htried
    cases found with
    | some d => exact .pure fun _ _ => hhit rfl
    | none =>
      cases prober with
      | none => exact .pure (by simp)
      | some p =>
        refine .ofLook_bind ?_
        split
        · exact .pure (by simp)
        · next hgo =>
          rw [Bool.or_eq_true, not_or, Bool.not_eq_true] at hgo
          have hrest : ∀ noted : Memory × List Call, noted.1.store.caches.Holds c →
              Moves (Accounts c) (search host c name value (some p) verifier further) noted :=
            fun noted hnoted => accounts_search hprober hverifier further hnoted
          have hprobing := does_probing host (hprober p rfl) (haside.same.held c hc) hgo.1
            ("No match for " ++ pairText name value ++ ", probing all devices") hrest
          exact hprobing.mono (fun _ _ hdone _ hnone => absurd hdone.2 hnone) fun _ _ _ => trivial

theorem Quest.does_dialogue_hit {quest : Quest} (hfits : quest.Fits state.1.store) :
    Does (quest.dialogue host) state
      (fun found after => found.isSome → .probing ∉ after.2 →
        after.1.store.caches = state.1.store.caches)
      fun _ _ => True := by
  obtain ⟨memory, calls⟩ := state
  unfold Quest.dialogue Lookup.dialogue
  refine .ofLook_bind (.ofOp_bind ((does_log _ _ _).weaken fun _ logged hlogged => ?_))
  rw [← hlogged] at hfits
  have hsearch : Does (search host quest.cache quest.name quest.value
      (quest.proberIn memory.store) (quest.verifierIn memory.store) maxAttempts) (logged, calls)
      _ _ := does_search_hit (hlogged ▸ hfits.prober) (hlogged ▸ hfits.verifier) _ hfits.held
  refine hsearch.mono (fun _ _ hdone hsome hnone => ?_) fun _ _ _ => trivial
  exact (hdone hsome hnone).trans (congrArg Store.caches hlogged)

end Lookup

end Hits

/-! ## Operations with nothing to do -/

/-- An operation that finds done what it is asked for: the first tag of the name has the value, the
device is in the cache, a device has the name. -/
def Action.IsIdle (store : Store) : Action → Prop
  | .setTag (some d) (.string name) (.string value) _ =>
    ∃ t, store.firstTag? d name = some t ∧ (store.tag t).value = value
  | .addDevice c (some d) => d ∈ (store.cache c).devices
  | .obtainDevice c (some name) => (Attachment.named? store c name).isSome
  | .findDevice _ _ => True
  | _ => False

section Idle

variable {memory : Memory} {c : CacheId} {d : DeviceId}

theorem unmoved_set {name value : String} {replace : Bool} {t : TagId}
    (hfirst : memory.store.firstTag? d name = some t)
    (hvalue : (memory.store.tag t).value = value) :
    Moves (fun s t => t = s) (Tagging.set (some d) (.string name) (.string value) replace)
      memory := by
  unfold Tagging.set
  refine (does_requireGiven d).andThen fun e after hafter => ?_
  obtain ⟨rfl, rfl⟩ := hafter
  refine (does_checked _).bind (fun n same hname => ?_) fun _ _ hfailed => hfailed.2.symm
  obtain ⟨hname, rfl⟩ := hname
  unfold Tagging.requireName at hname
  dsimp only at hname
  split at hname
  · cases hname
  · cases hname
    refine (does_checked _).bind (fun v same hgiven => ?_) fun _ _ hfailed => hfailed.2.symm
    obtain ⟨hgiven, rfl⟩ := hgiven
    cases hgiven
    change Does (Tagging.assign e name value replace) after _ _
    unfold Tagging.assign
    refine .look_bind ?_
    rw [hfirst]
    refine .look_bind ?_
    dsimp only
    rw [if_pos hvalue]
    exact .pure rfl

theorem unmoved_add (hmem : d ∈ (memory.store.cache c).devices) :
    Moves (fun s t => t = s) (Attachment.add c (some d)) memory := by
  unfold Attachment.add
  refine (does_requireGiven d).andThen fun e after hafter => ?_
  obtain ⟨rfl, rfl⟩ := hafter
  refine .look_bind (.look_bind ?_)
  rw [if_pos (by simpa using hmem)]
  exact .pure rfl

theorem unmoved_findDevice (name : Option String) :
    Moves (fun s t => t = s) (Attachment.find c name) memory := by
  unfold Attachment.find
  refine (does_checked _).bind (fun n same hgiven => ?_) fun _ _ hfailed => hfailed.2.symm
  exact hgiven.2.symm

theorem unmoved_obtain {name : String}
    (hnamed : (Attachment.named? memory.store c name).isSome) :
    Moves (fun s t => t = s) (Attachment.obtain c (some name)) memory := by
  obtain ⟨e, hfound⟩ := Option.isSome_iff_exists.mp hnamed
  unfold Attachment.obtain
  refine (does_checked _).bind (fun n same hgiven => ?_) fun _ _ hfailed => hfailed.2.symm
  obtain ⟨hgiven, rfl⟩ := hgiven
  unfold Attachment.requireDeviceName at hgiven
  split at hgiven
  · cases hgiven
  · cases hgiven
  · next given heq =>
    cases hgiven
    cases heq
    refine .look_bind ?_
    rw [hfound]
    exact .pure rfl

/-- An operation that has nothing to do leaves everything as it was. -/
theorem Action.after_of_idle {action : Action} (hidle : action.IsIdle memory.store) (host : Host) :
    (action.perform host).after memory = memory := by
  refine Does.after (fun after => after = memory) ?_
  cases action with
  | setTag d name value replace =>
    cases d with
    | none => exact hidle.elim
    | some d =>
      cases name with
      | string name =>
        cases value with
        | string value =>
          obtain ⟨t, hfirst, hvalue⟩ := hidle
          exact unmoved_set hfirst hvalue
        | _ => exact hidle.elim
      | _ => exact hidle.elim
  | addDevice c d =>
    cases d with
    | none => exact hidle.elim
    | some d => exact unmoved_add hidle
  | obtainDevice c name =>
    cases name with
    | none => exact hidle.elim
    | some name => exact Does.discard (unmoved_obtain hidle)
  | findDevice c name => exact Does.discard (unmoved_findDevice name)
  | _ => exact hidle.elim

end Idle

/-! ## Turns -/

namespace Turn

/-- The turn is a lookup that gives a device, or the name of one. -/
def Hits (turn : Turn) (memory : Memory) : Prop :=
  match turn.action with
  | .find c name value prober verifier => ∃ d after,
    Lookup.find turn.host c name value prober verifier (turn.start memory) = .ok (some d) after
  | .deviceName c token value => ∃ device after,
    Lookup.deviceName turn.host c token value (turn.start memory) = .ok (some device) after
  | _ => False

/-- Every cache has the flags that it had. -/
def KeepsFlags (turn : Turn) (memory : Memory) : Prop :=
  ∀ c, ((turn.after memory).store.cache c).flags = (memory.store.cache c).flags

/-- What a turn has to do with the marks of changes. -/
structure KeepsTrack (turn : Turn) (memory : Memory) : Prop where
  marked : ∀ c, (turn.after memory).store.contents c ≠ memory.store.contents c →
    ((turn.after memory).store.cache c).changed = true
  lasting : ∀ c, turn.action ≠ .clearChanged c → (memory.store.cache c).changed = true →
    ((turn.after memory).store.cache c).changed = true
  cleared : ∀ c, turn.action = .clearChanged c →
    ((turn.after memory).store.cache c).changed = false ∧
      ∀ k, ((turn.after memory).store.cache k).probed = (memory.store.cache k).probed ∧
        (k ≠ c → (turn.after memory).store.cache k = memory.store.cache k)
  refused : turn.action.IsGuarded →
    ((turn.action.perform turn.host).failure? (turn.start memory)).isSome → turn.KeepsFlags memory
  idle : turn.action.IsIdle memory.store → turn.KeepsFlags memory
  hit : turn.Hits memory → .probing ∉ turn.calls memory → turn.KeepsFlags memory

variable {turn : Turn} {memory : Memory} {c : CacheId}

theorem keepsFlags_of_caches (hsame : (turn.after memory).store.caches = memory.store.caches) :
    turn.KeepsFlags memory := by
  intro c
  rw [Store.cache, Store.cache, hsame]

/-- The conversation of a lookup that hits ends with a device. -/
theorem Hits.exists_dialogue (hhits : turn.Hits memory) {quest : Lookup.Quest}
    (hquest : turn.action.quest? = some quest) :
    ∃ noted d state, turn.action.note (turn.start memory) = .ok () noted ∧
      quest.dialogue turn.host (noted, []) = .ok (some d) state := by
  have hfound : ∀ {noted after : Memory} {d : DeviceId},
      (quest.dialogue turn.host).toOp noted = .ok (some d) after →
      ∃ state, quest.dialogue turn.host (noted, []) = .ok (some d) state := by
    intro noted after d hrun
    unfold Dialogue.toOp at hrun
    split at hrun
    · next state hok =>
      cases hrun
      exact ⟨state, hok⟩
    · cases hrun
  obtain ⟨host, supply, action⟩ := turn
  unfold Hits at hhits
  cases action with
  | find c name value prober verifier =>
    obtain ⟨d, after, hfind⟩ := hhits
    rw [Action.perform_find hquest] at hfind
    obtain ⟨state, hdialogue⟩ := hfound hfind
    exact ⟨_, d, state, rfl, hdialogue⟩
  | deviceName c token value =>
    obtain ⟨device, after, hname⟩ := hhits
    obtain ⟨noted, -, hnote⟩ := (Action.deviceName c token value).exists_note
      (Turn.start ⟨host, supply, .deviceName c token value⟩ memory)
    dsimp only at hname
    rw [Action.perform_deviceName hquest, Op.bind_of_ok hnote, Op.bind_apply] at hname
    split at hname
    · next found ended hrun =>
      cases found with
      | none => cases hname
      | some d =>
        obtain ⟨state, hdialogue⟩ := hfound hrun
        exact ⟨noted, d, state, hnote, hdialogue⟩
    · cases hname
  | _ => exact hhits.elim

theorem keepsFlags_of_hit (hhits : turn.Hits memory) (hquiet : .probing ∉ turn.calls memory)
    (hadmissible : turn.action.Admissible memory.store) (hpackaged : memory.store.Packaged) :
    turn.KeepsFlags memory := by
  refine keepsFlags_of_caches ?_
  cases hquest : turn.action.quest? with
  | none =>
    have hunmoved : Moves (fun s t => t.store = s.store) (turn.action.perform turn.host)
        (turn.start memory) := by
      obtain ⟨host, supply, action⟩ := turn
      unfold Hits at hhits
      cases action with
      | find c name value prober verifier =>
        exact Does.discard (Action.unmoved_find hquest)
      | deviceName c token value => exact Does.discard (Action.unmoved_deviceName hquest)
      | _ => exact hhits.elim
    exact congrArg Store.caches
      (Does.after (fun after => after.store = (turn.start memory).store) hunmoved)
  | some quest =>
    obtain ⟨noted, d, state, hnote, hdialogue⟩ := hhits.exists_dialogue hquest
    obtain ⟨silent, ⟨hstore, -⟩, hsilent⟩ := turn.action.exists_note (turn.start memory)
    rw [hnote] at hsilent
    cases hsilent
    have hfits : quest.Fits (turn.start memory).store :=
      Action.fits_quest hquest hadmissible hpackaged
    rw [← hstore] at hfits
    have hending : (turn.action.converse turn.host).ending (turn.start memory, []) = state := by
      rw [Action.ending_converse hquest hnote, Dialogue.ending, hdialogue]
    have hcalls : turn.calls memory = state.2 := congrArg Prod.snd hending
    have hhit := (Lookup.Quest.does_dialogue_hit hfits).of_ok hdialogue
    rw [hcalls] at hquiet
    rw [Turn.after_eq, hending, hhit rfl hquiet]
    exact congrArg Store.caches hstore

theorem keepsTrack (turn : Turn) (hsound : memory.store.Sound) (hpackaged : memory.store.Packaged)
    (hadmissible : turn.action.Admissible memory.store) : turn.KeepsTrack memory := by
  have hstart : (turn.start memory).store.Sound := hsound
  have hremembers : (∀ c, turn.action ≠ .clearChanged c) →
      memory.store.Remembers (turn.after memory).store := by
    intro hclear
    obtain hchanges | ⟨store, hchanges, c, d, hc, hd, -, hafter⟩ :=
      Turn.changes_or_breaks hclear hsound hpackaged hadmissible
    · exact hsound.remembers_changes hchanges
    · rw [hafter]
      exact (hsound.remembers_changes hchanges).trans
        ((hchanges.sound hsound).remembers_connect hc hd)
  have hcleared : ∀ c, turn.action = .clearChanged c →
      (turn.after memory).store = memory.store.clearChanged c := fun _ => Turn.after_clearChanged
  constructor
  case marked =>
    intro c hdiffers
    by_cases hclear : ∃ k, turn.action = .clearChanged k
    · obtain ⟨k, hk⟩ := hclear
      refine absurd ?_ hdiffers
      rw [hcleared k hk]
      exact Store.contents_congr ((Store.sameIndex_clearChanged k).cacheDevices c) fun _ _ => rfl
    · exact (hremembers (not_exists.mp hclear)).marked c hdiffers
  case lasting =>
    intro c hother hchanged
    by_cases hclear : ∃ k, turn.action = .clearChanged k
    · obtain ⟨k, hk⟩ := hclear
      have hne : c ≠ k := by
        rintro rfl
        exact hother hk
      rw [hcleared k hk, Store.clearChanged, Store.cache_updateCache_of_ne _ hne, hchanged]
    · exact (hremembers (not_exists.mp hclear)).lasting c hchanged
  case cleared =>
    intro c hclear
    rw [hcleared c hclear]
    refine ⟨?_, fun k => ⟨(Store.sameMarks_clearChanged c).probed k, fun hk => ?_⟩⟩
    · by_cases hheld : memory.store.caches.Holds c
      · rw [Store.clearChanged, Store.cache_updateCache_self _ hheld]
      · rw [Store.cache, Table.get_of_not_holds]
        · rfl
        · exact fun hafter => hheld ((Table.holds_update _ _ _ _).mp hafter)
    · exact Store.cache_updateCache_of_ne _ hk _
  case refused =>
    intro hguarded hfails c
    obtain ⟨failure, hfailure⟩ := Option.isSome_iff_exists.mp hfails
    obtain ⟨after, hrun⟩ := Op.exists_error hfailure
    have hafter : turn.after memory = after := by
      unfold Turn.after Op.after
      rw [hrun]
    rw [hafter]
    obtain ⟨hrestored, -⟩ | ⟨k, d, -, hbreaks⟩ :=
      (Action.does_guarded hguarded turn.host hstart hadmissible).of_error hrun
    · rw [hrestored.cache]
      rfl
    · obtain ⟨e, -, -, hstore⟩ := hbreaks.connected
      rw [hstore]
      exact Store.flags_connect _ k e c
  case idle =>
    intro hidle c
    have hready : turn.action.IsIdle (turn.start memory).store := hidle
    have hsame : turn.after memory = turn.start memory := Action.after_of_idle hready turn.host
    rw [hsame]
    rfl
  case hit => exact fun hhits hquiet => keepsFlags_of_hit hhits hquiet hadmissible hpackaged

end Turn

/-- Listing the devices that carry a pair changes nothing at all. -/
theorem Lookup.after_all (c : Option CacheId) (name value : Option String) (memory : Memory) :
    (Lookup.all c name value).after memory = memory := by
  refine Does.after (fun after => after = memory) ?_
  unfold Lookup.all
  refine (does_checked _).bind (fun given same hgiven => ?_) fun _ _ hfailed => hfailed.2.symm
  obtain ⟨-, rfl⟩ := hgiven
  refine .look_bind ?_
  exact (does_checked _).mono (fun _ _ hdone => hdone.2.symm) fun _ _ hfailed => hfailed.2.symm

/-- In every state that a run leads to, whatever is done next keeps track of changes: a cache whose
contents differ afterwards is marked, and marks and other flags go away or come only where they are
said to. -/
theorem modifications_are_marked {memory : Memory} (hreachable : Reachable memory) :
    (∀ turn : Turn, turn.action.Admissible memory.store → turn.KeepsTrack memory) ∧
      ∀ c name value, (Lookup.all c name value).after memory = memory :=
  ⟨fun turn hadmissible => turn.keepsTrack hreachable.sound hreachable.packaged hadmissible,
    fun c name value => Lookup.after_all c name value memory⟩

/-- A cache whose inventory brings in one device and stops at the next, which has no name. -/
def Turn.halting : Turn where
  host := .bare
  action := .newCache (some (.inventory { devices :=
    [{ name := "/dev/sda1", tags := [("LABEL", .string "data")] }, { name := "" }] })) none

/-- A lookup that calls the prober fails with it, and the cache is marked for the device that was
brought in before. -/
theorem halted_lookup_marks :
    ((Turn.lookup none).after (Turn.halting.after {})).store.contents ⟨0⟩ =
        [(⟨0⟩, [("LABEL", "data")])] ∧
      (((Turn.lookup none).action.perform .bare).failure? (Turn.halting.after {})).isSome ∧
      (((Turn.lookup none).after (Turn.halting.after {})).store.cache ⟨0⟩).changed = true := by
  have hopening : Turn.halting.action.Admissible ({} : Memory).store := by
    refine ⟨fun p hp => ?_, nofun⟩
    cases hp
    trivial
  have hlookup : (Turn.lookup none).action.Admissible (Turn.halting.after {}).store := by
    refine ⟨fun c hc => ?_, nofun, nofun⟩
    cases hc
    decide +kernel
  have hreachable : Reachable (Turn.halting.after {}) :=
    Reachable.after ⟨[], .start⟩ hopening
  have hcontents : ((Turn.lookup none).after (Turn.halting.after {})).store.contents ⟨0⟩ =
      [(⟨0⟩, [("LABEL", "data")])] := by decide +kernel
  refine ⟨hcontents, by decide +kernel, ?_⟩
  refine ((modifications_are_marked hreachable).1 _ hlookup).marked ⟨0⟩ ?_
  rw [hcontents]
  decide +kernel

end DeviceTags
