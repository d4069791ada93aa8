import DeviceTags.Proofs.Removal

/-!
# Lookups that check paths

A lookup whose verifier checks paths asks about the device that is listed first. If the path of that
device is there, the device is the answer and only its flags change. If it is gone, the lookup finds
nothing and removes the device, so that the next lookup asks about the device that was listed second.
Repeated lookups take the vanished devices from the front of the listing one by one, and then stay at
the first device whose path is there.
-/

namespace DeviceTags

/-! ## Marking and removing -/

namespace Store

variable {store : Store} {c : CacheId} {d : DeviceId}

theorem unseen_markFound (d : DeviceId) : Unseen store (store.markFound d) :=
  unseen_updateDevice d fun _ => ⟨rfl, rfl, rfl, rfl⟩

theorem unseen_markGone (d : DeviceId) : Unseen store (store.markGone d) :=
  unseen_updateDevice d fun _ => ⟨rfl, rfl, rfl, rfl⟩

/-- A change that leaves the flags of a device alone can be made before or after the mark. -/
theorem updateDevice_markGone (store : Store) (d e : DeviceId) {change : Device → Device}
    (hchange : ∀ device, change { device with flags := { device.flags with invalid := true } } =
      { change device with flags := { (change device).flags with invalid := true } }) :
    (store.markGone d).updateDevice e change = (store.updateDevice e change).markGone d := by
  unfold markGone updateDevice
  rw [Table.update_comm]
  exact fun _ device => (hchange device).symm

theorem unlinkTag_markGone (store : Store) (d : DeviceId) (t : TagId) :
    (store.markGone d).unlinkTag t = (store.unlinkTag t).markGone d := by
  have howner : (store.markGone d).leaveOwner t = (store.leaveOwner t).markGone d := by
    have htag : (store.markGone d).tag t = store.tag t := rfl
    unfold leaveOwner
    rw [htag]
    split
    · rfl
    · next e _ =>
      rw [leaveDevice, updateDevice_markGone store d e fun _ => rfl]
      rfl
  unfold unlinkTag
  rw [howner]
  unfold unlinkFromHead
  rw [markGone, tag_updateDevice]
  split <;> rfl

theorem unlinkTags_markGone (d : DeviceId) (ts : List TagId) (store : Store) :
    (store.markGone d).unlinkTags ts = (store.unlinkTags ts).markGone d := by
  induction ts generalizing store with
  | nil => rfl
  | cons t rest ih =>
    refine Eq.trans ?_ (ih (store.unlinkTag t))
    exact congrArg (unlinkTags · rest) (unlinkTag_markGone store d t)

/-- A device can be marked as gone before or after it is removed. -/
theorem detach_markGone (store : Store) (c : CacheId) (d : DeviceId) :
    (store.markGone d).detach c d = (store.detach c d).markGone d := by
  have htags : ((store.markGone d).device d).tags = (store.device d).tags :=
    (sameIndex_markGone d).deviceTags d
  rw [detach, detach, htags, unlinkTags_markGone, setDeviceCache,
    updateDevice_markGone _ d d fun _ => rfl]
  rfl

end Store

namespace Lookup

variable {memory : Memory} {host : Host} {c : CacheId} {name value : String}
  {root : Option Path} {present : Path → Bool} {given : Option Verifier} {prober : Option Prober}
  {devices : List DeviceId}

/-! ## One lookup -/

/-- A lookup in the cache probes nothing, and its verifier checks paths, which it can. -/
structure ChecksPaths (host : Host) (given : Option Verifier) (c : CacheId) (root : Option Path)
    (present : Path → Bool) (store : Store) : Prop where
  probed : (store.cache c).probed = true
  verifier : (given <|> (store.cache c).verifier) = some (.paths root)
  known : ∀ path, host.contains path = .ok (present path)

/-- The path of the device is not there. -/
def isGone (root : Option Path) (present : Path → Bool) (store : Store) (d : DeviceId) : Bool :=
  !present (devicePath root (store.device d).name)

/-- The answer of a lookup that checks paths, from what is listed. -/
def verdict (gone : DeviceId → Bool) : List DeviceId → Option DeviceId
  | [] => none
  | d :: _ => if gone d then none else some d

/-- What is listed after a lookup that checks paths. -/
def remaining (gone : DeviceId → Bool) : List DeviceId → List DeviceId
  | [] => []
  | d :: rest => if gone d then rest else d :: rest

/-- What a lookup that checks paths leaves of the store. -/
def settled (gone : DeviceId → Bool) (c : CacheId) (store : Store) : List DeviceId → Store
  | [] => store
  | d :: _ => if gone d then (store.detach c d).markGone d else store.markFound d

/-- A device of the cache is confirmed or removed, by whether its path is there. -/
theorem does_verifyPath (hsound : memory.store.Sound)
    (hknown : ∀ path, host.contains path = .ok (present path)) {d : DeviceId}
    (hmem : d ∈ (memory.store.cache c).devices) (rest : List DeviceId) :
    Does (verifyPath host root c d) memory
      (fun answer after =>
        answer = verdict (isGone root present memory.store) (d :: rest) ∧
        after.store = settled (isGone root present memory.store) c memory.store (d :: rest))
      fun _ _ => False := by
  unfold verifyPath
  refine .look_bind ?_
  rw [hknown]
  cases hpresent : present (devicePath root (memory.store.device d).name) with
  | true =>
    have hgone : isGone root present memory.store d = false := by
      rw [isGone, hpresent]
      rfl
    rw [verdict, settled, hgone]
    exact .edit_bind (.pure ⟨rfl, rfl⟩)
  | false =>
    have hgone : isGone root present memory.store d = true := by
      rw [isGone, hpresent]
      rfl
    rw [verdict, settled, hgone]
    refine (does_log _ _ _).andThen fun _ logged hlogged => .edit_bind ?_
    rw [if_pos (hsound.attached c d hmem)]
    have hmarked : Store.SameIndex memory.store (logged.store.markGone d) :=
      hlogged ▸ Store.sameIndex_markGone d
    refine Does.andThen (does_removeAttached ?_ ?_) fun _ removed hremoved => .pure ⟨rfl, ?_⟩
    · exact hsound.of_sameIndex hmarked
    · rw [Memory.store_withStore, hmarked.cacheDevices]
      exact hmem
    · rw [hremoved, Memory.store_withStore, hlogged, Store.detach_markGone]
      rfl

theorem hasPair_markFound (store : Store) (d e : DeviceId) (name value : String) :
    (store.markFound d).hasPair e name value = store.hasPair e name value := by
  rw [Store.hasPair, (Store.sameIndex_markFound d).deviceTags, Store.hasPair]
  rfl

theorem does_attempt_paths {calls : List Call} (hsound : memory.store.Sound)
    (hregistered : memory.store.Registered c)
    (hknown : ∀ path, host.contains path = .ok (present path))
    (hlisting : listing memory.store c name value = .ok devices) :
    Does (attempt host c name value (.paths root)) (memory, calls)
      (fun found after => found = verdict (isGone root present memory.store) devices ∧
        after.1.store = settled (isGone root present memory.store) c memory.store devices)
      fun _ _ => False := by
  have hclean := hsound.clean hregistered
  unfold attempt
  refine .ofOp_bind ((does_candidate (owned_of_clean hclean name value)).weaken
    fun found _ hfound => ?_)
  obtain ⟨rfl, ⟨rfl, hnone⟩ | ⟨t, d, rfl, hleads⟩⟩ := hfound
  · have hanswer : memory.store.Answers c name value none := hnone
    obtain ⟨_, hlisted, hfirst⟩ := listing_of_answers hanswer
    cases hlisting.symm.trans hlisted
    rw [List.head?_eq_none_iff.mp hfirst]
    exact .pure ⟨rfl, rfl⟩
  · have hanswer : memory.store.Answers c name value (some d) := ⟨t, hleads⟩
    obtain ⟨_, hlisted, hfirst⟩ := listing_of_answers hanswer
    cases hlisting.symm.trans hlisted
    obtain ⟨rest, rfl⟩ := List.head?_eq_some_iff.mp hfirst
    have hd := mem_devices_of_leads hclean hleads
    refine .record_bind (.ofOp_bind ((does_verifyPath hsound hknown hd rest).weaken
      fun answer verified hanswer => .record_bind (.ofOp ?_)))
    obtain ⟨rfl, hstore⟩ := hanswer
    rw [settled] at hstore
    rw [verdict, settled]
    cases hgone : isGone root present memory.store d with
    | true =>
      rw [hgone, if_pos rfl] at hstore
      rw [if_pos rfl, if_pos rfl, ← hstore]
      have hnamed : Does (nameOf (some d)) verified (fun _ after => after = verified)
          fun _ _ => False := rfl
      refine hnamed.andThen fun _ _ hafter => ?_
      subst hafter
      exact (does_log _ _ _).andThen fun _ after hafter => .pure ⟨rfl, hafter⟩
    | false =>
      rw [hgone, if_neg Bool.false_ne_true] at hstore
      rw [if_neg Bool.false_ne_true, if_neg Bool.false_ne_true, ← hstore]
      refine .look_bind (.look_bind ?_)
      rw [hstore, hasPair_markFound, if_pos (hasPair_of_leads hclean hleads), ← hstore]
      exact (does_log _ _ _).andThen fun _ after hafter => .pure ⟨rfl, hafter⟩

/-- A lookup that checks paths leaves a sound store, in which every device has the name that it had,
and the cache has every device that points to it, its marks and its collaborators. -/
structure Settles (c : CacheId) (before after : Store) : Prop where
  sound : after.Sound
  registered : after.Registered c
  probed : (after.cache c).probed = (before.cache c).probed
  verifier : (after.cache c).verifier = (before.cache c).verifier
  name : ∀ d, (after.device d).name = (before.device d).name

theorem settles_settled {store : Store} (hsound : store.Sound)
    (hregistered : store.Registered c) (gone : DeviceId → Bool)
    (hlisting : listing store c name value = .ok devices) :
    Settles c store (settled gone c store devices) := by
  obtain ⟨-, hcarried⟩ := of_listing hsound hlisting
  cases devices with
  | nil => exact ⟨hsound, hregistered, rfl, rfl, fun _ => rfl⟩
  | cons d rest =>
    have hmem := hregistered d (hcarried d List.mem_cons_self).1
    rw [settled]
    split
    · have hcache := Store.cache_detach (Store.holds_cache_of_mem hmem) d c
      rw [if_pos rfl] at hcache
      have hmarked : ((store.detach c d).markGone d).cache c = _ := hcache
      have hsame : Store.SameIndex (store.detach c d) ((store.detach c d).markGone d) :=
        Store.sameIndex_markGone d
      refine ⟨(hsound.detach hmem).of_sameIndex hsame,
        hsame.sameMembers.registered (hregistered.detach c d), ?_, ?_, fun e => ?_⟩
      · rw [hmarked]
      · rw [hmarked]
      · rw [(Store.unseen_markGone d).deviceName, hsound.device_detach]
        split <;> rfl
    · have hsame : Store.SameIndex store (store.markFound d) := Store.sameIndex_markFound d
      exact ⟨hsound.of_sameIndex hsame, hsame.sameMembers.registered hregistered, rfl, rfl,
        (Store.unseen_markFound d).deviceName⟩

theorem listing_settled {store : Store} (hsound : store.Sound)
    (hregistered : store.Registered c) (gone : DeviceId → Bool)
    (hlisting : listing store c name value = .ok devices) :
    listing (settled gone c store devices) c name value = .ok (remaining gone devices) := by
  obtain ⟨honce, hcarried⟩ := of_listing hsound hlisting
  cases devices with
  | nil => exact hlisting
  | cons d rest =>
    rw [settled, remaining]
    split
    · have hmem := hregistered d (hcarried d List.mem_cons_self).1
      obtain ⟨_, hbefore, hafter⟩ :=
        listing_of_removed hsound (hsound.removed_detach hmem) c name value
      cases hlisting.symm.trans hbefore
      have hrest : (d :: rest).filter (· ≠ d) = rest := by
        rw [List.filter_cons_of_neg (by simp), List.filter_eq_self]
        intro e he
        exact decide_eq_true (ne_of_mem_of_not_mem he (List.nodup_cons.mp honce).1)
      rw [listing_of_unseen (Store.unseen_markGone d), hafter, hrest]
    · rw [listing_of_unseen (Store.unseen_markFound d), hlisting]

/-- A lookup that checks paths answers and leaves the store as what is listed says. -/
theorem does_find_paths (hsound : memory.store.Sound)
    (hregistered : memory.store.Registered c) (hname : name ≠ "")
    (hchecks : ChecksPaths host given c root present memory.store)
    (hlisting : listing memory.store c name value = .ok devices) (prober : Option Prober) :
    Does (find host (some c) (some name) (some value) prober given) memory
      (fun found after => found = verdict (isGone root present memory.store) devices ∧
        after.store = settled (isGone root present memory.store) c memory.store devices)
      fun _ _ => False := by
  unfold find
  rw [requireArguments_eq_ok hname]
  refine Does.toOp (?_ : Does (dialogue host c name value prober given) _ _ _)
  unfold dialogue
  refine .ofLook_bind (.ofOp_bind ((does_log_same _ _ _).weaken fun _ logged hlogged => ?_))
  rw [hchecks.verifier]
  have hprobed := hchecks.probed
  rw [← hlogged.store] at hsound hregistered hlisting hprobed ⊢
  unfold maxAttempts search
  refine (does_attempt_paths hsound hregistered hchecks.known hlisting).andThen
    fun found tried htried => ?_
  obtain ⟨now, called⟩ := tried
  cases found with
  | some d => exact .pure htried
  | none =>
    cases prober <|> (logged.store.cache c).prober with
    | none => exact .pure htried
    | some p =>
      have hstill : (now.store.cache c).probed = true := by
        rw [htried.2, (settles_settled hsound hregistered _ hlisting).probed]
        exact hprobed
      refine .ofLook_bind ?_
      rw [if_pos (by simp [hstill])]
      exact .pure htried

/-! ## Lookups one after the other -/

/-- Looks for the same value a number of times, with all the answers. -/
def findTimes (host : Host) (c : CacheId) (name value : String) (prober : Option Prober)
    (given : Option Verifier) : Nat → Op (List (Option DeviceId))
  | 0 => return []
  | times + 1 => do
    let found ← find host (some c) (some name) (some value) prober given
    let later ← findTimes host c name value prober given times
    return found :: later

/-- The answer of a lookup that checks paths after a number of earlier ones, from what was listed
before them: none while there are vanished devices in front, and then the first one that is there. -/
def answerAfter (gone : DeviceId → Bool) (devices : List DeviceId) (earlier : Nat) :
    Option DeviceId :=
  if earlier < (devices.takeWhile gone).length then none else devices.find? fun d => !gone d

theorem verdict_eq_answerAfter (gone : DeviceId → Bool) (devices : List DeviceId) :
    verdict gone devices = answerAfter gone devices 0 := by
  cases devices with
  | nil => rfl
  | cons d rest => cases hgone : gone d <;> simp [verdict, answerAfter, hgone]

theorem answerAfter_remaining (gone : DeviceId → Bool) (devices : List DeviceId) (earlier : Nat) :
    answerAfter gone (remaining gone devices) earlier = answerAfter gone devices (earlier + 1) := by
  cases devices with
  | nil => rfl
  | cons d rest => cases hgone : gone d <;> simp [remaining, answerAfter, hgone]

theorem drop_remaining (gone : DeviceId → Bool) (devices : List DeviceId) (times : Nat) :
    (remaining gone devices).drop (min times ((remaining gone devices).takeWhile gone).length) =
      devices.drop (min (times + 1) (devices.takeWhile gone).length) := by
  cases devices with
  | nil => simp [remaining]
  | cons d rest => cases hgone : gone d <;> simp [remaining, hgone, Nat.add_min_add_right]

theorem isGone_of_settles {before after : Store} (hsettles : Settles c before after) :
    isGone root present after = isGone root present before := by
  funext d
  rw [isGone, hsettles.name, isGone]

theorem ChecksPaths.of_settles {before after : Store}
    (hchecks : ChecksPaths host given c root present before) (hsettles : Settles c before after) :
    ChecksPaths host given c root present after where
  probed := hsettles.probed.trans hchecks.probed
  verifier := by
    rw [hsettles.verifier]
    exact hchecks.verifier
  known := hchecks.known

/-- Lookups that check paths take the vanished devices from the front of the listing, one each. -/
theorem does_findTimes (hsound : memory.store.Sound)
    (hregistered : memory.store.Registered c) (hname : name ≠ "")
    (hchecks : ChecksPaths host given c root present memory.store)
    (hlisting : listing memory.store c name value = .ok devices) (prober : Option Prober)
    (times : Nat) :
    Does (findTimes host c name value prober given times) memory
      (fun found after =>
        found = (List.range times).map (answerAfter (isGone root present memory.store) devices) ∧
        listing after.store c name value = .ok (devices.drop
          (min times (devices.takeWhile (isGone root present memory.store)).length)))
      fun _ _ => False := by
  induction times generalizing memory devices with
  | zero => exact .pure ⟨rfl, by simpa using hlisting⟩
  | succ times ih =>
    refine (does_find_paths hsound hregistered hname hchecks hlisting prober).andThen
      fun found now hnow => ?_
    have hsettles := settles_settled hsound hregistered (isGone root present memory.store) hlisting
    have hleft := listing_settled hsound hregistered (isGone root present memory.store) hlisting
    rw [← hnow.2] at hsettles hleft
    refine (ih hsettles.sound hsettles.registered (hchecks.of_settles hsettles) hleft).andThen
      fun later after hlater => .pure ⟨?_, ?_⟩
    · rw [hnow.1, hlater.1, isGone_of_settles hsettles, verdict_eq_answerAfter,
        List.range_succ_eq_map, List.map_cons, List.map_map]
      exact congrArg (_ :: ·) (List.map_congr_left fun i _ => answerAfter_remaining _ _ i)
    · rw [hlater.2, isGone_of_settles hsettles, drop_remaining]

/-! ## The verdict on what is listed first -/

/-- What a lookup that checks paths answers and leaves, by what was listed before it. -/
inductive Drains (c : CacheId) (name value : String) (gone : DeviceId → Bool)
    (before after : Memory) : List DeviceId → Option DeviceId → Prop where
  | unlisted (hstore : after.store = before.store) : Drains c name value gone before after [] none
  | found (d : DeviceId) (rest : List DeviceId) (hthere : gone d = false)
      (hstore : after.store = before.store.updateDevice d fun device =>
        { device with
          flags := { device.flags with verified := true, invalid := false, unnamed := 0 } }) :
      Drains c name value gone before after (d :: rest) (some d)
  | vanished (d : DeviceId) (rest : List DeviceId) (hgone : gone d = true) (removed : Memory)
      (hremove : Attachment.remove c (some d) before = .ok () removed)
      (hstore : after.store = removed.store.updateDevice d fun device =>
        { device with flags := { device.flags with invalid := true } })
      (hrest : Lists after c name value rest) :
      Drains c name value gone before after (d :: rest) none

theorem drains_of_settled {after : Memory} {gone : DeviceId → Bool} (hsound : memory.store.Sound)
    (hregistered : memory.store.Registered c)
    (hname : name ≠ "") (hlisting : listing memory.store c name value = .ok devices)
    (hstore : after.store = settled gone c memory.store devices) :
    Drains c name value gone memory after devices (verdict gone devices) := by
  have hleft := listing_settled hsound hregistered gone hlisting
  rw [← hstore] at hleft
  obtain ⟨-, hcarried⟩ := of_listing hsound hlisting
  cases devices with
  | nil => exact .unlisted hstore
  | cons d rest =>
    rw [verdict]
    rw [settled] at hstore
    rw [remaining] at hleft
    cases hgone : gone d with
    | false =>
      rw [hgone, if_neg Bool.false_ne_true] at hstore
      rw [if_neg Bool.false_ne_true]
      exact .found d rest hgone hstore
    | true =>
      rw [hgone, if_pos rfl] at hstore hleft
      rw [if_pos rfl]
      have hmem := hregistered d (hcarried d List.mem_cons_self).1
      obtain ⟨_, removed, hremove, hremoved⟩ := (does_removeAttached hsound hmem).exists_ok
      refine .vanished d rest hgone removed hremove ?_ (all_of_listing hname hleft)
      rw [hstore, hremoved]
      rfl

/-- In every state that a run leads to, a lookup that checks paths in a probed cache, which lists all
devices that point to it, confirms the device that is listed first for the value, or removes it when
its path is gone. Repeated lookups find nothing as often as there are vanished devices in front of
the first one that is there, and then always that one. -/
theorem path_lookups_drain (hreachable : Reachable memory)
    (hregistered : memory.store.Registered c) (hname : name ≠ "")
    (hchecks : ChecksPaths host given c root present memory.store) (value : String)
    (prober : Option Prober) (supply : Supply) :
    ∃ devices, Lists memory c name value devices ∧
      (∃ found after,
        find host (some c) (some name) (some value) prober given { memory with supply } =
          .ok found after ∧
        Drains c name value (isGone root present memory.store) { memory with supply } after devices
          found) ∧
      ∀ times, ∃ after,
        findTimes host c name value prober given times { memory with supply } =
          .ok ((List.range times).map (answerAfter (isGone root present memory.store) devices))
            after ∧
        Lists after c name value (devices.drop
          (min times (devices.takeWhile (isGone root present memory.store)).length)) := by
  have hsound : ({ memory with supply } : Memory).store.Sound := hreachable.sound
  obtain ⟨devices, hlisting, -⟩ := exists_listing hsound c name value
  refine ⟨devices, all_of_listing hname hlisting, ?_, fun times => ?_⟩
  · obtain ⟨found, after, hok, rfl, hstore⟩ :=
      (does_find_paths hsound hregistered hname hchecks hlisting prober).exists_ok
    exact ⟨_, after, hok, drains_of_settled hsound hregistered hname hlisting hstore⟩
  · obtain ⟨found, after, hok, rfl, hleft⟩ :=
      (does_findTimes hsound hregistered hname hchecks hlisting prober times).exists_ok
    exact ⟨after, hok, all_of_listing hname hleft⟩

/-- Two devices with the same label in a probed cache. -/
def lateProbed : Memory :=
  ((Action.markProbed ⟨0⟩).perform .bare).after { lateAttached.1 with supply := .unlimited }

def isFirstDisk (path : Path) : Bool := path = devicePath none "/dev/sda1"

/-- A host that knows one path. -/
def firstDiskOnly : Host :=
  { Host.bare with contains := fun path => .ok (isFirstDisk path) }

/-- The device that is listed first is removed by the first lookup, and the next two find the
other. -/
theorem lateProbed_drains : ∃ after,
    findTimes firstDiskOnly ⟨0⟩ "LABEL" "data" none (some (.paths none)) 3
        { lateProbed with supply := .unlimited } =
      .ok [none, some ⟨0⟩, some ⟨0⟩] after ∧
    Lists after ⟨0⟩ "LABEL" "data" [⟨0⟩] := by
  have hadmissible : (Action.markProbed ⟨0⟩).Admissible lateAttached.1.store :=
    (by decide : lateAttached.1.store.caches.Holds ⟨0⟩)
  have hreachable : Reachable lateProbed :=
    ⟨_, run_lateAttached.step .bare .unlimited (.markProbed ⟨0⟩) hadmissible⟩
  have hchecks : ChecksPaths firstDiskOnly (some (.paths none)) ⟨0⟩ none isFirstDisk
      lateProbed.store :=
    ⟨by decide, rfl, fun _ => rfl⟩
  have hlists : Lists lateProbed ⟨0⟩ "LABEL" "data" [⟨1⟩, ⟨0⟩] :=
    all_of_listing (by decide) (listing_of_sorted (by decide) (by decide))
  obtain ⟨devices, hbefore, -, htimes⟩ :=
    path_lookups_drain hreachable (by decide) (by decide : "LABEL" ≠ "") hchecks "data" none
      .unlimited
  cases hbefore.symm.trans hlists
  have hgone : isGone none isFirstDisk lateProbed.store ⟨1⟩ = true := by decide +kernel
  have hthere : isGone none isFirstDisk lateProbed.store ⟨0⟩ = false := by decide +kernel
  obtain ⟨after, hfind, hafter⟩ := htimes 3
  refine ⟨after, ?_, ?_⟩
  · simpa [answerAfter, List.range_succ, hgone, hthere] using hfind
  · simpa [hgone, hthere] using hafter

/-- A device with a bit of its flags that has no name, in a probed cache. -/
def unnamedBit : List Action :=
  [.newCache none none, .newDevice "/dev/sda1" .default { unnamed := 8 },
    .addDevice ⟨0⟩ (some ⟨0⟩),
    .setTag (some ⟨0⟩) (.string "LABEL") (.string "data") false, .markProbed ⟨0⟩]

def unnamed : Memory := (Action.performAll .bare .unlimited unnamedBit ({}, [])).1

/-- A lookup that finds the path of a device drops that bit, and not only notes what it found. -/
theorem found_path_drops_unnamed_bit : Reachable unnamed ∧
    ChecksPaths .bare (some (.paths none)) ⟨0⟩ none (fun _ => true) unnamed.store ∧
    Lists unnamed ⟨0⟩ "LABEL" "data" [⟨0⟩] ∧
    ∃ after, find .bare (some ⟨0⟩) (some "LABEL") (some "data") none (some (.paths none)) unnamed =
        .ok (some ⟨0⟩) after ∧
      ¬ ∃ verified invalid, after.store = unnamed.store.updateDevice ⟨0⟩ fun device =>
        { device with flags := { device.flags with verified, invalid } } := by
  have hreachable : Reachable unnamed := by
    refine ⟨_, Run.start.performAll .bare .unlimited unnamedBit ?_⟩
    refine ⟨⟨by simp, by simp⟩, trivial, ⟨by decide, ?_⟩, ?_, Nat.zero_lt_one, trivial⟩
    all_goals
      intro e he
      cases he
      decide
  have hchecks : ChecksPaths .bare (some (.paths none)) ⟨0⟩ none (fun _ => true) unnamed.store :=
    ⟨by decide, rfl, fun _ => rfl⟩
  have hlisting : listing unnamed.store ⟨0⟩ "LABEL" "data" = .ok [⟨0⟩] :=
    listing_of_sorted (by decide) (by decide)
  obtain ⟨found, after, hok, rfl, hstore⟩ :=
    (does_find_paths hreachable.sound (by decide) (by decide) hchecks hlisting none).exists_ok
  refine ⟨hreachable, hchecks, all_of_listing (by decide) hlisting, after, hok, ?_⟩
  rintro ⟨verified, invalid, hchanged⟩
  have hdropped : (after.store.device ⟨0⟩).flags.unnamed = 0 := by
    rw [hstore]
    decide +kernel
  have hkept : (after.store.device ⟨0⟩).flags.unnamed = 8 := by
    rw [hchanged]
    clear hchanged
    revert verified invalid
    decide +kernel
  omega

end Lookup

end DeviceTags
