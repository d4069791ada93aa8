import DeviceTags.Proofs.Attachment
import DeviceTags.Proofs.Index.Advance
import DeviceTags.Proofs.Index.Joining

/-!
# Operations that advance

Probing and verifying are made of tags that are set, devices that are made, attached and removed,
and fields that the index does not see. Each of these leads the store onward whether it goes
through or fails, and so does all that is made of them. A cache lists all devices that point to it as
before, unless an attachment breaks off, which leaves a device half registered. It is the only
operation that fails for plain want of memory: all others take back what they did and fail for want
of a resource.
-/

namespace DeviceTags

open Store (SameIndex)

/-- An operation that fails leads the store onward nevertheless. It advances it, too, or leaves a
device half registered where there was none. -/
structure Store.Fails (before after : Store) (failure : Failure) : Prop extends
    Onward before after where
  registered : failure.kind ≠ .memory → ∀ c, before.Registered c → after.Registered c
  half : failure.kind = .memory → (∀ c, before.Registered c) → after.HalfRegistered

/-- An operation advances the store, and where it goes through its result is as said. The store is a
part of the state. -/
def Advances {σ α : Type} (storeOf : σ → Store) (operation : EStateM Failure σ α) (before : σ)
    (result : α → σ → Prop) : Prop :=
  Does operation before
    (fun value after => (storeOf before).Advance (storeOf after) ∧ result value after)
    fun failure after => (storeOf before).Fails (storeOf after) failure

namespace Store

variable {before middle after : Store} {failure : Failure}

theorem Advance.fails (hadvance : before.Advance after) (hkind : failure.kind ≠ .memory) :
    before.Fails after failure :=
  { hadvance.toOnward with
    registered := fun _ => hadvance.registered
    half := fun hmemory => absurd hmemory hkind }

/-- What was taken back is as it was before. -/
theorem Sound.fails_restored (hsound : before.Sound) (hrestored : Restored before after)
    (hkind : failure.kind = .parameter ∨ failure.kind = .resource) : before.Fails after failure :=
  (hsound.advance_restored hrestored).fails (by rcases hkind with h | h <;> simp [h])

theorem Advance.then_fails (hadvance : before.Advance middle)
    (hfails : middle.Fails after failure) : before.Fails after failure :=
  { hadvance.toOnward.trans hfails.toOnward with
    registered := fun hkind c hregistered =>
      hfails.registered hkind c (hadvance.registered c hregistered)
    half := fun hkind hregistered =>
      hfails.half hkind fun c => hadvance.registered c (hregistered c) }

end Store

namespace Advances

variable {σ α β : Type} {storeOf : σ → Store} {operation : EStateM Failure σ α} {before : σ}
  {result result' : α → σ → Prop}

theorem mono (hadvances : Advances storeOf operation before result)
    (hresult : ∀ value after, result value after → result' value after) :
    Advances storeOf operation before result' :=
  Does.mono hadvances (fun value after hdone => ⟨hdone.1, hresult value after hdone.2⟩)
    fun _ _ hfailed => hfailed

theorem pure {value : α} (hsound : (storeOf before).Sound) (hresult : result value before) :
    Advances storeOf (Pure.pure value) before result :=
  Does.pure ⟨.refl hsound, hresult⟩

theorem throw {failure : Failure} (hsound : (storeOf before).Sound)
    (hkind : failure.kind ≠ .memory) :
    Advances storeOf (MonadExcept.throw failure : EStateM Failure σ α) before result :=
  Does.throw ((Store.Advance.refl hsound).fails hkind)

/-- The second part may use that the store is sound still and has lost no identity. -/
theorem bind {next : α → EStateM Failure σ β} {result' : β → σ → Prop}
    (hfirst : Advances storeOf operation before result)
    (hnext : ∀ value after, (storeOf before).Advance (storeOf after) → result value after →
      Advances storeOf (next value) after result') :
    Advances storeOf (operation >>= next) before result' := by
  refine Does.bind hfirst (fun value middle hmiddle => ?_) fun _ _ hfailed => hfailed
  refine Does.mono (hnext value middle hmiddle.1 hmiddle.2) (fun _ after hafter => ?_) ?_
  · exact ⟨hmiddle.1.trans hafter.1, hafter.2⟩
  · exact fun _ after hafter => hmiddle.1.then_fails hafter

end Advances

section Elementary

variable {memory : Memory} {α : Type} {result : α → Memory → Prop}

theorem Advances.look_bind {γ : Type} {read : Store → γ} {next : γ → Op α}
    (hnext : Advances Memory.store (next (read memory.store)) memory result) :
    Advances Memory.store (Op.look read >>= next) memory result := hnext

theorem advances_look {γ : Type} (hsound : memory.store.Sound) (read : Store → γ) :
    Advances Memory.store (Op.look read) memory
      fun value after => value = read memory.store ∧ memory = after :=
  have hkept : memory.store.Advance memory.store := .refl hsound
  ⟨hkept, rfl, rfl⟩

theorem advances_log (hsound : memory.store.Sound) (level : Level) (source : Source)
    (message : String) :
    Advances Memory.store (Op.log level source message) memory
      fun _ after => after.store = memory.store := by
  refine (does_log level source message).weaken fun _ after hafter => ?_
  refine ⟨?_, hafter⟩
  rw [hafter]
  exact .refl hsound

theorem advances_checked (hsound : memory.store.Sound) {check : Except Failure α}
    (hkind : ∀ failure, check = .error failure → failure.kind ≠ .memory) :
    Advances Memory.store (Tagging.checked check) memory
      fun value after => check = .ok value ∧ memory = after := by
  cases check with
  | ok value => exact .pure hsound ⟨rfl, rfl⟩
  | error failure => exact .throw hsound (hkind failure rfl)

/-- A change that the index and the direct accesses do not see. -/
theorem advances_edit (change : Store → Store) (hsound : memory.store.Sound)
    (hsame : SameIndex memory.store (change memory.store))
    (hcollaborators : Store.SameCollaborators memory.store (change memory.store))
    (haliases : Store.SameAliases memory.store (change memory.store)) :
    Advances Memory.store (Op.edit change) memory
      fun _ after => after.store = change memory.store :=
  .edit ⟨hsound.advance_of_sameIndex hsame hcollaborators haliases, rfl⟩

end Elementary

section Operations

variable {memory : Memory} {c : CacheId}

/-! ### Probing -/

theorem advances_set (hsound : memory.store.Sound) {d : Option DeviceId}
    (hd : ∀ e ∈ d, memory.store.devices.Holds e) (name value : Datum) (replace : Bool) :
    Advances Memory.store (Tagging.set d name value replace) memory fun _ _ => True := by
  refine (does_set (fun e he => hsound.taggable (hd e he)) name value replace).mono
    (fun _ after hafter => ⟨?_, trivial⟩) ?_
  · obtain ⟨e, he, n, v, hstore⟩ := hafter
    rw [hstore]
    exact hsound.advance_setTag (hd e he) n v replace
  · rintro failure after ⟨hrestored, hkind⟩
    exact hsound.fails_restored hrestored hkind

theorem advances_newDevice (hsound : memory.store.Sound) (name : String) (priority : Priority)
    (flags : DeviceFlags) :
    Advances Memory.store (Op.newDevice { name, priority, flags }) memory
      fun d after => after.store.devices.Holds d ∧ (after.store.device d).tags = [] := by
  refine (does_newDevice _).weaken fun d after hafter => ?_
  obtain ⟨rfl, hstore⟩ := hafter
  refine ⟨?_, ?_, ?_⟩
  · rw [hstore]
    exact hsound.advance_of_sameIndex (Store.sameIndex_addDevice name priority flags)
      (Store.sameCollaborators_of_caches fun _ => rfl)
      (Store.sameAliases_addDevice name priority flags)
  · rw [hstore]
    exact Table.holds_next_add _ _
  · rw [hstore, Store.device_next_add]

/-- A device that is pointed to a cache and not listed is half registered, if none was before. -/
theorem Store.Sound.halfRegistered_connect {store : Store} (hsound : store.Sound)
    (hregistered : ∀ k, store.Registered k) (hc : store.caches.Holds c) {d : DeviceId}
    (hd : store.devices.Holds d) (hinvites : store.Invites c d) :
    (store.connect c d).HalfRegistered := by
  have hfree : (store.device d).cache = none :=
    hinvites.free_or_pointed.resolve_right fun hcache =>
      hinvites.out (hregistered c d hcache)
  refine ⟨c, d, hsound.joining_connect hc hd hfree, fun k e he hcache => ?_⟩
  rw [Store.device_connect hd, if_neg he] at hcache
  rw [Store.devices_connect hc]
  exact hregistered k e hcache

theorem advances_addEmpty (hsound : memory.store.Sound) (hc : memory.store.caches.Holds c)
    {d : DeviceId} (hd : memory.store.devices.Holds d)
    (hempty : (memory.store.device d).tags = []) :
    Advances Memory.store (Attachment.add c (some d)) memory fun _ _ => True := by
  refine (does_add hsound hc (by simpa using hd)).mono (fun _ after hafter => ⟨?_, trivial⟩) ?_
  · obtain ⟨e, he, ⟨-, hkept⟩ | ⟨hinvites, hstore⟩⟩ := hafter
    · rw [hkept]
      exact .refl hsound
    · cases he
      rw [hstore]
      exact hsound.advance_attach hc hd hinvites hempty
  · rintro failure after (⟨hrestored, hkind⟩ | ⟨rfl, -, e, he, hinvites, hstore⟩)
    · exact hsound.fails_restored hrestored hkind
    · cases he
      rw [hstore]
      exact
        { hsound.onward_connect hc hd hinvites hempty with
          registered := fun hkind => absurd rfl hkind
          half := fun _ hregistered =>
            hsound.halfRegistered_connect hregistered hc hd hinvites }

theorem kind_requireDeviceName (name : Option String) (failure : Failure)
    (hfailed : Attachment.requireDeviceName name = .error failure) : failure.kind ≠ .memory := by
  unfold Attachment.requireDeviceName at hfailed
  split at hfailed <;> cases hfailed
  all_goals simp [Failure.kind]

theorem mem_devices_of_named? {store : Store} {name : String} {d : DeviceId}
    (hfound : Attachment.named? store c name = some d) : d ∈ (store.cache c).devices :=
  List.mem_of_find?_eq_some hfound

/-- The device is found or made; one that is made has no tags to bring in. -/
theorem advances_obtain (hsound : memory.store.Sound) (hc : memory.store.caches.Holds c)
    (name : Option String) :
    Advances Memory.store (Attachment.obtain c name) memory
      fun d after => after.store.devices.Holds d := by
  unfold Attachment.obtain
  refine (advances_checked hsound (kind_requireDeviceName name)).bind fun n _ _ hgiven => ?_
  obtain ⟨-, rfl⟩ := hgiven
  refine Advances.look_bind ?_
  cases hfound : Attachment.named? memory.store c n with
  | some d =>
    refine .pure hsound ?_
    exact Store.holds_device_of_cache (hsound.attached c d (mem_devices_of_named? hfound))
  | none =>
    refine (advances_newDevice hsound n .default {}).bind fun d made hadvance hmade => ?_
    obtain ⟨hd, hempty⟩ := hmade
    have hc' := hadvance.progress.lasting.holds_cache hc
    refine (advances_addEmpty hadvance.sound hc' hd hempty).bind fun _ after hafter _ => ?_
    exact .pure hafter.sound (hafter.progress.lasting.holds_device hd)

theorem advances_bringTags (d : DeviceId) (tags : List (String × Datum))
    (hsound : memory.store.Sound) (hd : memory.store.devices.Holds d) :
    Advances Memory.store (Inventory.bringTags d tags) memory fun _ _ => True := by
  induction tags generalizing memory with
  | nil => exact .pure hsound trivial
  | cons entry rest ih =>
    unfold Inventory.bringTags
    refine (advances_set hsound (by simpa using hd) _ _ true).bind fun _ after hafter _ => ?_
    exact ih hafter.sound (hafter.progress.lasting.holds_device hd)

theorem advances_bringDevices (inventory : Inventory) (specs : List DeviceSpec)
    (hsound : memory.store.Sound) (hc : memory.store.caches.Holds c) :
    Advances Memory.store (inventory.bringDevices c specs) memory fun _ _ => True := by
  induction specs generalizing memory with
  | nil => exact .pure hsound trivial
  | cons spec rest ih =>
    have hdevice : Advances Memory.store (inventory.bringDevice c spec) memory fun _ _ => True := by
      unfold Inventory.bringDevice
      refine (advances_obtain hsound hc _).bind fun d made hmade hd => ?_
      refine (advances_edit _ hmade.sound (Store.sameIndex_setPriority d _)
        (Store.sameCollaborators_of_caches fun _ => rfl)
        (Store.sameAliases_setPriority d _)).bind fun _ ranked hranked _ => ?_
      exact advances_bringTags d _ hranked.sound (hranked.progress.lasting.holds_device hd)
    unfold Inventory.bringDevices
    refine hdevice.bind fun _ after hafter _ => ?_
    exact ih hafter.sound (hafter.progress.lasting.holds_cache hc)

theorem sameCollaborators_markProbed {store : Store} :
    Store.SameCollaborators store (store.markProbed c) :=
  Store.sameCollaborators_updateCache c fun _ => ⟨rfl, rfl⟩

theorem advances_inventory (inventory : Inventory) (hsound : memory.store.Sound)
    (hc : memory.store.caches.Holds c) :
    Advances Memory.store (inventory.probe c) memory fun _ _ => True := by
  unfold Inventory.probe
  refine (advances_log hsound _ _ _).bind fun _ logged hlogged _ => ?_
  have hc' := hlogged.progress.lasting.holds_cache hc
  refine (advances_bringDevices inventory _ hlogged.sound hc').bind fun _ brought hbrought _ => ?_
  refine (advances_edit _ hbrought.sound (Store.sameIndex_markProbed c)
    sameCollaborators_markProbed (Store.sameAliases_markProbed c)).bind
      fun _ probed hprobed _ => ?_
  refine Advances.look_bind ?_
  exact (advances_log hprobed.sound _ _ _).mono fun _ _ _ => trivial

/-! ### Verifying -/

theorem advances_remove (hsound : memory.store.Sound) (d : Option DeviceId) :
    Advances Memory.store (Attachment.remove c d) memory fun _ _ => True := by
  refine (does_remove hsound d).mono (fun _ after hafter => ⟨?_, trivial⟩) ?_
  · obtain ⟨e, -, hmem, hstore⟩ := hafter
    rw [hstore]
    exact hsound.advance_detach hmem
  · rintro failure after ⟨hkept, hkind⟩
    rw [hkept]
    exact (Store.Advance.refl hsound).fails (by simp [hkind])

theorem Failure.kind_file_ne_memory (error : FileError) : (Failure.file error).kind ≠ .memory := by
  unfold Failure.kind
  dsimp only
  split <;> nofun

/-- A device whose path exists is the answer, and stays where it is in the index. -/
theorem advances_verifyPath (host : Host) (root : Option Path) (d : DeviceId)
    (hsound : memory.store.Sound) :
    Advances Memory.store (verifyPath host root c d) memory
      fun answer after => ∀ e ∈ answer, d = e ∧ SameIndex memory.store after.store := by
  unfold verifyPath
  refine Advances.look_bind ?_
  cases host.contains (devicePath root (memory.store.device d).name) with
  | error error => exact .throw hsound (Failure.kind_file_ne_memory error)
  | ok found =>
    cases found with
    | true =>
      have hsame : Store.SameIndex memory.store (memory.store.markFound d) :=
        Store.sameIndex_markFound d
      refine (advances_edit _ hsound hsame (Store.sameCollaborators_of_caches fun _ => rfl)
        (Store.sameAliases_markFound d)).bind fun _ after hafter hstore => ?_
      refine .pure hafter.sound fun e he => ⟨Option.some.inj he, ?_⟩
      rw [hstore]
      exact hsame
    | false =>
      refine (advances_log hsound _ _ _).bind fun _ logged hlogged _ => ?_
      refine (advances_edit _ hlogged.sound (Store.sameIndex_markGone d)
        (Store.sameCollaborators_of_caches fun _ => rfl)
        (Store.sameAliases_markGone d)).bind fun _ marked hmarked _ => ?_
      dsimp only
      split
      · exact (advances_remove hmarked.sound _).bind fun _ after hafter _ =>
          .pure hafter.sound nofun
      · exact .pure hmarked.sound nofun

end Operations

end DeviceTags
