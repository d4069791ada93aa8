import DeviceTags.Proofs.Tagging

/-!
# What attaching and removing do

A device that is attached brings its tags along or, if memory runs out at any of them, none of them.
If memory runs out after that, where the cache is to list the device, the attachment breaks off: the
tags stay linked and the device points to a cache that does not list it. Removing a device from a
sound store cannot run out of memory and cannot meet a tag that is missing from one of its lists.
-/

namespace DeviceTags

open Store (Linked Sound Restored Undoable)

variable {memory : Memory} {before : Store} {c : CacheId}

theorem does_requireGiven (d : DeviceId) :
    Does (Tagging.requireDevice (some d)) memory (fun e after => e = d ∧ after = memory)
      fun _ _ => False := ⟨rfl, rfl⟩

/-! ## Attaching -/

/-- Unlinking the pending tags leaves nothing pending. -/
theorem does_unlinkAll (pending : List TagId) (hundo : Undoable before memory.store c pending)
    (hfree : ∀ t ∈ pending, (before.tag t).head = none ∧ ∀ h, t ∉ (before.head h).tags) :
    Does (Attachment.unlinkAll pending) memory (fun _ after => Undoable before after.store c [])
      fun _ _ => False := by
  induction pending generalizing memory with
  | nil => exact .pure hundo
  | cons t rest ih =>
    unfold Attachment.unlinkAll
    obtain ⟨hhead, hout⟩ := hfree t List.mem_cons_self
    have hsettled := hundo.unlinkFromHead hhead hout
    refine .edit_bind (ih hsettled fun u hu => ?_)
    exact hfree u (List.mem_cons_of_mem t hu)

/-- Linking all tags of a device goes through, or it takes back the links that it made. -/
theorem does_linkAll {home : DeviceId → Option CacheId} {d : DeviceId} (hhome : home d = some c)
    (shortage : Failure) (linked waiting : List TagId)
    (hbefore : before.Linked home (linked ++ waiting))
    (hundo : Undoable before memory.store c linked)
    (hlinked : memory.store.Linked home waiting) (hc : memory.store.caches.Holds c)
    (htags : (memory.store.device d).tags = linked ++ waiting) :
    Does (Attachment.linkAll c shortage (before.headNames c) linked waiting) memory
      (fun _ after => after.store = Store.linkMissing c waiting memory.store)
      fun failure after => failure = shortage ∧ before.Restored after.store := by
  -- The tags that are done are pending if memory runs out, the ones that are left are waiting.
  induction waiting generalizing memory linked with
  | nil => exact .pure rfl
  | cons t rest ih =>
    have hhead : (memory.store.tag t).head = none := hlinked.waitingFree t List.mem_cons_self
    have ht : memory.store.tags.Holds t := by
      refine Store.holds_tag_of_device ((hlinked.listed d t).mp ?_)
      rw [htags]
      simp
    have hout := hlinked.not_mem_head_of_waiting (t := t) List.mem_cons_self
    have hfree : ∀ u ∈ linked ++ [t],
        (before.tag u).head = none ∧ ∀ h, u ∉ (before.head h).tags := by
      intro u hu
      have hwaits : u ∈ linked ++ t :: rest := by
        simp at hu ⊢
        tauto
      exact ⟨hbefore.waitingFree u hwaits, hbefore.not_mem_head_of_waiting hwaits⟩
    unfold Attachment.linkAll Store.linkMissing
    refine .look_bind ?_
    rw [if_neg (by simp [hhead]), if_neg (by simp [hhead])]
    refine Does.bind (Does.onShortage (does_link c t).discard (fun now hnow => ?_)
      fun _ _ hne hfailed => absurd hfailed.1 hne) (fun _ after hafter => ?_) fun _ _ h => h
    · have hpending : Undoable before now.store c (linked ++ [t]) := by
        rcases hnow.2 with hsame | hpointed
        · rw [hsame]
          exact hundo.append t
        · rw [hpointed]
          exact hundo.pointToHead hc ht hhead
      refine (does_unlinkAll _ hpending hfree).andThen fun _ unlinked hunlinked => ?_
      exact .edit_bind (.throw ⟨rfl, hunlinked.discardHeads⟩)
    · rw [← hafter]
      refine ih (linked ++ [t]) ?_ ?_ ?_ ?_ ?_
      · simpa using hbefore
      · rw [hafter]
        exact hundo.linkTag hc ht hhead (hlinked.headOf?_held _) hout
      · rw [hafter]
        exact hlinked.linkNext hhome hc htags
      · rw [hafter]
        exact (Store.extends_linkTag _ c t).holds_cache hc
      · rw [hafter, Store.device_linkTag, htags]
        simp

/-- A device all of whose tags are linked asks for no memory. -/
theorem does_linkAll_linked (shortage : Failure) (headsBefore : List String)
    (linked : List TagId) {waiting : List TagId}
    (hall : ∀ t ∈ waiting, (memory.store.tag t).head.isSome) :
    Does (Attachment.linkAll c shortage headsBefore linked waiting) memory
      (fun _ after => after.store = memory.store) fun _ _ => False := by
  induction waiting with
  | nil => exact .pure rfl
  | cons t rest ih =>
    unfold Attachment.linkAll
    refine .look_bind ?_
    rw [if_pos (hall t List.mem_cons_self)]
    exact ih fun u hu => hall u (List.mem_cons_of_mem t hu)

/-- An attachment that has linked the tags of a device and pointed it to the cache, and finds no
memory for a place in the list of the cache. -/
structure BreaksOff (before after : Memory) (c : CacheId) (d : Option DeviceId) (failure : Failure) :
    Prop where
  plain : failure = .outOfMemory
  spent : before.supply .cacheSlot = some 0
  connected : ∃ e ∈ d, before.store.Invites c e ∧ after.store = before.store.connect c e

theorem BreaksOff.kind {before after : Memory} {d : Option DeviceId} {failure : Failure}
    (hbreaks : BreaksOff before after c d failure) : failure.kind = .memory :=
  congrArg Failure.kind hbreaks.plain

/-- The operation leaves as many places in device lists as it finds, if it goes through. -/
def KeepsCacheSlots {α : Type} (operation : Op α) : Prop :=
  ∀ memory : Memory, Does operation memory
    (fun _ after => after.supply .cacheSlot = memory.supply .cacheSlot) fun _ _ => True

namespace KeepsCacheSlots

variable {α β : Type}

theorem bind {operation : Op α} {next : α → Op β} (hfirst : KeepsCacheSlots operation)
    (hnext : ∀ value, KeepsCacheSlots (next value)) : KeepsCacheSlots (operation >>= next) := by
  intro memory
  refine Does.bind (hfirst memory) (fun value middle hmiddle => ?_) fun _ _ _ => trivial
  exact (hnext value middle).mono (fun _ _ hafter => hafter.trans hmiddle) fun _ _ _ => trivial

theorem request {what : Request} (hwhat : what ≠ .cacheSlot) :
    KeepsCacheSlots (Op.request what) := by
  intro memory
  unfold Does Op.request
  cases memory.supply what with
  | none => rfl
  | some granted =>
    cases granted with
    | zero => trivial
    | succ granted => exact if_neg hwhat.symm

theorem link (c : CacheId) (t : TagId) : KeepsCacheSlots (Index.link c t) := by
  have hobtain : ∀ name, KeepsCacheSlots (Index.obtainHead c name) := by
    intro name
    unfold Index.obtainHead
    refine .bind (fun _ => rfl) fun found => ?_
    cases found with
    | some h => exact fun _ => rfl
    | none => exact .bind (request nofun) fun _ _ => rfl
  unfold Index.link
  refine .bind (fun _ => rfl) fun tag => .bind (hobtain _) fun h => ?_
  exact .bind (fun _ => rfl) fun _ => .bind (request nofun) fun _ => .bind (fun _ => rfl)
    fun _ _ => rfl

theorem linkAll (c : CacheId) (shortage : Failure) (headsBefore : List String)
    (linked waiting : List TagId) :
    KeepsCacheSlots (Attachment.linkAll c shortage headsBefore linked waiting) := by
  induction waiting generalizing linked with
  | nil => exact fun _ => rfl
  | cons t rest ih =>
    unfold Attachment.linkAll
    refine .bind (fun _ => rfl) fun tag => ?_
    split
    · exact ih linked
    · refine .bind (fun memory => ?_) fun _ => ih _
      -- Nothing is said of what stands in for the link, since that never goes through.
      refine Does.onShortage (link c t memory).discard (fun after _ => ?_) fun _ _ _ _ => trivial
      refine Does.bind (.trivial _ _) (fun _ unlinked _ => ?_) fun _ _ => id
      exact .edit_bind (.throw trivial)

end KeepsCacheSlots

/-- The last part of an attachment, with the tags linked: the cache lists the device, or there is no
memory for that. -/
theorem does_enlist (d : DeviceId) (message : String) :
    Does (do
        Op.request .cacheSlot
        Op.edit fun store => (store.enterCache c d).markChanged c
        Op.log .debug .cache message) memory
      (fun _ after => after.store = (memory.store.enterCache c d).markChanged c)
      fun failure after => failure = .outOfMemory ∧ after.store = memory.store ∧
        memory.supply .cacheSlot = some 0 := by
  refine (does_request .cacheSlot).bind (fun _ granted hgranted => ?_) fun _ _ hfailed => hfailed
  refine .edit_bind ((does_log _ _ _).weaken fun _ logged hlogged => ?_)
  rw [hlogged, Memory.store_withStore, hgranted]

/-- The tags of a device that can be attached are linked, or the links that were made are taken
back. A device that points to the cache has all its tags linked. -/
theorem does_linkTags (hsound : memory.store.Sound) (hc : memory.store.caches.Holds c)
    {d : DeviceId} (hinvites : memory.store.Invites c d) (shortage : Failure) :
    Does (Attachment.linkAll c shortage (memory.store.headNames c) [] (memory.store.device d).tags)
      memory
      (fun _ after => after.store =
        Store.linkMissing c (memory.store.device d).tags memory.store)
      fun failure after => failure = shortage ∧ memory.store.Restored after.store := by
  rcases hinvites.free_or_pointed with hfree | hpointed
  · have hinvited := hsound.linked.invite hfree c
    exact does_linkAll (d := d) (if_pos rfl) shortage [] _ hinvited (.of_restored (.refl _) c)
      hinvited hc rfl
  · have hall := hsound.isSome_head_of_cache hpointed
    refine (does_linkAll_linked shortage _ [] hall).weaken fun _ after hafter => ?_
    rw [hafter, Store.linkMissing_eq_self hall]

/-- Attaching a device that is in the cache does nothing. Otherwise it has its effect, or it fails for
its arguments or for want of memory and changes nothing, or it breaks off. -/
theorem does_add (hsound : memory.store.Sound) (hc : memory.store.caches.Holds c)
    {d : Option DeviceId} (hd : ∀ e ∈ d, memory.store.devices.Holds e) :
    Does (Attachment.add c d) memory
      (fun _ after => ∃ e ∈ d,
        (e ∈ (memory.store.cache c).devices ∧ after.store = memory.store) ∨
        (memory.store.Invites c e ∧ after.store = memory.store.attach c e))
      fun failure after => (memory.store.Restored after.store ∧
          (failure.kind = .parameter ∨ failure.kind = .resource)) ∨
        BreaksOff memory after c d failure := by
  unfold Attachment.add
  refine (does_requireDevice d).bind (fun e _ hgiven => ?_) ?_
  · obtain ⟨rfl, rfl⟩ := hgiven
    refine .look_bind (.look_bind ?_)
    split
    · next hmem => exact .pure ⟨e, rfl, .inl ⟨by simpa using hmem, rfl⟩⟩
    · next hmem =>
      have hout : e ∉ (memory.store.cache c).devices := by simpa using hmem
      split
      · exact .throw (.inl ⟨.refl _, .inl rfl⟩)
      · next helsewhere =>
        have hinvites : memory.store.Invites c e :=
          ⟨hout, fun k hcache => by simpa [hcache] using helsewhere⟩
        have hlinks := fun shortage => (does_linkTags hsound hc hinvites shortage).and
          (KeepsCacheSlots.linkAll c shortage _ [] _ memory)
        refine .look_bind ((hlinks _).bind (fun _ linked hlinked => ?_) ?_)
        · have hconnected : linked.store.setDeviceCache e (some c) = memory.store.connect c e := by
            rw [hlinked.1]
            rfl
          refine .edit_bind ((does_enlist e _).mono (fun _ after hafter => ?_)
            fun failure after hafter => ?_)
          · rw [Memory.store_withStore, hconnected] at hafter
            exact ⟨e, rfl, .inr ⟨hinvites, hafter⟩⟩
          · rw [Memory.store_withStore, hconnected] at hafter
            exact .inr ⟨hafter.1, hlinked.2 ▸ hafter.2.2, e, rfl, hinvites, hafter.2.1⟩
        · rintro failure after ⟨⟨rfl, hrestored⟩, -⟩
          exact .inl ⟨hrestored, .inr rfl⟩
  · rintro failure _ ⟨rfl, rfl⟩
    exact .inl ⟨.refl _, .inl rfl⟩

theorem Store.Invites.not_elsewhere {store : Store} {d : DeviceId} (hinvites : store.Invites c d) :
    ((store.device d).cache.isSome && (store.device d).cache ≠ some c) = false := by
  rcases hinvites.free_or_pointed with hcache | hcache <;> simp [hcache]

/-- A device without tags asks for no memory but that for its place in the list of the cache. -/
theorem does_addUntagged {d : DeviceId} (hinvites : memory.store.Invites c d)
    (hempty : (memory.store.device d).tags = []) :
    Does (Attachment.add c (some d)) memory
      (fun _ after => after.store = memory.store.attach c d)
      fun failure after => BreaksOff memory after c (some d) failure := by
  have hnothing : ∀ shortage names, Does (Attachment.linkAll c shortage names [] []) memory
      (fun _ after => after = memory) fun _ _ => False := fun _ _ => rfl
  unfold Attachment.add Store.attach Store.connect
  refine (does_requireGiven d).andThen fun e after hafter => ?_
  obtain ⟨rfl, rfl⟩ := hafter
  refine .look_bind (.look_bind ?_)
  rw [if_neg (by simpa using hinvites.out), hinvites.not_elsewhere, hempty]
  refine .look_bind ((hnothing _ _).andThen fun _ linked hlinked => ?_)
  subst hlinked
  have hconnected : linked.store.connect c e = linked.store.setDeviceCache e (some c) := by
    rw [Store.connect, hempty]
    rfl
  exact .edit_bind ((does_enlist e _).mono (fun _ _ hafter => hafter) fun _ _ hfailed =>
    ⟨hfailed.1, hfailed.2.2, e, rfl, hinvites, hfailed.2.1.trans hconnected.symm⟩)

theorem requireDeviceName_of_ne {name : String} (hname : name ≠ "") :
    Attachment.requireDeviceName (some name) = .ok name := by
  unfold Attachment.requireDeviceName
  split <;> simp_all

theorem find_named (c : CacheId) {name : String} (hname : name ≠ "") :
    Attachment.find c (some name) memory = .ok (Attachment.named? memory.store c name) memory := by
  rw [Attachment.find, requireDeviceName_of_ne hname]
  rfl

/-! ## Removing -/

theorem does_destroyTags {home : DeviceId → Option CacheId} {waiting : List TagId}
    (ts : List TagId) (hlinked : memory.store.Linked home waiting) :
    Does (Attachment.destroyTags ts) memory
      (fun _ after => after.store = memory.store.unlinkTags ts) fun _ _ => False := by
  induction ts generalizing memory with
  | nil => exact .pure rfl
  | cons t rest ih =>
    unfold Attachment.destroyTags
    refine (does_unlink (hlinked.backed t)).andThen fun _ unlinked hunlinked => ?_
    have hrest := hlinked.unlinkTag t
    rw [← hunlinked] at hrest
    refine (ih hrest).weaken fun _ after hafter => ?_
    rw [hafter, hunlinked]
    rfl

/-- The removal of a device of the cache goes through. -/
theorem does_removeAttached (hsound : memory.store.Sound) {d : DeviceId}
    (hmem : d ∈ (memory.store.cache c).devices) :
    Does (Attachment.remove c (some d)) memory
      (fun _ after => after.store = memory.store.detach c d) fun _ _ => False := by
  unfold Attachment.remove
  refine (does_requireGiven d).andThen fun e after hafter => ?_
  obtain ⟨rfl, rfl⟩ := hafter
  refine .look_bind (.look_bind ?_)
  rw [if_pos (by simpa using hmem)]
  refine (does_log _ _ _).andThen fun _ logged hlogged => ?_
  rw [← hlogged] at hsound hmem ⊢
  refine (does_destroyTags _ hsound.linked).andThen fun _ destroyed hdestroyed => ?_
  refine .edit ?_
  rw [Memory.store_withStore, hdestroyed]
  rfl

theorem does_remove (hsound : memory.store.Sound) (d : Option DeviceId) :
    Does (Attachment.remove c d) memory
      (fun _ after => ∃ e ∈ d, e ∈ (memory.store.cache c).devices ∧
        after.store = memory.store.detach c e)
      fun failure after => after.store = memory.store ∧ failure.kind = .parameter := by
  cases d with
  | none => exact ⟨rfl, rfl⟩
  | some e =>
    by_cases hmem : e ∈ (memory.store.cache c).devices
    · exact (does_removeAttached hsound hmem).weaken fun _ _ hafter => ⟨e, rfl, hmem, hafter⟩
    · unfold Attachment.remove
      refine (does_requireGiven e).andThen fun f after hafter => ?_
      obtain ⟨rfl, rfl⟩ := hafter
      refine .look_bind (.look_bind ?_)
      rw [if_neg (by simpa using hmem)]
      exact .throw ⟨rfl, rfl⟩

end DeviceTags
