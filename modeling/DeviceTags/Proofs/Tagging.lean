import DeviceTags.Proofs.Index.Rollback
import DeviceTags.Proofs.Outcome

/-!
# What tagging does

Every operation on tags from a sound store: where it goes through it leaves the effect that the store
defines for it, and where it runs out of memory it leaves the store as it was.
-/

namespace DeviceTags

open Store (Linked Sound Restored Undoable)

variable {memory : Memory}

/-! ## Linking -/

theorem does_obtainHead (c : CacheId) (name : String) :
    Does (Index.obtainHead c name) memory
      (fun h after => h = memory.store.headFor c name ∧
        after.store = memory.store.ensureHead c name)
      fun failure after => failure = .outOfMemory ∧ after.store = memory.store := by
  unfold Index.obtainHead Store.headFor Store.ensureHead
  refine .look_bind ?_
  cases hfound : memory.store.headOf? c name with
  | some h => exact .pure ⟨rfl, rfl⟩
  | none =>
    refine (does_request .head).bind (fun _ granted hgranted => ?_)
      fun _ _ hfailed => ⟨hfailed.1, hfailed.2.1⟩
    rw [← hgranted]
    refine (does_newHead _).andThen fun h made hmade => ?_
    obtain ⟨rfl, hstore⟩ := hmade
    refine .edit_bind ((does_log _ _ _).andThen fun _ logged hlogged => .pure ⟨rfl, ?_⟩)
    rw [hlogged, Memory.store_withStore, hstore]

/-- Linking stops before it changes anything, or between the two sides of the link. -/
theorem does_link (c : CacheId) (t : TagId) :
    Does (Index.link c t) memory (fun _ after => after.store = memory.store.linkTag c t)
      fun failure after => failure = .outOfMemory ∧
        (after.store = memory.store ∨ after.store = memory.store.pointToHead c t) := by
  unfold Index.link
  refine .look_bind ?_
  refine (does_obtainHead c _).bind (fun h ensured hensured => ?_) ?_
  · obtain ⟨rfl, hstore⟩ := hensured
    have hpointed : ensured.store.setTagHead t
        (some (memory.store.headFor c (memory.store.tag t).name)) =
          memory.store.pointToHead c t := by
      rw [hstore]
      rfl
    refine .edit_bind ((does_request _).bind (fun _ granted hgranted => ?_) ?_)
    · refine .edit_bind (.pure ?_)
      change granted.store.enterHead _ t = _
      rw [hgranted, Memory.store_withStore, hpointed]
      rfl
    · intro failure after hfailed
      rw [Memory.store_withStore, hpointed] at hfailed
      exact ⟨hfailed.1, .inr hfailed.2.1⟩
  · intro failure after hfailed
    exact ⟨hfailed.1, .inl hfailed.2⟩

/-! ## Unlinking -/

/-- Each list that a tag points to holds it. -/
structure Store.Backed (store : Store) (t : TagId) : Prop where
  listed : ∀ d, (store.tag t).device = some d → t ∈ (store.device d).tags
  entered : ∀ h, (store.tag t).head = some h → t ∈ (store.head h).tags

theorem Store.Linked.backed {store : Store} {home : DeviceId → Option CacheId}
    {waiting : List TagId} (hlinked : store.Linked home waiting) (t : TagId) : store.Backed t where
  listed d := (hlinked.listed d t).mpr
  entered h := (hlinked.entered h t).mpr

theorem Store.Backed.unlinkTag {store : Store} {t : TagId} (hbacked : store.Backed t)
    (u : TagId) : (store.unlinkTag u).Backed t := by
  by_cases ht : t = u
  · subst ht
    constructor <;> simp [Store.tag_unlinkTag]
  · have htag : (store.unlinkTag u).tag t = store.tag t := by
      rw [Store.tag_unlinkTag, if_neg ht]
    constructor
    · intro d howner
      have hlisted := hbacked.listed d (htag ▸ howner)
      rw [Store.device_unlinkTag]
      split
      · exact (List.mem_erase_of_ne ht).mpr hlisted
      · exact hlisted
    · intro h hhead
      have hentered := hbacked.entered h (htag ▸ hhead)
      rw [Store.head_unlinkTag]
      split
      · exact (List.mem_erase_of_ne ht).mpr hentered
      · exact hentered

/-- The second half of unlinking: the tag leaves its head. -/
def Tagging.unlinkEntry (t : TagId) : Op Unit := do
  match (← Op.tag t).head with
  | none => pure ()
  | some h =>
    if (← Op.head h).tags.contains t then
      Op.edit fun store => (store.leaveHead h t).setTagHead t none
    else throw .tagNotListed

theorem does_unlinkEntry {t : TagId}
    (hentered : ∀ h, (memory.store.tag t).head = some h → t ∈ (memory.store.head h).tags) :
    Does (Tagging.unlinkEntry t) memory
      (fun _ after => after.store = memory.store.unlinkFromHead t) fun _ _ => False := by
  unfold Tagging.unlinkEntry Store.unlinkFromHead
  refine .look_bind ?_
  cases hhead : (memory.store.tag t).head with
  | none => exact .pure rfl
  | some h =>
    refine .look_bind ?_
    rw [if_pos (by simpa using hentered h hhead)]
    exact .edit rfl

/-- A tag that both of its lists hold leaves both of them. -/
theorem does_unlink {t : TagId} (hbacked : memory.store.Backed t) :
    Does (Tagging.unlink t) memory (fun _ after => after.store = memory.store.unlinkTag t)
      fun _ _ => False := by
  have hsecond : ∀ left : Memory, left.store = memory.store.leaveOwner t →
      Does (Tagging.unlinkEntry t) left (fun _ after => after.store = memory.store.unlinkTag t)
        fun _ _ => False := by
    intro left hleft
    rw [Store.unlinkTag, ← hleft]
    refine does_unlinkEntry fun h hhead => ?_
    rw [hleft, Store.tag_leaveOwner, if_pos rfl] at hhead
    rw [hleft, Store.head_leaveOwner]
    exact hbacked.entered h hhead
  unfold Tagging.unlink
  refine .look_bind ?_
  dsimp only
  cases howner : (memory.store.tag t).device with
  | none =>
    refine hsecond memory ?_
    rw [Store.leaveOwner, howner]
  | some d =>
    refine .look_bind ?_
    rw [if_pos (by simpa using hbacked.listed d howner)]
    refine .edit_bind (hsecond _ ?_)
    rw [Store.leaveOwner, howner]
    rfl

theorem does_destroy (deviceName : String) (ts : List TagId)
    (hbacked : ∀ t ∈ ts, memory.store.Backed t) :
    Does (Tagging.destroy deviceName ts) memory
      (fun _ after => after.store = memory.store.unlinkTags ts) fun _ _ => False := by
  induction ts generalizing memory with
  | nil => exact .pure rfl
  | cons t rest ih =>
    unfold Tagging.destroy
    refine .look_bind ((does_log _ _ _).andThen fun _ logged hlogged => ?_)
    rw [← hlogged] at hbacked ⊢
    refine (does_unlink (hbacked t List.mem_cons_self)).andThen fun _ unlinked hunlinked => ?_
    have hrest : ∀ u ∈ rest, unlinked.store.Backed u := by
      intro u hu
      rw [hunlinked]
      exact (hbacked u (List.mem_cons_of_mem t hu)).unlinkTag t
    refine (ih hrest).weaken fun _ after hafter => ?_
    rw [hafter, hunlinked]
    rfl

theorem does_delete (d : DeviceId) (name : String)
    (hbacked : ∀ t ∈ memory.store.tagsNamed d name, memory.store.Backed t) :
    Does (Tagging.delete d name) memory
      (fun _ after => after.store = memory.store.deleteNamed d name) fun _ _ => False := by
  unfold Tagging.delete
  refine .look_bind (.look_bind ?_)
  refine (does_destroy _ _ hbacked).andThen fun _ destroyed hdestroyed => ?_
  refine .edit ?_
  change ((destroyed.store.dropNamed d name).linkAlias d name none).markDeviceChanged d = _
  rw [hdestroyed]
  rfl

/-! ## Making a tag -/

theorem does_withdraw (d : DeviceId) (t : TagId) (cache : Option CacheId)
    (headsBefore : List String) :
    Does (Tagging.withdraw d t cache headsBefore) memory
      (fun _ after => after.store =
        match cache with
        | none => (memory.store.leaveDevice d t).setTagDevice t none
        | some c => (((memory.store.unlinkFromHead t).discardHeads c headsBefore).leaveDevice d
            t).setTagDevice t none)
      fun _ _ => False := by
  cases cache <;> exact rfl

/-- Where a tag is made, memory can run out before the device lists it, before its head is found, and
between the two sides of the link. -/
theorem does_enter (d : DeviceId) (t : TagId) (cache : Option CacheId) :
    Does (do
        Op.request .deviceSlot
        Op.edit (·.enterDevice d t)
        match cache with
        | none => pure ()
        | some c => discard (Index.link c t))
      memory
      (fun _ after => after.store =
        match cache with
        | none => memory.store.enterDevice d t
        | some c => (memory.store.enterDevice d t).linkTag c t)
      fun failure after => failure = .outOfMemory ∧
        (after.store = memory.store ∨ after.store = memory.store.enterDevice d t ∨
          ∃ c, cache = some c ∧ after.store = (memory.store.enterDevice d t).pointToHead c t) := by
  refine (does_request _).bind (fun _ granted hgranted => ?_) fun _ _ hfailed =>
    ⟨hfailed.1, .inl hfailed.2.1⟩
  rw [← hgranted]
  refine .edit_bind ?_
  cases cache with
  | none => exact .pure rfl
  | some c =>
    refine (does_link c t).bind (fun _ _ hlinked => .pure hlinked) fun failure after hfailed => ?_
    rcases hfailed with ⟨hshort, hsame | hpointed⟩
    · exact ⟨hshort, .inr (.inl hsame)⟩
    · exact ⟨hshort, .inr (.inr ⟨c, rfl, hpointed⟩)⟩

/-- What setting a tag of a device relies on: the links agree, and the device and the cache that it
points to exist. The cache need not list the device. -/
structure Store.Taggable (store : Store) (d : DeviceId) : Prop where
  linked : ∃ home waiting, store.Linked home waiting
  held : store.devices.Holds d
  cacheHeld : ∀ c, (store.device d).cache = some c → store.caches.Holds c

theorem Store.Sound.taggable {store : Store} (hsound : store.Sound) {d : DeviceId}
    (hd : store.devices.Holds d) : store.Taggable d :=
  ⟨⟨_, _, hsound.linked⟩, hd, hsound.held d⟩

section Append

variable {d : DeviceId} (htaggable : memory.store.Taggable d) (name value : String)

include htaggable

/-- Whatever was done of the making of a tag when memory ran out is taken back. -/
theorem does_withdraw_making {made now : Memory}
    (hmade : made.store =
      { memory.store with tags := memory.store.tags.add ⟨name, value, some d, none⟩ })
    (hnow : now.store = made.store ∨ now.store = made.store.enterDevice d memory.store.tags.next ∨
      ∃ c, (memory.store.device d).cache = some c ∧ now.store =
        (made.store.enterDevice d memory.store.tags.next).pointToHead c memory.store.tags.next) :
    Does (Tagging.withdraw d memory.store.tags.next (memory.store.device d).cache
        (((memory.store.device d).cache.map memory.store.headNames).getD []))
      now (fun _ after => memory.store.Restored after.store) fun _ _ => False := by
  obtain ⟨home, waiting, hlinked⟩ := htaggable.linked
  have hunlisted : ∀ e, memory.store.tags.next ∉ (memory.store.device e).tags :=
    fun e hmem => hlinked.mem_device_ne_next hmem rfl
  have hunentered : ∀ h, memory.store.tags.next ∉ (memory.store.head h).tags :=
    fun h hmem => hlinked.mem_head_ne_next hmem rfl
  have hadded := Store.making_addTag memory.store d name value
  have hlisted := Store.making_makeTag htaggable.held name value
  have henter : made.store.enterDevice d memory.store.tags.next =
      memory.store.makeTag d name value := by
    rw [hmade]
    rfl
  rw [henter] at hnow
  refine (does_withdraw _ _ _ _).weaken fun _ after hafter => ?_
  cases hcache : (memory.store.device d).cache with
  | none =>
    rw [hcache] at hafter hnow
    rw [hafter]
    rcases hnow with hnow | hnow | ⟨c, hnone, -⟩
    · rw [hnow, hmade]
      exact hadded.takeBack (.refl _) hunlisted
    · rw [hnow]
      exact hlisted.takeBack (.refl _) hunlisted
    · cases hnone
  | some c =>
    rw [hcache] at hafter hnow
    have hc : memory.store.caches.Holds c := htaggable.cacheHeld c hcache
    rw [hafter]
    rcases hnow with hnow | hnow | ⟨k, hk, hnow⟩
    · rw [hnow, hmade]
      refine hadded.withdraw ?_ hunlisted hunentered
      exact (Undoable.of_restored (.refl _) c).append _
    · rw [hnow]
      refine hlisted.withdraw ?_ hunlisted hunentered
      exact (Undoable.of_restored (.refl _) c).append _
    · cases hk
      rw [hnow]
      refine hlisted.withdraw ?_ hunlisted hunentered
      refine (Undoable.of_restored (.refl _) c).pointToHead hc ?_ hlisted.free
      exact Table.holds_next_add _ _

theorem does_append :
    Does (Tagging.append d name value) memory
      (fun t after => t = memory.store.tags.next ∧
        after.store = memory.store.appendTag d name value)
      fun failure after =>
        failure = .outOfMemorySetting name (memory.store.device d).name ∧
          memory.store.Restored after.store := by
  unfold Tagging.append
  refine .look_bind (.look_bind ?_)
  have hrequest : Does
      (Op.onShortage (Op.request .tag)
        (throw (.outOfMemorySetting name (memory.store.device d).name)))
      memory (fun _ after => after.store = memory.store) fun failure after =>
        failure = .outOfMemorySetting name (memory.store.device d).name ∧
          after.store = memory.store :=
    (does_request .tag).onShortage (fun _ hshort => .throw ⟨rfl, hshort.2.1⟩)
      fun _ _ hne hfailed => absurd hfailed.1 hne
  refine hrequest.bind (fun _ granted hgranted => ?_) ?_
  · rw [← hgranted] at htaggable ⊢
    refine (does_newTag _).andThen fun t made hmade => ?_
    obtain ⟨rfl, hstore⟩ := hmade
    have henter : made.store.enterDevice d granted.store.tags.next =
        granted.store.makeTag d name value := by
      rw [hstore]
      rfl
    refine Does.bind ((does_enter d _ _).onShortage (fun now hnow => ?_)
      fun _ _ hne hfailed => absurd hfailed.1 hne) (fun _ entered hentered => .pure ⟨rfl, ?_⟩)
      fun _ _ hfailed => hfailed
    · refine (does_withdraw_making htaggable name value hstore hnow.2).andThen
        fun _ after hafter => .throw ⟨rfl, hafter⟩
    · rw [hentered, henter]
      unfold Store.appendTag
      cases (granted.store.device d).cache <;> rfl
  · intro failure after hfailed
    refine ⟨hfailed.1, ?_⟩
    rw [hfailed.2]
    exact .refl _

theorem does_assign (replace : Bool) :
    Does (Tagging.assign d name value replace) memory
      (fun _ after => after.store = memory.store.assignTag d name value replace)
      fun failure after =>
        failure = .outOfMemorySetting name (memory.store.device d).name ∧
          memory.store.Restored after.store := by
  unfold Tagging.assign Store.assignTag
  refine .look_bind ?_
  cases memory.store.firstTag? d name with
  | none =>
    refine (does_append htaggable name value).bind (fun t made hmade => ?_) fun _ _ h => h
    obtain ⟨rfl, hstore⟩ := hmade
    refine .edit ?_
    change (made.store.linkAlias d name _).markDeviceChanged d = _
    rw [hstore]
  | some first =>
    refine .look_bind ?_
    dsimp only
    by_cases hvalue : (memory.store.tag first).value = value
    · rw [if_pos hvalue, if_pos hvalue]
      exact .pure rfl
    · rw [if_neg hvalue, if_neg hvalue]
      by_cases hreplace : replace
      · rw [if_pos hreplace, if_pos hreplace]
        exact .edit rfl
      · rw [if_neg hreplace, if_neg hreplace]
        refine (does_append htaggable name value).bind (fun t made hmade => ?_) fun _ _ h => h
        obtain ⟨rfl, hstore⟩ := hmade
        refine .edit ?_
        change ((made.store.markMultiple d).linkAlias d name _).markDeviceChanged d = _
        rw [hstore]

end Append

/-! ## Setting a tag -/

theorem does_requireDevice (d : Option DeviceId) :
    Does (Tagging.requireDevice d) memory (fun e after => d = some e ∧ memory = after)
      fun failure after => failure = .deviceRequired ∧ memory = after := by
  cases d <;> exact ⟨rfl, rfl⟩

theorem does_checked {α : Type} (check : Except Failure α) :
    Does (Tagging.checked check) memory (fun value after => check = .ok value ∧ memory = after)
      fun failure after => check = .error failure ∧ memory = after := by
  cases check <;> exact ⟨rfl, rfl⟩

theorem requireName_of_ne {name : String} (hname : name ≠ "") :
    Tagging.requireName (.string name) = .ok name := if_neg hname

theorem find_firstTag (d : DeviceId) {name : String} (hname : name ≠ "") :
    Tagging.find (some d) (.string name) memory = .ok (memory.store.firstTag? d name) memory := by
  rw [Tagging.find, requireName_of_ne hname]
  rfl

theorem kind_of_requireName {given : Datum} {failure : Failure}
    (hcheck : Tagging.requireName given = .error failure) : failure.kind = .parameter := by
  unfold Tagging.requireName at hcheck
  split at hcheck
  · split at hcheck
    · cases hcheck
      rfl
    · cases hcheck
  · cases hcheck
    rfl

theorem kind_of_requireValue {given : Datum} {failure : Failure}
    (hcheck : Tagging.requireValue given = .error failure) : failure.kind = .parameter := by
  unfold Tagging.requireValue at hcheck
  split at hcheck <;> cases hcheck
  rfl

/-- Setting a tag has its effect, or it fails for its arguments or for want of memory and changes
nothing. -/
theorem does_set {d : Option DeviceId} (htaggable : ∀ e ∈ d, memory.store.Taggable e)
    (name value : Datum) (replace : Bool) :
    Does (Tagging.set d name value replace) memory
      (fun _ after => ∃ e ∈ d, ∃ n v, after.store = memory.store.setTag e n v replace)
      fun failure after => memory.store.Restored after.store ∧
        (failure.kind = .parameter ∨ failure.kind = .resource) := by
  unfold Tagging.set
  refine (does_requireDevice d).bind (fun e _ hgiven => ?_) ?_
  · obtain ⟨rfl, rfl⟩ := hgiven
    have he : memory.store.Taggable e := htaggable e rfl
    obtain ⟨home, waiting, hlinked⟩ := he.linked
    refine (does_checked _).bind (fun n _ hname => ?_) ?_
    · obtain ⟨-, rfl⟩ := hname
      refine (does_checked _).bind (fun v _ hvalue => ?_) ?_
      · obtain ⟨-, rfl⟩ := hvalue
        cases v with
        | none =>
          refine (does_delete e n fun t _ => hlinked.backed t).weaken fun _ done hdone => ?_
          exact ⟨e, rfl, n, none, hdone⟩
        | some text =>
          refine (does_assign he n text replace).mono (fun _ done hdone => ?_) ?_
          · exact ⟨e, rfl, n, some text, hdone⟩
          · rintro failure done ⟨rfl, hrestored⟩
            exact ⟨hrestored, .inr rfl⟩
      · rintro failure _ ⟨hcheck, rfl⟩
        exact ⟨.refl _, .inl (kind_of_requireValue hcheck)⟩
    · rintro failure _ ⟨hcheck, rfl⟩
      exact ⟨.refl _, .inl (kind_of_requireName hcheck)⟩
  · rintro failure _ ⟨rfl, rfl⟩
    exact ⟨.refl _, .inl rfl⟩

end DeviceTags
