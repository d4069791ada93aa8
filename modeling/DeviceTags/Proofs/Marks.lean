import DeviceTags.Proofs.Run

/-!
# Who marks a cache as probed

Nothing ever takes the mark away, and nothing sets it but a prober that is done and the operation
that does just that. Every other operation leaves the marks of all caches as they are, from any
state, with any supply of memory and wherever it stops. Nor does any operation give a cache a
collaborator, but the one that makes it.
-/

namespace DeviceTags

/-- The caches are still there, each counts as probed exactly if it did before, and all their
collaborators are packaged ones if they were. -/
structure Store.SameMarks (before after : Store) : Prop where
  held : ∀ c, before.caches.Holds c → after.caches.Holds c
  probed : ∀ c, (after.cache c).probed = (before.cache c).probed
  packaged : before.Packaged → after.Packaged

/-- An operation leaves the marks as they are, whether it goes through or fails. -/
def KeepsMarks {α : Type} (operation : Op α) : Prop :=
  ∀ memory : Memory, Does operation memory (fun _ after => memory.store.SameMarks after.store)
    fun _ after => memory.store.SameMarks after.store

/-! ## Changes of the store -/

namespace Store

variable {store before middle after : Store}

theorem SameMarks.refl (store : Store) : SameMarks store store :=
  ⟨fun _ hc => hc, fun _ => rfl, id⟩

theorem SameMarks.trans (hfirst : SameMarks before middle) (hsecond : SameMarks middle after) :
    SameMarks before after :=
  ⟨fun c hc => hsecond.held c (hfirst.held c hc),
    fun c => (hsecond.probed c).trans (hfirst.probed c),
    fun hpackaged => hsecond.packaged (hfirst.packaged hpackaged)⟩

theorem sameMarks_of_caches (hsame : after.caches = before.caches) : SameMarks before after := by
  have hcache : ∀ c, after.cache c = before.cache c := fun c => by rw [cache, cache, hsame]
  constructor
  · intro c hc
    rw [hsame]
    exact hc
  · exact fun c => congrArg Cache.probed (hcache c)
  · exact fun hpackaged => hpackaged.of_same (sameCollaborators_of_caches hcache)

theorem sameMarks_updateCache {change : Cache → Cache} (c : CacheId)
    (hkeep : ∀ record, (change record).probed = record.probed)
    (hsame : SameCollaborators store (store.updateCache c change)) :
    SameMarks store (store.updateCache c change) where
  held _ hk := (Table.holds_update _ _ _ _).mpr hk
  probed := Table.field_update Cache.probed hkeep store.caches c
  packaged hpackaged := hpackaged.of_same hsame

theorem sameMarks_markChanged (c : CacheId) : SameMarks store (store.markChanged c) :=
  sameMarks_updateCache c (fun _ => rfl) (sameCollaborators_markChanged c)

theorem sameMarks_clearChanged (c : CacheId) : SameMarks store (store.clearChanged c) :=
  sameMarks_updateCache c (fun _ => rfl) (sameCollaborators_updateCache c fun _ => ⟨rfl, rfl⟩)

theorem sameMarks_enterCache (c : CacheId) (d : DeviceId) :
    SameMarks store (store.enterCache c d) :=
  sameMarks_updateCache c (fun _ => rfl) (sameCollaborators_enterCache c d)

theorem sameMarks_leaveCache (c : CacheId) (d : DeviceId) :
    SameMarks store (store.leaveCache c d) :=
  sameMarks_updateCache c (fun _ => rfl) (sameCollaborators_leaveCache c d)

/-- A new cache is not probed. -/
theorem sameMarks_addCache {prober : Option Prober} {verifier : Option Verifier}
    (hprober : ∀ p ∈ prober, p.IsPackaged) (hverifier : ∀ v ∈ verifier, v.IsPackaged) :
    SameMarks store { store with caches := store.caches.add { prober, verifier } } where
  held _ hk := Table.holds_add_of_holds _ hk
  probed c := by
    rw [cache, Table.get_add]
    split
    · next hnew =>
      rw [hnew, cache_next]
      rfl
    · rfl
  packaged hpackaged := hpackaged.addCache hprober hverifier

/-- A mark stays whichever cache is marked next. -/
theorem probed_markProbed {k : CacheId} (c : CacheId) (hprobed : (store.cache k).probed = true) :
    ((store.markProbed c).cache k).probed = true := by
  by_cases hk : k = c
  · subst hk
    by_cases hheld : store.caches.Holds k
    · rw [markProbed, cache_updateCache_self store hheld]
    · rw [cache, Table.get_of_not_holds hheld] at hprobed
      cases hprobed
  · rw [markProbed, cache_updateCache_of_ne store hk, hprobed]

theorem sameMarks_unlinkFromHead (t : TagId) : SameMarks store (store.unlinkFromHead t) := by
  unfold unlinkFromHead
  split
  · exact .refl store
  · exact sameMarks_of_caches rfl

theorem sameMarks_markDeviceChanged (d : DeviceId) :
    SameMarks store (store.markDeviceChanged d) := by
  unfold markDeviceChanged
  split
  · exact .refl store
  · next c _ => exact sameMarks_markChanged c

/-- What follows the change of the tags when a tag is set. -/
theorem sameMarks_finish (d : DeviceId) (name : String) (t : Option TagId)
    (hsame : after.caches = before.caches) :
    SameMarks before ((after.linkAlias d name t).markDeviceChanged d) := by
  have hlinked : (after.linkAlias d name t).caches = before.caches := by
    unfold linkAlias
    split
    · exact hsame
    · split <;> exact hsame
  exact (sameMarks_of_caches hlinked).trans (sameMarks_markDeviceChanged d)

end Store

/-! ## Rules -/

namespace KeepsMarks

open Store (SameMarks)

variable {α β : Type} {operation instead : Op α}

theorem pure (value : α) : KeepsMarks (Pure.pure value : Op α) :=
  fun memory => .pure (.refl memory.store)

theorem throw (failure : Failure) : KeepsMarks (MonadExcept.throw failure : Op α) :=
  fun memory => .throw (.refl memory.store)

theorem bind {next : α → Op β} (hfirst : KeepsMarks operation)
    (hnext : ∀ value, KeepsMarks (next value)) : KeepsMarks (operation >>= next) := by
  intro memory
  refine Does.bind (hfirst memory) (fun value middle hmiddle => ?_) fun _ _ hfailed => hfailed
  exact (hnext value middle).mono (fun _ _ hafter => hmiddle.trans hafter)
    fun _ _ hafter => hmiddle.trans hafter

theorem discard (hoperation : KeepsMarks operation) : KeepsMarks (Functor.discard operation) :=
  fun memory => Does.discard (hoperation memory)

theorem look (read : Store → α) : KeepsMarks (Op.look read) :=
  fun memory => SameMarks.refl memory.store

theorem edit {change : Store → Store} (hchange : ∀ store, SameMarks store (change store)) :
    KeepsMarks (Op.edit change) :=
  fun memory => .edit (hchange memory.store)

theorem log (level : Level) (source : Source) (message : String) :
    KeepsMarks (Op.log level source message) :=
  fun memory => SameMarks.refl memory.store

theorem request (what : Request) : KeepsMarks (Op.request what) := by
  intro memory
  refine (does_request what).mono (fun _ after hafter => ?_) fun _ after hafter => ?_
  · rw [hafter]
    exact .refl memory.store
  · rw [hafter.2.1]
    exact .refl memory.store

theorem onShortage (hoperation : KeepsMarks operation) (hinstead : KeepsMarks instead) :
    KeepsMarks (Op.onShortage operation instead) := by
  intro memory
  refine Does.onShortage (hoperation memory) (fun middle hmiddle => ?_) fun _ _ _ hfailed => hfailed
  exact (hinstead middle).mono (fun _ _ hafter => hmiddle.trans hafter)
    fun _ _ hafter => hmiddle.trans hafter

theorem checked (check : Except Failure α) : KeepsMarks (Tagging.checked check) := by
  cases check with
  | ok value => exact .pure value
  | error failure => exact .throw failure

theorem requireDevice (d : Option DeviceId) : KeepsMarks (Tagging.requireDevice d) := by
  cases d with
  | none => exact .throw _
  | some d => exact .pure d

end KeepsMarks

/-! ## The index and the tags of a device -/

section Tags

open Store (sameMarks_of_caches sameMarks_updateCache sameMarks_finish)

theorem Index.keepsMarks_obtainHead (c : CacheId) (name : String) :
    KeepsMarks (Index.obtainHead c name) := by
  unfold Index.obtainHead
  refine .bind (.look _) fun found => ?_
  cases found with
  | some h => exact .pure h
  | none =>
    have hnew : KeepsMarks (Op.newHead ⟨name, []⟩) :=
      .bind (.look _) fun h => .bind (.edit fun _ => sameMarks_of_caches rfl) fun _ => .pure h
    refine .bind (.request _) fun _ => .bind hnew fun h => ?_
    have hregister : ∀ store : Store, store.SameMarks (store.registerHead c name h) := fun _ =>
      sameMarks_updateCache c (fun _ => rfl) (Store.sameCollaborators_updateCache c fun _ => ⟨rfl, rfl⟩)
    exact .bind (.edit hregister) fun _ => .bind (.log _ _ _) fun _ => .pure h

theorem Index.keepsMarks_link (c : CacheId) (t : TagId) : KeepsMarks (Index.link c t) := by
  unfold Index.link
  refine .bind (.look _) fun tag => .bind (keepsMarks_obtainHead c tag.name) fun h => ?_
  refine .bind (.edit fun _ => sameMarks_of_caches rfl) fun _ => .bind (.request _) fun _ => ?_
  exact .bind (.edit fun _ => sameMarks_of_caches rfl) fun _ => .pure h

theorem Index.keepsMarks_unlink (t : TagId) : KeepsMarks (Index.unlink t) :=
  .edit fun _ => Store.sameMarks_unlinkFromHead t

theorem Index.keepsMarks_discard (c : CacheId) (kept : List String) :
    KeepsMarks (Index.discard c kept) :=
  .edit fun _ => sameMarks_updateCache c (fun _ => rfl)
    (Store.sameCollaborators_updateCache c fun _ => ⟨rfl, rfl⟩)

theorem Tagging.keepsMarks_unlink (t : TagId) : KeepsMarks (Tagging.unlink t) := by
  have hentry : KeepsMarks (Tagging.unlinkEntry t) := by
    unfold Tagging.unlinkEntry
    refine .bind (.look _) fun tag => ?_
    cases tag.head with
    | none => exact .pure ()
    | some h =>
      refine .bind (.look _) fun head => ?_
      split
      · exact .edit fun _ => sameMarks_of_caches rfl
      · exact .throw _
  unfold Tagging.unlink
  refine .bind (.look _) fun tag => ?_
  cases tag.device with
  | none => exact hentry
  | some d =>
    refine .bind (.look _) fun device => ?_
    split
    · exact .bind (.edit fun _ => sameMarks_of_caches rfl) fun _ => hentry
    · exact .bind (.throw _) fun _ => hentry

theorem Tagging.keepsMarks_destroy (deviceName : String) (ts : List TagId) :
    KeepsMarks (Tagging.destroy deviceName ts) := by
  induction ts with
  | nil => exact .pure ()
  | cons t rest ih =>
    exact .bind (.look _) fun tag => .bind (.log _ _ _) fun _ =>
      .bind (keepsMarks_unlink t) fun _ => ih

theorem Tagging.keepsMarks_delete (d : DeviceId) (name : String) :
    KeepsMarks (Tagging.delete d name) := by
  unfold Tagging.delete
  refine .bind (.look _) fun device => .bind (.look _) fun named => ?_
  refine .bind (keepsMarks_destroy _ named) fun _ => ?_
  exact .edit fun _ => sameMarks_finish d name none rfl

theorem Tagging.keepsMarks_withdraw (d : DeviceId) (t : TagId) (cache : Option CacheId)
    (headsBefore : List String) : KeepsMarks (Tagging.withdraw d t cache headsBefore) := by
  have hleave : KeepsMarks
      (Op.edit fun store => (store.leaveDevice d t).setTagDevice t none) :=
    .edit fun _ => sameMarks_of_caches rfl
  unfold Tagging.withdraw
  cases cache with
  | none => exact .bind hleave fun _ => .pure ()
  | some c =>
    exact .bind (Index.keepsMarks_unlink t) fun _ => .bind hleave fun _ =>
      Index.keepsMarks_discard c headsBefore

theorem Tagging.keepsMarks_append (d : DeviceId) (name value : String) :
    KeepsMarks (Tagging.append d name value) := by
  unfold Tagging.append
  refine .bind (.look _) fun device => .bind (.look _) fun headsBefore => ?_
  refine .bind (.onShortage (.request _) (.throw _)) fun _ => ?_
  have hnew : KeepsMarks (Op.newTag ⟨name, value, some d, none⟩) :=
    .bind (.look _) fun t => .bind (.edit fun _ => sameMarks_of_caches rfl) fun _ => .pure t
  refine .bind hnew fun t => .bind (.onShortage ?_ ?_) fun _ => .pure t
  · refine .bind (.request _) fun _ => .bind (.edit fun _ => sameMarks_of_caches rfl) fun _ => ?_
    cases device.cache with
    | none => exact .pure ()
    | some c => exact .discard (Index.keepsMarks_link c t)
  · exact .bind (keepsMarks_withdraw d t device.cache headsBefore) fun _ => .throw _

theorem Tagging.keepsMarks_assign (d : DeviceId) (name value : String) (replace : Bool) :
    KeepsMarks (Tagging.assign d name value replace) := by
  unfold Tagging.assign
  refine .bind (.look _) fun found => ?_
  cases found with
  | none =>
    refine .bind (keepsMarks_append d name value) fun t => ?_
    exact .edit fun _ => sameMarks_finish d name _ rfl
  | some first =>
    refine .bind (.look _) fun tag => ?_
    split
    · exact .pure ()
    · split
      · exact .edit fun _ => sameMarks_finish d name _ rfl
      · refine .bind (keepsMarks_append d name value) fun t => ?_
        exact .edit fun _ => sameMarks_finish d name _ rfl

theorem Tagging.keepsMarks_set (d : Option DeviceId) (name value : Datum) (replace : Bool) :
    KeepsMarks (Tagging.set d name value replace) := by
  unfold Tagging.set
  refine .bind (.requireDevice d) fun d => .bind (.checked _) fun name => ?_
  refine .bind (.checked _) fun value => ?_
  cases value with
  | none => exact keepsMarks_delete d name
  | some value => exact keepsMarks_assign d name value replace

end Tags

/-! ## The devices of a cache -/

section Devices

open Store (sameMarks_of_caches sameMarks_updateCache)

theorem Attachment.keepsMarks_unlinkAll (ts : List TagId) :
    KeepsMarks (Attachment.unlinkAll ts) := by
  induction ts with
  | nil => exact .pure ()
  | cons t rest ih => exact .bind (Index.keepsMarks_unlink t) fun _ => ih

theorem Attachment.keepsMarks_linkAll (c : CacheId) (shortage : Failure)
    (headsBefore : List String) (linked ts : List TagId) :
    KeepsMarks (Attachment.linkAll c shortage headsBefore linked ts) := by
  induction ts generalizing linked with
  | nil => exact .pure ()
  | cons t rest ih =>
    have hundone : KeepsMarks (do
        Attachment.unlinkAll (linked ++ [t])
        Index.discard c headsBefore
        throw shortage : Op Unit) :=
      .bind (keepsMarks_unlinkAll _) fun _ => .bind (Index.keepsMarks_discard c headsBefore)
        fun _ => .throw shortage
    unfold Attachment.linkAll
    refine .bind (.look _) fun tag => ?_
    split
    · exact ih linked
    · exact .bind (.onShortage (.discard (Index.keepsMarks_link c t)) hundone) fun _ => ih _

theorem Attachment.keepsMarks_add (c : CacheId) (d : Option DeviceId) :
    KeepsMarks (Attachment.add c d) := by
  unfold Attachment.add
  refine .bind (.requireDevice d) fun d => .bind (.look _) fun device => ?_
  refine .bind (.look _) fun cache => ?_
  split
  · exact .pure ()
  · split
    · exact .throw _
    · refine .bind (.look _) fun headsBefore => ?_
      refine .bind (keepsMarks_linkAll c _ headsBefore [] device.tags) fun _ => ?_
      refine .bind (.edit fun _ => sameMarks_of_caches rfl) fun _ => .bind (.request _) fun _ => ?_
      refine .bind (.edit fun store => ?_) fun _ => .log _ _ _
      exact (Store.sameMarks_enterCache c d).trans (Store.sameMarks_markChanged c)

theorem Attachment.keepsMarks_destroyTags (ts : List TagId) :
    KeepsMarks (Attachment.destroyTags ts) := by
  induction ts with
  | nil => exact .pure ()
  | cons t rest ih => exact .bind (Tagging.keepsMarks_unlink t) fun _ => ih

theorem Attachment.keepsMarks_remove (c : CacheId) (d : Option DeviceId) :
    KeepsMarks (Attachment.remove c d) := by
  unfold Attachment.remove
  refine .bind (.requireDevice d) fun d => .bind (.look _) fun device => ?_
  refine .bind (.look _) fun cache => ?_
  split
  · refine .bind (.log _ _ _) fun _ => .bind (keepsMarks_destroyTags _) fun _ => ?_
    refine .edit fun store => ?_
    have hmoved : store.SameMarks (store.setDeviceCache d none) := sameMarks_of_caches rfl
    exact (hmoved.trans (Store.sameMarks_leaveCache c d)).trans (Store.sameMarks_markChanged c)
  · exact .throw _

theorem Attachment.keepsMarks_find (c : CacheId) (name : Option String) :
    KeepsMarks (Attachment.find c name) :=
  .bind (.checked _) fun _ => .look _

theorem keepsMarks_newDevice (name : String) (priority : Priority) (flags : DeviceFlags) :
    KeepsMarks (Op.newDevice { name, priority, flags }) :=
  .bind (.look _) fun d => .bind (.edit fun _ => sameMarks_of_caches rfl) fun _ => .pure d

theorem Attachment.keepsMarks_obtain (c : CacheId) (name : Option String) :
    KeepsMarks (Attachment.obtain c name) := by
  unfold Attachment.obtain
  refine .bind (.checked _) fun name => .bind (.look _) fun found => ?_
  cases found with
  | some d => exact .pure d
  | none =>
    refine .bind (keepsMarks_newDevice name .default {}) fun d => ?_
    exact .bind (keepsMarks_add c (some d)) fun _ => .pure d

theorem keepsMarks_setPriority (d : DeviceId) (priority : Priority) :
    KeepsMarks (Op.edit (·.setPriority d priority)) :=
  .edit fun _ => sameMarks_of_caches rfl

end Devices

/-! ## Collaborators of the package -/

section Collaborators

theorem Inventory.keepsMarks_bringTags (d : DeviceId) (tags : List (String × Datum)) :
    KeepsMarks (Inventory.bringTags d tags) := by
  induction tags with
  | nil => exact .pure ()
  | cons entry rest ih => exact .bind (Tagging.keepsMarks_set _ _ _ _) fun _ => ih

theorem Inventory.keepsMarks_bringDevices (inventory : Inventory) (c : CacheId)
    (specs : List DeviceSpec) : KeepsMarks (inventory.bringDevices c specs) := by
  induction specs with
  | nil => exact .pure ()
  | cons spec rest ih =>
    have hdevice : KeepsMarks (inventory.bringDevice c spec) :=
      .bind (Attachment.keepsMarks_obtain c _) fun d =>
        .bind (keepsMarks_setPriority d _) fun _ => keepsMarks_bringTags d spec.tags
    exact .bind hdevice fun _ => ih

theorem keepsMarks_verifyPath (host : Host) (root : Option Path) (c : CacheId) (d : DeviceId) :
    KeepsMarks (verifyPath host root c d) := by
  unfold verifyPath
  refine .bind (.look _) fun device => ?_
  cases host.contains (devicePath root device.name) with
  | error error => exact .throw _
  | ok found =>
    cases found with
    | true => exact .bind (.edit fun _ => Store.sameMarks_of_caches rfl) fun _ => .pure _
    | false =>
      refine .bind (.log _ _ _) fun _ => ?_
      refine .bind (.edit fun _ => Store.sameMarks_of_caches rfl) fun _ => ?_
      split
      · exact .bind (Attachment.keepsMarks_remove c _) fun _ => .pure none
      · exact .bind (.pure ()) fun _ => .pure none

theorem Verifier.IsPackaged.keepsMarks {verifier : Verifier} (hpackaged : verifier.IsPackaged)
    (host : Host) (c : CacheId) (d : Option DeviceId) :
    KeepsMarks (verifier.verify host c d) := by
  cases verifier with
  | trusting => exact .pure d
  | paths root =>
    cases d with
    | none => exact .throw _
    | some d => exact keepsMarks_verifyPath host root c d
  | custom number => exact hpackaged.elim

/-- A prober of the package marks its cache once it is done, and no other cache. If it fails, it
has marked none. -/
theorem Prober.IsPackaged.does_probe {prober : Prober} (hpackaged : prober.IsPackaged)
    (host : Host) (c : CacheId) (memory : Memory) :
    Does (prober.probe host c) memory
      (fun _ after => ∃ brought : Store, memory.store.SameMarks brought ∧
        after.store = brought.markProbed c)
      fun _ after => memory.store.SameMarks after.store := by
  cases prober with
  | nothing => exact ⟨memory.store, .refl _, rfl⟩
  | inventory declared =>
    have hbring := Inventory.keepsMarks_bringDevices declared c declared.devices
    refine (does_log _ _ _).andThen fun _ logged hlogged => ?_
    rw [← hlogged]
    refine (hbring logged).bind (fun _ brought hbrought => ?_) fun _ _ hfailed => hfailed
    exact ⟨brought.store, hbrought, rfl⟩
  | custom number => exact hpackaged.elim

end Collaborators

end DeviceTags
