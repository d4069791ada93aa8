import DeviceTags.Proofs.Tagging
import DeviceTags.Proofs.Twin.Alike

/-!
# Operations that do not ask for the prober

Tagging, attaching, removing, probing with an inventory and verifying never ask for the prober of a
cache, so that they end alike in states that differ in nothing else.
-/

namespace DeviceTags

open Store

/-- The states differ in the prober of one cache, which has none in the second one. The supplies are
the same, and where that is known, the cache is probed. -/
structure Memory.Alike (c : CacheId) (prober : Option Prober) (verifier : Option Verifier)
    (known : Prop) (first second : Memory) : Prop where
  store : first.store = second.store.withProber c prober
  supply : first.supply = second.supply
  unguided : (second.store.cache c).prober = none
  verifier : (second.store.cache c).verifier = verifier
  probed : known → (second.store.cache c).probed = true
  held : second.store.caches.Holds c

variable {α β : Type} {c : CacheId} {prober : Option Prober} {verifier : Option Verifier}
  {known : Prop}

/-! ## What is read -/

/-- A cache reads the same but for a prober. -/
theorem exists_cache_withProber (store : Store) (k : CacheId) :
    ∃ other, (store.withProber c prober).cache k = { store.cache k with prober := other } := by
  by_cases hk : k = c
  · subst hk
    by_cases hheld : store.caches.Holds k
    · exact ⟨prober, cache_updateCache_self store hheld _⟩
    · refine ⟨(store.cache k).prober, ?_⟩
      have hmissing : ¬ (store.withProber k prober).caches.Holds k := by
        simpa [withProber, updateCache] using hheld
      rw [Store.cache, Store.cache, Table.get_of_not_holds hmissing, Table.get_of_not_holds hheld]
  · exact ⟨(store.cache k).prober, cache_updateCache_of_ne store hk _⟩

theorem devices_withProber (store : Store) (k : CacheId) :
    ((store.withProber c prober).cache k).devices = (store.cache k).devices := by
  obtain ⟨other, hcache⟩ := @exists_cache_withProber c prober store k
  rw [hcache]

theorem heads_withProber (store : Store) (k : CacheId) :
    ((store.withProber c prober).cache k).heads = (store.cache k).heads := by
  obtain ⟨other, hcache⟩ := @exists_cache_withProber c prober store k
  rw [hcache]

theorem headOf?_withProber (store : Store) (k : CacheId) (name : String) :
    (store.withProber c prober).headOf? k name = store.headOf? k name := by
  rw [headOf?, heads_withProber, headOf?]

theorem headNames_withProber (store : Store) (k : CacheId) :
    (store.withProber c prober).headNames k = store.headNames k := by
  rw [headNames, heads_withProber, headNames]

theorem named?_withProber (store : Store) (k : CacheId) (name : String) :
    Attachment.named? (store.withProber c prober) k name = Attachment.named? store k name := by
  rw [Attachment.named?, devices_withProber]
  rfl

/-! ## Elementary operations -/

section Elementary

variable {next : β → Op α}

theorem respects_edit {change : Store → Store} (hblind : Blind c prober change) :
    Respects (Memory.Alike c prober verifier known) (Op.edit change) := by
  intro first second halike
  refine ⟨rfl, ?_, halike.supply, ?_, ?_, ?_, ?_⟩
  · change change first.store = _
    rw [halike.store, hblind.commutes]
  · exact (hblind.prober _).trans halike.unguided
  · exact (hblind.verifier _).trans halike.verifier
  · exact fun hknown => hblind.probed _ (halike.probed hknown)
  · exact hblind.held _ halike.held

theorem respects_look_bind {read : Store → β}
    (hread : ∀ store : Store, read (store.withProber c prober) = read store)
    (hnext : ∀ value, Respects (Memory.Alike c prober verifier known) (next value)) :
    Respects (Memory.Alike c prober verifier known) (Op.look read >>= next) := by
  intro first second halike
  have hsame : read first.store = read second.store := by
    rw [halike.store, hread]
  change EndAlike _ (next (read first.store) first) (next (read second.store) second)
  rw [hsame]
  exact hnext _ first second halike

theorem respects_look {read : Store → α}
    (hread : ∀ store : Store, read (store.withProber c prober) = read store) :
    Respects (Memory.Alike c prober verifier known) (Op.look read) := by
  change Respects _ (Op.look read >>= Pure.pure)
  exact respects_look_bind hread fun value => .pure value

/-- What goes on with a cache may use everything in it but the prober. -/
theorem respects_cache_bind {next : Cache → Op α} (k : CacheId)
    (hnext : ∀ record : Cache, ∀ other, next { record with prober := other } = next record)
    (hrespects : ∀ record, Respects (Memory.Alike c prober verifier known) (next record)) :
    Respects (Memory.Alike c prober verifier known) (Op.cache k >>= next) := by
  intro first second halike
  obtain ⟨other, hcache⟩ := @exists_cache_withProber c prober second.store k
  change EndAlike _ (next (first.store.cache k) first) (next (second.store.cache k) second)
  rw [halike.store, hcache, hnext]
  exact hrespects _ first second halike

theorem respects_log (level : Level) (source : Source) (message : String) :
    Respects (Memory.Alike c prober verifier known) (Op.log level source message) :=
  fun _ _ halike => ⟨rfl, halike.store, halike.supply, halike.unguided, halike.verifier,
    halike.probed, halike.held⟩

theorem respects_request (what : Request) :
    Respects (Memory.Alike c prober verifier known) (Op.request what) := by
  intro first second halike
  unfold Op.request
  rw [halike.supply]
  cases second.supply what with
  | none => exact ⟨rfl, halike⟩
  | some granted =>
    cases granted with
    | zero => exact ⟨rfl, halike⟩
    | succ granted =>
      exact ⟨rfl, halike.store, rfl, halike.unguided, halike.verifier, halike.probed, halike.held⟩

theorem respects_newTag (record : Tag) :
    Respects (Memory.Alike c prober verifier known) (Op.newTag record) :=
  respects_look_bind (fun _ => rfl) fun t =>
    (respects_edit (blind_addTag record)).bind fun _ => .pure t

theorem respects_newHead (record : Head) :
    Respects (Memory.Alike c prober verifier known) (Op.newHead record) :=
  respects_look_bind (fun _ => rfl) fun h =>
    (respects_edit (blind_addHead record)).bind fun _ => .pure h

theorem respects_newDevice (record : Device) :
    Respects (Memory.Alike c prober verifier known) (Op.newDevice record) :=
  respects_look_bind (fun _ => rfl) fun d =>
    (respects_edit (blind_addDevice record)).bind fun _ => .pure d

theorem respects_onShortage {operation instead : Op α}
    (hoperation : Respects (Memory.Alike c prober verifier known) operation)
    (hinstead : Respects (Memory.Alike c prober verifier known) instead) :
    Respects (Memory.Alike c prober verifier known) (Op.onShortage operation instead) := by
  intro first second halike
  have hends := hoperation first second halike
  unfold EndAlike at hends
  split at hends
  · next hfirst hsecond =>
    rw [Op.onShortage_of_ok hfirst, Op.onShortage_of_ok hsecond]
    exact hends
  · next failure after other final hfirst hsecond =>
    obtain ⟨rfl, hafter⟩ := hends
    by_cases hshort : failure = .outOfMemory
    · subst hshort
      rw [Op.onShortage_of_shortage hfirst, Op.onShortage_of_shortage hsecond]
      exact hinstead after final hafter
    · rw [Op.onShortage_of_ne hfirst hshort, Op.onShortage_of_ne hsecond hshort]
      exact ⟨rfl, hafter⟩
  · exact hends.elim

theorem respects_checked (check : Except Failure α) :
    Respects (Memory.Alike c prober verifier known) (Tagging.checked check) := by
  cases check with
  | ok value => exact .pure value
  | error failure => exact .throw failure

end Elementary

/-! ## Changes of the store -/

section Changes

theorem blind_leaveOwned (d : DeviceId) (t : TagId) :
    Blind c prober fun store => (store.leaveDevice d t).setTagDevice t none :=
  (blind_updateTag t _).comp (blind_updateDevice d _)

theorem blind_leaveHead (h : HeadId) (t : TagId) :
    Blind c prober fun store => (store.leaveHead h t).setTagHead t none :=
  (blind_updateTag t _).comp (blind_updateHead h _)

theorem blind_unlinkFromHead (t : TagId) : Blind c prober fun store => store.unlinkFromHead t := by
  have hread : (fun store => store.unlinkFromHead t) = fun store : Store =>
      (store.tag t).head.elim store fun h => (store.leaveHead h t).setTagHead t none := by
    funext store
    unfold unlinkFromHead
    cases (store.tag t).head <;> rfl
  rw [hread]
  refine Blind.of_read (fun (head : Option HeadId) store =>
    head.elim store fun h => (store.leaveHead h t).setTagHead t none) _ (fun _ => rfl) fun head => ?_
  cases head with
  | none => exact .id
  | some h => exact blind_leaveHead h t

theorem blind_linkAlias (d : DeviceId) (name : String) (t : Option TagId) :
    Blind c prober fun store => store.linkAlias d name t := by
  unfold linkAlias
  cases Alias.ofName? name with
  | none => exact .id
  | some which =>
    refine Blind.of_read (fun (kept : Bool) store =>
      if which = .type ∧ t.isSome ∧ kept then store
      else store.updateDevice d fun device => { device with aliases := device.aliases.set which t })
      (fun store => (store.aliasValue d .type).isSome) (fun _ => rfl) fun kept => ?_
    split
    · exact .id
    · exact blind_updateDevice d _

theorem blind_markDeviceChanged (d : DeviceId) :
    Blind c prober fun store => store.markDeviceChanged d := by
  have hread : (fun store => store.markDeviceChanged d) = fun store : Store =>
      (store.device d).cache.elim store store.markChanged := by
    funext store
    unfold markDeviceChanged
    cases (store.device d).cache <;> rfl
  rw [hread]
  refine Blind.of_read (fun (cache : Option CacheId) store => cache.elim store store.markChanged) _
    (fun _ => rfl) fun cache => ?_
  cases cache with
  | none => exact .id
  | some k =>
    exact blind_updateCache k ⟨fun _ _ => rfl, fun _ => rfl, fun _ => rfl, fun _ h => h⟩

theorem blind_finish (d : DeviceId) (name : String) (t : Option TagId) :
    Blind c prober fun store => (store.linkAlias d name t).markDeviceChanged d :=
  (blind_markDeviceChanged d).comp (blind_linkAlias d name t)

theorem blind_dropNamed (d : DeviceId) (name : String) :
    Blind c prober fun store => store.dropNamed d name :=
  Blind.of_read (fun (tag : TagId → Tag) store => store.updateDevice d fun device =>
    { device with tags := device.tags.filter fun t => (tag t).name ≠ name }) Store.tag
    (fun _ => rfl) fun _ => blind_updateDevice d _

theorem blind_discardHeads (k : CacheId) (kept : List String) :
    Blind c prober fun store => store.discardHeads k kept :=
  Blind.of_read (fun (head : HeadId → Head) store => store.updateCache k fun cache =>
    { cache with heads := cache.heads.filter fun entry =>
        kept.contains entry.1 || !(head entry.2).tags.isEmpty }) Store.head
    (fun _ => rfl) fun _ =>
      blind_updateCache k ⟨fun _ _ => rfl, fun _ => rfl, fun _ => rfl, fun _ h => h⟩

theorem blind_registerHead (k : CacheId) (name : String) (h : HeadId) :
    Blind c prober fun store => store.registerHead k name h :=
  blind_updateCache k ⟨fun _ _ => rfl, fun _ => rfl, fun _ => rfl, fun _ h => h⟩

theorem blind_markChanged (k : CacheId) : Blind c prober fun store => store.markChanged k :=
  blind_updateCache k ⟨fun _ _ => rfl, fun _ => rfl, fun _ => rfl, fun _ h => h⟩

theorem blind_markProbed (k : CacheId) : Blind c prober fun store => store.markProbed k :=
  blind_updateCache k ⟨fun _ _ => rfl, fun _ => rfl, fun _ => rfl, fun _ _ => rfl⟩

theorem blind_enterCache (k : CacheId) (d : DeviceId) :
    Blind c prober fun store => store.enterCache k d :=
  blind_updateCache k ⟨fun _ _ => rfl, fun _ => rfl, fun _ => rfl, fun _ h => h⟩

theorem blind_leaveCache (k : CacheId) (d : DeviceId) :
    Blind c prober fun store => store.leaveCache k d :=
  blind_updateCache k ⟨fun _ _ => rfl, fun _ => rfl, fun _ => rfl, fun _ h => h⟩

theorem blind_enlist (k : CacheId) (d : DeviceId) :
    Blind c prober fun store => (store.enterCache k d).markChanged k :=
  (blind_markChanged k).comp (blind_enterCache k d)

theorem blind_detach (k : CacheId) (d : DeviceId) :
    Blind c prober fun store => ((store.setDeviceCache d none).leaveCache k d).markChanged k :=
  (blind_markChanged k).comp <| (blind_leaveCache k d).comp (blind_updateDevice d _)

end Changes

/-! ## Tagging -/

section Tagging

theorem respects_obtainHead (k : CacheId) (name : String) :
    Respects (Memory.Alike c prober verifier known) (Index.obtainHead k name) := by
  unfold Index.obtainHead
  refine respects_look_bind (fun store => headOf?_withProber store k name) fun found => ?_
  cases found with
  | some h => exact .pure h
  | none =>
    refine (respects_request _).bind fun _ => (respects_newHead _).bind fun h => ?_
    refine (respects_edit (blind_registerHead k name h)).bind fun _ => ?_
    exact (respects_log _ _ _).bind fun _ => .pure h

theorem respects_link (k : CacheId) (t : TagId) :
    Respects (Memory.Alike c prober verifier known) (Index.link k t) := by
  unfold Index.link
  refine respects_look_bind (fun _ => rfl) fun tag => ?_
  refine (respects_obtainHead k tag.name).bind fun h => ?_
  refine (respects_edit (blind_updateTag t _)).bind fun _ => ?_
  refine (respects_request _).bind fun _ => ?_
  exact (respects_edit (blind_updateHead h _)).bind fun _ => .pure h

theorem respects_unlinkFromHead (t : TagId) :
    Respects (Memory.Alike c prober verifier known) (Index.unlink t) :=
  respects_edit (blind_unlinkFromHead t)

theorem respects_discard (k : CacheId) (kept : List String) :
    Respects (Memory.Alike c prober verifier known) (Index.discard k kept) :=
  respects_edit (blind_discardHeads k kept)

theorem respects_unlink (t : TagId) :
    Respects (Memory.Alike c prober verifier known) (Tagging.unlink t) := by
  have hhead : Respects (Memory.Alike c prober verifier known) (Tagging.unlinkEntry t) := by
    unfold Tagging.unlinkEntry
    refine respects_look_bind (fun _ => rfl) fun tag => ?_
    cases tag.head with
    | none => exact .pure ()
    | some h =>
      refine respects_look_bind (fun _ => rfl) fun head => ?_
      split
      · exact respects_edit (blind_leaveHead h t)
      · exact .throw _
  unfold Tagging.unlink
  refine respects_look_bind (fun _ => rfl) fun tag => ?_
  cases tag.device with
  | none => exact hhead
  | some d =>
    refine respects_look_bind (fun _ => rfl) fun device => ?_
    split
    · exact (respects_edit (blind_leaveOwned d t)).bind fun _ => hhead
    · exact .bind (.throw _) fun _ => hhead

theorem respects_destroy (deviceName : String) (ts : List TagId) :
    Respects (Memory.Alike c prober verifier known) (Tagging.destroy deviceName ts) := by
  induction ts with
  | nil => exact .pure ()
  | cons t rest ih =>
    unfold Tagging.destroy
    refine respects_look_bind (fun _ => rfl) fun tag => ?_
    exact (respects_log _ _ _).bind fun _ => (respects_unlink t).bind fun _ => ih

theorem respects_delete (d : DeviceId) (name : String) :
    Respects (Memory.Alike c prober verifier known) (Tagging.delete d name) := by
  unfold Tagging.delete
  refine respects_look_bind (fun _ => rfl) fun device => ?_
  refine respects_look_bind (fun _ => rfl) fun named => ?_
  refine (respects_destroy _ named).bind fun _ => ?_
  exact respects_edit ((blind_finish d name none).comp (blind_dropNamed d name))

theorem respects_withdraw (d : DeviceId) (t : TagId) (cache : Option CacheId)
    (headsBefore : List String) :
    Respects (Memory.Alike c prober verifier known)
      (Tagging.withdraw d t cache headsBefore) := by
  have howned : Respects (Memory.Alike c prober verifier known)
      (Op.edit fun store => (store.leaveDevice d t).setTagDevice t none) :=
    respects_edit (blind_leaveOwned d t)
  unfold Tagging.withdraw
  cases cache with
  | none => exact howned.bind fun _ => .pure ()
  | some k =>
    refine (respects_unlinkFromHead t).bind fun _ => ?_
    exact howned.bind fun _ => respects_discard k headsBefore

theorem respects_append (d : DeviceId) (name value : String) :
    Respects (Memory.Alike c prober verifier known) (Tagging.append d name value) := by
  unfold Tagging.append
  refine respects_look_bind (fun _ => rfl) fun device => ?_
  refine respects_look_bind (fun store => ?_) fun headsBefore => ?_
  · cases device.cache with
    | none => rfl
    | some k =>
      change (store.withProber c prober).headNames k = store.headNames k
      exact headNames_withProber store k
  refine (respects_onShortage (respects_request _) (.throw _)).bind fun _ => ?_
  refine (respects_newTag _).bind fun t => ?_
  refine (respects_onShortage ?_ ?_).bind fun _ => .pure t
  · refine (respects_request _).bind fun _ => ?_
    refine (respects_edit (blind_updateDevice d _)).bind fun _ => ?_
    cases device.cache with
    | none => exact .pure ()
    | some k => exact (respects_link k t).discard
  · exact (respects_withdraw d t _ _).bind fun _ => .throw _

theorem respects_assign (d : DeviceId) (name value : String) (replace : Bool) :
    Respects (Memory.Alike c prober verifier known) (Tagging.assign d name value replace) := by
  unfold Tagging.assign
  refine respects_look_bind (fun _ => rfl) fun found => ?_
  cases found with
  | none =>
    exact (respects_append d name value).bind fun t => respects_edit (blind_finish d name _)
  | some first =>
    refine respects_look_bind (fun _ => rfl) fun tag => ?_
    split
    · exact .pure ()
    · split
      · exact respects_edit ((blind_finish d name _).comp (blind_updateTag first _))
      · exact (respects_append d name value).bind fun t =>
          respects_edit ((blind_finish d name _).comp (blind_updateDevice d _))

theorem respects_requireDevice (d : Option DeviceId) :
    Respects (Memory.Alike c prober verifier known) (Tagging.requireDevice d) := by
  cases d with
  | none => exact .throw _
  | some d => exact .pure d

theorem respects_set (d : Option DeviceId) (name value : Datum) (replace : Bool) :
    Respects (Memory.Alike c prober verifier known) (Tagging.set d name value replace) := by
  unfold Tagging.set
  refine (respects_requireDevice d).bind fun d => ?_
  refine (respects_checked _).bind fun name => (respects_checked _).bind fun value => ?_
  cases value with
  | none => exact respects_delete d name
  | some value => exact respects_assign d name value replace

end Tagging

/-! ## Attaching and removing -/

section Attachment

theorem respects_unlinkAll (ts : List TagId) :
    Respects (Memory.Alike c prober verifier known) (Attachment.unlinkAll ts) := by
  induction ts with
  | nil => exact .pure ()
  | cons t rest ih => exact (respects_unlinkFromHead t).bind fun _ => ih

theorem respects_linkAll (k : CacheId) (shortage : Failure) (headsBefore : List String)
    (linked waiting : List TagId) :
    Respects (Memory.Alike c prober verifier known)
      (Attachment.linkAll k shortage headsBefore linked waiting) := by
  induction waiting generalizing linked with
  | nil => exact .pure ()
  | cons t rest ih =>
    unfold Attachment.linkAll
    refine respects_look_bind (fun _ => rfl) fun tag => ?_
    split
    · exact ih linked
    · refine (respects_onShortage (respects_link k t).discard ?_).bind fun _ => ih _
      refine (respects_unlinkAll _).bind fun _ => ?_
      exact (respects_discard k headsBefore).bind fun _ => .throw _

theorem respects_add (k : CacheId) (d : Option DeviceId) :
    Respects (Memory.Alike c prober verifier known) (Attachment.add k d) := by
  unfold Attachment.add
  refine (respects_requireDevice d).bind fun d => ?_
  refine respects_look_bind (fun _ => rfl) fun device => ?_
  refine respects_cache_bind k (fun _ _ => rfl) fun cache => ?_
  split
  · exact .pure ()
  · split
    · exact .throw _
    · refine respects_look_bind (fun store => headNames_withProber store k) fun headsBefore => ?_
      refine (respects_linkAll k _ headsBefore [] device.tags).bind fun _ => ?_
      refine (respects_edit (blind_updateDevice d _)).bind fun _ => ?_
      refine (respects_request _).bind fun _ => ?_
      exact (respects_edit (blind_enlist k d)).bind fun _ => respects_log _ _ _

theorem respects_destroyTags (ts : List TagId) :
    Respects (Memory.Alike c prober verifier known) (Attachment.destroyTags ts) := by
  induction ts with
  | nil => exact .pure ()
  | cons t rest ih => exact (respects_unlink t).bind fun _ => ih

theorem respects_remove (k : CacheId) (d : Option DeviceId) :
    Respects (Memory.Alike c prober verifier known) (Attachment.remove k d) := by
  unfold Attachment.remove
  refine (respects_requireDevice d).bind fun d => ?_
  refine respects_look_bind (fun _ => rfl) fun device => ?_
  refine respects_cache_bind k (fun _ _ => rfl) fun cache => ?_
  split
  · refine (respects_log _ _ _).bind fun _ => (respects_destroyTags _).bind fun _ => ?_
    exact respects_edit (blind_detach k d)
  · exact .throw _

theorem respects_findDevice (k : CacheId) (name : Option String) :
    Respects (Memory.Alike c prober verifier known) (Attachment.find k name) :=
  (respects_checked _).bind fun name => respects_look fun store => named?_withProber store k name

theorem respects_obtain (k : CacheId) (name : Option String) :
    Respects (Memory.Alike c prober verifier known) (Attachment.obtain k name) := by
  unfold Attachment.obtain
  refine (respects_checked _).bind fun name => ?_
  refine respects_look_bind (fun store => named?_withProber store k name) fun found => ?_
  cases found with
  | some d => exact .pure d
  | none => exact (respects_newDevice _).bind fun d => (respects_add k _).bind fun _ => .pure d

end Attachment

/-! ## Collaborators -/

section Collaborators

theorem respects_bringTags (d : DeviceId) (tags : List (String × Datum)) :
    Respects (Memory.Alike c prober verifier known) (Inventory.bringTags d tags) := by
  induction tags with
  | nil => exact .pure ()
  | cons tag rest ih => exact (respects_set _ _ _ true).bind fun _ => ih

theorem respects_bringDevices (inventory : Inventory) (k : CacheId) (specs : List DeviceSpec) :
    Respects (Memory.Alike c prober verifier known) (inventory.bringDevices k specs) := by
  induction specs with
  | nil => exact .pure ()
  | cons spec rest ih =>
    have hdevice : Respects (Memory.Alike c prober verifier known)
        (inventory.bringDevice k spec) := by
      unfold Inventory.bringDevice
      refine (respects_obtain k _).bind fun d => ?_
      exact (respects_edit (blind_updateDevice d _)).bind fun _ => respects_bringTags d _
    exact hdevice.bind fun _ => ih

theorem respects_inventory (inventory : Inventory) (k : CacheId) :
    Respects (Memory.Alike c prober verifier known) (inventory.probe k) := by
  unfold Inventory.probe
  refine (respects_log _ _ _).bind fun _ => (respects_bringDevices inventory k _).bind fun _ => ?_
  refine (respects_edit (blind_markProbed k)).bind fun _ => ?_
  exact respects_cache_bind k (fun _ _ => rfl) fun cache => respects_log _ _ _

theorem respects_verifyPath (host : Host) (root : Option Path) (k : CacheId) (d : DeviceId) :
    Respects (Memory.Alike c prober verifier known) (verifyPath host root k d) := by
  unfold verifyPath
  refine respects_look_bind (fun _ => rfl) fun device => ?_
  cases host.contains (devicePath root device.name) with
  | error error => exact .throw _
  | ok found =>
    cases found with
    | true => exact (respects_edit (blind_updateDevice d _)).bind fun _ => .pure _
    | false =>
      refine (respects_log _ _ _).bind fun _ => ?_
      refine (respects_edit (blind_updateDevice d _)).bind fun _ => ?_
      dsimp only
      split
      · exact (respects_remove k _).bind fun _ => .pure none
      · exact .pure none

/-- A verifier of the package, not one that a host program brings along. -/
theorem respects_verify (host : Host) (k : CacheId) (d : Option DeviceId) {given : Verifier}
    (hgiven : ∀ number, given ≠ .custom number) :
    Respects (Memory.Alike c prober verifier known) (given.verify host k d) := by
  cases given with
  | trusting => exact .pure d
  | paths root =>
    cases d with
    | none => exact .throw _
    | some d => exact respects_verifyPath host root k d
  | custom number => exact absurd rfl (hgiven number)

end Collaborators

end DeviceTags
