import DeviceTags.Proofs.Duplicates
import DeviceTags.Proofs.Lookup.Columns
import DeviceTags.Proofs.Removal

/-!
# Updates of different devices

Two calls that set tags of different devices can be made in either order. Each of them fails or goes
through as it does alone, and what devices and caches show afterwards is the same. In the index the
calls meet where both devices are in one cache, and even there the order leaves a trace in one case
only: where both calls add a tag of the same name, the entries stand in the order of the calls, and a
listing of devices of equal rank shows that.
-/

namespace DeviceTags

open Store (Revises SameDevice)

/-! ## What a device shows -/

/-- What can be read off a device: its pairs, its direct accesses, its priority and its flags. -/
structure Face where
  pairs : List (String × String)
  access : Alias → Option String
  priority : Priority
  flags : DeviceFlags

def Store.face (store : Store) (d : DeviceId) : Face where
  pairs := store.pairs d
  access := store.aliasValue d
  priority := (store.device d).priority
  flags := (store.device d).flags

/-- Stores in which devices and caches show the same. -/
structure Store.SameFaces (one other : Store) : Prop where
  device : ∀ f, one.face f = other.face f
  devices : ∀ c, (one.cache c).devices = (other.cache c).devices
  flags : ∀ c, (one.cache c).flags = (other.cache c).flags

namespace Store

variable {store one other before after : Store} {c k : CacheId} {d e : DeviceId} {name : String}

theorem SameDevice.face (hsame : SameDevice before after d) : after.face d = before.face d := by
  unfold Store.face
  rw [hsame.pairs, funext hsame.access, hsame.record]

/-- What becomes of a device when a tag of it is set depends on nothing but what it shows. -/
theorem face_setTag (hsound : one.Sound) (hsound' : other.Sound) (haliased : one.Aliased)
    (haliased' : other.Aliased) (hd : one.devices.Holds d) (hd' : other.devices.Holds d)
    (hface : one.face d = other.face d) (name : String) (value : Option String) (replace : Bool) :
    (one.setTag d name value replace).face d = (other.setTag d name value replace).face d := by
  have hpairs : one.pairs d = other.pairs d := congrArg Face.pairs hface
  have haccess : one.aliasValue d = other.aliasValue d := congrArg Face.access hface
  have hpriority : (one.device d).priority = (other.device d).priority :=
    congrArg Face.priority hface
  have hflags : (one.device d).flags = (other.device d).flags := congrArg Face.flags hface
  have hone := hsound.revises_setTag hd name value replace
  have hother := hsound'.revises_setTag hd' name value replace
  have hread : ∀ which, (one.setTag d name value replace).aliasValue d which =
      (other.setTag d name value replace).aliasValue d which := by
    intro which
    by_cases hwhich : which.name = name
    · rw [hsound.aliasValue_setTag hwhich haliased hd, hsound'.aliasValue_setTag hwhich haliased' hd',
        hpairs, haccess]
    · rw [hone.access haliased hwhich, hother.access haliased' hwhich, haccess]
  unfold Store.face
  rw [hone.pairs, hother.pairs, funext hread, hone.look.2.1, hother.look.2.1, flags_setTag hd,
    flags_setTag hd', hpairs, hpriority, hflags]

/-! ## Marks of changes -/

theorem changed_markDeviceChanged_eq (hhome : ∀ c, (store.device d).cache = some c →
    store.caches.Holds c) (k : CacheId) :
    ((store.markDeviceChanged d).cache k).changed =
      ((store.cache k).changed || decide ((store.device d).cache = some k)) := by
  unfold markDeviceChanged
  cases hcache : (store.device d).cache with
  | none => simp
  | some c =>
    rw [cache_updateCache _ (.inl (hhome c hcache))]
    by_cases hk : k = c
    · simp [hk]
    · simp [hk, Ne.symm hk]

/-- A cache is marked when a tag of a device of it is set, unless that changes nothing. -/
theorem Sound.changed_setTag (hsound : store.Sound) (hd : store.devices.Holds d) (name : String)
    (value : Option String) (replace : Bool) (k : CacheId) :
    ((store.setTag d name value replace).cache k).changed =
      ((store.cache k).changed ||
        decide (Revision.of (store.pairs d) name value replace ≠ .keeping ∧
          (store.device d).cache = some k)) := by
  obtain ⟨hkeeping, hset⟩ | ⟨revision, middle, link, hrevision, hprepares, hset⟩ :=
    store.setTag_cases d name value replace
  · rw [hset]
    simp [hkeeping]
  · have hunkept : Revision.of (store.pairs d) name value replace ≠ .keeping := by
      intro hkeeping
      rw [hrevision] at hkeeping
      rw [hkeeping] at hprepares
      cases hprepares
    have hlinked : Unseen middle (middle.linkAlias d name link) := unseen_linkAlias d name link
    have hcache : ((middle.linkAlias d name link).device d).cache = (store.device d).cache :=
      (hlinked.deviceCache d).trans (hprepares.revises hsound hd).look.2.2
    rw [hset, changed_markDeviceChanged_eq, cache_linkAlias, hprepares.changed, hcache]
    · simp [hunkept]
    · intro c hc
      rw [hcache] at hc
      exact hlinked.lasting.holds_cache
        (hprepares.sameAliases.lasting.holds_cache (hsound.held _ _ hc))

theorem Sound.rank_setTag (hsound : store.Sound) (hd : store.devices.Holds d) (name : String)
    (value : Option String) (replace : Bool) (f : DeviceId) :
    (store.setTag d name value replace).rank f = store.rank f := by
  have hrevises := hsound.revises_setTag hd name value replace
  unfold rank
  by_cases hf : f = d
  · rw [hf, hrevises.look.2.1]
  · rw [hrevises.otherDevices f hf]

theorem Sound.holds_setTag (hsound : store.Sound) (hd : store.devices.Holds d)
    (he : store.devices.Holds e) (name : String) (value : Option String) (replace : Bool) :
    (store.setTag d name value replace).devices.Holds e :=
  (hsound.progress_setTag hd name value replace).lasting.holds_device he

/-! ## Two tags of different devices -/

section Both

variable (hsound : store.Sound) (hd : store.devices.Holds d) (he : store.devices.Holds e)
  (hne : d ≠ e) (name other : String) (value text : Option String) (replace again : Bool)

include hsound hd hne

/-- A device is the same after a tag of another one was set. -/
theorem Sound.sameDevice_setTag :
    SameDevice store (store.setTag d name value replace) e :=
  (hsound.revises_setTag hd name value replace).sameDevice hsound
    (hsound.setTag hd name value replace) hne.symm

include he

/-- Each of the two devices shows what it would show without the call for the other one. -/
theorem Sound.face_setTags (haliased : store.Aliased) :
    ((store.setTag d name value replace).setTag e other text again).face d =
        (store.setTag d name value replace).face d ∧
      ((store.setTag d name value replace).setTag e other text again).face e =
        (store.setTag e other text again).face e := by
  have hfirst := hsound.setTag hd name value replace
  have he' := hsound.holds_setTag hd he name value replace
  refine ⟨(hfirst.sameDevice_setTag he' hne.symm other text again).face, ?_⟩
  exact face_setTag hfirst hsound (haliased.setTag hsound hd name value replace) haliased he' he
    (hsound.sameDevice_setTag hd hne name value replace).face other text again

theorem Sound.face_comm (haliased : store.Aliased) (f : DeviceId) :
    ((store.setTag d name value replace).setTag e other text again).face f =
      ((store.setTag e other text again).setTag d name value replace).face f := by
  have hone := hsound.face_setTags hd he hne name other value text replace again haliased
  have hother := hsound.face_setTags he hd hne.symm other name text value again replace haliased
  by_cases hfd : f = d
  · rw [hfd, hone.1, hother.2]
  · by_cases hfe : f = e
    · rw [hfe, hone.2, hother.1]
    · have hfirst := hsound.sameDevice_setTag hd (Ne.symm hfd) name value replace
      have hsecond := (hsound.setTag hd name value replace).sameDevice_setTag
        (hsound.holds_setTag hd he name value replace) (Ne.symm hfe) other text again
      have hfirst' := hsound.sameDevice_setTag he (Ne.symm hfe) other text again
      have hsecond' := (hsound.setTag he other text again).sameDevice_setTag
        (hsound.holds_setTag he hd other text again) (Ne.symm hfd) name value replace
      rw [(hfirst.trans hsecond).face, (hfirst'.trans hsecond').face]

omit hne in
theorem Sound.devices_setTags (c : CacheId) :
    (((store.setTag d name value replace).setTag e other text again).cache c).devices =
      (store.cache c).devices := by
  have he' := hsound.holds_setTag hd he name value replace
  rw [((hsound.setTag hd name value replace).revises_setTag he' other text again).devices,
    (hsound.revises_setTag hd name value replace).devices]

theorem Sound.changed_setTags (k : CacheId) :
    (((store.setTag d name value replace).setTag e other text again).cache k).changed =
      ((store.cache k).changed ||
        decide (Revision.of (store.pairs d) name value replace ≠ .keeping ∧
          (store.device d).cache = some k) ||
        decide (Revision.of (store.pairs e) other text again ≠ .keeping ∧
          (store.device e).cache = some k)) := by
  have hsame := hsound.sameDevice_setTag hd hne name value replace
  rw [(hsound.setTag hd name value replace).changed_setTag
    (hsound.holds_setTag hd he name value replace), hsound.changed_setTag hd, hsame.pairs,
    hsame.record]

/-- The column of a name after both calls. -/
theorem Sound.column_setTags (c : CacheId) (key : String) :
    ((store.setTag d name value replace).setTag e other text again).column c key =
      if (store.device e).cache = some c ∧ key = other then
        (Revision.of (store.pairs e) other text again).column e
          ((store.setTag d name value replace).column c key)
      else (store.setTag d name value replace).column c key := by
  have hsame := hsound.sameDevice_setTag hd hne name value replace
  rw [(hsound.setTag hd name value replace).column_setTag
    (hsound.holds_setTag hd he name value replace), hsame.pairs, hsame.record]

/-- The columns are the same unless both devices are in the cache and both get a new tag of the
name. -/
theorem Sound.column_comm (c : CacheId) (key : String) :
    ((store.setTag d name value replace).setTag e other text again).column c key =
        ((store.setTag e other text again).setTag d name value replace).column c key ∨
      (((store.device d).cache = some c ∧ key = name) ∧
        (store.device e).cache = some c ∧ key = other) ∧
      ∃ first second, Revision.of (store.pairs d) name value replace = .adding first ∧
        Revision.of (store.pairs e) other text again = .adding second := by
  rw [hsound.column_setTags hd he hne, hsound.column_setTags he hd hne.symm,
    hsound.column_setTag hd, hsound.column_setTag he]
  by_cases hfirst : (store.device d).cache = some c ∧ key = name
  · by_cases hsecond : (store.device e).cache = some c ∧ key = other
    · rw [if_pos hfirst, if_pos hsecond, if_pos hfirst, if_pos hsecond]
      by_cases hboth : ∃ first second,
          Revision.of (store.pairs d) name value replace = .adding first ∧
          Revision.of (store.pairs e) other text again = .adding second
      · exact .inr ⟨⟨hfirst, hsecond⟩, hboth⟩
      · obtain ⟨hcache, rfl⟩ := hfirst
        obtain ⟨hcache', rfl⟩ := hsecond
        exact .inl (Revision.column_comm hne (hsound.fits_column hcache key value replace)
          (hsound.fits_column hcache' key text again)
          fun first second hone hother => hboth ⟨first, second, hone, hother⟩)
    · rw [if_neg hsecond, if_neg hsecond]
      exact .inl rfl
  · rw [if_neg hfirst, if_neg hfirst]
    exact .inl rfl

/-- Without the entries of the one device the columns are the same in any case. -/
theorem Sound.filter_column_comm (c : CacheId) (key : String) :
    (((store.setTag d name value replace).setTag e other text again).column c key).filter
        (·.1 ≠ some d) =
      (((store.setTag e other text again).setTag d name value replace).column c key).filter
        (·.1 ≠ some d) := by
  rcases hsound.column_comm hd he hne name other value text replace again c key with
    hsame | ⟨⟨hfirst, hsecond⟩, first, second, hone, hother⟩
  · rw [hsame]
  · rw [hsound.column_setTags hd he hne, hsound.column_setTags he hd hne.symm,
      hsound.column_setTag hd, hsound.column_setTag he, if_pos hfirst, if_pos hsecond,
      if_pos hfirst, if_pos hsecond, hone, hother]
    simp [Revision.column, List.filter_append, hne.symm]

/-- The listings differ at most in which of the two devices comes first, and only where both get a new
tag of the name, are in the cache and have the same rank. -/
theorem Sound.listings_comm (c : CacheId) (key wanted : String) :
    ∃ listed swapped,
      Lookup.listing ((store.setTag d name value replace).setTag e other text again) c key wanted =
        .ok listed ∧
      Lookup.listing ((store.setTag e other text again).setTag d name value replace) c key wanted =
        .ok swapped ∧
      Lookup.UpToOrder d e listed swapped ∧
      (listed ≠ swapped → (((store.device d).cache = some c ∧ key = name) ∧
        (store.device e).cache = some c ∧ key = other) ∧ store.rank d = store.rank e ∧
        ∃ first second, Revision.of (store.pairs d) name value replace = .adding first ∧
          Revision.of (store.pairs e) other text again = .adding second) := by
  have hfirst := hsound.setTag hd name value replace
  have hsecond := hsound.setTag he other text again
  have he' := hsound.holds_setTag hd he name value replace
  have hd' := hsound.holds_setTag he hd other text again
  have hone := hfirst.setTag he' other text again
  have hother := hsecond.setTag hd' name value replace
  have hranks : ∀ f,
      ((store.setTag d name value replace).setTag e other text again).rank f = store.rank f := by
    intro f
    rw [hfirst.rank_setTag he', hsound.rank_setTag hd]
  have hrank : ∀ f, ((store.setTag d name value replace).setTag e other text again).rank f =
      ((store.setTag e other text again).setTag d name value replace).rank f := by
    intro f
    rw [hranks, hsecond.rank_setTag hd', hsound.rank_setTag he]
  have hcolumn := hsound.column_comm hd he hne name other value text replace again c key
  have hwithout := hsound.filter_column_comm hd he hne name other value text replace again c key
  have hwithout' :=
    hsound.filter_column_comm he hd hne.symm other name text value again replace c key
  generalize (store.setTag d name value replace).setTag e other text again = one at *
  generalize (store.setTag e other text again).setTag d name value replace = two at *
  obtain ⟨listed, hlisted, honce, -⟩ := Lookup.exists_listing hone c key wanted
  obtain ⟨swapped, hswapped, honce', -⟩ := Lookup.exists_listing hother c key wanted
  have hupto : Lookup.UpToOrder d e listed swapped :=
    Lookup.upToOrder_of_filters hne honce honce'
      (Lookup.filter_listing_congr hone hother hrank hwithout hlisted hswapped)
      (Lookup.filter_listing_congr hone hother hrank hwithout'.symm hlisted hswapped)
  refine ⟨listed, swapped, hlisted, hswapped, hupto, fun hdiffer => ?_⟩
  rcases hcolumn with hsame | ⟨hboth, hadding⟩
  · rw [Lookup.listing_congr hone hrank hsame, hswapped] at hlisted
    exact absurd (Except.ok.inj hlisted).symm hdiffer
  · refine ⟨hboth, ?_, hadding⟩
    by_contra hranked
    refine hdiffer (hupto.eq_of_sorted honce (Lookup.sorted_listing hone hlisted) ?_ ?_)
    · simpa only [hrank] using Lookup.sorted_listing hother hswapped
    · rwa [hranks, hranks]

end Both

end Store

/-! ## Two calls -/

/-- The device keeps its pairs and gets a new one with the name. -/
def Store.Adds (before after : Store) (d : DeviceId) (name : String) : Prop :=
  ∃ text, after.pairs d = before.pairs d ++ [(name, text)]

/-- What a call that sets a tag is given beside the device. -/
structure Update where
  name : Datum
  value : Datum
  replace : Bool

namespace Update

/-- The call for a device, with memory enough. -/
def turn (update : Update) (d : DeviceId) : Turn where
  host := .bare
  action := .setTag (some d) update.name update.value update.replace

def failure? (update : Update) (d : DeviceId) (memory : Memory) : Option Failure :=
  ((update.turn d).action.perform (update.turn d).host).failure? ((update.turn d).start memory)

/-- What the call does to the store. -/
def edit (update : Update) (d : DeviceId) (store : Store) : Store :=
  match Tagging.arguments update.name update.value with
  | .ok (name, value) => store.setTag d name value update.replace
  | .error _ => store

variable {memory : Memory} {d e : DeviceId}

/-- The call fails only if it is rejected, and has its effect otherwise. -/
theorem after_eq (update : Update) (hsound : memory.store.Sound)
    (hd : memory.store.devices.Holds d) :
    ((update.turn d).after memory).store = update.edit d memory.store ∧
      update.failure? d memory = match Tagging.arguments update.name update.value with
        | .ok _ => none
        | .error failure => some failure := by
  have hperform : (update.turn d).action.perform (update.turn d).host =
      Tagging.set (some d) update.name update.value update.replace := rfl
  rw [Turn.after, failure?, hperform, edit, Op.after, Op.failure?]
  cases harguments : Tagging.arguments update.name update.value with
  | error failure =>
    rw [Tagging.set_of_rejected harguments]
    exact ⟨rfl, rfl⟩
  | ok given =>
    obtain ⟨name, value⟩ := given
    obtain ⟨hname, hgiven, hvalue⟩ := Tagging.of_arguments harguments
    have hstart : ((update.turn d).start memory).store.Sound := hsound
    have hdoes := does_setTag hstart hd hname value update.replace
    rw [← hgiven, ← hvalue] at hdoes
    obtain ⟨_, after, hrun, hstore⟩ :=
      (hdoes.mono (fun _ _ hafter => hafter) fun _ _ hfailed => hfailed.1 rfl).exists_ok
    rw [hrun]
    exact ⟨hstore, rfl⟩

theorem edit_cases (update : Update) : (∀ d store, update.edit d store = store) ∨
    ∃ name value, ∀ d store, update.edit d store = store.setTag d name value update.replace := by
  unfold edit
  cases Tagging.arguments update.name update.value with
  | error failure => exact .inl fun _ _ => rfl
  | ok given => exact .inr ⟨given.1, given.2, fun _ _ => rfl⟩

theorem probed_after (update : Update) (d : DeviceId) (memory : Memory) (c : CacheId) :
    (((update.turn d).after memory).store.cache c).probed = (memory.store.cache c).probed :=
  ((Tagging.keepsMarks_set (some d) update.name update.value update.replace).after
    ((update.turn d).start memory)).probed c

/-- One call and then the other. -/
def followedBy (first : Update) (d : DeviceId) (second : Update) (e : DeviceId) (memory : Memory) :
    Memory :=
  (second.turn e).after ((first.turn d).after memory)

/-- Two calls that both add a tag of the name to devices of the cache, which have the same rank. -/
structure Rival (first : Update) (d : DeviceId) (second : Update) (e : DeviceId)
    (memory : Memory) (c : CacheId) (name : String) : Prop where
  attached : (memory.store.device d).cache = some c ∧ (memory.store.device e).cache = some c
  rank : memory.store.rank d = memory.store.rank e
  adds : memory.store.Adds ((first.turn d).after memory).store d name
  addsToo : memory.store.Adds ((second.turn e).after memory).store e name

/-- Every device is still there after a call, in a sound store. -/
theorem edit_keeps (update : Update) {store : Store} (hsound : store.Sound)
    (hd : store.devices.Holds d) (he : store.devices.Holds e) :
    (update.edit d store).Sound ∧ (update.edit d store).devices.Holds e := by
  rcases update.edit_cases with hnone | ⟨name, value, hset⟩
  · rw [hnone]
    exact ⟨hsound, he⟩
  · rw [hset]
    exact ⟨hsound.setTag hd name value update.replace,
      hsound.holds_setTag hd he name value update.replace⟩

theorem followedBy_eq (hsound : memory.store.Sound) (hd : memory.store.devices.Holds d)
    (he : memory.store.devices.Holds e) (first second : Update) :
    (first.followedBy d second e memory).store = second.edit e (first.edit d memory.store) ∧
      second.failure? e ((first.turn d).after memory) = second.failure? e memory := by
  have hkept := first.edit_keeps hsound hd he
  rw [← (first.after_eq hsound hd).1] at hkept ⊢
  have hsecond := second.after_eq hkept.1 hkept.2
  exact ⟨hsecond.1, hsecond.2.trans (second.after_eq hsound he).2.symm⟩

theorem sound_followedBy (hsound : memory.store.Sound) (hd : memory.store.devices.Holds d)
    (he : memory.store.devices.Holds e) (first second : Update) :
    (first.followedBy d second e memory).store.Sound := by
  rw [(followedBy_eq hsound hd he first second).1]
  have hkept := first.edit_keeps hsound hd he
  exact (second.edit_keeps hkept.1 hkept.2 hkept.2).1

/-- Unless both calls set a tag, their order makes no difference at all. -/
theorem followedBy_cases (hsound : memory.store.Sound) (hd : memory.store.devices.Holds d)
    (he : memory.store.devices.Holds e) (first second : Update) :
    (first.followedBy d second e memory).store = (second.followedBy e first d memory).store ∨
      ∃ name value other text,
        (∀ f store, first.edit f store = store.setTag f name value first.replace) ∧
        ∀ f store, second.edit f store = store.setTag f other text second.replace := by
  rw [(followedBy_eq hsound hd he first second).1, (followedBy_eq hsound he hd second first).1]
  rcases first.edit_cases with hfirst | ⟨name, value, hfirst⟩
  · left
    rw [hfirst, hfirst]
  · rcases second.edit_cases with hsecond | ⟨other, text, hsecond⟩
    · left
      rw [hsecond, hsecond]
    · exact .inr ⟨name, value, other, text, hfirst, hsecond⟩

/-! ### In either order -/

section Order

variable (hsound : memory.store.Sound) (hd : memory.store.devices.Holds d)
  (he : memory.store.devices.Holds e) (hne : d ≠ e) (first second : Update)

include hsound hd he hne

/-- In either order devices and caches show the same. -/
theorem sameFaces_followedBy (haliased : memory.store.Aliased) :
    (first.followedBy d second e memory).store.SameFaces
      (second.followedBy e first d memory).store := by
  have hprobed : ∀ c, ((first.followedBy d second e memory).store.cache c).probed =
      ((second.followedBy e first d memory).store.cache c).probed := by
    intro c
    rw [followedBy, followedBy, probed_after, probed_after, probed_after, probed_after]
  have hthere := (followedBy_eq hsound hd he first second).1
  have hback := (followedBy_eq hsound he hd second first).1
  rcases followedBy_cases hsound hd he first second with
    hsame | ⟨name, value, other, text, hfirst, hsecond⟩
  · rw [hsame]
    exact ⟨fun _ => rfl, fun _ => rfl, fun _ => rfl⟩
  · rw [hfirst, hsecond] at hthere
    rw [hsecond, hfirst] at hback
    refine ⟨fun f => ?_, fun c => ?_, fun c => ?_⟩
    · rw [hthere, hback]
      exact hsound.face_comm hd he hne name other value text _ _ haliased f
    · rw [hthere, hback, hsound.devices_setTags hd he, hsound.devices_setTags he hd]
    · have hchanged : ((first.followedBy d second e memory).store.cache c).changed =
          ((second.followedBy e first d memory).store.cache c).changed := by
        rw [hthere, hback, hsound.changed_setTags hd he hne,
          hsound.changed_setTags he hd hne.symm, Bool.or_right_comm]
      rw [Cache.flags, Cache.flags, hprobed, hchanged]

/-- In either order the same is listed, but for the order of the devices of rivals. -/
theorem exists_listings (c : CacheId) {name : String} (hname : name ≠ "") (value : String) :
    ∃ listed swapped,
      Lookup.Lists (first.followedBy d second e memory) c name value listed ∧
      Lookup.Lists (second.followedBy e first d memory) c name value swapped ∧
      Lookup.UpToOrder d e listed swapped ∧
      (listed ≠ swapped → first.Rival d second e memory c name) := by
  have hthere := (followedBy_eq hsound hd he first second).1
  have hback := (followedBy_eq hsound he hd second first).1
  rcases followedBy_cases hsound hd he first second with
    hsame | ⟨key, given, other, text, hfirst, hsecond⟩
  · obtain ⟨listed, hlisted, -⟩ :=
      Lookup.exists_listing (sound_followedBy hsound hd he first second) c name value
    exact ⟨listed, listed, Lookup.all_of_listing hname hlisted,
      Lookup.all_of_listing hname (hsame ▸ hlisted), .refl d e listed, fun h => absurd rfl h⟩
  · rw [hfirst, hsecond] at hthere
    rw [hsecond, hfirst] at hback
    obtain ⟨listed, swapped, hlisted, hswapped, hupto, hdiffer⟩ :=
      hsound.listings_comm hd he hne key other given text first.replace second.replace c name value
    rw [← hthere] at hlisted
    rw [← hback] at hswapped
    refine ⟨listed, swapped, Lookup.all_of_listing hname hlisted,
      Lookup.all_of_listing hname hswapped, hupto, fun hne => ?_⟩
    obtain ⟨⟨⟨hcache, hkey⟩, hcache', hother⟩, hrank, one, two, hone, htwo⟩ := hdiffer hne
    have hpairs := (hsound.revises_setTag hd key given first.replace).pairs
    have hpairs' := (hsound.revises_setTag he other text second.replace).pairs
    rw [hone, ← hfirst, ← (first.after_eq hsound hd).1, ← hkey] at hpairs
    rw [htwo, ← hsecond, ← (second.after_eq hsound he).1, ← hother] at hpairs'
    exact ⟨⟨hcache, hcache'⟩, hrank, ⟨one, hpairs⟩, two, hpairs'⟩

end Order

end Update

/-- Calls that set tags of two different devices can be made in either order, from any state that a
run leads to and with any arguments. Each fails or not as it does alone, devices and caches show the
same in the end, and lookups list the same devices. They list them in the same order, too, unless both
calls add a tag of the very name to devices of the cache, which have the same rank; then at most
these two have changed places. -/
theorem updates_commute (hreachable : Reachable memory) (hd : memory.store.devices.Holds d)
    (he : memory.store.devices.Holds e) (hne : d ≠ e) (first second : Update) :
    first.failure? d ((second.turn e).after memory) = first.failure? d memory ∧
      second.failure? e ((first.turn d).after memory) = second.failure? e memory ∧
      (first.followedBy d second e memory).store.SameFaces
        (second.followedBy e first d memory).store ∧
      (∀ c name value, (Lookup.all c name value).failure? (first.followedBy d second e memory) =
        (Lookup.all c name value).failure? (second.followedBy e first d memory)) ∧
      ∀ c name, name ≠ "" → ∀ value, ∃ listed swapped,
        Lookup.Lists (first.followedBy d second e memory) c name value listed ∧
        Lookup.Lists (second.followedBy e first d memory) c name value swapped ∧
        Lookup.UpToOrder d e listed swapped ∧
        (listed ≠ swapped → first.Rival d second e memory c name) := by
  have hsound := hreachable.sound
  have hlistings := Update.exists_listings hsound hd he hne first second
  refine ⟨(Update.followedBy_eq hsound he hd second first).2,
    (Update.followedBy_eq hsound hd he first second).2,
    Update.sameFaces_followedBy hsound hd he hne first second hreachable.aliased, ?_,
    fun c name hname value => hlistings c hname value⟩
  intro c name value
  cases hgiven : Lookup.requireArguments c name value with
  | error failure =>
    unfold Lookup.all
    rw [hgiven]
    rfl
  | ok given =>
    unfold Lookup.requireArguments at hgiven
    split at hgiven <;> cases hgiven
    next k key value hname =>
    have hname' : key ≠ "" := hname
    obtain ⟨listed, swapped, hlisted, hswapped, -⟩ := hlistings k hname' value
    rw [Lookup.Lists] at hlisted hswapped
    rw [Op.failure?, Op.failure?, hlisted, hswapped]

/-- A call that gives a device an identity. -/
def Update.identify : Update where
  name := .string "UUID"
  value := .string "c0de"
  replace := true

/-- Two devices of one cache and one rank that get the same identity are listed in the order of the
calls. -/
theorem identities_tell_order :
    Lookup.Lists (Update.identify.followedBy ⟨0⟩ .identify ⟨1⟩ lateAttached.1) ⟨0⟩ "UUID" "c0de"
        [⟨0⟩, ⟨1⟩] ∧
      Lookup.Lists (Update.identify.followedBy ⟨1⟩ .identify ⟨0⟩ lateAttached.1) ⟨0⟩ "UUID" "c0de"
        [⟨1⟩, ⟨0⟩] ∧
      Update.identify.Rival ⟨0⟩ .identify ⟨1⟩ lateAttached.1 ⟨0⟩ "UUID" := by
  have hlists : ∀ {memory : Memory} {d e : DeviceId},
      Lookup.distinctOwners memory.store (memory.store.matching ⟨0⟩ "UUID" "c0de") =
        [d, e].map some → memory.store.rank e ≤ memory.store.rank d →
      Lookup.Lists memory ⟨0⟩ "UUID" "c0de" [d, e] := by
    intro memory d e howners hrank
    refine Lookup.all_of_listing (by decide) ((Lookup.listing_of_owners howners).trans ?_)
    rw [List.mergeSort_of_pairwise (by simpa using hrank)]
  have hthere : Lookup.Lists (Update.identify.followedBy ⟨0⟩ .identify ⟨1⟩ lateAttached.1) ⟨0⟩
      "UUID" "c0de" [⟨0⟩, ⟨1⟩] := hlists (by decide +kernel) (by decide +kernel)
  have hback : Lookup.Lists (Update.identify.followedBy ⟨1⟩ .identify ⟨0⟩ lateAttached.1) ⟨0⟩
      "UUID" "c0de" [⟨1⟩, ⟨0⟩] := hlists (by decide +kernel) (by decide +kernel)
  obtain ⟨-, -, -, -, hlistings⟩ := updates_commute ⟨_, run_lateAttached⟩
    (by decide : lateAttached.1.store.devices.Holds ⟨0⟩)
    (by decide : lateAttached.1.store.devices.Holds ⟨1⟩) (by decide) .identify .identify
  obtain ⟨listed, swapped, hlisted, hswapped, -, hrival⟩ :=
    hlistings ⟨0⟩ "UUID" (by decide) "c0de"
  cases hlisted.symm.trans hthere
  cases hswapped.symm.trans hback
  exact ⟨hthere, hback, hrival (by decide)⟩

end DeviceTags
