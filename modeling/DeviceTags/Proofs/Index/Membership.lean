import DeviceTags.Proofs.Index.Sound
import DeviceTags.Proofs.Store.Setting

/-!
# Devices that join and leave a cache

A device that is attached brings its tags into the index in the order of its list, and one that is
removed takes them out. Both lead from a sound store to a sound one.
-/

namespace DeviceTags.Store

variable {store : Store}

/-! ### Attaching a device -/

theorem device_linkMissing (c : CacheId) (ts : List TagId) (store : Store) (d : DeviceId) :
    (linkMissing c ts store).device d = store.device d := by
  induction ts generalizing store with
  | nil => rfl
  | cons t rest ih =>
    rw [linkMissing, ih]
    split
    · rfl
    · exact device_linkTag store d

theorem extends_linkMissing (c : CacheId) (ts : List TagId) (store : Store) :
    Extends store (linkMissing c ts store) := by
  induction ts generalizing store with
  | nil => exact .refl store
  | cons t rest ih =>
    refine Extends.trans ?_ (ih _)
    split
    · exact .refl store
    · exact extends_linkTag store c t

theorem devices_cache_linkMissing {c : CacheId} (ts : List TagId) {store : Store}
    (hc : store.caches.Holds c) (k : CacheId) :
    ((linkMissing c ts store).cache k).devices = (store.cache k).devices := by
  induction ts generalizing store with
  | nil => rfl
  | cons t rest ih =>
    rw [linkMissing]
    split
    · exact ih hc
    · rw [ih ((extends_linkTag store c t).holds_cache hc), devices_cache_linkTag hc]

/-- The first waiting tag of a device is linked when all tags before it in the list are. -/
theorem Linked.linkNext {home : DeviceId → Option CacheId} {d : DeviceId} {c : CacheId} {t : TagId}
    {done rest : List TagId} (hlinked : store.Linked home (t :: rest)) (hhome : home d = some c)
    (hc : store.caches.Holds c) (htags : (store.device d).tags = done ++ t :: rest) :
    (store.linkTag c t).Linked home rest := by
  have howner : (store.tag t).device = some d := by
    rw [← hlinked.listed, htags]
    simp
  have hsorted := hlinked.listedInOrder d
  rw [htags, List.pairwise_append] at hsorted
  obtain ⟨-, hwaiting, hcross⟩ := hsorted
  have hnew : t ∉ rest := fun hmem =>
    Nat.lt_irrefl _ ((List.pairwise_cons.mp hwaiting).1 t hmem)
  refine hlinked.linkTag hc howner hhome hnew fun u hdevice hout => ?_
  rw [← hlinked.listed, htags, List.mem_append] at hdevice
  exact hcross u (hdevice.resolve_right hout) t List.mem_cons_self

/-- The waiting tags of a device are linked in the order of its list, youngest last. -/
theorem Linked.linkMissing {home : DeviceId → Option CacheId} {d : DeviceId} {c : CacheId}
    (hhome : home d = some c) (waiting : List TagId) {store : Store}
    (hlinked : store.Linked home waiting) (hc : store.caches.Holds c)
    (hsuffix : ∃ done, (store.device d).tags = done ++ waiting) :
    (linkMissing c waiting store).Linked home [] := by
  induction waiting generalizing store with
  | nil => exact hlinked
  | cons t rest ih =>
    obtain ⟨done, htags⟩ := hsuffix
    have hfree : (store.tag t).head = none := hlinked.waitingFree t List.mem_cons_self
    rw [Store.linkMissing, if_neg (by simp [hfree])]
    refine ih (hlinked.linkNext hhome hc htags) ((extends_linkTag store c t).holds_cache hc) ?_
    refine ⟨done ++ [t], ?_⟩
    rw [device_linkTag, htags]
    simp

/-- The tags of a device are linked where it belongs, whichever of them are linked there before. -/
theorem Meshed.linkMissing {home : DeviceId → Option CacheId} {d : DeviceId} {c : CacheId}
    (hhome : home d = some c) (ts : List TagId) {store : Store} (hmeshed : store.Meshed home)
    (hc : store.caches.Holds c) (howned : ∀ t ∈ ts, (store.tag t).device = some d) :
    (linkMissing c ts store).Meshed home := by
  induction ts generalizing store with
  | nil => exact hmeshed
  | cons t rest ih =>
    have howner := howned t List.mem_cons_self
    have hrest : ∀ u ∈ rest, (store.tag u).device = some d :=
      fun u hu => howned u (List.mem_cons_of_mem t hu)
    rw [Store.linkMissing]
    split
    · exact ih hmeshed hc hrest
    · next hhead =>
      have hfree : (store.tag t).head = none := Option.not_isSome_iff_eq_none.mp hhead
      refine ih (hmeshed.linkTag hc howner hhome hfree) ((extends_linkTag store c t).holds_cache hc)
        fun u hu => ?_
      rw [device_tag_linkTag (holds_tag_of_device howner)]
      exact hrest u hu

/-- A device that belongs nowhere has no linked tags, so all of them wait when it gets a home. -/
theorem Linked.invite {home : DeviceId → Option CacheId} (hlinked : store.Linked home [])
    {d : DeviceId} (hnowhere : home d = none) (c : CacheId) :
    store.Linked (fun e => if e = d then some c else home e) (store.device d).tags :=
  { hlinked with
    homed := by
      intro t h hhead
      obtain ⟨e, k, howner, hhome, hentry⟩ := hlinked.homed t h hhead
      have he : e ≠ d := by
        rintro rfl
        rw [hnowhere] at hhome
        cases hhome
      exact ⟨e, k, howner, by simpa [he] using hhome, hentry⟩
    indexed := by
      intro t e howner hhome hwaits
      have he : e ≠ d := by
        rintro rfl
        exact hwaits ((hlinked.listed e t).mpr howner)
      exact hlinked.indexed t e howner (by simpa [he] using hhome) (by simp)
    waitingFree := by
      intro t ht
      cases hhead : (store.tag t).head with
      | none => rfl
      | some h =>
        obtain ⟨e, k, howner, hhome, -⟩ := hlinked.homed t h hhead
        rw [(hlinked.listed d t).mp ht] at howner
        cases howner
        rw [hnowhere] at hhome
        cases hhome }

theorem sameLinks_setDeviceCache {store : Store} (d : DeviceId) (c : Option CacheId) :
    SameLinks store (store.setDeviceCache d c) :=
  sameLinks_updateDevice d fun _ => rfl

theorem sameLinks_enterCache {store : Store} (c : CacheId) (d : DeviceId) :
    SameLinks store (store.enterCache c d) :=
  sameLinks_updateCache c fun _ => rfl

theorem sameLinks_leaveCache {store : Store} (c : CacheId) (d : DeviceId) :
    SameLinks store (store.leaveCache c d) :=
  sameLinks_updateCache c fun _ => rfl

theorem device_connect {c : CacheId} {d : DeviceId} (hd : store.devices.Holds d) (e : DeviceId) :
    (store.connect c d).device e =
      if e = d then { store.device e with cache := some c } else store.device e := by
  have hheld : (linkMissing c (store.device d).tags store).devices.Holds d :=
    (extends_linkMissing c (store.device d).tags store).holds_device hd
  rw [connect, setDeviceCache, device_updateDevice _ (.inl hheld), device_linkMissing]

theorem extends_connect (store : Store) (c : CacheId) (d : DeviceId) :
    Extends store (store.connect c d) :=
  (extends_linkMissing c (store.device d).tags store).trans (extends_updateDevice _ _ _)

/-- No cache lists another device than before. -/
theorem devices_connect {c : CacheId} (hc : store.caches.Holds c) (d : DeviceId) (k : CacheId) :
    ((store.connect c d).cache k).devices = (store.cache k).devices :=
  devices_cache_linkMissing (store.device d).tags hc k

/-- The index is complete before the cache lists the device. -/
theorem Sound.linked_connect (hsound : store.Sound) {c : CacheId} {d : DeviceId}
    (hc : store.caches.Holds c) (hd : store.devices.Holds d)
    (hfree : (store.device d).cache = none) :
    (store.connect c d).Linked (fun e => ((store.connect c d).device e).cache) [] := by
  have hinvited := (hsound.linked.invite hfree c).linkMissing (d := d) (by simp) _ hc ⟨[], rfl⟩
  have hcaches : ∀ e, ((store.connect c d).device e).cache =
      if e = d then some c else (store.device e).cache := by
    intro e
    rw [device_connect hd]
    split <;> rfl
  simp only [hcaches]
  exact hinvited.of_sameLinks (sameLinks_setDeviceCache d (some c))

/-- What follows the linking of the tags changes no link. -/
theorem sameLinks_attach (store : Store) (c : CacheId) (d : DeviceId) :
    SameLinks (linkMissing c (store.device d).tags store) (store.attach c d) :=
  (sameLinks_setDeviceCache d (some c)).trans
    ((sameLinks_enterCache c d).trans (sameIndex_markChanged c).toSameLinks)

/-- A device without tags brings no link along. -/
theorem sameLinks_connect_untagged {d : DeviceId} (hempty : (store.device d).tags = [])
    (c : CacheId) : SameLinks store (store.connect c d) := by
  rw [connect, hempty]
  exact sameLinks_setDeviceCache d (some c)

theorem sameLinks_attach_untagged {d : DeviceId} (hempty : (store.device d).tags = [])
    (c : CacheId) : SameLinks store (store.attach c d) := by
  have hsame := sameLinks_attach store c d
  rw [hempty] at hsame
  exact hsame

theorem device_attach {c : CacheId} {d : DeviceId} (hd : store.devices.Holds d) (e : DeviceId) :
    (store.attach c d).device e =
      if e = d then { store.device e with cache := some c } else store.device e := by
  rw [attach, markChanged, device_updateCache, enterCache, device_updateCache, device_connect hd]

theorem devices_attach {c : CacheId} (hc : store.caches.Holds c) (d : DeviceId) (k : CacheId) :
    ((store.attach c d).cache k).devices =
      if k = c then (store.cache k).devices ++ [d] else (store.cache k).devices := by
  have hheld : (store.connect c d).caches.Holds c := (extends_connect store c d).holds_cache hc
  rw [attach, (sameIndex_markChanged c).cacheDevices, enterCache,
    cache_updateCache _ (.inl hheld), ← devices_connect hc d]
  split <;> rfl

theorem devices_enlist {c : CacheId} (hc : store.caches.Holds c) (d : DeviceId) (k : CacheId) :
    ((store.enlist c d).cache k).devices =
      if k = c then (store.cache k).devices ++ [d] else (store.cache k).devices := by
  rw [enlist, (sameIndex_markChanged c).cacheDevices, enterCache, cache_updateCache _ (.inl hc)]
  split <;> rfl

theorem device_enlist (c : CacheId) (d e : DeviceId) :
    (store.enlist c d).device e = store.device e := by
  rw [enlist, markChanged, device_updateCache, enterCache, device_updateCache]

theorem sameLinks_enlist (store : Store) (c : CacheId) (d : DeviceId) :
    SameLinks store (store.enlist c d) :=
  (sameLinks_enterCache c d).trans (sameIndex_markChanged c).toSameLinks

/-- The device can be attached: the cache does not list it, and it points to no other cache. -/
structure Invites (store : Store) (c : CacheId) (d : DeviceId) : Prop where
  out : d ∉ (store.cache c).devices
  here : ∀ k, (store.device d).cache = some k → k = c

theorem Invites.free_or_pointed {c : CacheId} {d : DeviceId} (hinvites : store.Invites c d) :
    (store.device d).cache = none ∨ (store.device d).cache = some c := by
  cases hcache : (store.device d).cache with
  | none => exact .inl rfl
  | some k => exact .inr (by rw [hinvites.here k hcache])

theorem Sound.invites_of_free (hsound : store.Sound) {d : DeviceId}
    (hfree : (store.device d).cache = none) (c : CacheId) : store.Invites c d where
  out hmem := by
    rw [hsound.attached c d hmem] at hfree
    cases hfree
  here k hcache := by
    rw [hfree] at hcache
    cases hcache

theorem linkMissing_eq_self {c : CacheId} {ts : List TagId}
    (hall : ∀ t ∈ ts, (store.tag t).head.isSome) : linkMissing c ts store = store := by
  induction ts with
  | nil => rfl
  | cons t rest ih =>
    rw [linkMissing, if_pos (hall t List.mem_cons_self)]
    exact ih fun u hu => hall u (List.mem_cons_of_mem t hu)

/-- The tags of a device that points to a cache are linked already. -/
theorem Sound.connect_eq_self (hsound : store.Sound) {c : CacheId} {d : DeviceId}
    (hcache : (store.device d).cache = some c) : store.connect c d = store := by
  have hlinked := linkMissing_eq_self (c := c) (hsound.isSome_head_of_cache hcache)
  have hsame : store.devices.update d ({ · with cache := some c }) = store.devices :=
    Table.update_eq_self (holds_device_of_cache hcache) (by rw [← hcache]; rfl)
  rw [Store.connect, hlinked, setDeviceCache, updateDevice, hsame]

/-- A device whose tags are in the index points to the cache before the cache lists it. -/
theorem Sound.connect (hsound : store.Sound) {c : CacheId} {d : DeviceId}
    (hc : store.caches.Holds c) (hd : store.devices.Holds d) (hinvites : store.Invites c d) :
    (store.connect c d).Sound := by
  rcases hinvites.free_or_pointed with hfree | hpointed
  · constructor
    case linked => exact hsound.linked_connect hc hd hfree
    case held =>
      intro e k hcache
      refine (extends_connect store c d).holds_cache ?_
      rw [device_connect hd] at hcache
      split at hcache
      · cases hcache
        exact hc
      · exact hsound.held e k hcache
    case attached =>
      intro k e hmem
      rw [devices_connect hc] at hmem
      have hcache := hsound.attached k e hmem
      have he : e ≠ d := by
        rintro rfl
        rw [hfree] at hcache
        cases hcache
      rw [device_connect hd, if_neg he]
      exact hcache
    case attachedOnce =>
      intro k
      rw [devices_connect hc]
      exact hsound.attachedOnce k
  · rw [hsound.connect_eq_self hpointed]
    exact hsound

/-- The cache lists a device that points to it. -/
theorem Sound.enlist (hsound : store.Sound) {c : CacheId} {d : DeviceId}
    (hcache : (store.device d).cache = some c) (hout : d ∉ (store.cache c).devices) :
    (store.enlist c d).Sound := by
  have hc := hsound.held d c hcache
  constructor
  case linked =>
    simp only [device_enlist]
    exact hsound.linked.of_sameLinks (sameLinks_enlist store c d)
  case held =>
    intro e k
    rw [device_enlist]
    intro hpointed
    exact (sameLinks_enlist store c d).lasting.holds_cache (hsound.held e k hpointed)
  case attached =>
    intro k e
    rw [devices_enlist hc, device_enlist]
    split
    · next hk =>
      subst hk
      rw [List.mem_append, List.mem_singleton]
      rintro (hmem | rfl)
      · exact hsound.attached k e hmem
      · exact hcache
    · exact hsound.attached k e
  case attachedOnce =>
    intro k
    rw [devices_enlist hc]
    split
    · next hk =>
      subst hk
      rw [List.nodup_append]
      refine ⟨hsound.attachedOnce k, List.nodup_singleton d, ?_⟩
      intro e he f hf
      rw [List.mem_singleton.mp hf]
      exact ne_of_mem_of_not_mem he hout
    · exact hsound.attachedOnce k

theorem Sound.attach (hsound : store.Sound) {c : CacheId} {d : DeviceId}
    (hc : store.caches.Holds c) (hd : store.devices.Holds d) (hinvites : store.Invites c d) :
    (store.attach c d).Sound := by
  refine (hsound.connect hc hd hinvites).enlist ?_ ?_
  · rw [device_connect hd, if_pos rfl]
  · rw [devices_connect hc]
    exact hinvites.out

/-! ### Caches that list all devices that point to them -/

/-- The device that the cache is to list is the only one that it may have missed. -/
theorem registered_enlist {c k : CacheId} {d : DeviceId} (hc : store.caches.Holds c)
    (hothers : store.RegisteredBut k d) (hcache : (store.device d).cache = some c) :
    (store.enlist c d).Registered k := by
  intro e
  rw [device_enlist, devices_enlist hc]
  intro hpointed
  by_cases he : e = d
  · subst he
    rw [hcache] at hpointed
    cases hpointed
    rw [if_pos rfl]
    exact List.mem_append_right _ List.mem_cons_self
  · have hmem := hothers e he hpointed
    split
    · exact List.mem_append_left _ hmem
    · exact hmem

theorem Registered.attach {c k : CacheId} {d : DeviceId} (hregistered : store.Registered k)
    (hc : store.caches.Holds c) (hd : store.devices.Holds d) : (store.attach c d).Registered k := by
  refine registered_enlist ((extends_connect store c d).holds_cache hc) (fun e he hpointed => ?_) ?_
  · rw [device_connect hd, if_neg he] at hpointed
    rw [devices_connect hc]
    exact hregistered e hpointed
  · rw [device_connect hd, if_pos rfl]

/-! ### Destroying tags -/

theorem extends_unlinkTags (ts : List TagId) (store : Store) :
    Extends store (store.unlinkTags ts) := by
  induction ts generalizing store with
  | nil => exact .refl store
  | cons t rest ih => exact (extends_unlinkTag store t).trans (ih _)

theorem cache_unlinkTags (ts : List TagId) (store : Store) (c : CacheId) :
    (store.unlinkTags ts).cache c = store.cache c := by
  induction ts generalizing store with
  | nil => rfl
  | cons t rest ih => exact (ih _).trans (cache_unlinkTag store t c)

theorem Linked.unlinkTags {home : DeviceId → Option CacheId} {waiting : List TagId}
    (ts : List TagId) {store : Store} (hlinked : store.Linked home waiting) :
    (store.unlinkTags ts).Linked home waiting := by
  induction ts generalizing store with
  | nil => exact hlinked
  | cons t rest ih => exact ih (hlinked.unlinkTag t)

/-- The tags that were unlinked belong to no device and to no head, and all others are as they
were. -/
theorem tag_unlinkTags (ts : List TagId) (store : Store) (u : TagId) :
    (store.unlinkTags ts).tag u =
      if u ∈ ts then { store.tag u with device := none, head := none } else store.tag u := by
  induction ts generalizing store with
  | nil => simp [Store.unlinkTags]
  | cons t rest ih =>
    refine (ih _).trans ?_
    rw [tag_unlinkTag]
    by_cases hu : u = t
    · simp [hu]
    · simp [hu]

/-- A device keeps all that it has beside its tags. -/
theorem device_unlinkTags (ts : List TagId) (store : Store) (d : DeviceId) :
    ∃ left, (store.unlinkTags ts).device d = { store.device d with tags := left } ∧
      left.Sublist (store.device d).tags := by
  induction ts generalizing store with
  | nil => exact ⟨_, rfl, List.Sublist.refl _⟩
  | cons t rest ih =>
    obtain ⟨left, hdevice, hsub⟩ := ih (store.unlinkTag t)
    refine ⟨left, hdevice.trans ?_, hsub.trans ?_⟩
    · rw [device_unlinkTag]
      split <;> rfl
    · rw [device_unlinkTag]
      split
      · exact List.erase_sublist
      · exact List.Sublist.refl _

section Unlinking

variable {home : DeviceId → Option CacheId} {waiting : List TagId}

theorem Linked.tags_device_unlinkTag (hlinked : store.Linked home waiting) (t : TagId)
    (d : DeviceId) : ((store.unlinkTag t).device d).tags = (store.device d).tags.erase t := by
  rw [device_unlinkTag]
  split
  · rfl
  · next howner => rw [List.erase_of_not_mem fun hmem => howner ((hlinked.listed d t).mp hmem)]

theorem Linked.tags_head_unlinkTag (hlinked : store.Linked home waiting) (t : TagId)
    (h : HeadId) : ((store.unlinkTag t).head h).tags = (store.head h).tags.erase t := by
  rw [head_unlinkTag]
  split
  · rfl
  · next hhead => rw [List.erase_of_not_mem fun hmem => hhead ((hlinked.entered h t).mp hmem)]

theorem filter_erase {ts : List TagId} (honce : ts.Nodup) (t : TagId) (rest : List TagId) :
    (ts.erase t).filter (· ∉ rest) = ts.filter (· ∉ t :: rest) := by
  rw [honce.erase_eq_filter, List.filter_filter]
  refine List.filter_congr fun u _ => ?_
  rw [Bool.eq_iff_iff]
  simp [and_comm]

/-- What is left of the list of a device are the tags that were not unlinked, in their order. -/
theorem Linked.tags_device_unlinkTags (ts : List TagId) {store : Store}
    (hlinked : store.Linked home waiting) (d : DeviceId) :
    ((store.unlinkTags ts).device d).tags = (store.device d).tags.filter (· ∉ ts) := by
  induction ts generalizing store with
  | nil => simp [Store.unlinkTags]
  | cons t rest ih =>
    refine (ih (hlinked.unlinkTag t)).trans ?_
    rw [hlinked.tags_device_unlinkTag, filter_erase (hlinked.listedOnce d)]

theorem Linked.tags_head_unlinkTags (ts : List TagId) {store : Store}
    (hlinked : store.Linked home waiting) (h : HeadId) :
    ((store.unlinkTags ts).head h).tags = (store.head h).tags.filter (· ∉ ts) := by
  induction ts generalizing store with
  | nil => simp [Store.unlinkTags]
  | cons t rest ih =>
    refine (ih (hlinked.unlinkTag t)).trans ?_
    rw [hlinked.tags_head_unlinkTag, filter_erase (hlinked.enteredOnce h)]

theorem Linked.mem_tags_unlinkTags (hlinked : store.Linked home waiting) (ts : List TagId)
    (d : DeviceId) {t : TagId} :
    t ∈ ((store.unlinkTags ts).device d).tags ↔ t ∈ (store.device d).tags ∧ t ∉ ts := by
  rw [hlinked.tags_device_unlinkTags, List.mem_filter, decide_eq_true_iff]

/-- The other devices have none of the tags of a device, and so keep theirs. -/
theorem Linked.tags_device_unlinkTags_of_ne (hlinked : store.Linked home waiting)
    {d e : DeviceId} (hother : e ≠ d) {ts : List TagId} (hts : ts ⊆ (store.device d).tags) :
    ((store.unlinkTags ts).device e).tags = (store.device e).tags := by
  rw [hlinked.tags_device_unlinkTags, List.filter_eq_self]
  intro t ht
  refine decide_eq_true fun hmem => hother ?_
  have howner := (hlinked.listed d t).mp (hts hmem)
  rw [(hlinked.listed e t).mp ht] at howner
  exact Option.some.inj howner

end Unlinking

theorem sameMembers_unlinkTags (ts : List TagId) (store : Store) :
    SameMembers store (store.unlinkTags ts) where
  deviceCache d := by
    obtain ⟨left, hdevice, -⟩ := device_unlinkTags ts store d
    rw [hdevice]
  cacheDevices c := by rw [cache_unlinkTags]
  lasting := extends_unlinkTags ts store

theorem Sound.unlinkTags (hsound : store.Sound) (ts : List TagId) :
    (store.unlinkTags ts).Sound :=
  hsound.of_sameMembers (sameMembers_unlinkTags ts store) (hsound.linked.unlinkTags ts)

theorem cache_device_leave (c : CacheId) (d e : DeviceId) :
    (((store.setDeviceCache d none).leaveCache c d).device e).cache =
      if e = d then none else (store.device e).cache := by
  rw [leaveCache, device_updateCache, setDeviceCache, device_updateDevice _ (.inr rfl)]
  split <;> rfl

theorem devices_leave (c : CacheId) (d : DeviceId) (k : CacheId) :
    (((store.setDeviceCache d none).leaveCache c d).cache k).devices =
      if k = c then (store.cache k).devices.erase d else (store.cache k).devices := by
  rw [leaveCache, cache_updateCache _ (.inr rfl)]
  split <;> rfl

/-- A device without tags leaves its cache. -/
theorem Sound.leave (hsound : store.Sound) {c : CacheId} {d : DeviceId}
    (hmem : d ∈ (store.cache c).devices) (hempty : (store.device d).tags = []) :
    ((store.setDeviceCache d none).leaveCache c d).Sound := by
  have hlasting : Extends store ((store.setDeviceCache d none).leaveCache c d) :=
    ((sameLinks_setDeviceCache d none).trans (sameLinks_leaveCache c d)).lasting
  constructor
  case linked =>
    simp only [cache_device_leave]
    refine (hsound.linked.of_sameLinks
      ((sameLinks_setDeviceCache d none).trans (sameLinks_leaveCache c d))).rehome ?_
    intro t e howner
    have he : e ≠ d := by
      rintro rfl
      have hlisted := (hsound.linked.listed e t).mpr howner
      rw [hempty] at hlisted
      cases hlisted
    rw [if_neg he]
  case held =>
    intro e k
    rw [cache_device_leave]
    split
    · nofun
    · exact fun hcache => hlasting.holds_cache (hsound.held e k hcache)
  case attached =>
    intro k e
    rw [devices_leave, cache_device_leave]
    by_cases he : e = d
    · subst he
      have hhome := hsound.attached c e hmem
      by_cases hk : k = c
      · simp [hk, (hsound.attachedOnce c).mem_erase_iff]
      · rw [if_neg hk]
        intro helsewhere
        rw [hsound.attached k e helsewhere] at hhome
        exact absurd (Option.some.inj hhome) hk
    · rw [if_neg he]
      split
      · exact fun hleft => hsound.attached k e (List.mem_of_mem_erase hleft)
      · exact hsound.attached k e
  case attachedOnce =>
    intro k
    rw [devices_leave]
    split
    · exact (hsound.attachedOnce k).erase d
    · exact hsound.attachedOnce k

/-- What follows the unlinking of the tags changes no link. -/
theorem sameLinks_detach (store : Store) (c : CacheId) (d : DeviceId) :
    SameLinks (store.unlinkTags (store.device d).tags) (store.detach c d) :=
  (sameLinks_setDeviceCache d none).trans
    ((sameLinks_leaveCache c d).trans (sameIndex_markChanged c).toSameLinks)

theorem Sound.detach (hsound : store.Sound) {c : CacheId} {d : DeviceId}
    (hmem : d ∈ (store.cache c).devices) : (store.detach c d).Sound := by
  have hempty : ((store.unlinkTags (store.device d).tags).device d).tags = [] := by
    rw [List.eq_nil_iff_forall_not_mem]
    intro t ht
    rw [hsound.linked.mem_tags_unlinkTags] at ht
    exact ht.2 ht.1
  refine Sound.of_sameIndex ?_ (sameIndex_markChanged c)
  refine (hsound.unlinkTags _).leave ?_ hempty
  rw [cache_unlinkTags]
  exact hmem

/-- The device that leaves its cache points nowhere. -/
theorem Registered.detach {k : CacheId} (hregistered : store.Registered k) (c : CacheId)
    (d : DeviceId) : (store.detach c d).Registered k := by
  refine (sameIndex_markChanged c).sameMembers.registered fun e => ?_
  have hunlinked := (sameMembers_unlinkTags (store.device d).tags store).registered hregistered
  rw [cache_device_leave, devices_leave]
  split
  · nofun
  · next he =>
    intro hpointed
    have hmem := hunlinked e hpointed
    split
    · exact (List.mem_erase_of_ne he).mpr hmem
    · exact hmem

/-! ### Setting and deleting tags -/

section Setting

variable {home : DeviceId → Option CacheId} {waiting : List TagId} {d : DeviceId} {name : String}

/-- After the tags of a name are unlinked, nothing of that name is left to drop. -/
theorem Linked.device_dropNamed (hlinked : store.Linked home waiting) (d : DeviceId)
    (name : String) (e : DeviceId) :
    ((store.unlinkTags (store.tagsNamed d name)).dropNamed d name).device e =
      (store.unlinkTags (store.tagsNamed d name)).device e := by
  rw [dropNamed, device_updateDevice _ (.inr rfl)]
  split
  · next he =>
    subst he
    have hall : ∀ t ∈ ((store.unlinkTags (store.tagsNamed e name)).device e).tags,
        ((store.unlinkTags (store.tagsNamed e name)).tag t).name ≠ name := by
      intro t ht hname
      rw [hlinked.mem_tags_unlinkTags] at ht
      refine ht.2 ?_
      rw [tag_unlinkTags, if_neg ht.2] at hname
      exact List.mem_filter.mpr ⟨ht.1, by simpa using hname⟩
    rw [List.filter_eq_self.mpr fun t ht => by simpa using hall t ht]
  · rfl

theorem Linked.sameIndex_dropNamed (hlinked : store.Linked home waiting) (d : DeviceId)
    (name : String) :
    SameIndex (store.unlinkTags (store.tagsNamed d name))
      ((store.unlinkTags (store.tagsNamed d name)).dropNamed d name) :=
  { SameIndex.refl (store.unlinkTags (store.tagsNamed d name)) with
    deviceTags := fun e => by rw [hlinked.device_dropNamed]
    lasting := extends_updateDevice _ _ _
    deviceCache := fun e => by rw [hlinked.device_dropNamed] }

variable {revision : Revision} {middle : Store} {link : Option TagId}

/-- Each of the ways to set a tag keeps what is linked linked, and what waits waiting. -/
theorem Prepares.linked (hprepares : store.Prepares d name revision middle link)
    (hlinked : store.Linked home waiting) (hd : store.devices.Holds d)
    (hhome : home d = (store.device d).cache)
    (hheld : ∀ c, (store.device d).cache = some c → store.caches.Holds c)
    (hold : ∀ t ∈ waiting, store.tags.Holds t) : middle.Linked home waiting := by
  cases hprepares with
  | clearing =>
    exact (hlinked.unlinkTags _).of_sameLinks (hlinked.sameIndex_dropNamed d name).toSameLinks
  | rewriting => exact hlinked.of_sameLinks (sameIndex_setTagValue _ _).toSameLinks
  | adding => exact hlinked.appendTag hd hhome hheld hold name _
  | doubling =>
    exact (hlinked.appendTag hd hhome hheld hold name _).of_sameLinks
      (sameIndex_markMultiple d).toSameLinks

/-- Setting a tag keeps the devices where they are. -/
theorem Prepares.sameMembers (hprepares : store.Prepares d name revision middle link)
    (hlinked : store.Linked home waiting) (hd : store.devices.Holds d)
    (hheld : ∀ c, (store.device d).cache = some c → store.caches.Holds c) :
    SameMembers store middle := by
  cases hprepares with
  | clearing =>
    exact (sameMembers_unlinkTags _ store).trans (hlinked.sameIndex_dropNamed d name).sameMembers
  | rewriting => exact (sameIndex_setTagValue _ _).sameMembers
  | adding => exact sameMembers_appendTag hd hheld name _
  | doubling =>
    exact (sameMembers_appendTag hd hheld name _).trans (sameIndex_markMultiple d).sameMembers

theorem owner_appendTag {value : String} {e : DeviceId} {t : TagId}
    (howner : ((store.appendTag d name value).tag t).device = some e) :
    e = d ∨ (store.tag t).device = some e := by
  rw [tag_appendTag] at howner
  split at howner
  · exact .inl (Option.some.inj howner).symm
  · exact .inr howner

/-- A tag that a device owns after a tag was set belonged to it before, unless that is the device
whose tag was set. -/
theorem Prepares.owner (hprepares : store.Prepares d name revision middle link)
    {e : DeviceId} {t : TagId} (howner : (middle.tag t).device = some e) :
    e = d ∨ (store.tag t).device = some e := by
  cases hprepares with
  | clearing =>
    change ((store.unlinkTags (store.tagsNamed d name)).tag t).device = some e at howner
    rw [tag_unlinkTags] at howner
    split at howner
    · cases howner
    · exact .inr howner
  | @rewriting first text =>
    exact .inr ((sameIndex_setTagValue first text).tagDevice t ▸ howner)
  | adding => exact owner_appendTag howner
  | doubling => exact owner_appendTag ((sameIndex_markMultiple d).tagDevice t ▸ howner)

theorem Linked.setTag (hlinked : store.Linked home waiting) (hd : store.devices.Holds d)
    (hhome : home d = (store.device d).cache)
    (hheld : ∀ c, (store.device d).cache = some c → store.caches.Holds c)
    (hold : ∀ t ∈ waiting, store.tags.Holds t) (name : String) (value : Option String)
    (replace : Bool) :
    (store.setTag d name value replace).Linked home waiting := by
  obtain ⟨-, hset⟩ | ⟨_, middle, link, -, hprepares, hset⟩ :=
    store.setTag_cases d name value replace
  · rwa [hset]
  · rw [hset]
    exact (hprepares.linked hlinked hd hhome hheld hold).of_sameLinks
      (sameIndex_finish d name link).toSameLinks

theorem Linked.sameMembers_setTag (hlinked : store.Linked home waiting)
    (hd : store.devices.Holds d)
    (hheld : ∀ c, (store.device d).cache = some c → store.caches.Holds c) (name : String)
    (value : Option String) (replace : Bool) :
    SameMembers store (store.setTag d name value replace) := by
  obtain ⟨-, hset⟩ | ⟨_, middle, link, -, hprepares, hset⟩ :=
    store.setTag_cases d name value replace
  · rw [hset]
    exact .refl store
  · rw [hset]
    exact (hprepares.sameMembers hlinked hd hheld).trans (sameIndex_finish d name link).sameMembers

theorem owner_setTag (store : Store) (d : DeviceId) (name : String) (value : Option String)
    (replace : Bool) {e : DeviceId} {t : TagId}
    (howner : ((store.setTag d name value replace).tag t).device = some e) :
    e = d ∨ (store.tag t).device = some e := by
  obtain ⟨-, hset⟩ | ⟨_, middle, link, -, hprepares, hset⟩ :=
    store.setTag_cases d name value replace
  · exact .inr (hset ▸ howner)
  · rw [hset, (sameIndex_finish d name link).tagDevice] at howner
    exact hprepares.owner howner

theorem Sound.setTag (hsound : store.Sound) (hd : store.devices.Holds d)
    (name : String) (value : Option String) (replace : Bool) :
    (store.setTag d name value replace).Sound := by
  refine hsound.of_sameMembers
    (hsound.linked.sameMembers_setTag hd (hsound.held d) name value replace) ?_
  exact hsound.linked.setTag hd rfl (hsound.held d) (by simp) name value replace

end Setting

end DeviceTags.Store
