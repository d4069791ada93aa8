import DeviceTags.Proofs.Index.Linked

/-!
# Linking a tag keeps the two sides in step

A tag that is in no head may be linked into the cache where its device belongs: the two sides agree
again afterwards. The order of the entries is kept if the tag is younger than the linked tags of its
device. A device on its way into a cache meets this by linking its tags in the order of its list.
-/

namespace DeviceTags.Store

variable {store : Store} {home : DeviceId → Option CacheId} {waiting : List TagId}

section Heads

variable {c : CacheId} {t : TagId}

theorem Meshed.headOf?_held (hmeshed : store.Meshed home) (name : String) (h : HeadId)
    (hfound : store.headOf? c name = some h) : store.heads.Holds h :=
  hmeshed.headHeld c (name, h) (mem_heads_of_headOf? hfound)

theorem Linked.headOf?_held (hlinked : store.Linked home waiting) (name : String) (h : HeadId)
    (hfound : store.headOf? c name = some h) : store.heads.Holds h :=
  hlinked.meshed.headOf?_held name h hfound

/-- The heads of a cache after a tag was linked: those before, and the one that was made. -/
theorem mem_heads_linkTag (hc : store.caches.Holds c) {k : CacheId} {entry : String × HeadId} :
    entry ∈ ((store.linkTag c t).cache k).heads ↔
      entry ∈ (store.cache k).heads ∨
        (store.headOf? c (store.tag t).name = none ∧ k = c ∧
          entry = ((store.tag t).name, store.heads.next)) := by
  rw [cache_linkTag store hc]
  by_cases hnew : store.headOf? c (store.tag t).name = none ∧ k = c
  · simp [hnew]
  · rw [if_neg hnew]
    constructor
    · exact .inl
    · rintro (hold | ⟨hnone, hk, -⟩)
      · exact hold
      · exact absurd ⟨hnone, hk⟩ hnew

theorem devices_cache_linkTag (hc : store.caches.Holds c) (k : CacheId) :
    ((store.linkTag c t).cache k).devices = (store.cache k).devices := by
  rw [cache_linkTag store hc]
  split <;> rfl

/-- The head that a tag is linked into is a head of the cache under the name of the tag. -/
theorem headFor_mem_heads (hc : store.caches.Holds c) :
    ((store.tag t).name, store.headFor c (store.tag t).name) ∈
      ((store.linkTag c t).cache c).heads := by
  rw [mem_heads_linkTag hc]
  cases hfound : store.headOf? c (store.tag t).name with
  | none => exact .inr ⟨rfl, rfl, by simp [headFor, hfound]⟩
  | some h =>
    refine .inl ?_
    have hhead : store.headFor c (store.tag t).name = h := by simp [headFor, hfound]
    rw [hhead]
    exact mem_heads_of_headOf? hfound

/-- A head that was there keeps its name. -/
theorem name_head_linkTag
    (hfound : ∀ h, store.headOf? c (store.tag t).name = some h → store.heads.Holds h)
    {h : HeadId} (hheld : store.heads.Holds h) :
    ((store.linkTag c t).head h).name = (store.head h).name := by
  have hold : (store.ensureHead c (store.tag t).name).head h = store.head h := by
    rw [head_ensureHead, if_neg]
    exact fun hnew => Table.ne_next_of_holds hheld hnew.2
  rw [head_linkTag store hfound]
  split <;> rw [hold]

/-- A head that is made gets the name of the tag. -/
theorem name_head_linkTag_next
    (hfound : ∀ h, store.headOf? c (store.tag t).name = some h → store.heads.Holds h)
    (hmissing : store.headOf? c (store.tag t).name = none) :
    ((store.linkTag c t).head store.heads.next).name = (store.tag t).name := by
  have hnew : (store.ensureHead c (store.tag t).name).head store.heads.next =
      ⟨(store.tag t).name, []⟩ := by
    rw [head_ensureHead, if_pos ⟨hmissing, rfl⟩]
  rw [head_linkTag store hfound]
  split <;> rw [hnew]

end Heads

section Tags

variable {c : CacheId} {t : TagId} (ht : store.tags.Holds t)

include ht

theorem device_tag_linkTag (u : TagId) :
    ((store.linkTag c t).tag u).device = (store.tag u).device := by
  rw [tag_linkTag store ht]
  split <;> rfl

theorem name_tag_linkTag (u : TagId) :
    ((store.linkTag c t).tag u).name = (store.tag u).name := by
  rw [tag_linkTag store ht]
  split <;> rfl

theorem head_tag_linkTag_self :
    ((store.linkTag c t).tag t).head = some (store.headFor c (store.tag t).name) := by
  rw [tag_linkTag store ht, if_pos rfl]

theorem head_tag_linkTag_of_ne {u : TagId} (hu : u ≠ t) :
    ((store.linkTag c t).tag u).head = (store.tag u).head := by
  rw [tag_linkTag store ht, if_neg hu]

end Tags

/-! ### The fields of the invariant -/

section Fields

variable {t : TagId} {rest : List TagId} {c : CacheId}

theorem Meshed.entered_linkTag (hmeshed : store.Meshed home) (ht : store.tags.Holds t)
    (hfree : (store.tag t).head = none) (h : HeadId) (u : TagId) :
    u ∈ ((store.linkTag c t).head h).tags ↔ ((store.linkTag c t).tag u).head = some h := by
  rw [tags_head_linkTag store (hmeshed.headOf?_held _)]
  by_cases hu : u = t
  · subst hu
    have hout : u ∉ (store.head h).tags := by simp [hmeshed.entered, hfree]
    rw [head_tag_linkTag_self ht]
    by_cases hh : h = store.headFor c (store.tag u).name
    · simp [hh]
    · rw [if_neg hh]
      simp [hout, Ne.symm hh]
  · rw [head_tag_linkTag_of_ne ht hu, ← hmeshed.entered]
    split <;> simp [hu]

theorem Meshed.enteredOnce_linkTag (hmeshed : store.Meshed home)
    (hfree : (store.tag t).head = none) (h : HeadId) :
    ((store.linkTag c t).head h).tags.Nodup := by
  rw [tags_head_linkTag store (hmeshed.headOf?_held _)]
  split
  · rw [List.nodup_append]
    refine ⟨hmeshed.enteredOnce h, List.nodup_singleton t, fun u hu v hv => ?_⟩
    rintro rfl
    rw [List.mem_singleton.mp hv, hmeshed.entered, hfree] at hu
    cases hu
  · exact hmeshed.enteredOnce h

theorem Meshed.namesOnce_linkTag (hmeshed : store.Meshed home) (hc : store.caches.Holds c)
    (k : CacheId) : ((store.linkTag c t).headNames k).Nodup := by
  rw [headNames, cache_linkTag store hc]
  split
  · next hmissing =>
    rw [List.map_append, List.nodup_append]
    refine ⟨hmeshed.namesOnce k, by simp, ?_⟩
    intro name hname last hlast
    have hout := not_mem_headNames_of_headOf? hmissing.1
    rw [← hmissing.2] at hout
    simp only [List.map_cons, List.map_nil, List.mem_singleton] at hlast
    rw [hlast]
    exact ne_of_mem_of_not_mem hname hout
  · exact hmeshed.namesOnce k

theorem Meshed.headHeld_linkTag (hmeshed : store.Meshed home) (hc : store.caches.Holds c)
    (k : CacheId) (entry : String × HeadId)
    (hentry : entry ∈ ((store.linkTag c t).cache k).heads) :
    (store.linkTag c t).heads.Holds entry.2 := by
  rcases (mem_heads_linkTag hc).mp hentry with hold | ⟨hmissing, -, rfl⟩
  · exact (extends_linkTag store c t).holds_head (hmeshed.headHeld k entry hold)
  · have hfound := hmeshed.headOf?_held (c := c) (store.tag t).name
    have hheld := holds_headFor store hfound
    have hnext : store.headFor c (store.tag t).name = store.heads.next := by
      simp [headFor, hmissing]
    rw [hnext] at hheld
    exact ((extends_updateTag _ _ _).trans (extends_updateHead _ _ _)).holds_head hheld

theorem Meshed.headNamed_linkTag (hmeshed : store.Meshed home) (hc : store.caches.Holds c)
    (k : CacheId) (entry : String × HeadId)
    (hentry : entry ∈ ((store.linkTag c t).cache k).heads) :
    ((store.linkTag c t).head entry.2).name = entry.1 := by
  have hfound := hmeshed.headOf?_held (c := c) (store.tag t).name
  rcases (mem_heads_linkTag hc).mp hentry with hold | ⟨hmissing, -, rfl⟩
  · rw [name_head_linkTag hfound (hmeshed.headHeld k entry hold), hmeshed.headNamed k entry hold]
  · exact name_head_linkTag_next hfound hmissing

/-- A head that is made belongs to the cache that it is made for and to no other. -/
theorem Meshed.headOfOne_linkTag (hmeshed : store.Meshed home) (hc : store.caches.Holds c)
    (k l : CacheId) (entry other : String × HeadId)
    (hentry : entry ∈ ((store.linkTag c t).cache k).heads)
    (hother : other ∈ ((store.linkTag c t).cache l).heads) (hsame : entry.2 = other.2) :
    k = l := by
  rcases (mem_heads_linkTag hc).mp hentry with hold | ⟨-, rfl, rfl⟩
  · rcases (mem_heads_linkTag hc).mp hother with hold' | ⟨-, rfl, rfl⟩
    · exact hmeshed.headOfOne k l entry other hold hold' hsame
    · exact absurd hsame (Table.ne_next_of_holds (hmeshed.headHeld k entry hold))
  · rcases (mem_heads_linkTag hc).mp hother with hold' | ⟨-, rfl, rfl⟩
    · exact absurd hsame.symm (Table.ne_next_of_holds (hmeshed.headHeld l other hold'))
    · rfl

/-- A tag that is younger than the linked tags of its device may stand last. -/
theorem Linked.enteredInOrder_linkTag (hlinked : store.Linked home (t :: rest))
    (hyounger : ∀ u, (store.tag u).device = (store.tag t).device → u ∉ t :: rest →
      u.index < t.index) (h : HeadId) :
    ((store.linkTag c t).head h).tags.Pairwise fun u v =>
      (store.tag u).device = (store.tag v).device → u.index < v.index := by
  rw [tags_head_linkTag store (hlinked.headOf?_held _)]
  split
  · rw [List.pairwise_append]
    refine ⟨hlinked.enteredInOrder h, List.pairwise_singleton _ _, ?_⟩
    intro u hu v hv hsame
    rw [List.mem_singleton] at hv
    subst hv
    exact hyounger u hsame fun hwaits => hlinked.not_mem_head_of_waiting hwaits h hu
  · exact hlinked.enteredInOrder h

end Fields

/-- Linking a tag of a device that is in no head into the cache where the device belongs. -/
theorem Meshed.linkTag {t : TagId} {d : DeviceId} {c : CacheId} (hmeshed : store.Meshed home)
    (hc : store.caches.Holds c) (howner : (store.tag t).device = some d) (hhome : home d = some c)
    (hfree : (store.tag t).head = none) : (store.linkTag c t).Meshed home := by
  have ht : store.tags.Holds t := holds_tag_of_device howner
  constructor
  case listed =>
    intro e u
    rw [device_linkTag, device_tag_linkTag ht, hmeshed.listed]
  case entered => exact hmeshed.entered_linkTag ht hfree
  case enteredOnce => exact hmeshed.enteredOnce_linkTag hfree
  case namesOnce => exact hmeshed.namesOnce_linkTag hc
  case headHeld => exact hmeshed.headHeld_linkTag hc
  case headNamed => exact hmeshed.headNamed_linkTag hc
  case headOfOne => exact hmeshed.headOfOne_linkTag hc
  case homed =>
    intro u h hlink
    rw [device_tag_linkTag ht, name_tag_linkTag ht]
    by_cases hu : u = t
    · subst hu
      rw [head_tag_linkTag_self ht] at hlink
      cases hlink
      exact ⟨d, c, howner, hhome, headFor_mem_heads hc⟩
    · rw [head_tag_linkTag_of_ne ht hu] at hlink
      obtain ⟨e, k, hdevice, hplace, hentry⟩ := hmeshed.homed u h hlink
      exact ⟨e, k, hdevice, hplace, (mem_heads_linkTag hc).mpr (.inl hentry)⟩

/-- A waiting tag that is linked waits no longer. -/
theorem Linked.linkTag {t : TagId} {rest : List TagId} {d : DeviceId} {c : CacheId}
    (hlinked : store.Linked home (t :: rest)) (hc : store.caches.Holds c)
    (howner : (store.tag t).device = some d) (hhome : home d = some c) (hnew : t ∉ rest)
    (hyounger : ∀ u, (store.tag u).device = some d → u ∉ t :: rest → u.index < t.index) :
    (store.linkTag c t).Linked home rest := by
  have ht : store.tags.Holds t := holds_tag_of_device howner
  have hmeshed := hlinked.meshed.linkTag hc howner hhome
    (hlinked.waitingFree t List.mem_cons_self)
  exact { hmeshed with
    listedInOrder := by
      intro e
      rw [device_linkTag]
      exact hlinked.listedInOrder e
    enteredInOrder := by
      intro h
      simp only [device_tag_linkTag ht]
      refine hlinked.enteredInOrder_linkTag ?_ h
      rw [howner]
      exact hyounger
    indexed := by
      intro u e hdevice hplace hwaits
      rw [device_tag_linkTag ht] at hdevice
      by_cases hu : u = t
      · rw [hu, head_tag_linkTag_self ht]
        rfl
      · rw [head_tag_linkTag_of_ne ht hu]
        exact hlinked.indexed u e hdevice hplace (List.not_mem_cons_of_ne_of_not_mem hu hwaits)
    waitingFree := by
      intro u hu
      rw [head_tag_linkTag_of_ne ht (ne_of_mem_of_not_mem hu hnew)]
      exact hlinked.waitingFree u (List.mem_cons_of_mem t hu) }

end DeviceTags.Store
