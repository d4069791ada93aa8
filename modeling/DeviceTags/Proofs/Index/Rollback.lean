import DeviceTags.Proofs.Index.Membership

/-!
# Taking back what was linked

An operation that runs out of memory has linked some tags by then, and perhaps the last of them only
half. `Undoable` compares the store at such a moment with the one before: only heads of the `pending`
tags differ, heads of the index have only grown by pending tags, and the cache has only gained heads
that it did not have. Unlinking a pending tag makes it less pending, and when nothing is pending any
more, dropping the new heads restores the store.
-/

namespace DeviceTags.Store

/-- Every record of the first store reads as before, and what is new is not linked to anything. -/
structure Restored (before after : Store) : Prop where
  device : ∀ d, after.device d = before.device d
  cache : ∀ c, after.cache c = before.cache c
  tag : ∀ t, before.tags.Holds t → after.tag t = before.tag t
  looseTag : ∀ t, ¬ before.tags.Holds t → (after.tag t).device = none ∧ (after.tag t).head = none
  head : ∀ h, before.heads.Holds h → after.head h = before.head h
  emptyHead : ∀ h, ¬ before.heads.Holds h → (after.head h).tags = []
  lasting : Extends before after

/-- The pending tags may be linked into heads of a cache that they were not in before. -/
structure Undoable (before now : Store) (c : CacheId) (pending : List TagId) : Prop where
  device : ∀ d, now.device d = before.device d
  otherCache : ∀ k, k ≠ c → now.cache k = before.cache k
  cache : ∃ made, now.cache c = { before.cache c with heads := (before.cache c).heads ++ made } ∧
    ∀ entry ∈ made, entry.1 ∉ before.headNames c ∧ ¬ before.heads.Holds entry.2
  tag : ∀ t, before.tags.Holds t → now.tag t = { before.tag t with head := (now.tag t).head }
  looseTag : ∀ t, ¬ before.tags.Holds t → (now.tag t).device = none
  settled : ∀ t, t ∉ pending → (now.tag t).head = (before.tag t).head
  head : ∀ h, ∃ entered, (now.head h).tags = (before.head h).tags ++ entered ∧ entered.Nodup ∧
    ∀ t ∈ entered, t ∈ pending ∧ (now.tag t).head = some h
  headName : ∀ h, before.heads.Holds h → (now.head h).name = (before.head h).name
  lasting : Extends before now

variable {before now : Store} {c : CacheId} {pending : List TagId}

theorem tag_of_not_holds {store : Store} {t : TagId} (ht : ¬ store.tags.Holds t) :
    store.tag t = default := Table.get_of_not_holds ht

theorem head_of_not_holds {store : Store} {h : HeadId} (hh : ¬ store.heads.Holds h) :
    store.head h = default := Table.get_of_not_holds hh

theorem Restored.sameIndex (hrestored : Restored before now) : SameIndex before now where
  deviceTags d := by rw [hrestored.device]
  tagDevice t := by
    by_cases ht : before.tags.Holds t
    · rw [hrestored.tag t ht]
    · rw [(hrestored.looseTag t ht).1, tag_of_not_holds ht]
      rfl
  tagHead t := by
    by_cases ht : before.tags.Holds t
    · rw [hrestored.tag t ht]
    · rw [(hrestored.looseTag t ht).2, tag_of_not_holds ht]
      rfl
  tagName t howner := by
    obtain ⟨d, hd⟩ := Option.isSome_iff_exists.mp howner
    rw [hrestored.tag t (holds_tag_of_device hd)]
  headTags h := by
    by_cases hh : before.heads.Holds h
    · rw [hrestored.head h hh]
    · rw [hrestored.emptyHead h hh, head_of_not_holds hh]
      rfl
  headName h hh := by rw [hrestored.head h hh]
  cacheHeads c := by rw [hrestored.cache]
  lasting := hrestored.lasting
  deviceCache d := by rw [hrestored.device]
  cacheDevices c := by rw [hrestored.cache]

theorem Restored.refl (store : Store) : Restored store store where
  device _ := rfl
  cache _ := rfl
  tag _ _ := rfl
  looseTag t ht := by
    rw [tag_of_not_holds ht]
    exact ⟨rfl, rfl⟩
  head _ _ := rfl
  emptyHead h hh := by
    rw [head_of_not_holds hh]
    rfl
  lasting := .refl store

/-! ### Growing -/

theorem Undoable.of_restored (hrestored : Restored before now) (c : CacheId) :
    Undoable before now c [] where
  device := hrestored.device
  otherCache k _ := hrestored.cache k
  cache := ⟨[], by simp [hrestored.cache], by simp⟩
  tag t ht := by rw [hrestored.tag t ht]
  looseTag t ht := (hrestored.looseTag t ht).1
  settled t _ := hrestored.sameIndex.tagHead t
  head h := ⟨[], by simp [hrestored.sameIndex.headTags], List.nodup_nil, by simp⟩
  headName h hh := by rw [hrestored.head h hh]
  lasting := hrestored.lasting

/-- One more tag may become pending at any time. -/
theorem Undoable.append (hundo : Undoable before now c pending) (t : TagId) :
    Undoable before now c (pending ++ [t]) :=
  { hundo with
    settled := by
      intro u hu
      exact hundo.settled u fun hmem => hu (List.mem_append_left _ hmem)
    head := by
      intro h
      obtain ⟨entered, htags, honce, hentered⟩ := hundo.head h
      refine ⟨entered, htags, honce, fun u hu => ?_⟩
      exact ⟨List.mem_append_left _ (hentered u hu).1, (hentered u hu).2⟩ }

/-- A head that is made is new to the cache and to the store. -/
theorem Undoable.ensureHead (hundo : Undoable before now c pending) (hc : now.caches.Holds c)
    (name : String) : Undoable before (now.ensureHead c name) c pending := by
  have hcache := fun k => cache_ensureHead now hc name k
  constructor
  case device =>
    intro d
    rw [device_ensureHead, hundo.device]
  case otherCache =>
    intro k hk
    rw [hcache, if_neg fun hboth => hk hboth.2, hundo.otherCache k hk]
  case cache =>
    obtain ⟨made, hnow, hmade⟩ := hundo.cache
    rw [hcache]
    split
    · next hmissing =>
      refine ⟨made ++ [(name, now.heads.next)], by rw [hnow, List.append_assoc], ?_⟩
      intro entry hentry
      rcases List.mem_append.mp hentry with hold | hlast
      · exact hmade entry hold
      · rw [List.mem_singleton.mp hlast]
        constructor
        · intro hname
          have hout := not_mem_headNames_of_headOf? hmissing.1
          rw [headNames, hnow, List.map_append] at hout
          exact hout (List.mem_append_left _ hname)
        · intro hheld
          exact Table.not_holds_next _ (hundo.lasting.holds_head hheld)
    · exact ⟨made, hnow, hmade⟩
  case tag =>
    intro t ht
    rw [tag_ensureHead]
    exact hundo.tag t ht
  case looseTag =>
    intro t ht
    rw [tag_ensureHead]
    exact hundo.looseTag t ht
  case settled =>
    intro t ht
    rw [tag_ensureHead]
    exact hundo.settled t ht
  case head =>
    intro h
    simp only [tags_head_ensureHead, tag_ensureHead]
    exact hundo.head h
  case headName =>
    intro h hh
    rw [head_ensureHead, if_neg, hundo.headName h hh]
    intro hnew
    exact Table.ne_next_of_holds (hundo.lasting.holds_head hh) hnew.2
  case lasting => exact hundo.lasting.trans (extends_ensureHead now c name)

/-- The last pending tag may point to any head that does not list it yet. -/
theorem Undoable.setTagHead {t : TagId} (hundo : Undoable before now c (pending ++ [t]))
    (ht : now.tags.Holds t) (hfree : (now.tag t).head = none)
    (h : HeadId) : Undoable before (now.setTagHead t (some h)) c (pending ++ [t]) := by
  have htag : ∀ u, (now.setTagHead t (some h)).tag u =
      if u = t then { now.tag u with head := some h } else now.tag u :=
    fun u => tag_updateTag now (.inl ht) u
  constructor
  case device => exact hundo.device
  case otherCache => exact hundo.otherCache
  case cache => exact hundo.cache
  case tag =>
    intro u hu
    have hold := hundo.tag u hu
    rw [htag]
    split
    · rw [hold]
    · exact hold
  case looseTag =>
    intro u hu
    rw [htag]
    split <;> exact hundo.looseTag u hu
  case settled =>
    intro u hu
    have hne : u ≠ t := fun heq => hu (by simp [heq])
    rw [htag, if_neg hne]
    exact hundo.settled u hu
  case head =>
    intro k
    obtain ⟨entered, htags, honce, hentered⟩ := hundo.head k
    refine ⟨entered, htags, honce, fun u hu => ⟨(hentered u hu).1, ?_⟩⟩
    have hne : u ≠ t := by
      rintro rfl
      have hhead := (hentered u hu).2
      rw [hfree] at hhead
      cases hhead
    rw [htag, if_neg hne]
    exact (hentered u hu).2
  case headName => exact hundo.headName
  case lasting => exact hundo.lasting.trans (extends_updateTag _ _ _)

/-- A pending tag may enter the head that it points to. -/
theorem Undoable.enterHead {t : TagId} {h : HeadId} (hundo : Undoable before now c pending)
    (hh : now.heads.Holds h) (hpending : t ∈ pending) (hhead : (now.tag t).head = some h)
    (hout : t ∉ (now.head h).tags) : Undoable before (now.enterHead h t) c pending := by
  have hread : ∀ k, (now.enterHead h t).head k =
      if k = h then { now.head k with tags := (now.head k).tags ++ [t] } else now.head k :=
    fun k => head_updateHead now (.inl hh) k
  refine { hundo with
    head := ?_
    headName := ?_
    lasting := hundo.lasting.trans (extends_updateHead _ _ _) }
  · intro k
    obtain ⟨entered, htags, honce, hentered⟩ := hundo.head k
    rw [hread]
    split
    · next hk =>
      subst hk
      refine ⟨entered ++ [t], by rw [htags, List.append_assoc], ?_, ?_⟩
      · rw [List.nodup_append]
        refine ⟨honce, List.nodup_singleton t, ?_⟩
        intro u hu v hv
        rw [List.mem_singleton.mp hv]
        rw [htags] at hout
        exact ne_of_mem_of_not_mem hu fun hmem => hout (List.mem_append_right _ hmem)
      · intro u hu
        rcases List.mem_append.mp hu with hold | hlast
        · exact hentered u hold
        · rw [List.mem_singleton.mp hlast]
          exact ⟨hpending, hhead⟩
    · exact ⟨entered, htags, honce, hentered⟩
  · intro k hk
    rw [hread, ← hundo.headName k hk]
    split <;> rfl

/-- A free tag may be pointed to the head of its name. -/
theorem Undoable.pointToHead {t : TagId} (hundo : Undoable before now c pending)
    (hc : now.caches.Holds c) (ht : now.tags.Holds t) (hfree : (now.tag t).head = none) :
    Undoable before (now.pointToHead c t) c (pending ++ [t]) := by
  have hensured := (hundo.append t).ensureHead hc (now.tag t).name
  refine hensured.setTagHead ?_ ?_ _
  · rw [tags_ensureHead]
    exact ht
  · rw [tag_ensureHead]
    exact hfree

/-- A free tag may be linked. -/
theorem Undoable.linkTag {t : TagId} (hundo : Undoable before now c pending)
    (hc : now.caches.Holds c) (ht : now.tags.Holds t) (hfree : (now.tag t).head = none)
    (hfound : ∀ h, now.headOf? c (now.tag t).name = some h → now.heads.Holds h)
    (hout : ∀ h, t ∉ (now.head h).tags) :
    Undoable before (now.linkTag c t) c (pending ++ [t]) := by
  have hpointed := hundo.pointToHead hc ht hfree
  refine hpointed.enterHead ?_ (by simp) ?_ ?_
  · have hheld := holds_headFor now hfound
    exact (extends_updateTag _ _ _).holds_head hheld
  · rw [tag_pointToHead now ht, if_pos rfl]
  · have hsame := tags_head_ensureHead now (c := c) (now.tag t).name
      (now.headFor c (now.tag t).name)
    exact fun hmem => hout _ (hsame ▸ hmem)

/-! ### Shrinking -/

/-- Unlinking the first pending tag settles it. -/
theorem Undoable.unlinkFromHead {t : TagId} (hundo : Undoable before now c (t :: pending))
    (hfree : (before.tag t).head = none) (hout : ∀ h, t ∉ (before.head h).tags) :
    Undoable before (now.unlinkFromHead t) c pending := by
  constructor
  case device =>
    intro d
    rw [device_unlinkFromHead, hundo.device]
  case otherCache =>
    intro k hk
    rw [cache_unlinkFromHead, hundo.otherCache k hk]
  case cache =>
    rw [cache_unlinkFromHead]
    exact hundo.cache
  case tag =>
    intro u hu
    have hold := hundo.tag u hu
    rw [tag_unlinkFromHead]
    split
    · rw [hold]
    · exact hold
  case looseTag =>
    intro u hu
    rw [tag_unlinkFromHead]
    split <;> exact hundo.looseTag u hu
  case settled =>
    intro u hu
    rw [tag_unlinkFromHead]
    split
    · next heq => rw [heq, hfree]
    · next hne => exact hundo.settled u (List.not_mem_cons_of_ne_of_not_mem hne hu)
  case head =>
    intro h
    obtain ⟨entered, htags, honce, hentered⟩ := hundo.head h
    have hkeep : ∀ u ∈ entered, u ≠ t →
        u ∈ pending ∧ ((now.unlinkFromHead t).tag u).head = some h := by
      intro u hu hne
      rw [tag_unlinkFromHead, if_neg hne]
      exact ⟨List.mem_of_ne_of_mem hne (hentered u hu).1, (hentered u hu).2⟩
    rw [head_unlinkFromHead]
    split
    · refine ⟨entered.erase t, ?_, honce.erase t, ?_⟩
      · simp only [htags]
        exact List.erase_append_right entered (hout h)
      · intro u hu
        rw [honce.mem_erase_iff] at hu
        exact hkeep u hu.2 hu.1
    · next hhead =>
      refine ⟨entered, htags, honce, fun u hu => hkeep u hu ?_⟩
      rintro rfl
      exact hhead (hentered u hu).2
  case headName =>
    intro h hh
    rw [head_unlinkFromHead, ← hundo.headName h hh]
    split <;> rfl
  case lasting => exact hundo.lasting.trans (extends_unlinkFromHead now t)

/-- When nothing is pending, no head has grown. -/
theorem Undoable.headTags (hundo : Undoable before now c []) (h : HeadId) :
    (now.head h).tags = (before.head h).tags := by
  obtain ⟨entered, htags, -, hentered⟩ := hundo.head h
  have hnone : entered = [] := by
    rw [List.eq_nil_iff_forall_not_mem]
    intro t ht
    cases (hentered t ht).1
  rw [htags, hnone, List.append_nil]

/-- The heads of a cache that were there are kept, and those that were made are empty and dropped. -/
theorem Undoable.cache_discardHeads (hundo : Undoable before now c []) (k : CacheId) :
    (now.discardHeads c (before.headNames c)).cache k = before.cache k := by
  rw [Store.discardHeads, cache_updateCache _ (.inr rfl)]
  split
  · next hk =>
    subst hk
    obtain ⟨made, hnow, hmade⟩ := hundo.cache
    have hold : (before.cache k).heads.filter (fun entry =>
        (before.headNames k).contains entry.1 || !(now.head entry.2).tags.isEmpty) =
          (before.cache k).heads := by
      rw [List.filter_eq_self]
      intro entry hentry
      have hname : entry.1 ∈ before.headNames k := List.mem_map_of_mem hentry
      simp [hname]
    have hnew : made.filter (fun entry =>
        (before.headNames k).contains entry.1 || !(now.head entry.2).tags.isEmpty) = [] := by
      rw [List.filter_eq_nil_iff]
      intro entry hentry
      obtain ⟨hname, hheld⟩ := hmade entry hentry
      have hempty : (now.head entry.2).tags = [] := by
        rw [hundo.headTags, head_of_not_holds hheld]
        rfl
      simp [hname, hempty]
    simp only [hnow, List.filter_append, hold, hnew, List.append_nil]
  · next hk => exact hundo.otherCache k hk

/-- Dropping the empty heads that were not there before restores the store. -/
theorem Undoable.discardHeads (hundo : Undoable before now c []) :
    Restored before (now.discardHeads c (before.headNames c)) := by
  constructor
  case device => exact hundo.device
  case cache => exact hundo.cache_discardHeads
  case tag =>
    intro t ht
    have hold := hundo.tag t ht
    rw [hundo.settled t (by simp)] at hold
    exact hold
  case looseTag =>
    intro t ht
    refine ⟨hundo.looseTag t ht, (hundo.settled t (by simp)).trans ?_⟩
    rw [tag_of_not_holds ht]
    rfl
  case head =>
    intro h hh
    have hname := hundo.headName h hh
    have htags := hundo.headTags h
    change now.head h = before.head h
    cases hnow : now.head h
    cases hbefore : before.head h
    simp_all
  case emptyHead =>
    intro h hh
    change (now.head h).tags = []
    rw [hundo.headTags, head_of_not_holds hh]
    rfl
  case lasting => exact hundo.lasting.trans (extends_updateCache _ _ _)

/-! ### Taking back a new tag -/

/-- The second store has a new tag beside the first one. The device may list it already. -/
structure Making (before made : Store) (d : DeviceId) : Prop where
  device : ∀ e, made.device e = before.device e ∨ e = d ∧ made.device e =
    { before.device e with tags := (before.device e).tags ++ [before.tags.next] }
  tag : ∀ t, t ≠ before.tags.next → made.tag t = before.tag t
  free : (made.tag before.tags.next).head = none
  heads : made.heads = before.heads
  caches : made.caches = before.caches
  lasting : Extends before made

theorem making_addTag (store : Store) (d : DeviceId) (name value : String) :
    Making store { store with tags := store.tags.add ⟨name, value, some d, none⟩ } d where
  device _ := .inl rfl
  tag t ht := by
    rw [tag, Table.get_add, if_neg ht]
    rfl
  free := by rw [tag, Table.get_add, if_pos rfl]
  heads := rfl
  caches := rfl
  lasting := ⟨by simp, Nat.le_refl _, Nat.le_refl _, Nat.le_refl _⟩

theorem making_makeTag {store : Store} {d : DeviceId} (hd : store.devices.Holds d)
    (name value : String) : Making store (store.makeTag d name value) d where
  device e := by
    rw [device_makeTag store hd]
    split
    · next he => exact .inr ⟨he, rfl⟩
    · exact .inl rfl
  tag t ht := by rw [tag_makeTag, if_neg ht]
  free := by rw [tag_makeTag, if_pos rfl]
  heads := rfl
  caches := rfl
  lasting := extends_makeTag store d name value

section Making

variable {made : Store} {d : DeviceId}

/-- A new tag is gone when it has left its device. -/
theorem Making.takeBack (hmaking : Making before made d) (hrestored : Restored made now)
    (hunlisted : ∀ e, before.tags.next ∉ (before.device e).tags) :
    Restored before
      ((now.leaveDevice d before.tags.next).setTagDevice before.tags.next none) := by
  have hread : ∀ t, ((now.leaveDevice d before.tags.next).setTagDevice before.tags.next none).tag
      t = if t = before.tags.next then { now.tag t with device := none } else now.tag t :=
    fun t => tag_updateTag _ (.inr rfl) t
  constructor
  case device =>
    intro e
    have hleft : ((now.leaveDevice d before.tags.next).setTagDevice before.tags.next none).device
        e = if e = d then { now.device e with tags := (now.device e).tags.erase before.tags.next }
          else now.device e := device_updateDevice _ (.inr rfl) e
    rw [hleft, hrestored.device]
    rcases hmaking.device e with hsame | ⟨he, hlisted⟩
    · rw [hsame]
      split
      · rw [List.erase_of_not_mem (hunlisted e)]
      · rfl
    · rw [if_pos he, hlisted]
      simp only [List.erase_append_right _ (hunlisted e), List.erase_cons_head, List.append_nil]
  case cache =>
    intro k
    exact (hrestored.cache k).trans (congrArg (·.get k) hmaking.caches)
  case tag =>
    intro t ht
    have hold : made.tags.Holds t := Nat.lt_of_lt_of_le ht hmaking.lasting.tags
    have hne : t ≠ before.tags.next := Table.ne_next_of_holds ht
    rw [hread, if_neg hne, hrestored.tag t hold, hmaking.tag t hne]
  case looseTag =>
    intro t ht
    have hsame := hrestored.sameIndex
    rw [hread]
    split
    · next heq => exact ⟨rfl, by rw [hsame.tagHead, heq, hmaking.free]⟩
    · next hne =>
      rw [hsame.tagDevice, hsame.tagHead, hmaking.tag t hne, tag_of_not_holds ht]
      exact ⟨rfl, rfl⟩
  case head =>
    intro h hh
    have hold : made.heads.Holds h := by rwa [hmaking.heads]
    exact (hrestored.head h hold).trans (congrArg (·.get h) hmaking.heads)
  case emptyHead =>
    intro h hh
    have hmissing : ¬ made.heads.Holds h := by rwa [hmaking.heads]
    exact hrestored.emptyHead h hmissing
  case lasting =>
    refine (hmaking.lasting.trans hrestored.lasting).trans ?_
    exact (extends_updateDevice _ _ _).trans (extends_updateTag _ _ _)

/-- A new tag is gone when it has left the index and its device. -/
theorem Making.withdraw (hmaking : Making before made d)
    (hundo : Undoable made now c [before.tags.next])
    (hunlisted : ∀ e, before.tags.next ∉ (before.device e).tags)
    (hunentered : ∀ h, before.tags.next ∉ (before.head h).tags) :
    Restored before ((((now.unlinkFromHead before.tags.next).discardHeads c
      (before.headNames c)).leaveDevice d before.tags.next).setTagDevice before.tags.next
        none) := by
  have hout : ∀ h, before.tags.next ∉ (made.head h).tags := by
    intro h
    have hsame : made.head h = before.head h := congrArg (·.get h) hmaking.heads
    rw [hsame]
    exact hunentered h
  have hnames : made.headNames c = before.headNames c := by
    rw [headNames, cache, hmaking.caches]
    rfl
  have hrestored := (hundo.unlinkFromHead hmaking.free hout).discardHeads
  rw [hnames] at hrestored
  exact hmaking.takeBack hrestored hunlisted

end Making

end DeviceTags.Store
