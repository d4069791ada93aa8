import DeviceTags.Proofs.Inventory.Pairs
import DeviceTags.Proofs.Store.Aliases

/-!
# Setting a tag as a change of lists

What setting a tag does to the pairs of the device, to its list of tags and to the head of the name
is one of four revisions, and the pairs before decide which. All else stays: the tags of other names
and of other devices, the other devices themselves, the other heads, and the direct accesses of the
device to other names.
-/

namespace DeviceTags

namespace Revision

/-- The pairs of the device afterwards. -/
def pairs (name : String) (before : List (String × String)) : Revision → List (String × String)
  | clearing => before.filter (·.1 ≠ name)
  | keeping => before
  | rewriting text => mergeEntry name text before
  | adding text => before ++ [(name, text)]

/-- A list of tags afterwards, of which some are cleared, and in which a new one comes last. -/
def tags (cleared : TagId → Bool) (made : TagId) (before : List TagId) : Revision → List TagId
  | clearing => before.filter (!cleared ·)
  | keeping | rewriting _ => before
  | adding _ => before ++ [made]

/-- What an access to the name reads afterwards. A type that was there before stays. -/
def access (which : Alias) (before : Option String) : Revision → Option String
  | clearing => none
  | keeping => before
  | rewriting text => some text
  | adding text => if which = .type ∧ before.isSome then before else some text

end Revision

namespace Store

/-- Setting a tag of a device has revised the lists that it concerns, and nothing else. -/
structure Revises (d : DeviceId) (name : String) (revision : Revision) (before after : Store) :
    Prop where
  pairs : after.pairs d = revision.pairs name (before.pairs d)
  tags : (after.device d).tags = revision.tags (fun t => (before.tag t).name = name)
    before.tags.next (before.device d).tags
  entries : ∀ c, (before.device d).cache = some c → after.entries c name =
    revision.tags (fun t => (before.tag t).device = some d) before.tags.next
      (before.entries c name)
  otherEntries : ∀ c other, ((before.device d).cache = some c → other ≠ name) →
    after.entries c other = before.entries c other
  survivors : ∀ t ∈ (before.device d).tags, t ∈ (after.device d).tags →
    (after.tag t).device = some d ∧ (after.tag t).head = (before.tag t).head
  otherTags : ∀ t, before.tags.Holds t →
    ((before.tag t).device = some d → (before.tag t).name ≠ name) → after.tag t = before.tag t
  otherDevices : ∀ e, e ≠ d → after.device e = before.device e
  otherAliases : ∀ which, which.name ≠ name →
    (after.device d).aliases.get which = (before.device d).aliases.get which
  look : (after.device d).name = (before.device d).name ∧
    (after.device d).priority = (before.device d).priority ∧
    (after.device d).cache = (before.device d).cache
  devices : ∀ c, (after.cache c).devices = (before.cache c).devices

variable {store before middle after : Store} {d e : DeviceId} {name : String}
  {revision : Revision}

theorem Revision.mem_tags {cleared : TagId → Bool} {made t : TagId} {tags : List TagId}
    (ht : t ∈ revision.tags cleared made tags) :
    t ∈ tags ∨ (t = made ∧ ∃ text, revision = .adding text) := by
  cases revision with
  | clearing => exact .inl (List.mem_filter.mp ht).1
  | keeping => exact .inl ht
  | rewriting text => exact .inl ht
  | adding text =>
    rcases List.mem_append.mp ht with hold | hnew
    · exact .inl hold
    · exact .inr ⟨List.mem_singleton.mp hnew, text, rfl⟩

/-- A tag that is made has the name and the value that were given. -/
theorem Revises.pair_of_made {text : String}
    (hrevises : Revises d name (.adding text) before after) :
    (after.tag before.tags.next).name = name ∧ (after.tag before.tags.next).value = text := by
  have hpairs := hrevises.pairs
  rw [Store.pairs, hrevises.tags, Revision.tags, List.map_append, Revision.pairs, List.map_singleton]
    at hpairs
  have hlast := List.append_inj_right' hpairs rfl
  simpa using hlast

/-- What is done beside the tags is not seen from outside. -/
theorem Revises.then_unseen (hrevises : Revises d name revision before middle)
    (hunseen : Unseen middle after) (htag : ∀ t, after.tag t = middle.tag t)
    (hdevice : ∀ e, e ≠ d → after.device e = middle.device e)
    (hget : ∀ which, which.name ≠ name →
      (after.device d).aliases.get which = (middle.device d).aliases.get which) :
    Revises d name revision before after where
  pairs := by
    rw [← hrevises.pairs]
    exact pairs_congr (hunseen.deviceTags d) fun t _ => by rw [htag]; exact ⟨rfl, rfl⟩
  tags := (hunseen.deviceTags d).trans hrevises.tags
  entries c hcache := (hunseen.toSameLinks.entries c name).trans (hrevises.entries c hcache)
  otherEntries c other hother :=
    (hunseen.toSameLinks.entries c other).trans (hrevises.otherEntries c other hother)
  survivors t ht hkept := by
    rw [hunseen.deviceTags] at hkept
    rw [htag]
    exact hrevises.survivors t ht hkept
  otherTags t ht hother := (htag t).trans (hrevises.otherTags t ht hother)
  otherDevices e he := (hdevice e he).trans (hrevises.otherDevices e he)
  otherAliases which hwhich := (hget which hwhich).trans (hrevises.otherAliases which hwhich)
  look := ⟨(hunseen.deviceName d).trans hrevises.look.1,
    (hunseen.devicePriority d).trans hrevises.look.2.1,
    (hunseen.deviceCache d).trans hrevises.look.2.2⟩
  devices c := (hunseen.cacheDevices c).trans (hrevises.devices c)

theorem device_linkAlias (hd : store.devices.Holds d) (name : String) (link : Option TagId) :
    ∃ aliases, (store.linkAlias d name link).device d = { store.device d with aliases } := by
  unfold linkAlias
  split
  · exact ⟨_, rfl⟩
  · split
    · exact ⟨_, rfl⟩
    · exact ⟨_, device_updateDevice_self store hd _⟩

theorem device_linkAlias_of_ne (he : e ≠ d) (name : String) (link : Option TagId) :
    (store.linkAlias d name link).device e = store.device e := by
  unfold linkAlias
  split
  · rfl
  · split
    · rfl
    · exact device_updateDevice_of_ne store he _

theorem device_markDeviceChanged (d e : DeviceId) :
    (store.markDeviceChanged d).device e = store.device e := by
  unfold markDeviceChanged
  split <;> rfl

theorem tag_markDeviceChanged (d : DeviceId) (t : TagId) :
    (store.markDeviceChanged d).tag t = store.tag t := by
  unfold markDeviceChanged
  split <;> rfl

theorem head_markDeviceChanged (d : DeviceId) (h : HeadId) :
    (store.markDeviceChanged d).head h = store.head h := by
  unfold markDeviceChanged
  split <;> rfl

/-- In the end the access of the name is set and the cache is marked. -/
theorem Revises.finish (hrevises : Revises d name revision before middle)
    (hd : middle.devices.Holds d) (link : Option TagId) :
    Revises d name revision before ((middle.linkAlias d name link).markDeviceChanged d) := by
  refine hrevises.then_unseen (unseen_finish d name link) (fun t => ?_) (fun e he => ?_)
    fun which hwhich => ?_
  · rw [tag_markDeviceChanged, tag_linkAlias]
  · rw [device_markDeviceChanged, device_linkAlias_of_ne he]
  · rw [device_markDeviceChanged, get_linkAlias hd, if_neg fun hall => hwhich hall.2.1]

theorem Revises.markMultiple (hrevises : Revises d name revision before middle)
    (hd : middle.devices.Holds d) :
    Revises d name revision before (middle.markMultiple d) := by
  refine hrevises.then_unseen (unseen_updateDevice d fun _ => ⟨rfl, rfl, rfl, rfl⟩)
    (fun _ => rfl) (fun e he => ?_) fun which _ => ?_
  · exact device_updateDevice_of_ne middle he _
  · rw [Store.markMultiple, device_updateDevice_self middle hd]

/-! ## What other devices and other accesses show -/

/-- Nothing of a device has changed. -/
structure SameDevice (before after : Store) (d : DeviceId) : Prop where
  record : after.device d = before.device d
  tags : ∀ t ∈ (before.device d).tags, after.tag t = before.tag t
  access : ∀ which, after.aliasValue d which = before.aliasValue d which

/-- Where the record of a device stays and its tags do, its direct accesses read as before. -/
theorem sameDevice_of_record (hbefore : before.Sound) (hafter : after.Sound)
    (hrecord : after.device d = before.device d)
    (htags : ∀ t ∈ (before.device d).tags, after.tag t = before.tag t) :
    SameDevice before after d where
  record := hrecord
  tags := htags
  access which := by
    refine aliasValue_of_same (by rw [hrecord]) (fun t _ => ?_) fun t _ howner => ?_
    · rw [← hafter.linked.listed, hrecord, hbefore.linked.listed]
    · rw [htags t ((hbefore.linked.listed d t).mpr howner)]

theorem SameDevice.refl (store : Store) (d : DeviceId) : SameDevice store store d :=
  ⟨rfl, fun _ _ => rfl, fun _ => rfl⟩

theorem SameDevice.trans (hfirst : SameDevice before middle d)
    (hsecond : SameDevice middle after d) : SameDevice before after d where
  record := hsecond.record.trans hfirst.record
  tags t ht := by
    have hmiddle : t ∈ (middle.device d).tags := by rwa [hfirst.record]
    rw [hsecond.tags t hmiddle, hfirst.tags t ht]
  access which := (hsecond.access which).trans (hfirst.access which)

theorem SameDevice.pairs (hsame : SameDevice before after d) : after.pairs d = before.pairs d := by
  refine pairs_congr (by rw [hsame.record]) fun t ht => ?_
  rw [hsame.tags t ht]
  exact ⟨rfl, rfl⟩

theorem Revises.sameDevice (hrevises : Revises d name revision before after)
    (hbefore : before.Sound) (hafter : after.Sound) (he : e ≠ d) : SameDevice before after e := by
  refine sameDevice_of_record hbefore hafter (hrevises.otherDevices e he) fun t ht => ?_
  have howner := (hbefore.linked.listed e t).mp ht
  refine hrevises.otherTags t (holds_tag_of_device howner) fun hown => ?_
  rw [howner] at hown
  exact absurd (Option.some.inj hown) he

/-- What is behind an access of another name is a tag of another name. -/
theorem Revises.access (hrevises : Revises d name revision before after)
    (haliased : before.Aliased) {which : Alias} (hwhich : which.name ≠ name) :
    after.aliasValue d which = before.aliasValue d which := by
  have hkept : ∀ t, (before.device d).aliases.get which = some t →
      after.tag t = before.tag t := by
    intro t hbehind
    refine hrevises.otherTags t (haliased.holds hbehind) fun _ => ?_
    rw [haliased.behind d which t hbehind]
    exact hwhich
  refine aliasValue_of_same (hrevises.otherAliases which hwhich) (fun t hbehind => ?_)
    fun t hbehind _ => ?_
  · rw [hkept t hbehind]
  · rw [hkept t hbehind]

/-! ## The four revisions -/

theorem revises_keeping (store : Store) (hsound : store.Sound) (d : DeviceId) (name : String) :
    Revises d name .keeping store store where
  pairs := rfl
  tags := rfl
  entries _ _ := rfl
  otherEntries _ _ _ := rfl
  survivors t ht _ := ⟨(hsound.linked.listed d t).mp ht, rfl⟩
  otherTags _ _ _ := rfl
  otherDevices _ _ := rfl
  otherAliases _ _ := rfl
  look := ⟨rfl, rfl, rfl⟩
  devices _ := rfl

/-- The first tag of the name gets another value. -/
theorem Sound.revises_setTagValue (hsound : store.Sound) {first : TagId}
    (hfirst : store.firstTag? d name = some first) (text : String) :
    Revises d name (.rewriting text) store (store.setTagValue first text) := by
  have howner := hsound.owner_of_firstTag? hfirst
  have hheld := holds_tag_of_device howner
  have hindex : SameIndex store (store.setTagValue first text) := sameIndex_setTagValue first text
  exact
    { pairs := by rw [hsound.pairs_setTagValue hfirst, if_pos rfl]; rfl
      tags := rfl
      entries := fun c _ => hindex.toSameLinks.entries c name
      otherEntries := fun c other _ => hindex.toSameLinks.entries c other
      survivors := fun t ht _ => ⟨(hindex.tagDevice t).trans ((hsound.linked.listed d t).mp ht),
        hindex.tagHead t⟩
      otherTags := by
        intro t _ hother
        refine tag_updateTag_of_ne store ?_ _
        rintro rfl
        exact hother howner (mem_of_firstTag? hfirst).2
      otherDevices := fun _ _ => rfl
      otherAliases := fun _ _ => rfl
      look := ⟨rfl, rfl, rfl⟩
      devices := fun _ => rfl }

/-- A new tag comes last on its device and in the head of its name. -/
theorem Sound.revises_appendTag (hsound : store.Sound) (hd : store.devices.Holds d)
    (name text : String) :
    Revises d name (.adding text) store (store.appendTag d name text) where
  pairs := by rw [hsound.pairs_appendTag hd, if_pos rfl]; rfl
  tags := by rw [device_appendTag store hd, if_pos rfl]; rfl
  entries c hcache := by rw [hsound.entries_appendTag hd, if_pos ⟨hcache, rfl⟩]; rfl
  otherEntries c other hother := by
    rw [hsound.entries_appendTag hd, if_neg fun hboth => hother hboth.1 hboth.2]
  survivors t ht _ := by
    rw [tag_appendTag, if_neg (hsound.linked.mem_device_ne_next ht)]
    exact ⟨(hsound.linked.listed d t).mp ht, rfl⟩
  otherTags t ht _ := by rw [tag_appendTag, if_neg (Table.ne_next_of_holds ht)]
  otherDevices e he := by rw [device_appendTag store hd, if_neg he]
  otherAliases which _ := by rw [device_appendTag store hd, if_pos rfl]
  look := by rw [device_appendTag store hd, if_pos rfl]; exact ⟨rfl, rfl, rfl⟩
  devices := hsound.devices_appendTag d name text

section Clearing

variable (hsound : store.Sound) (d : DeviceId) (name : String)

include hsound

theorem Sound.mem_tagsNamed {t : TagId} :
    t ∈ store.tagsNamed d name ↔ (store.tag t).device = some d ∧ (store.tag t).name = name := by
  rw [tagsNamed, List.mem_filter, hsound.linked.listed, decide_eq_true_iff]

theorem Sound.device_cleared (e : DeviceId) :
    ((store.unlinkTags (store.tagsNamed d name)).dropNamed d name).device e =
      { store.device e with
        tags := (store.device e).tags.filter (· ∉ store.tagsNamed d name) } := by
  obtain ⟨left, hdevice, -⟩ := device_unlinkTags (store.tagsNamed d name) store e
  rw [hsound.linked.device_dropNamed, ← hsound.linked.tags_device_unlinkTags, hdevice]

/-- Of a head of the index those tags are unlinked that belong to the device and have the name. -/
theorem Sound.entries_cleared (c : CacheId) (other : String) :
    ((store.unlinkTags (store.tagsNamed d name)).dropNamed d name).entries c other =
      (store.entries c other).filter (· ∉ store.tagsNamed d name) := by
  rw [(hsound.linked.sameIndex_dropNamed d name).toSameLinks.entries]
  have hhead : (store.unlinkTags (store.tagsNamed d name)).headOf? c other =
      store.headOf? c other := by
    rw [headOf?, cache_unlinkTags]
    rfl
  unfold entries
  rw [hhead]
  cases store.headOf? c other with
  | none => rfl
  | some h => exact hsound.linked.tags_head_unlinkTags _ h

omit hsound in
theorem tag_cleared (t : TagId) :
    ((store.unlinkTags (store.tagsNamed d name)).dropNamed d name).tag t =
      if t ∈ store.tagsNamed d name then { store.tag t with device := none, head := none }
      else store.tag t :=
  tag_unlinkTags _ store t

omit hsound in
theorem filter_tagsNamed :
    (store.device d).tags.filter (· ∉ store.tagsNamed d name) =
      (store.device d).tags.filter fun t => (store.tag t).name ≠ name := by
  refine List.filter_congr fun t ht => ?_
  simp [tagsNamed, ht]

/-- The tags of the name leave the device and the head. -/
theorem Sound.revises_dropNamed :
    Revises d name .clearing store
      ((store.unlinkTags (store.tagsNamed d name)).dropNamed d name) := by
  have hmem := fun t => hsound.mem_tagsNamed d name (t := t)
  constructor
  case pairs =>
    rw [Store.pairs, hsound.device_cleared, Revision.pairs, Store.pairs, List.filter_map]
    change ((store.device d).tags.filter _).map _ = _
    rw [List.map_congr_left fun t ht => ?_, filter_tagsNamed]
    · rfl
    rw [tag_cleared, if_neg (of_decide_eq_true (List.mem_filter.mp ht).2)]
  case tags =>
    rw [hsound.device_cleared]
    refine (filter_tagsNamed d name).trans (List.filter_congr fun t _ => ?_)
    exact decide_not
  case entries =>
    intro c _
    rw [hsound.entries_cleared]
    refine List.filter_congr fun t ht => ?_
    rw [← decide_not, decide_eq_decide, hmem]
    have hname := (hsound.of_mem_entries ht).1
    exact not_congr (and_iff_left hname)
  case otherEntries =>
    intro c other hother
    rw [hsound.entries_cleared, List.filter_eq_self]
    intro t ht
    refine decide_eq_true fun hnamed => ?_
    obtain ⟨howner, hname⟩ := (hmem t).mp hnamed
    obtain ⟨hentry, e, hdevice, hcache⟩ := hsound.of_mem_entries ht
    rw [howner] at hdevice
    cases hdevice
    exact hother hcache (hentry.symm.trans hname)
  case survivors =>
    intro t ht hstay
    rw [hsound.device_cleared] at hstay
    have hout := of_decide_eq_true (List.mem_filter.mp hstay).2
    rw [tag_cleared, if_neg hout]
    exact ⟨(hsound.linked.listed d t).mp ht, rfl⟩
  case otherTags =>
    intro t _ hother
    rw [tag_cleared, if_neg]
    rw [hmem]
    exact fun hboth => hother hboth.1 hboth.2
  case otherDevices =>
    intro e he
    have hnamed : store.tagsNamed d name ⊆ (store.device d).tags := List.filter_subset_self _
    rw [hsound.device_cleared, ← hsound.linked.tags_device_unlinkTags,
      hsound.linked.tags_device_unlinkTags_of_ne he hnamed]
  case otherAliases =>
    intro which _
    rw [hsound.device_cleared]
  case look =>
    rw [hsound.device_cleared]
    exact ⟨rfl, rfl, rfl⟩
  case devices =>
    intro c
    rw [dropNamed, cache_updateDevice, cache_unlinkTags]

end Clearing

theorem Prepares.revises {link : Option TagId}
    (hprepares : store.Prepares d name revision middle link) (hsound : store.Sound)
    (hd : store.devices.Holds d) : Revises d name revision store middle := by
  cases hprepares with
  | clearing => exact hsound.revises_dropNamed d name
  | rewriting hfirst => exact hsound.revises_setTagValue hfirst _
  | adding => exact hsound.revises_appendTag hd name _
  | doubling =>
    exact (hsound.revises_appendTag hd name _).markMultiple
      ((sameAliases_appendTag d name _).lasting.holds_device hd)

theorem Sound.revises_setTag (hsound : store.Sound) (hd : store.devices.Holds d) (name : String)
    (value : Option String) (replace : Bool) :
    Revises d name (.of (store.pairs d) name value replace) store
      (store.setTag d name value replace) := by
  obtain ⟨hkeeping, hset⟩ | ⟨revision, middle, link, hrevision, hprepares, hset⟩ :=
    store.setTag_cases d name value replace
  · rw [hkeeping, hset]
    exact revises_keeping store hsound d name
  · rw [hrevision, hset]
    exact (hprepares.revises hsound hd).finish (hprepares.sameAliases.lasting.holds_device hd) link

/-! ## The access of the name -/

/-- After an access was set it reads the value of the tag that it points to. -/
theorem aliasValue_finish {link : Option TagId} {which : Alias} {t : TagId}
    (hget : ((middle.linkAlias d name link).device d).aliases.get which = some t)
    (howner : (middle.tag t).device = some d) :
    ((middle.linkAlias d name link).markDeviceChanged d).aliasValue d which =
      some (middle.tag t).value := by
  unfold aliasValue
  rw [device_markDeviceChanged, hget]
  dsimp only
  rw [tag_markDeviceChanged, tag_linkAlias, if_pos howner]

section Access

variable {which : Alias} (hwhich : which.name = name)

include hwhich

/-- A new tag comes behind the access of its name, unless that is a type and there is one already. -/
theorem Sound.aliasValue_appended (haliased : store.Aliased) {text : String}
    (hheld : after.devices.Holds d)
    (haliases : (after.device d).aliases = (store.device d).aliases)
    (htag : ∀ t, after.tag t = (store.appendTag d name text).tag t) :
    ((after.linkAlias d name (some store.tags.next)).markDeviceChanged d).aliasValue d which =
      (Revision.adding text).access which (store.aliasValue d which) := by
  have hsame := haliased.aliasValue_appended haliases htag
  have hnew := htag store.tags.next
  rw [tag_appendTag, if_pos rfl] at hnew
  rw [Revision.access]
  split
  · next hset =>
    obtain ⟨rfl, hset⟩ := hset
    rw [← hsame .type]
    refine aliasValue_of_same ?_ (fun t _ => ?_) fun t _ _ => ?_
    · rw [device_markDeviceChanged, get_linkAlias hheld,
        if_neg fun hall => hall.2.2 ⟨rfl, rfl, by rwa [hsame .type]⟩]
    · rw [tag_markDeviceChanged, tag_linkAlias]
    · rw [tag_markDeviceChanged, tag_linkAlias]
  · next hunset =>
    have hmissing : ¬ (which = .type ∧ (some store.tags.next).isSome ∧
        (after.aliasValue d .type).isSome) := by
      rintro ⟨rfl, -, hset⟩
      exact hunset ⟨rfl, by rwa [hsame .type] at hset⟩
    refine (aliasValue_finish ?_ (by rw [hnew])).trans (by rw [hnew])
    rw [get_linkAlias hheld, if_pos ⟨rfl, hwhich, hmissing⟩]

/-- What the access of the name reads after a tag was set. -/
theorem Sound.aliasValue_setTag (hsound : store.Sound) (haliased : store.Aliased)
    (hd : store.devices.Holds d) (value : Option String) (replace : Bool) :
    (store.setTag d name value replace).aliasValue d which =
      (Revision.of (store.pairs d) name value replace).access which
        (store.aliasValue d which) := by
  obtain ⟨hkeeping, hset⟩ | ⟨revision, middle, link, hrevision, hprepares, hset⟩ :=
    store.setTag_cases d name value replace
  · rw [hkeeping, hset]
    rfl
  · have hsame := hprepares.sameAliases
    have hheld := hsame.lasting.holds_device hd
    rw [hrevision, hset]
    cases hprepares with
    | clearing =>
      rw [Store.aliasValue, device_markDeviceChanged, get_linkAlias hheld,
        if_pos ⟨rfl, hwhich, by simp⟩]
      rfl
    | @rewriting first text hfirst =>
      have howner := hsound.owner_of_firstTag? hfirst
      have hwritten := tag_updateTag_self store (holds_tag_of_device howner)
        ({ · with value := text })
      refine (aliasValue_finish (t := first) ?_ ?_).trans ?_
      · rw [get_linkAlias hheld]
        split
        · rfl
        · next hunset =>
          obtain ⟨rfl, -⟩ := not_not.mp fun hnot => hunset ⟨rfl, hwhich, hnot⟩
          exact haliased.first d first (hwhich ▸ hfirst)
      · rw [setTagValue, hwritten, howner]
      · rw [setTagValue, hwritten]
        rfl
    | adding =>
      exact Sound.aliasValue_appended hwhich haliased hheld (hsame.aliases d) fun _ => rfl
    | doubling =>
      exact Sound.aliasValue_appended hwhich haliased hheld (hsame.aliases d) fun _ => rfl

end Access

/-! ## The tags of the name -/

/-- What becomes of each tag when a tag is set: the first one of the name gets another value, or all
of them lose their device and their head, or there is a new one, or all tags are as they were. -/
theorem Sound.tag_setTag (hsound : store.Sound) (name : String) (value : Option String)
    (replace : Bool) (t : TagId) :
    (store.setTag d name value replace).tag t =
      match Revision.of (store.pairs d) name value replace with
      | .clearing =>
        if t ∈ store.tagsNamed d name then { store.tag t with device := none, head := none }
        else store.tag t
      | .keeping => store.tag t
      | .rewriting text =>
        if store.firstTag? d name = some t then { store.tag t with value := text }
        else store.tag t
      | .adding text =>
        if t = store.tags.next then
          ⟨name, text, some d, (store.device d).cache.map fun c => store.headFor c name⟩
        else store.tag t := by
  obtain ⟨hkeeping, hset⟩ | ⟨revision, middle, link, hrevision, hprepares, hset⟩ :=
    store.setTag_cases d name value replace
  · rw [hkeeping, hset]
  · rw [hrevision, hset, tag_markDeviceChanged, tag_linkAlias]
    cases hprepares with
    | clearing => exact tag_cleared d name t
    | rewriting hfirst =>
      have hheld := holds_tag_of_device (hsound.owner_of_firstTag? hfirst)
      rw [setTagValue, tag_updateTag store (.inl hheld)]
      simp only [hfirst, Option.some.injEq, eq_comm]
    | adding => rw [tag_appendTag]
    | doubling =>
      rw [markMultiple, tag_updateDevice, tag_appendTag]

end Store

end DeviceTags
