import Mathlib.Data.List.Find
import DeviceTags.Proofs.Index.Rollback

/-!
# Direct accesses

A direct access points to a tag of its name, and still points there when the device has lost that
tag. The type of a device is the first of its types; which of several labels is the label depends on
the order in which they were set. Every operation keeps this.
-/

namespace DeviceTags

theorem Alias.ofName?_name (which : Alias) : Alias.ofName? which.name = some which := by
  cases which <;> decide

theorem Alias.ofName?_eq_some {name : String} {which : Alias} :
    Alias.ofName? name = some which ↔ which.name = name := by
  constructor
  · intro hfound
    have hname := List.find?_some hfound
    exact of_decide_eq_true hname
  · rintro rfl
    exact which.ofName?_name

namespace Store

/-- What is behind a direct access has its name, and the type is the first tag of its name. -/
structure Aliased (store : Store) : Prop where
  behind : ∀ d which t, (store.device d).aliases.get which = some t →
    (store.tag t).name = which.name
  first : ∀ d t, store.firstTag? d Alias.type.name = some t →
    (store.device d).aliases.get .type = some t

/-- Every direct access points to where it pointed, and no tag has got another name. -/
structure SameAliases (before after : Store) : Prop where
  aliases : ∀ d, (after.device d).aliases = (before.device d).aliases
  tagName : ∀ t, before.tags.Holds t → (after.tag t).name = (before.tag t).name
  lasting : Extends before after

variable {store before middle after : Store} {d e : DeviceId} {t : TagId} {name : String}
  {which : Alias}

/-! ## What is read off -/

/-- A tag with a name is there, since the record that stands for a missing one has none. -/
theorem holds_tag_of_name (hname : (store.tag t).name ≠ "") : store.tags.Holds t := by
  by_contra hmissing
  rw [tag_of_not_holds hmissing] at hname
  exact hname rfl

theorem Aliased.holds (haliased : store.Aliased)
    (hbehind : (store.device d).aliases.get which = some t) : store.tags.Holds t := by
  refine holds_tag_of_name ?_
  rw [haliased.behind d which t hbehind]
  cases which <;> decide

theorem mem_of_firstTag? (hfirst : store.firstTag? d name = some t) :
    t ∈ (store.device d).tags ∧ (store.tag t).name = name := by
  have hname := List.find?_some hfirst
  exact ⟨List.mem_of_find?_eq_some hfirst, of_decide_eq_true hname⟩

theorem Sound.owner_of_firstTag? (hsound : store.Sound)
    (hfirst : store.firstTag? d name = some t) : (store.tag t).device = some d :=
  (hsound.linked.listed d t).mp (mem_of_firstTag? hfirst).1

/-- The type of a device is the value of its first type. -/
theorem Aliased.aliasValue_type (haliased : store.Aliased) (hsound : store.Sound) (d : DeviceId) :
    store.aliasValue d .type =
      (store.firstTag? d Alias.type.name).map fun t => (store.tag t).value := by
  unfold aliasValue
  cases hfirst : store.firstTag? d Alias.type.name with
  | some t =>
    rw [haliased.first d t hfirst]
    exact if_pos (hsound.owner_of_firstTag? hfirst)
  | none =>
    cases hbehind : (store.device d).aliases.get .type with
    | none => rfl
    | some t =>
      refine if_neg fun howner => ?_
      have hlisted := (hsound.linked.listed d t).mpr howner
      have hother := List.find?_eq_none.mp hfirst t hlisted
      exact hother (decide_eq_true (haliased.behind d .type t hbehind))

/-! ## Changes that leave the direct accesses alone -/

theorem SameAliases.refl (store : Store) : SameAliases store store :=
  ⟨fun _ => rfl, fun _ _ => rfl, .refl store⟩

theorem SameAliases.trans (hfirst : SameAliases before middle)
    (hsecond : SameAliases middle after) : SameAliases before after where
  aliases d := (hsecond.aliases d).trans (hfirst.aliases d)
  tagName t ht :=
    (hsecond.tagName t (hfirst.lasting.holds_tag ht)).trans (hfirst.tagName t ht)
  lasting := hfirst.lasting.trans hsecond.lasting

theorem sameAliases_updateTag {change : Tag → Tag} (t : TagId)
    (hkeep : ∀ record, (change record).name = record.name) :
    SameAliases store (store.updateTag t change) :=
  ⟨fun _ => rfl, fun u _ => field_updateTag store Tag.name hkeep t u, extends_updateTag store t _⟩

theorem sameAliases_updateDevice {change : Device → Device} (d : DeviceId)
    (hkeep : ∀ record, (change record).aliases = record.aliases) :
    SameAliases store (store.updateDevice d change) :=
  ⟨Table.field_update Device.aliases hkeep store.devices d, fun _ _ => rfl,
    extends_updateDevice store d _⟩

theorem sameAliases_updateHead (h : HeadId) (change : Head → Head) :
    SameAliases store (store.updateHead h change) :=
  ⟨fun _ => rfl, fun _ _ => rfl, extends_updateHead store h change⟩

theorem sameAliases_updateCache (c : CacheId) (change : Cache → Cache) :
    SameAliases store (store.updateCache c change) :=
  ⟨fun _ => rfl, fun _ _ => rfl, extends_updateCache store c change⟩

theorem sameAliases_setPriority (d : DeviceId) (priority : Priority) :
    SameAliases store (store.setPriority d priority) :=
  sameAliases_updateDevice d fun _ => rfl

theorem sameAliases_markFound (d : DeviceId) : SameAliases store (store.markFound d) :=
  sameAliases_updateDevice d fun _ => rfl

theorem sameAliases_markGone (d : DeviceId) : SameAliases store (store.markGone d) :=
  sameAliases_updateDevice d fun _ => rfl

theorem sameAliases_markMultiple (d : DeviceId) : SameAliases store (store.markMultiple d) :=
  sameAliases_updateDevice d fun _ => rfl

theorem sameAliases_markChanged (c : CacheId) : SameAliases store (store.markChanged c) :=
  sameAliases_updateCache c _

theorem sameAliases_clearChanged (c : CacheId) : SameAliases store (store.clearChanged c) :=
  sameAliases_updateCache c _

theorem sameAliases_markProbed (c : CacheId) : SameAliases store (store.markProbed c) :=
  sameAliases_updateCache c _

theorem sameAliases_addDevice (name : String) (priority : Priority) (flags : DeviceFlags) :
    SameAliases store { store with devices := store.devices.add { name, priority, flags } } where
  aliases d := by
    rw [device, Table.get_add]
    split
    · next hd =>
      rw [hd, device_next]
      rfl
    · rfl
  tagName _ _ := rfl
  lasting := (sameIndex_addDevice name priority flags).lasting

theorem sameAliases_makeTag (d : DeviceId) (name value : String) :
    SameAliases store (store.makeTag d name value) := by
  have hadded : SameAliases store
      { store with tags := store.tags.add ⟨name, value, some d, none⟩ } :=
    ⟨fun _ => rfl, fun _ ht => by rw [tag_add_of_holds store ht],
      ⟨by simp, Nat.le_refl _, Nat.le_refl _, Nat.le_refl _⟩⟩
  exact hadded.trans (sameAliases_updateDevice d fun _ => rfl)

theorem sameAliases_linkTag (c : CacheId) (t : TagId) : SameAliases store (store.linkTag c t) := by
  have hensured : SameAliases store (store.ensureHead c (store.tag t).name) :=
    ⟨fun _ => by rw [device_ensureHead], fun _ _ => by rw [tag_ensureHead],
      extends_ensureHead store c _⟩
  have hpointed : SameAliases store (store.pointToHead c t) :=
    hensured.trans (sameAliases_updateTag t fun _ => rfl)
  exact hpointed.trans (sameAliases_updateHead _ _)

theorem sameAliases_appendTag (d : DeviceId) (name value : String) :
    SameAliases store (store.appendTag d name value) := by
  unfold appendTag
  split
  · exact sameAliases_makeTag d name value
  · exact (sameAliases_makeTag d name value).trans (sameAliases_linkTag _ _)

theorem sameAliases_linkMissing (c : CacheId) (ts : List TagId) (store : Store) :
    SameAliases store (linkMissing c ts store) := by
  induction ts generalizing store with
  | nil => exact .refl store
  | cons t rest ih =>
    refine SameAliases.trans ?_ (ih _)
    split
    · exact .refl store
    · exact sameAliases_linkTag c t

theorem sameAliases_connect (c : CacheId) (d : DeviceId) :
    SameAliases store (store.connect c d) := by
  have hlinked : SameAliases store (linkMissing c (store.device d).tags store) :=
    sameAliases_linkMissing c _ store
  exact hlinked.trans (sameAliases_updateDevice d fun _ => rfl)

theorem sameAliases_attach (c : CacheId) (d : DeviceId) :
    SameAliases store (store.attach c d) :=
  (sameAliases_connect c d).trans
    ((sameAliases_updateCache c _).trans (sameAliases_markChanged c))

theorem sameAliases_unlinkTags (ts : List TagId) : SameAliases store (store.unlinkTags ts) where
  aliases d := by
    obtain ⟨left, hdevice, -⟩ := device_unlinkTags ts store d
    rw [hdevice]
  tagName t _ := by
    rw [tag_unlinkTags]
    split <;> rfl
  lasting := extends_unlinkTags ts store

/-- No way to set a tag moves an access before the access of the name is set. -/
theorem Prepares.sameAliases {d : DeviceId} {name : String} {revision : Revision} {middle : Store}
    {link : Option TagId} (hprepares : store.Prepares d name revision middle link) :
    SameAliases store middle := by
  cases hprepares with
  | clearing => exact (sameAliases_unlinkTags _).trans (sameAliases_updateDevice d fun _ => rfl)
  | rewriting => exact sameAliases_updateTag _ fun _ => rfl
  | adding => exact sameAliases_appendTag d name _
  | doubling => exact (sameAliases_appendTag d name _).trans (sameAliases_markMultiple d)

theorem sameAliases_detach (c : CacheId) (d : DeviceId) :
    SameAliases store (store.detach c d) := by
  have hunlinked : SameAliases store (store.unlinkTags (store.device d).tags) :=
    sameAliases_unlinkTags _
  have hplaced : SameAliases store
      ((store.unlinkTags (store.device d).tags).setDeviceCache d none) :=
    hunlinked.trans (sameAliases_updateDevice d fun _ => rfl)
  exact hplaced.trans ((sameAliases_updateCache c _).trans (sameAliases_markChanged c))

theorem Restored.sameAliases (hrestored : Restored before after) : SameAliases before after :=
  ⟨fun d => by rw [hrestored.device], fun t ht => by rw [hrestored.tag t ht], hrestored.lasting⟩

/-! ## What keeps the invariant -/

/-- The tags of a device that were there are found as they were found. -/
theorem Sound.firstTag?_of_same (hsound : before.Sound) (hsame : SameAliases before after)
    (htags : (after.device d).tags = (before.device d).tags) (name : String) :
    after.firstTag? d name = before.firstTag? d name := by
  rw [firstTag?, firstTag?, htags]
  refine List.find?_congr fun t ht => ?_
  rw [hsame.tagName t (holds_tag_of_device ((hsound.linked.listed d t).mp ht))]

theorem Aliased.behind_of_same (haliased : before.Aliased) (hsame : SameAliases before after)
    (hbehind : (after.device d).aliases.get which = some t) :
    (after.tag t).name = which.name := by
  rw [hsame.aliases] at hbehind
  rw [hsame.tagName t (haliased.holds hbehind), haliased.behind d which t hbehind]

theorem Aliased.of_same (haliased : before.Aliased) (hsame : SameAliases before after)
    (hfirst : ∀ d t, after.firstTag? d Alias.type.name = some t →
      before.firstTag? d Alias.type.name = some t) : after.Aliased where
  behind _ _ _ := haliased.behind_of_same hsame
  first d t hfound := by
    rw [hsame.aliases]
    exact haliased.first d t (hfirst d t hfound)

theorem Aliased.of_sameTags (haliased : before.Aliased) (hsound : before.Sound)
    (hsame : SameAliases before after)
    (htags : ∀ d, (after.device d).tags = (before.device d).tags) : after.Aliased := by
  refine haliased.of_same hsame fun d t hfound => ?_
  rwa [hsound.firstTag?_of_same hsame (htags d)] at hfound

theorem Aliased.connect (haliased : store.Aliased) (hsound : store.Sound)
    (hd : store.devices.Holds d) (c : CacheId) : (store.connect c d).Aliased := by
  refine haliased.of_sameTags hsound (sameAliases_connect c d) fun e => ?_
  rw [device_connect hd]
  split <;> rfl

theorem Aliased.attach (haliased : store.Aliased) (hsound : store.Sound)
    (hd : store.devices.Holds d) (c : CacheId) : (store.attach c d).Aliased := by
  refine haliased.of_sameTags hsound (sameAliases_attach c d) fun e => ?_
  rw [device_attach hd]
  split <;> rfl

theorem Aliased.detach (haliased : store.Aliased) (hsound : store.Sound) (c : CacheId)
    (d : DeviceId) : (store.detach c d).Aliased := by
  have htags : ∀ e, ((store.detach c d).device e).tags =
      ((store.unlinkTags (store.device d).tags).device e).tags :=
    (sameLinks_detach store c d).deviceTags
  refine haliased.of_same (sameAliases_detach c d) fun e t hfound => ?_
  by_cases he : e = d
  · rw [he] at hfound
    have hlisted := (mem_of_firstTag? hfound).1
    rw [htags, hsound.linked.mem_tags_unlinkTags] at hlisted
    exact absurd hlisted.1 hlisted.2
  · have hkept := hsound.linked.tags_device_unlinkTags_of_ne he (List.Subset.refl _)
    rwa [hsound.firstTag?_of_same (sameAliases_detach c d) ((htags e).trans hkept)] at hfound

/-! ## A direct access that is set -/

theorem tag_linkAlias (d : DeviceId) (name : String) (link : Option TagId) (u : TagId) :
    (store.linkAlias d name link).tag u = store.tag u := by
  unfold linkAlias
  split
  · rfl
  · split <;> rfl

theorem head_linkAlias (d : DeviceId) (name : String) (link : Option TagId) (h : HeadId) :
    (store.linkAlias d name link).head h = store.head h := by
  unfold linkAlias
  split
  · rfl
  · split <;> rfl

theorem cache_linkAlias (d : DeviceId) (name : String) (link : Option TagId) (k : CacheId) :
    (store.linkAlias d name link).cache k = store.cache k := by
  unfold linkAlias
  split
  · rfl
  · split <;> rfl

/-- Setting an access reaches the access of its name, unless a device keeps the type that it has. -/
theorem get_linkAlias (hd : store.devices.Holds d) (name : String) (link : Option TagId)
    (e : DeviceId) (which : Alias) :
    ((store.linkAlias d name link).device e).aliases.get which =
      if e = d ∧ which.name = name ∧
          ¬ (which = .type ∧ link.isSome ∧ (store.aliasValue d .type).isSome) then link
      else (store.device e).aliases.get which := by
  unfold linkAlias
  split
  · next hnone =>
    rw [if_neg]
    rintro ⟨-, rfl, -⟩
    rw [which.ofName?_name] at hnone
    cases hnone
  · next found hfound =>
    have hsame : which.name = name ↔ which = found := by
      rw [← Alias.ofName?_eq_some, hfound, Option.some.injEq, eq_comm]
    split
    · next hkept =>
      rw [if_neg]
      rintro ⟨-, hname, hnot⟩
      rw [hsame.mp hname] at hnot
      exact hnot hkept
    · next hset =>
      rw [device_updateDevice _ (.inl hd)]
      by_cases he : e = d
      · rw [if_pos he, Aliases.get_set]
        by_cases hwhich : which = found
        · rw [if_pos hwhich, if_pos ⟨he, hsame.mpr hwhich, hwhich ▸ hset⟩]
        · rw [if_neg hwhich, if_neg fun hall => hwhich (hsame.mp hall.2.1)]
      · rw [if_neg he, if_neg fun hall => he hall.1]

/-- Setting an access to a tag of its name, where the type is set only to the first type. -/
theorem aliased_linkAlias {link : Option TagId} (hd : store.devices.Holds d)
    (hbehind : ∀ e which t, (store.device e).aliases.get which = some t →
      (store.tag t).name = which.name)
    (hnamed : ∀ t ∈ link, (store.tag t).name = name)
    (hother : ∀ e t, (e = d → name ≠ Alias.type.name) →
      store.firstTag? e Alias.type.name = some t → (store.device e).aliases.get .type = some t)
    (hfirst : ∀ t, name = Alias.type.name → store.firstTag? d name = some t →
      if link.isSome ∧ (store.aliasValue d .type).isSome then
        (store.device d).aliases.get .type = some t
      else link = some t) : (store.linkAlias d name link).Aliased where
  behind e which t hget := by
    rw [tag_linkAlias]
    rw [get_linkAlias hd] at hget
    split at hget
    · next hset => rw [hnamed t hget, hset.2.1]
    · exact hbehind e which t hget
  first e t hfound := by
    have hsame : (store.linkAlias d name link).firstTag? e Alias.type.name =
        store.firstTag? e Alias.type.name := by
      simp only [firstTag?, (sameIndex_linkAlias d name link).deviceTags, tag_linkAlias]
    rw [hsame] at hfound
    rw [get_linkAlias hd]
    by_cases hself : e = d ∧ Alias.type.name = name
    · obtain ⟨rfl, rfl⟩ := hself
      have hlinked := hfirst t rfl hfound
      split at hlinked
      · next hkept => rwa [if_neg fun hall => hall.2.2 ⟨rfl, hkept⟩]
      · next hset => rwa [if_pos ⟨rfl, rfl, fun hall => hset hall.2⟩]
    · rw [if_neg fun hall => hself ⟨hall.1, hall.2.1⟩]
      exact hother e t (fun he hname => hself ⟨he, hname.symm⟩) hfound

theorem Aliased.markDeviceChanged (haliased : store.Aliased) (d : DeviceId) :
    (store.markDeviceChanged d).Aliased := by
  unfold Store.markDeviceChanged
  split
  · exact haliased
  · exact ⟨haliased.behind, haliased.first⟩

/-! ## A tag that is set -/

/-- A direct access reads the same if it points to the same tag, which the device owns as before and
with the same value. -/
theorem aliasValue_of_same
    (hget : (after.device d).aliases.get which = (before.device d).aliases.get which)
    (howner : ∀ t, (before.device d).aliases.get which = some t →
      ((after.tag t).device = some d ↔ (before.tag t).device = some d))
    (hvalue : ∀ t, (before.device d).aliases.get which = some t → (before.tag t).device = some d →
      (after.tag t).value = (before.tag t).value) :
    after.aliasValue d which = before.aliasValue d which := by
  unfold aliasValue
  rw [hget]
  cases hbehind : (before.device d).aliases.get which with
  | none => rfl
  | some t =>
    dsimp only
    by_cases howned : (before.tag t).device = some d
    · rw [if_pos howned, if_pos ((howner t hbehind).mpr howned), hvalue t hbehind howned]
    · rw [if_neg howned, if_neg fun hafter => howned ((howner t hbehind).mp hafter)]

/-- What is dropped are the tags of the name on the device, and so none is found any more. -/
theorem Sound.firstTag?_dropNamed (hsound : store.Sound) (d : DeviceId) (name : String)
    (e : DeviceId) (other : String) :
    ((store.unlinkTags (store.tagsNamed d name)).dropNamed d name).firstTag? e other =
      if e = d ∧ other = name then none else store.firstTag? e other := by
  have htags : (((store.unlinkTags (store.tagsNamed d name)).dropNamed d name).device e).tags =
      (store.device e).tags.filter (· ∉ store.tagsNamed d name) := by
    rw [(hsound.linked.sameIndex_dropNamed d name).deviceTags, hsound.linked.tags_device_unlinkTags]
  have hname : ∀ t, (((store.unlinkTags (store.tagsNamed d name)).dropNamed d name).tag t).name =
      (store.tag t).name := by
    intro t
    rw [dropNamed, tag_updateDevice, tag_unlinkTags]
    split <;> rfl
  rw [firstTag?, htags, List.find?_filter]
  simp only [hname]
  split
  · next hdropped =>
    obtain ⟨rfl, rfl⟩ := hdropped
    refine List.find?_eq_none.mpr fun t ht => ?_
    simp [tagsNamed, ht]
  · next hkept =>
    refine List.find?_congr fun t ht => ?_
    by_cases hother : (store.tag t).name = other
    · have hout : t ∉ store.tagsNamed d name := by
        intro hmem
        obtain ⟨hlisted, hnamed⟩ := List.mem_filter.mp hmem
        have howner := (hsound.linked.listed d t).mp hlisted
        rw [(hsound.linked.listed e t).mp ht] at howner
        exact hkept ⟨Option.some.inj howner, hother.symm.trans (of_decide_eq_true hnamed)⟩
      simp [hout]
    · simp [hother]

/-- A new tag is found only where none of its name was there. -/
theorem Sound.firstTag?_appendTag (hsound : store.Sound) (hd : store.devices.Holds d)
    (name value : String) (e : DeviceId) (other : String) :
    (store.appendTag d name value).firstTag? e other =
      (store.firstTag? e other).or
        (if e = d ∧ other = name then some store.tags.next else none) := by
  have hold : (store.device e).tags.find?
      (fun t => ((store.appendTag d name value).tag t).name = other) =
        store.firstTag? e other := by
    refine List.find?_congr fun t ht => ?_
    rw [tag_appendTag, if_neg (hsound.linked.mem_device_ne_next ht)]
  rw [firstTag?, device_appendTag store hd]
  by_cases he : e = d
  · rw [if_pos he, List.find?_append, hold, List.find?_singleton, tag_appendTag, if_pos rfl]
    by_cases hother : other = name
    · simp [he, hother]
    · simp [hother, Ne.symm hother]
  · rw [if_neg he, hold, if_neg fun hboth => he hboth.1, Option.or_none]

/-- A tag that is made is behind no access yet. -/
theorem Aliased.aliasValue_appended (haliased : store.Aliased) {name value : String}
    (haliases : (after.device d).aliases = (store.device d).aliases)
    (htag : ∀ t, after.tag t = (store.appendTag d name value).tag t) (which : Alias) :
    after.aliasValue d which = store.aliasValue d which := by
  have hkept : ∀ t, (store.device d).aliases.get which = some t → after.tag t = store.tag t := by
    intro t hbehind
    rw [htag, tag_appendTag, if_neg (Table.ne_next_of_holds (haliased.holds hbehind))]
  refine aliasValue_of_same (by rw [haliases]) (fun t hbehind => ?_) fun t hbehind _ => ?_
  · rw [hkept t hbehind]
  · rw [hkept t hbehind]

/-- A new tag comes behind the access of its name, unless it is a type and there is one already. -/
theorem Aliased.linkAppended (haliased : store.Aliased) (hsound : store.Sound)
    (hd : store.devices.Holds d) {name value : String} (hheld : after.devices.Holds d)
    (haliases : ∀ e, (after.device e).aliases = (store.device e).aliases)
    (htags : ∀ e, (after.device e).tags = ((store.appendTag d name value).device e).tags)
    (htag : ∀ t, after.tag t = (store.appendTag d name value).tag t) :
    (after.linkAlias d name (some store.tags.next)).Aliased := by
  have hsame : SameAliases store (store.appendTag d name value) :=
    sameAliases_appendTag d name value
  have hfound : ∀ e other, after.firstTag? e other = (store.firstTag? e other).or
      (if e = d ∧ other = name then some store.tags.next else none) := by
    intro e other
    rw [← hsound.firstTag?_appendTag hd name value, firstTag?, firstTag?, htags]
    simp only [htag]
  have htype : after.aliasValue d .type = store.aliasValue d .type :=
    haliased.aliasValue_appended (haliases d) htag .type
  refine aliased_linkAlias hheld (fun e which t hget => ?_) (fun t ht => ?_)
    (fun e t hother hfirst => ?_) fun t hname hfirst => ?_
  · rw [haliases, ← hsame.aliases] at hget
    rw [htag, haliased.behind_of_same hsame hget]
  · obtain rfl := Option.some.inj ht
    rw [htag, tag_appendTag, if_pos rfl]
  · rw [hfound, if_neg fun hboth => hother hboth.1 hboth.2.symm, Option.or_none] at hfirst
    rw [haliases]
    exact haliased.first e t hfirst
  · rw [hfound, if_pos ⟨rfl, rfl⟩] at hfirst
    rw [htype, haliased.aliasValue_type hsound, haliases]
    subst hname
    cases hold : store.firstTag? d Alias.type.name with
    | none =>
      rw [hold] at hfirst
      simpa using hfirst
    | some first =>
      rw [hold, Option.some_or] at hfirst
      rw [if_pos ⟨rfl, rfl⟩, ← hfirst]
      exact haliased.first d first hold

/-- Where the tags of a name are gone, nothing is behind its access. -/
theorem Aliased.linkNone (haliased : store.Aliased) (hsound : store.Sound)
    (hd : store.devices.Holds d) (name : String) :
    (((store.unlinkTags (store.tagsNamed d name)).dropNamed d name).linkAlias d name
      none).Aliased := by
  have hprepares : store.Prepares d name .clearing _ none := .clearing
  have hsame := hprepares.sameAliases
  have hfound := hsound.firstTag?_dropNamed d name
  refine aliased_linkAlias (hsame.lasting.holds_device hd)
    (fun _ _ _ => haliased.behind_of_same hsame) (by simp) (fun e t hother hfirst => ?_)
    fun t hname hfirst => ?_
  · rw [hfound, if_neg fun hboth => hother hboth.1 hboth.2.symm] at hfirst
    rw [hsame.aliases]
    exact haliased.first e t hfirst
  · rw [hfound, if_pos ⟨rfl, rfl⟩] at hfirst
    cases hfirst

/-- The first tag of a name, with another value, comes behind the access of the name. A type is
behind its access already. -/
theorem Aliased.linkRewritten (haliased : store.Aliased) (hsound : store.Sound)
    (hd : store.devices.Holds d) {name : String} {first : TagId}
    (hfirst : store.firstTag? d name = some first) (text : String) :
    ((store.setTagValue first text).linkAlias d name (some first)).Aliased := by
  have hsame : SameAliases store (store.setTagValue first text) :=
    sameAliases_updateTag first fun _ => rfl
  have hfound := fun e => hsound.firstTag?_of_same hsame
    ((sameIndex_setTagValue first text).deviceTags e)
  have hnamed := (mem_of_firstTag? hfirst).2
  have hkept : (store.setTagValue first text).devices.Holds d := hd
  refine aliased_linkAlias hkept (fun _ _ _ => haliased.behind_of_same hsame)
    (fun t ht => ?_) (fun e t _ hold => ?_) fun t hname hold => ?_
  · obtain rfl := Option.some.inj ht
    rw [hsame.tagName first (holds_tag_of_device (hsound.owner_of_firstTag? hfirst)), hnamed]
  · rw [hfound] at hold
    exact haliased.first e t hold
  · rw [hfound, hfirst] at hold
    subst hname
    rw [← hold]
    split
    · exact haliased.first d first hfirst
    · rfl

theorem Aliased.setTag (haliased : store.Aliased) (hsound : store.Sound)
    (hd : store.devices.Holds d) (name : String) (value : Option String) (replace : Bool) :
    (store.setTag d name value replace).Aliased := by
  obtain ⟨-, hset⟩ | ⟨_, middle, link, -, hprepares, hset⟩ :=
    store.setTag_cases d name value replace
  · rwa [hset]
  · have hsame := hprepares.sameAliases
    have hheld := hsame.lasting.holds_device hd
    rw [hset]
    refine Aliased.markDeviceChanged ?_ d
    cases hprepares with
    | clearing => exact haliased.linkNone hsound hd name
    | rewriting hfirst => exact haliased.linkRewritten hsound hd hfirst _
    | adding =>
      exact haliased.linkAppended hsound hd hheld hsame.aliases (fun _ => rfl) fun _ => rfl
    | doubling =>
      exact haliased.linkAppended hsound hd hheld hsame.aliases
        (sameIndex_markMultiple d).deviceTags fun _ => rfl

end Store

end DeviceTags
