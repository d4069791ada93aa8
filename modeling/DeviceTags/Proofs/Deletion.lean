import DeviceTags.HandEdit
import DeviceTags.Proofs.Revising

/-!
# Deleting the tags of a name

A deletion does not rely on an index whose links agree. Tags that were put into the list of a device
by hand may know no device and no head, and may stand in the list several times. All of them leave
the device, its direct access and the heads that they point to, and nothing else is touched, as long
as none of them belongs to another device and none stands in its head more than once.
-/

namespace DeviceTags

namespace Store

variable {store : Store} {d e : DeviceId} {name : String} {which : Alias}

/-! ## Unlinking where links may disagree -/

/-- A list without the only occurrence of an element is the list of the others. -/
theorem erase_eq_filter_of_once {t : TagId} {ts : List TagId} (honce : ts.count t = 1) :
    ts.erase t = ts.filter (· ≠ t) := by
  have hmem : t ∈ ts := List.count_pos_iff.mp (by omega)
  obtain ⟨front, back, hfront, rfl, herase⟩ := List.exists_erase_eq hmem
  have hback : t ∉ back := by
    rw [List.count_append, List.count_cons_self, List.count_eq_zero.mpr hfront] at honce
    exact List.count_eq_zero.mp (by omega)
  have hself : ∀ us : List TagId, t ∉ us → us.filter (· ≠ t) = us := by
    intro us hout
    rw [List.filter_eq_self]
    exact fun u hu => decide_eq_true (ne_of_mem_of_not_mem hu hout)
  rw [herase, List.filter_append, List.filter_cons_of_neg (by simp), hself front hfront,
    hself back hback]

/-- Of the list of a device nothing else than the unlinked tags goes away. -/
theorem filter_tags_unlinkTags {keep : TagId → Bool} (ts : List TagId)
    (hts : ∀ t ∈ ts, keep t = false) (store : Store) (d : DeviceId) :
    ((store.unlinkTags ts).device d).tags.filter keep =
      (store.device d).tags.filter keep := by
  induction ts generalizing store with
  | nil => rfl
  | cons t rest ih =>
    have hout : t ∉ (store.device d).tags.filter keep := fun hmem => by
      rw [List.mem_filter, hts t List.mem_cons_self] at hmem
      exact Bool.noConfusion hmem.2
    refine (ih (fun u hu => hts u (List.mem_cons_of_mem t hu)) _).trans ?_
    rw [device_unlinkTag]
    split
    · rw [← List.erase_filter, List.erase_of_not_mem hout]
    · rfl

/-- A device is touched only if it owns one of the tags. -/
theorem device_unlinkTags_of_not_owner (ts : List TagId) {store : Store}
    (hts : ∀ t ∈ ts, (store.tag t).device ≠ some e) :
    (store.unlinkTags ts).device e = store.device e := by
  induction ts generalizing store with
  | nil => rfl
  | cons t rest ih =>
    refine (ih fun u hu => ?_).trans ?_
    · rw [tag_unlinkTag]
      split
      · exact nofun
      · exact hts u (List.mem_cons_of_mem t hu)
    · rw [device_unlinkTag, if_neg (hts t List.mem_cons_self)]

/-- A head loses those of the tags that point to it, if it lists each of them once. -/
theorem head_unlinkTags (ts : List TagId) {store : Store}
    (honce : ∀ t ∈ ts, ∀ h ∈ (store.tag t).head, (store.head h).tags.count t = 1) (h : HeadId) :
    (store.unlinkTags ts).head h =
      { store.head h with
        tags := (store.head h).tags.filter fun t => ¬ (t ∈ ts ∧ (store.tag t).head = some h) } := by
  induction ts generalizing store with
  | nil =>
    have hall : ((store.head h).tags.filter
        fun t => ¬ (t ∈ ([] : List TagId) ∧ (store.tag t).head = some h)) =
          (store.head h).tags := List.filter_eq_self.mpr fun t _ => by simp
    rw [hall]
    rfl
  | cons t rest ih =>
    refine (ih fun u hu k hhead => ?_).trans ?_
    · rw [Option.mem_def, tag_unlinkTag] at hhead
      split at hhead
      · cases hhead
      · next hne =>
        rw [head_unlinkTag]
        split
        · exact (List.count_erase_of_ne hne).trans (honce u (List.mem_cons_of_mem t hu) k hhead)
        · exact honce u (List.mem_cons_of_mem t hu) k hhead
    · simp only [head_unlinkTag, tag_unlinkTag]
      by_cases hhead : (store.tag t).head = some h
      · rw [if_pos hhead]
        simp only [Head.mk.injEq, true_and]
        rw [erase_eq_filter_of_once (honce t List.mem_cons_self h hhead), List.filter_filter]
        refine List.filter_congr fun u _ => ?_
        by_cases hu : u = t
        · simp [hu, hhead]
        · simp [hu]
      · rw [if_neg hhead]
        simp only [Head.mk.injEq, true_and]
        refine List.filter_congr fun u _ => ?_
        by_cases hu : u = t
        · simp [hu, hhead]
        · simp [hu]

/-! ## What a deletion leaves -/

/-- The tags of a name are gone from a device, from its direct access and from the heads that they
pointed to. The other tags, accesses and devices are as they were, and a cache shows at most that
something has changed. -/
structure Cleared (before : Store) (d : DeviceId) (name : String) (after : Store) : Prop where
  tags : (after.device d).tags = (before.device d).tags.filter fun t => (before.tag t).name ≠ name
  loose : ∀ t ∈ before.tagsNamed d name,
    after.tag t = { before.tag t with device := none, head := none }
  heads : ∀ h, after.head h =
    { before.head h with
      tags := (before.head h).tags.filter fun t =>
        ¬ (t ∈ before.tagsNamed d name ∧ (before.tag t).head = some h) }
  access : ∀ which, which.name = name →
    (after.device d).aliases.get which = none ∧ after.aliasValue d which = none
  otherAccesses : ∀ which, which.name ≠ name →
    (after.device d).aliases.get which = (before.device d).aliases.get which ∧
      after.aliasValue d which = before.aliasValue d which
  record : ∃ tags aliases, after.device d = { before.device d with tags, aliases }
  otherTags : ∀ t, t ∉ before.tagsNamed d name → after.tag t = before.tag t
  otherDevices : ∀ e, e ≠ d → after.device e = before.device e ∧
    ∀ which, after.aliasValue e which = before.aliasValue e which
  caches : ∀ c, ∃ changed, after.cache c = { before.cache c with changed }

theorem mem_tagsNamed {t : TagId} :
    t ∈ store.tagsNamed d name ↔ t ∈ (store.device d).tags ∧ (store.tag t).name = name := by
  rw [tagsNamed, List.mem_filter, decide_eq_true_iff]

/-- A cache that does not exist is not marked either. -/
theorem cache_markDeviceChanged (store : Store) (d : DeviceId) (c : CacheId) :
    ∃ changed, (store.markDeviceChanged d).cache c = { store.cache c with changed } := by
  unfold markDeviceChanged
  split
  · exact ⟨_, rfl⟩
  · next k _ =>
    by_cases hk : c = k
    · subst hk
      by_cases hc : store.caches.Holds c
      · exact ⟨true, cache_updateCache_self store hc _⟩
      · refine ⟨(store.cache c).changed, ?_⟩
        rw [cache, cache, Table.get_of_not_holds hc, Table.get_of_not_holds]
        simpa [updateCache] using hc
    · exact ⟨_, cache_updateCache_of_ne store hk _⟩

theorem tag_deleteNamed (d : DeviceId) (name : String) (t : TagId) :
    (store.deleteNamed d name).tag t =
      if t ∈ store.tagsNamed d name then { store.tag t with device := none, head := none }
      else store.tag t := by
  rw [deleteNamed, tag_markDeviceChanged, tag_linkAlias, tag_cleared]

section Clearing

variable (howner : ∀ t ∈ store.tagsNamed d name,
  (store.tag t).device = none ∨ (store.tag t).device = some d)

include howner

theorem not_owner_of_tagsNamed (he : e ≠ d) :
    ∀ t ∈ store.tagsNamed d name, (store.tag t).device ≠ some e := by
  intro t ht hother
  rcases howner t ht with hnone | hown
  · rw [hnone] at hother
    cases hother
  · rw [hown] at hother
    exact he (Option.some.inj hother).symm

/-- The list of the device is filtered once more after the tags were unlinked, since a tag without an
owner is still in it. -/
theorem device_unlinked_dropNamed (e : DeviceId) :
    ((store.unlinkTags (store.tagsNamed d name)).dropNamed d name).device e =
      if e = d then
        { store.device e with
          tags := (store.device e).tags.filter fun t => (store.tag t).name ≠ name }
      else store.device e := by
  rw [dropNamed, device_updateDevice _ (.inr rfl)]
  by_cases he : e = d
  · subst he
    obtain ⟨left, hleft, -⟩ := device_unlinkTags (store.tagsNamed e name) store e
    have hkept : ((store.unlinkTags (store.tagsNamed e name)).device e).tags.filter
        (fun t => (store.tag t).name ≠ name) =
          (store.device e).tags.filter fun t => (store.tag t).name ≠ name :=
      filter_tags_unlinkTags _ (fun t ht => by simp [(mem_tagsNamed.mp ht).2]) store e
    have hnames : ∀ t, ((store.unlinkTags (store.tagsNamed e name)).tag t).name =
        (store.tag t).name := by
      intro t
      rw [tag_unlinkTags]
      split <;> rfl
    rw [if_pos rfl, if_pos rfl]
    simp only [hnames, hkept]
    rw [hleft]
  · rw [if_neg he, if_neg he, device_unlinkTags_of_not_owner _ (not_owner_of_tagsNamed howner he)]

theorem device_deleteNamed_of_ne (he : e ≠ d) :
    (store.deleteNamed d name).device e = store.device e := by
  rw [deleteNamed, device_markDeviceChanged, device_linkAlias_of_ne he,
    device_unlinked_dropNamed howner, if_neg he]

theorem device_deleteNamed (hd : store.devices.Holds d) :
    (∃ aliases, (store.deleteNamed d name).device d =
      { store.device d with
        tags := (store.device d).tags.filter fun t => (store.tag t).name ≠ name
        aliases }) ∧
      ∀ which, ((store.deleteNamed d name).device d).aliases.get which =
        if which.name = name then none else (store.device d).aliases.get which := by
  have hheld : ((store.unlinkTags (store.tagsNamed d name)).dropNamed d name).devices.Holds d :=
    (extends_updateDevice _ _ _).holds_device ((extends_unlinkTags _ store).holds_device hd)
  have hdropped := device_unlinked_dropNamed howner d
  rw [if_pos rfl] at hdropped
  rw [deleteNamed, device_markDeviceChanged]
  refine ⟨?_, fun which => ?_⟩
  · obtain ⟨aliases, haliases⟩ := device_linkAlias hheld name none
    rw [hdropped] at haliases
    exact ⟨aliases, haliases⟩
  · rw [get_linkAlias hheld, hdropped]
    simp

/-- The deletion of a name clears it, whatever the links of other tags are. -/
theorem cleared_deleteNamed (hd : store.devices.Holds d)
    (honce : ∀ t ∈ store.tagsNamed d name, ∀ h ∈ (store.tag t).head,
      (store.head h).tags.count t = 1)
    (hbehind : ∀ which, ∀ t ∈ (store.device d).aliases.get which,
      (store.tag t).name = which.name) :
    store.Cleared d name (store.deleteNamed d name) := by
  obtain ⟨⟨aliases, hdevice⟩, hget⟩ := device_deleteNamed howner hd
  constructor
  case tags => rw [hdevice]
  case loose =>
    intro t ht
    rw [tag_deleteNamed, if_pos ht]
  case heads =>
    intro h
    rw [deleteNamed, head_markDeviceChanged, head_linkAlias, dropNamed, head_updateDevice,
      head_unlinkTags _ honce]
  case access =>
    intro which hwhich
    have hnone : ((store.deleteNamed d name).device d).aliases.get which = none := by
      rw [hget, if_pos hwhich]
    refine ⟨hnone, ?_⟩
    rw [aliasValue, hnone]
  case otherAccesses =>
    intro which hwhich
    have hsame : ((store.deleteNamed d name).device d).aliases.get which =
        (store.device d).aliases.get which := by rw [hget, if_neg hwhich]
    have hkept : ∀ t, (store.device d).aliases.get which = some t →
        (store.deleteNamed d name).tag t = store.tag t := by
      intro t ht
      rw [tag_deleteNamed, if_neg]
      intro hmem
      exact hwhich ((hbehind which t ht).symm.trans (mem_tagsNamed.mp hmem).2)
    refine ⟨hsame, aliasValue_of_same hsame (fun t ht => ?_) fun t ht _ => ?_⟩
    · rw [hkept t ht]
    · rw [hkept t ht]
  case record => exact ⟨_, _, hdevice⟩
  case otherTags =>
    intro t ht
    rw [tag_deleteNamed, if_neg ht]
  case otherDevices =>
    intro f hf
    have hrecord := device_deleteNamed_of_ne howner hf
    have hforeign := not_owner_of_tagsNamed howner hf
    refine ⟨hrecord, fun which => aliasValue_of_same (by rw [hrecord]) (fun t _ => ?_)
      fun t _ hown => ?_⟩
    · rw [tag_deleteNamed]
      split
      · next hmem => exact ⟨(fun hnone => by cases hnone), fun hown => absurd hown (hforeign t hmem)⟩
      · exact .rfl
    · rw [tag_deleteNamed, if_neg fun hmem => hforeign t hmem hown]
  case caches =>
    intro c
    obtain ⟨changed, hcache⟩ := cache_markDeviceChanged
      (((store.unlinkTags (store.tagsNamed d name)).dropNamed d name).linkAlias d name none) d c
    refine ⟨changed, hcache.trans ?_⟩
    rw [cache_linkAlias, dropNamed, cache_updateDevice, cache_unlinkTags]

end Clearing

theorem Cleared.firstTag? {before after : Store} (hcleared : before.Cleared d name after) :
    after.firstTag? d name = none := by
  rw [Store.firstTag?, List.find?_eq_none]
  intro t ht hnamed
  rw [hcleared.tags, List.mem_filter] at ht
  have hname := of_decide_eq_true ht.2
  have hout : t ∉ before.tagsNamed d name := fun hmem => hname (mem_tagsNamed.mp hmem).2
  rw [hcleared.otherTags t hout] at hnamed
  exact hname (of_decide_eq_true hnamed)

end Store

/-! ## Edits by hand -/

/-- No edit by hand sets a direct access, and only one of them renames a tag. -/
theorem HandEdit.sameAliases {change : HandEdit} (hkeep : ∀ t text, change ≠ .rename t text)
    (store : Store) : store.SameAliases (change.apply store) := by
  cases change
  case rename t text => exact absurd rfl (hkeep t text)
  case bareTag d name value =>
    have hadded : store.SameAliases
        { store with tags := store.tags.add ⟨name, value, none, none⟩ } :=
      ⟨fun _ => rfl, fun _ ht => by rw [Store.tag_add_of_holds store ht],
        ⟨by simp, Nat.le_refl _, Nat.le_refl _, Nat.le_refl _⟩⟩
    exact hadded.trans (Store.sameAliases_updateDevice d fun _ => rfl)
  case unhead t => exact Store.sameAliases_updateTag t fun _ => rfl
  case owner t value => exact Store.sameAliases_updateTag t fun _ => rfl
  case repeatEntry t =>
    simp only [apply]
    split
    · exact .refl store
    · exact Store.sameAliases_updateHead _ _
  case clearHead c name =>
    simp only [apply]
    split
    · exact .refl store
    · exact Store.sameAliases_updateHead _ _
  all_goals exact Store.sameAliases_updateDevice _ fun _ => rfl

/-- After a run and any edits that rename nothing, what is behind each direct access has its name. -/
theorem behind_edited {memory : Memory} (hreach : Reachable memory) (changes : List HandEdit)
    (hkeep : ∀ change ∈ changes, ∀ t text, change ≠ .rename t text) (d : DeviceId) (which : Alias) :
    let edited := changes.foldl (fun edited change => change.apply edited) memory.store
    ∀ t ∈ (edited.device d).aliases.get which, (edited.tag t).name = which.name := by
  have hsame : ∀ start : Store, start.SameAliases
      (changes.foldl (fun edited change => change.apply edited) start) := by
    induction changes with
    | nil => exact .refl
    | cons change rest ih =>
      intro start
      exact (HandEdit.sameAliases (hkeep change List.mem_cons_self) start).trans
        (ih (fun other hother => hkeep other (List.mem_cons_of_mem change hother)) _)
  exact fun t ht => hreach.aliased.behind_of_same (hsame memory.store) ht

/-! ## The deletion of a name -/

section Deletion

variable {memory : Memory} {d : DeviceId} {name : String}

/-- From any state a deletion goes through, with any supply of memory, and clears the name, if the
tags of that name on the device belong to it or to none, each stands once in its head, and what is
behind the accesses of the device has their names, which is so where only tagging has set them. -/
theorem deletion_clears (hd : memory.store.devices.Holds d) (hname : name ≠ "")
    (howner : ∀ t ∈ memory.store.tagsNamed d name,
      (memory.store.tag t).device = none ∨ (memory.store.tag t).device = some d)
    (honce : ∀ t ∈ memory.store.tagsNamed d name, ∀ h ∈ (memory.store.tag t).head,
      (memory.store.head h).tags.count t = 1)
    (hbehind : ∀ which, ∀ t ∈ (memory.store.device d).aliases.get which,
      (memory.store.tag t).name = which.name) (replace : Bool) :
    ∃ after, Tagging.set (some d) (.string name) .none replace memory = .ok () after ∧
      memory.store.Cleared d name after.store ∧
      Tagging.find (some d) (.string name) after = .ok none after := by
  have hbacked : ∀ t ∈ memory.store.tagsNamed d name, memory.store.Backed t := by
    intro t ht
    constructor
    · intro e howned
      rcases howner t ht with hnone | hown
      · rw [hnone] at howned
        cases howned
      · rw [hown] at howned
        cases howned
        exact (Store.mem_tagsNamed.mp ht).1
    · intro h hhead
      exact List.count_pos_iff.mp (by rw [honce t ht h hhead]; exact Nat.one_pos)
  obtain ⟨_, after, hrun, hstore⟩ := (does_delete d name hbacked).exists_ok
  have hcleared : memory.store.Cleared d name after.store := by
    rw [hstore]
    exact Store.cleared_deleteNamed howner hd honce hbehind
  refine ⟨after, ?_, hcleared, ?_⟩
  · rw [Tagging.set, requireName_of_ne hname]
    exact hrun
  · rw [find_firstTag d hname, hcleared.firstTag?]

end Deletion

/-- Two devices of a cache with a label each, of which the first has a type, too. By hand it got its
label once more, another one that is in no head, and a third one that knows no device. -/
def handTagged : Memory :=
  let typed := (Action.performAll .bare .unlimited
    [.setTag (some ⟨0⟩) (.string "TYPE") (.string "ext4") false] lateAttached).1
  let edited := [HandEdit.bareTag ⟨0⟩ "LABEL" "spare", .owner ⟨3⟩ (some ⟨0⟩),
    .bareTag ⟨0⟩ "LABEL" "third"].foldl (fun edited change => change.apply edited) typed.store
  { typed with store := (edited.enterDevice ⟨0⟩ ⟨0⟩).linkTag ⟨0⟩ ⟨4⟩ }

/-- Without labels the first device has its type left, and the head of labels the label of the other
device. -/
theorem handTagged_cleared :
    handTagged.store.pairs ⟨0⟩ = [("LABEL", "data"), ("TYPE", "ext4"), ("LABEL", "spare"),
      ("LABEL", "third"), ("LABEL", "data")] ∧
    (handTagged.store.head ⟨0⟩).tags = [⟨1⟩, ⟨0⟩, ⟨4⟩] ∧
    ∃ after, Tagging.set (some ⟨0⟩) (.string "LABEL") .none false handTagged = .ok () after ∧
      (after.store.device ⟨0⟩).tags = [⟨2⟩] ∧ (after.store.head ⟨0⟩).tags = [⟨1⟩] ∧
      after.store.aliasValue ⟨0⟩ .label = none ∧
      after.store.aliasValue ⟨0⟩ .type = some "ext4" := by
  refine ⟨by decide, by decide, ?_⟩
  have hbehind : ∀ which, ∀ t ∈ (handTagged.store.device ⟨0⟩).aliases.get which,
      (handTagged.store.tag t).name = which.name := by
    intro which
    cases which <;> decide
  obtain ⟨after, hrun, hcleared, -⟩ := @deletion_clears handTagged ⟨0⟩ "LABEL" (by decide)
    (by decide) (by decide) (by decide) hbehind false
  refine ⟨after, hrun, ?_, ?_, (hcleared.access .label rfl).2, ?_⟩
  · rw [hcleared.tags]
    decide
  · rw [hcleared.heads]
    decide
  · rw [(hcleared.otherAccesses .type (by decide)).2]
    decide

end DeviceTags
