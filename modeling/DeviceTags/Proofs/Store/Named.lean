import DeviceTags.Proofs.Store.Revision

/-!
# The tags of one name on a device

Setting a tag does one of three things to the tags of its name on its device: it keeps them as they
are, it takes all of them away, or it writes one of them and puts that one behind the direct access.
The tags of all other names and devices are kept.
-/

namespace DeviceTags.Store

variable {store before middle after : Store} {d e : DeviceId} {t : TagId} {name other : String}

/-- The tags of a name on a device are as they were, and so is the direct access. -/
structure KeepsNamed (d : DeviceId) (name : String) (before after : Store) : Prop where
  tags : after.tagsNamed d name = before.tagsNamed d name
  value : ∀ t ∈ before.tagsNamed d name, (after.tag t).value = (before.tag t).value
  access : ∀ which, which.name = name →
    (after.device d).aliases.get which = (before.device d).aliases.get which

/-- One tag of a name was created or got another value, and is behind the direct access now, if that
is not the type. -/
structure WritesNamed (t : TagId) (d : DeviceId) (name : String) (before after : Store) : Prop where
  mem : t ∈ after.tagsNamed d name
  new : ¬ before.tags.Holds t ∨ (after.tag t).value ≠ (before.tag t).value
  others : ∀ u ∈ after.tagsNamed d name, u ≠ t →
    u ∈ before.tagsNamed d name ∧ (after.tag u).value = (before.tag u).value
  access : ∀ which, which.name = name → which ≠ .type →
    (after.device d).aliases.get which = some t

/-- What can happen to the tags of a name on a device. -/
inductive TracesNamed (d : DeviceId) (name : String) (before after : Store) : Prop
  | kept (hkept : KeepsNamed d name before after)
  | cleared (hcleared : after.tagsNamed d name = [])
  | wrote (t : TagId) (hwrote : WritesNamed t d name before after)

/-- What setting a tag of a name on a device does. -/
structure TouchesNamed (d : DeviceId) (name : String) (before after : Store) : Prop where
  named : TracesNamed d name before after
  others : ∀ e other, ¬ (e = d ∧ other = name) → KeepsNamed e other before after

theorem TouchesNamed.traces (htouches : TouchesNamed d name before after) (e : DeviceId)
    (other : String) : TracesNamed e other before after := by
  by_cases hboth : e = d ∧ other = name
  · obtain ⟨rfl, rfl⟩ := hboth
    exact htouches.named
  · exact .kept (htouches.others e other hboth)

theorem Sound.holds_of_tagsNamed (hsound : store.Sound) (ht : t ∈ store.tagsNamed d name) :
    store.tags.Holds t :=
  holds_tag_of_device ((hsound.mem_tagsNamed d name).mp ht).1

/-! ## A tag that is set -/

/-- Where the tags of a device keep their names, it has the same of each. -/
theorem tagsNamed_congr (htags : (after.device d).tags = (before.device d).tags)
    (hnames : ∀ t ∈ (before.device d).tags, (after.tag t).name = (before.tag t).name)
    (name : String) : after.tagsNamed d name = before.tagsNamed d name := by
  rw [tagsNamed, tagsNamed, htags]
  exact List.filter_congr fun t ht => by rw [hnames t ht]

theorem tagsNamed_finish (name : String) (link : Option TagId) (e : DeviceId) (other : String) :
    ((store.linkAlias d name link).markDeviceChanged d).tagsNamed e other =
      store.tagsNamed e other := by
  refine tagsNamed_congr ((unseen_finish d name link).deviceTags e) (fun t _ => ?_) other
  rw [tag_markDeviceChanged, tag_linkAlias]

theorem Sound.tagsNamed_appendTag (hsound : store.Sound) (hd : store.devices.Holds d)
    (name value : String) (e : DeviceId) (other : String) :
    (store.appendTag d name value).tagsNamed e other =
      if e = d ∧ other = name then store.tagsNamed e other ++ [store.tags.next]
      else store.tagsNamed e other := by
  have hold : (store.device e).tags.filter
      (fun t => ((store.appendTag d name value).tag t).name = other) = store.tagsNamed e other := by
    refine List.filter_congr fun t ht => ?_
    rw [tag_appendTag, if_neg (hsound.linked.mem_device_ne_next ht)]
  rw [tagsNamed, device_appendTag store hd]
  by_cases he : e = d
  · rw [if_pos he, List.filter_append, hold, List.filter_singleton, tag_appendTag, if_pos rfl]
    by_cases hother : other = name
    · simp [he, hother]
    · simp [hother, Ne.symm hother]
  · rw [if_neg he, hold, if_neg fun hboth => he hboth.1]

theorem Sound.tagsNamed_cleared (hsound : store.Sound) (d : DeviceId) (name : String)
    (e : DeviceId) (other : String) :
    ((store.unlinkTags (store.tagsNamed d name)).dropNamed d name).tagsNamed e other =
      if e = d ∧ other = name then [] else store.tagsNamed e other := by
  have hname : ∀ t, (((store.unlinkTags (store.tagsNamed d name)).dropNamed d name).tag t).name =
      (store.tag t).name := by
    intro t
    rw [tag_cleared]
    split <;> rfl
  rw [tagsNamed, hsound.device_cleared, List.filter_filter]
  simp only [hname]
  split
  · next hboth =>
    obtain ⟨rfl, rfl⟩ := hboth
    rw [List.filter_eq_nil_iff]
    intro t ht
    simp [tagsNamed, ht]
  · next hother =>
    refine List.filter_congr fun t ht => ?_
    by_cases hnamed : t ∈ store.tagsNamed d name
    · have hout : (store.tag t).name ≠ other := by
        intro hname
        obtain ⟨howner, hnamed⟩ := (hsound.mem_tagsNamed d name).mp hnamed
        rw [(hsound.linked.listed e t).mp ht] at howner
        exact hother ⟨Option.some.inj howner, hname.symm.trans hnamed⟩
      simp [hout]
    · simp [hnamed]

/-- In the end the access of the name is set; those of other names and of other devices stay. -/
theorem get_finish (hd : middle.devices.Holds d) (link : Option TagId) (e : DeviceId) (which : Alias) :
    (((middle.linkAlias d name link).markDeviceChanged d).device e).aliases.get which =
      if e = d ∧ which.name = name ∧
          ¬ (which = .type ∧ link.isSome ∧ (middle.aliasValue d .type).isSome) then link
      else (middle.device e).aliases.get which := by
  rw [device_markDeviceChanged, get_linkAlias hd]

/-- A change of the tags of one name on one device, after which the access of the name is set. -/
theorem touches_finish (hd : middle.devices.Holds d) (link : Option TagId)
    (hsame : SameAliases before middle)
    (htags : ∀ e other, ¬ (e = d ∧ other = name) →
      middle.tagsNamed e other = before.tagsNamed e other ∧
      ∀ t ∈ before.tagsNamed e other, (middle.tag t).value = (before.tag t).value)
    (hnamed : middle.tagsNamed d name = [] ∨ ∃ t ∈ middle.tagsNamed d name, link = some t ∧
      (¬ before.tags.Holds t ∨ (middle.tag t).value ≠ (before.tag t).value) ∧
      ∀ u ∈ middle.tagsNamed d name, u ≠ t →
        u ∈ before.tagsNamed d name ∧ (middle.tag u).value = (before.tag u).value) :
    TouchesNamed d name before ((middle.linkAlias d name link).markDeviceChanged d) := by
  have htag : ∀ t, ((middle.linkAlias d name link).markDeviceChanged d).tag t = middle.tag t := by
    intro t
    rw [tag_markDeviceChanged, tag_linkAlias]
  constructor
  case named =>
    rcases hnamed with hcleared | ⟨t, hmem, rfl, hnew, hothers⟩
    · exact .cleared ((tagsNamed_finish name link d name).trans hcleared)
    · refine .wrote t ⟨?_, ?_, fun u hu hother => ?_, fun which hwhich htype => ?_⟩
      · rwa [tagsNamed_finish]
      · rwa [htag]
      · rw [tagsNamed_finish] at hu
        rw [htag]
        exact hothers u hu hother
      · rw [get_finish hd, if_pos ⟨rfl, hwhich, fun hall => htype hall.1⟩]
  case others =>
    intro e other hboth
    obtain ⟨hkept, hvalue⟩ := htags e other hboth
    refine ⟨(tagsNamed_finish name link e other).trans hkept, fun t ht => ?_, fun which hwhich => ?_⟩
    · rw [htag, hvalue t ht]
    · rw [get_finish hd, if_neg fun hall => hboth ⟨hall.1, hwhich.symm.trans hall.2.1⟩,
        hsame.aliases]

theorem KeepsNamed.refl (store : Store) (d : DeviceId) (name : String) :
    KeepsNamed d name store store :=
  ⟨rfl, fun _ _ => rfl, fun _ _ => rfl⟩

section Append

variable (hsound : store.Sound) (hd : store.devices.Holds d)

include hsound hd

/-- A tag that is made is written, and the others of its name are as they were. -/
theorem Sound.touches_append (hheld : middle.devices.Holds d)
    (hsame : SameAliases store middle) (name text : String)
    (htags : ∀ e other, middle.tagsNamed e other = (store.appendTag d name text).tagsNamed e other)
    (htag : ∀ t, middle.tag t = (store.appendTag d name text).tag t) :
    TouchesNamed d name store
      ((middle.linkAlias d name (some store.tags.next)).markDeviceChanged d) := by
  have hvalue : ∀ e other, ∀ t ∈ store.tagsNamed e other,
      (middle.tag t).value = (store.tag t).value := by
    intro e other t ht
    rw [htag, tag_appendTag, if_neg (Table.ne_next_of_holds (hsound.holds_of_tagsNamed ht))]
  refine touches_finish hheld _ hsame (fun e other hother => ?_) (.inr ?_)
  · rw [htags, hsound.tagsNamed_appendTag hd, if_neg hother]
    exact ⟨rfl, hvalue e other⟩
  · rw [htags, hsound.tagsNamed_appendTag hd, if_pos ⟨rfl, rfl⟩]
    refine ⟨_, List.mem_append_right _ List.mem_cons_self, rfl,
      .inl (Table.not_holds_next _), fun u hu hother => ?_⟩
    have hold : u ∈ store.tagsNamed d name := by simpa [hother] using hu
    exact ⟨hold, hvalue d name u hold⟩

/-- The first tag of a name is written if it gets another value. -/
theorem Sound.touches_rewrite {first : TagId} {text : String}
    (hfirst : store.firstTag? d name = some first) (hvalue : (store.tag first).value ≠ text) :
    TouchesNamed d name store
      (((store.setTagValue first text).linkAlias d name (some first)).markDeviceChanged d) := by
  have howner := hsound.owner_of_firstTag? hfirst
  have hname := (mem_of_firstTag? hfirst).2
  have hset : ∀ t, (store.setTagValue first text).tag t =
      if t = first then { store.tag t with value := text } else store.tag t :=
    tag_updateTag store (.inl (holds_tag_of_device howner))
  have hunset : ∀ t, t ≠ first →
      ((store.setTagValue first text).tag t).value = (store.tag t).value := by
    intro t ht
    rw [hset, if_neg ht]
  have hkept : ∀ e other,
      (store.setTagValue first text).tagsNamed e other = store.tagsNamed e other := by
    intro e other
    have htags : ((store.setTagValue first text).device e).tags = (store.device e).tags := rfl
    refine tagsNamed_congr htags (fun t _ => ?_) other
    rw [hset]
    split <;> rfl
  have hheld : (store.setTagValue first text).devices.Holds d := hd
  refine touches_finish hheld _ (sameAliases_updateTag first fun _ => rfl)
    (fun e other hother => ⟨hkept e other, fun t ht => hunset t ?_⟩) (.inr ?_)
  · rintro rfl
    obtain ⟨howned, hnamed⟩ := (hsound.mem_tagsNamed e other).mp ht
    rw [howner] at howned
    exact hother ⟨(Option.some.inj howned).symm, hnamed.symm.trans hname⟩
  · rw [hkept]
    refine ⟨first, (hsound.mem_tagsNamed d name).mpr ⟨howner, hname⟩, rfl, .inr ?_,
      fun u hu hother => ⟨hu, hunset u hother⟩⟩
    rw [hset, if_pos rfl]
    exact Ne.symm hvalue

theorem Sound.touches_setTag (name : String) (value : Option String) (replace : Bool) :
    TouchesNamed d name store (store.setTag d name value replace) := by
  obtain ⟨-, hset⟩ | ⟨_, middle, link, -, hprepares, hset⟩ :=
    store.setTag_cases d name value replace
  · rw [hset]
    exact ⟨.kept (.refl store d name), fun e other _ => .refl store e other⟩
  · have hsame := hprepares.sameAliases
    have hheld := hsame.lasting.holds_device hd
    rw [hset]
    cases hprepares with
    | clearing =>
      refine touches_finish hheld none hsame (fun e other hother => ?_) (.inl ?_)
      · rw [hsound.tagsNamed_cleared, if_neg hother]
        refine ⟨rfl, fun t _ => ?_⟩
        rw [tag_cleared]
        split <;> rfl
      · rw [hsound.tagsNamed_cleared, if_pos ⟨rfl, rfl⟩]
    | rewriting hfirst hvalue => exact hsound.touches_rewrite hd hfirst hvalue
    | adding => exact hsound.touches_append hd hheld hsame name _ (fun _ _ => rfl) fun _ => rfl
    | doubling =>
      refine hsound.touches_append hd hheld hsame name _ (fun e other => ?_) fun _ => rfl
      exact tagsNamed_congr ((sameIndex_markMultiple d).deviceTags e) (fun _ _ => rfl) other

end Append

end DeviceTags.Store
