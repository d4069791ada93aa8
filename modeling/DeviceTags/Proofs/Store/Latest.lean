import DeviceTags.Proofs.Chronicle
import DeviceTags.Proofs.Store.Named

/-!
# The tag that was written last

Of the labels of a device, and of its identifiers, the one that was written last is behind the direct
access: a tag that is written is put there, and what else happens to the tags of a name either keeps
them or takes all of them away. So the tag behind the access is the latest that the chronicle has of
those that are left.
-/

namespace DeviceTags.Store

variable {store before middle after : Store} {d e : DeviceId} {t : TagId} {name other : String}
  {written : List TagId}

/-! ## The latest of a name -/

/-- The tag of a name on a device that was written last. -/
def latest? (store : Store) (written : List TagId) (d : DeviceId) (name : String) : Option TagId :=
  (written.filter (store.tagsNamed d name).contains).getLast?

/-- The chronicle has every tag of every device, and the latest label of a device is behind its
access, as is the latest identifier. -/
structure Tracked (store : Store) (written : List TagId) : Prop where
  listed : ∀ d name, ∀ t ∈ store.tagsNamed d name, t ∈ written
  behind : ∀ d which t, which ≠ .type → store.latest? written d which.name = some t →
    (store.device d).aliases.get which = some t

theorem latest?_append (store : Store) (written new : List TagId) (d : DeviceId) (name : String) :
    store.latest? (written ++ new) d name =
      (store.latest? new d name).or (store.latest? written d name) := by
  rw [latest?, List.filter_append, List.getLast?_append]
  rfl

theorem latest?_eq_none_iff :
    store.latest? written d name = none ↔ ∀ t ∈ written, t ∉ store.tagsNamed d name := by
  rw [latest?, List.getLast?_eq_none_iff, List.filter_eq_nil_iff]
  simp only [List.contains_iff_mem]

theorem mem_of_latest? (hlatest : store.latest? written d name = some t) :
    t ∈ store.tagsNamed d name := by
  have hmem := List.mem_filter.mp (List.mem_of_getLast? hlatest)
  exact List.contains_iff_mem.mp hmem.2

/-- Of tags that are written at once the only one of a name on a device is the latest. -/
theorem latest?_of_only {new : List TagId} (hmem : t ∈ new) (hnamed : t ∈ store.tagsNamed d name)
    (honly : ∀ u ∈ new, u ∈ store.tagsNamed d name → u = t) :
    store.latest? new d name = some t := by
  cases hlatest : store.latest? new d name with
  | none => exact absurd hnamed (latest?_eq_none_iff.mp hlatest t hmem)
  | some u =>
    have hu := List.mem_filter.mp (List.mem_of_getLast? hlatest)
    rw [honly u hu.1 (List.contains_iff_mem.mp hu.2)]

/-- What was written comes behind what was written before. -/
theorem Tracked.step (htracked : before.Tracked written) (hbefore : before.Sound)
    (hafter : after.Sound) (htraces : ∀ d name, TracesNamed d name before after) :
    after.Tracked (written ++ before.written after) where
  listed d name t ht := by
    rw [List.mem_append]
    cases htraces d name with
    | kept hkept =>
      rw [hkept.tags] at ht
      exact .inl (htracked.listed d name t ht)
    | cleared hcleared =>
      rw [hcleared] at ht
      cases ht
    | wrote u hwrote =>
      by_cases hu : t = u
      · rw [hu]
        exact .inr (mem_written.mpr ⟨hafter.holds_of_tagsNamed hwrote.mem, hwrote.new⟩)
      · exact .inl (htracked.listed d name t (hwrote.others t ht hu).1)
  behind d which t hwhich hlatest := by
    rw [latest?_append] at hlatest
    cases htraces d which.name with
    | kept hkept =>
      have hquiet : after.latest? (before.written after) d which.name = none := by
        rw [latest?_eq_none_iff]
        intro u hu hnamed
        rw [hkept.tags] at hnamed
        rcases (mem_written.mp hu).2 with hnew | hvalue
        · exact hnew (hbefore.holds_of_tagsNamed hnamed)
        · exact hvalue (hkept.value u hnamed)
      rw [hquiet, Option.none_or, latest?, hkept.tags] at hlatest
      rw [hkept.access which rfl]
      exact htracked.behind d which t hwhich hlatest
    | cleared hcleared =>
      rw [← latest?_append] at hlatest
      have hnamed := mem_of_latest? hlatest
      rw [hcleared] at hnamed
      cases hnamed
    | wrote u hwrote =>
      have hnew : after.latest? (before.written after) d which.name = some u := by
        refine latest?_of_only (mem_written.mpr
          ⟨hafter.holds_of_tagsNamed hwrote.mem, hwrote.new⟩) hwrote.mem fun v hv hnamed => ?_
        by_contra hother
        obtain ⟨hold, hvalue⟩ := hwrote.others v hnamed hother
        rcases (mem_written.mp hv).2 with hmade | hset
        · exact hmade (hbefore.holds_of_tagsNamed hold)
        · exact hset hvalue
      rw [hnew, Option.some_or] at hlatest
      rw [hwrote.access which rfl hwhich, hlatest]

/-- A tag that a device did not have before was written. -/
theorem Sound.listed_of_traces (hafter : after.Sound)
    (htraces : ∀ d name, TracesNamed d name before after) (ht : t ∈ (after.device d).tags) :
    t ∈ (before.device d).tags ∨ t ∈ before.written after := by
  have hnamed : t ∈ after.tagsNamed d (after.tag t).name :=
    List.mem_filter.mpr ⟨ht, decide_eq_true rfl⟩
  cases htraces d (after.tag t).name with
  | kept hkept =>
    rw [hkept.tags] at hnamed
    exact .inl (List.mem_filter.mp hnamed).1
  | cleared hcleared =>
    rw [hcleared] at hnamed
    cases hnamed
  | wrote u hwrote =>
    by_cases hu : t = u
    · rw [hu]
      exact .inr (mem_written.mpr ⟨hafter.holds_of_tagsNamed hwrote.mem, hwrote.new⟩)
    · exact .inl (List.mem_filter.mp (hwrote.others t hnamed hu).1).1

/-! ## What the accesses read -/

/-- An access other than that of the type reads the tag of its name that was written last. -/
theorem Tracked.aliasValue_eq (htracked : store.Tracked written) (hsound : store.Sound)
    (haliased : store.Aliased) (d : DeviceId) {which : Alias} (hwhich : which ≠ .type) :
    store.aliasValue d which =
      (store.latest? written d which.name).map fun t => (store.tag t).value := by
  unfold aliasValue
  cases hlatest : store.latest? written d which.name with
  | some t =>
    rw [htracked.behind d which t hwhich hlatest]
    exact if_pos ((hsound.mem_tagsNamed d which.name).mp (mem_of_latest? hlatest)).1
  | none =>
    cases hbehind : (store.device d).aliases.get which with
    | none => rfl
    | some t =>
      refine if_neg fun howner => ?_
      have hnamed := (hsound.mem_tagsNamed d which.name).mpr
        ⟨howner, haliased.behind d which t hbehind⟩
      exact latest?_eq_none_iff.mp hlatest t (htracked.listed d _ t hnamed) hnamed

/-! ## Tags that are not set -/

/-- Every device has the tags that it had, with the same names and values, or none at all. -/
structure Spares (before after : Store) : Prop extends SameAliases before after where
  value : ∀ t, before.tags.Holds t → (after.tag t).value = (before.tag t).value
  tags : ∀ d, (after.device d).tags = (before.device d).tags ∨ (after.device d).tags = []

theorem Sound.keeps_or_clears (hsound : before.Sound) (hspares : Spares before after)
    (d : DeviceId) (name : String) :
    KeepsNamed d name before after ∨ after.tagsNamed d name = [] := by
  rcases hspares.tags d with hsame | hempty
  · refine .inl ⟨tagsNamed_congr hsame (fun t ht => ?_) name, fun t ht => ?_, fun which _ => ?_⟩
    · exact hspares.tagName t (holds_tag_of_device ((hsound.linked.listed d t).mp ht))
    · exact hspares.value t (hsound.holds_of_tagsNamed ht)
    · rw [hspares.aliases]
  · exact .inr (by rw [tagsNamed, hempty]; rfl)

theorem Sound.traces_spared (hsound : before.Sound) (hspares : Spares before after) (d : DeviceId)
    (name : String) : TracesNamed d name before after :=
  (hsound.keeps_or_clears hspares d name).elim .kept .cleared

/-- Where no tag is set, the chronicle stays right without an addition. -/
theorem Tracked.spare (htracked : before.Tracked written) (hsound : before.Sound)
    (hspares : Spares before after) : after.Tracked written where
  listed d name t ht := by
    rcases hsound.keeps_or_clears hspares d name with hkept | hcleared
    · exact htracked.listed d name t (hkept.tags ▸ ht)
    · rw [hcleared] at ht
      cases ht
  behind d which t hwhich hlatest := by
    rcases hsound.keeps_or_clears hspares d which.name with hkept | hcleared
    · rw [latest?, hkept.tags] at hlatest
      rw [hkept.access which rfl]
      exact htracked.behind d which t hwhich hlatest
    · have hnamed := mem_of_latest? hlatest
      rw [hcleared] at hnamed
      cases hnamed

/-- A change that no list of tags and no tag sees. -/
theorem spares_of_same (haliases : SameAliases before after)
    (htags : ∀ d, (after.device d).tags = (before.device d).tags)
    (hvalue : ∀ t, before.tags.Holds t → (after.tag t).value = (before.tag t).value) :
    Spares before after :=
  { haliases with
    value := hvalue
    tags := fun d => .inl (htags d) }

theorem Spares.listed (hspares : Spares before after) (d : DeviceId) :
    (after.device d).tags ⊆ (before.device d).tags := by
  rcases hspares.tags d with hsame | hempty
  · rw [hsame]
    exact List.Subset.refl _
  · rw [hempty]
    exact List.nil_subset _

theorem Restored.spares (hrestored : Restored before after) : Spares before after :=
  spares_of_same hrestored.sameAliases (fun d => by rw [hrestored.device])
    fun t ht => by rw [hrestored.tag t ht]

theorem value_setTagHead (t u : TagId) (h : Option HeadId) :
    ((store.setTagHead t h).tag u).value = (store.tag u).value :=
  @field_updateTag store _ Tag.value (fun tag => { tag with head := h }) (fun _ => rfl) t u

theorem value_linkTag (c : CacheId) (t u : TagId) :
    ((store.linkTag c t).tag u).value = (store.tag u).value := by
  rw [linkTag, enterHead, tag_updateHead, pointToHead, value_setTagHead, tag_ensureHead]

theorem value_linkMissing (c : CacheId) (ts : List TagId) (store : Store) (u : TagId) :
    ((linkMissing c ts store).tag u).value = (store.tag u).value := by
  induction ts generalizing store with
  | nil => rfl
  | cons t rest ih =>
    rw [linkMissing, ih]
    split
    · rfl
    · exact value_linkTag c t u

theorem spares_connect (hd : store.devices.Holds d) (c : CacheId) :
    Spares store (store.connect c d) := by
  refine spares_of_same (sameAliases_connect c d) (fun e => ?_) fun t _ => ?_
  · rw [device_connect hd]
    split <;> rfl
  · exact value_linkMissing c (store.device d).tags store t

theorem spares_attach (hd : store.devices.Holds d) (c : CacheId) :
    Spares store (store.attach c d) := by
  refine spares_of_same (sameAliases_attach c d) (fun e => ?_) fun t _ => ?_
  · rw [device_attach hd]
    split <;> rfl
  · exact value_linkMissing c (store.device d).tags store t

/-- A device that is removed loses all its tags. -/
theorem Sound.spares_detach (hsound : store.Sound) (c : CacheId) (d : DeviceId) :
    Spares store (store.detach c d) :=
  { sameAliases_detach c d with
    value := by
      intro t _
      have hvalue : ((store.unlinkTags (store.device d).tags).tag t).value =
          (store.tag t).value := by
        rw [tag_unlinkTags]
        split <;> rfl
      exact hvalue
    tags := by
      intro e
      have htags : ((store.detach c d).device e).tags =
          ((store.unlinkTags (store.device d).tags).device e).tags :=
        (sameLinks_detach store c d).deviceTags e
      by_cases he : e = d
      · right
        rw [htags, he, List.eq_nil_iff_forall_not_mem]
        intro t ht
        rw [hsound.linked.mem_tags_unlinkTags] at ht
        exact ht.2 ht.1
      · left
        rw [htags, hsound.linked.tags_device_unlinkTags_of_ne he (List.Subset.refl _)] }

/-- An empty store has no tag to account for. -/
theorem tracked_empty : ({} : Store).Tracked [] := by
  have hdevice : ∀ d, ({} : Store).device d = default :=
    fun d => Table.get_of_not_holds (Nat.not_lt_zero _)
  constructor
  · intro d name t ht
    rw [tagsNamed, hdevice] at ht
    cases ht
  · intro d which t _ hlatest
    cases hlatest

end DeviceTags.Store
