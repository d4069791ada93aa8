import DeviceTags.Proofs.Inventory.Reflection
import DeviceTags.Proofs.Lookup.Candidate

/-!
# Which declared device has a tag

Said from the declarations alone: the devices that come to have a tag with a value, and the one of
them that wins, by its priority and then by the first declaration that gives it a tag of that name. A
cache that reflects the declarations lists the entries of a name in the order of these first
declarations, so that the leading entry belongs to the winner.
-/

namespace DeviceTags

namespace Inventory

/-- The declarations of a device come to a tag with a value. -/
def Carries (inventory : Inventory) (name value device : String) : Prop :=
  (declaredTags inventory.devices device).lookup name = some (.string value)

/-- The number by which a declared device is preferred. -/
def rank (inventory : Inventory) (device : String) : Int :=
  ((inventory.declaredPriority device).getD .default).toInt

/-- The device has the tag, and every other device that has it too comes after it: it has a lower
priority, or the same one and is given a tag of the name later. -/
structure Wins (inventory : Inventory) (name value device : String) : Prop where
  carries : inventory.Carries name value device
  first : ∀ other ≠ device, inventory.Carries name value other →
    inventory.rank other < inventory.rank device ∨
      inventory.rank other = inventory.rank device ∧
        firstDeclaring inventory.devices name device < firstDeclaring inventory.devices name other

variable {inventory : Inventory} {name value device other : String}

/-- No two devices win. -/
theorem Wins.unique (hwins : inventory.Wins name value device)
    (hother : inventory.Wins name value other) : other = device := by
  by_contra hne
  have hbefore := hwins.first other hne hother.carries
  have hafter := hother.first device (Ne.symm hne) hwins.carries
  omega

/-! ## Declarations, one device or all at once -/

variable (specs : List DeviceSpec)

theorem lookup_roster (device : String) :
    (inventory.roster specs).lookup device =
      (declaring specs device).getLast?.map inventory.priorityOf := by
  rw [roster, lookup_mergeEntries, List.filter_map, List.map_map, declaring]
  exact List.getLast?_map

theorem lookup_column (name device : String) :
    (column specs name).lookup device = (declaredTags specs device).lookup name := by
  have hvalues : ((specs.flatMap (valuesIn · name)).filter fun pair => pair.1 = device).map
      Prod.snd = (((declaring specs device).flatMap DeviceSpec.tags).filter fun pair =>
        pair.1 = name).map Prod.snd := by
    unfold declaring
    induction specs with
    | nil => rfl
    | cons spec rest ih =>
      rw [List.flatMap_cons, List.filter_append, List.map_append, ih]
      by_cases hspec : spec.name = device
      · have hall : (valuesIn spec name).filter (fun pair => pair.1 = device) =
            valuesIn spec name := by
          rw [List.filter_eq_self]
          simp [valuesIn, hspec]
        rw [hall]
        simp [valuesIn, hspec]
      · simp [valuesIn, hspec]
  rw [column, declaredTags, lookup_mergeEntries, lookup_mergeEntries, hvalues]

/-- One more declaration adds its device to a column, unless the device is there or the declaration
gives no tag of the name. -/
theorem keys_column_concat (spec : DeviceSpec) (name : String) :
    (column (specs ++ [spec]) name).map Prod.fst =
      if spec.name ∈ (column specs name).map Prod.fst ∨ name ∉ spec.tags.map Prod.fst then
        (column specs name).map Prod.fst
      else (column specs name).map Prod.fst ++ [spec.name] := by
  obtain ⟨device, priority, tags⟩ := spec
  dsimp only
  induction tags using List.reverseRecOn with
  | nil =>
    rw [column_concat_nil, if_pos (.inr (by simp))]
  | append_singleton tags tag ih =>
    obtain ⟨key, value⟩ := tag
    rw [column_concat_tag]
    by_cases hkey : key = name
    · subst hkey
      rw [if_pos rfl, map_fst_mergeEntry, ih]
      by_cases hthere : device ∈ (column specs key).map Prod.fst
      · simp [hthere]
      · by_cases hbefore : key ∈ tags.map Prod.fst
        · simp [hthere, hbefore]
        · simp [hthere, hbefore]
    · rw [if_neg hkey, ih]
      have hkeys : name ∈ (tags ++ [(key, value)]).map Prod.fst ↔ name ∈ tags.map Prod.fst := by
        rw [List.map_append, List.mem_append]
        simp [Ne.symm hkey]
      simp only [hkeys]

theorem mem_keys_column (name device : String) :
    device ∈ (column specs name).map Prod.fst ↔
      firstDeclaring specs name device < specs.length := by
  rw [firstDeclaring, List.findIdx_lt_length, column, mem_keys_mergeEntries]
  simp only [valuesIn, List.mem_map, List.mem_flatMap, List.mem_filter, decide_eq_true_eq]
  constructor
  · rintro ⟨_, ⟨spec, hspec, tag, ⟨htag, hname⟩, rfl⟩, rfl⟩
    exact ⟨spec, hspec, rfl, tag, htag, hname⟩
  · rintro ⟨spec, hspec, rfl, tag, htag, hname⟩
    exact ⟨(spec.name, tag.2), ⟨spec, hspec, tag, ⟨htag, hname⟩, rfl⟩, rfl⟩

/-- The devices of a column stand in the order in which they are first given a tag of its name. -/
theorem column_inOrder (name : String) :
    ((column specs name).map Prod.fst).Pairwise fun device other =>
      firstDeclaring specs name device < firstDeclaring specs name other := by
  -- From the end, since a device that is given the tag by the last declaration stands last.
  induction specs using List.reverseRecOn with
  | nil => exact .nil
  | append_singleton specs spec ih =>
    have hkept : ∀ device ∈ (column specs name).map Prod.fst,
        firstDeclaring (specs ++ [spec]) name device = firstDeclaring specs name device := by
      intro device hdevice
      rw [mem_keys_column] at hdevice
      unfold firstDeclaring at *
      rw [List.findIdx_append, if_pos hdevice]
    have horder := ih.imp_of_mem (S := fun device other =>
        firstDeclaring (specs ++ [spec]) name device <
          firstDeclaring (specs ++ [spec]) name other) fun hdevice hother hlt => by
      rw [hkept _ hdevice, hkept _ hother]
      exact hlt
    rw [keys_column_concat]
    split
    · exact horder
    · next hnew =>
      rw [not_or] at hnew
      rw [List.pairwise_append]
      refine ⟨horder, List.pairwise_singleton _ _, fun device hdevice other hother => ?_⟩
      rw [List.mem_singleton.mp hother, hkept device hdevice]
      rw [mem_keys_column] at hdevice hnew
      refine Nat.lt_of_lt_of_le hdevice ?_
      unfold firstDeclaring at *
      rw [List.findIdx_append, if_neg hnew.1]
      omega

end Inventory

/-! ## The leading entry -/

section Reflected

open Inventory Store

variable {inventory : Inventory} {c : CacheId} {store : Store} {name value device : String}
  {d : DeviceId} {t : TagId} (hreflects : Reflects inventory c inventory.devices store)

include hreflects

/-- A device is declared to have a tag exactly if an entry shows it. -/
theorem Reflects.carries_iff :
    inventory.Carries name value device ↔
      ∃ t ∈ store.matching c name value, store.ownerName t = some device := by
  have hcolumn : (device, Datum.string value) ∈ column inventory.devices name ↔
      (some device, Datum.string value) ∈ (column inventory.devices name).map asEntry := by
    simp [asEntry]
  rw [Carries, ← lookup_column, lookup_eq_some_iff_mem (nodup_column _ _), hcolumn,
    ← hreflects.columns]
  simp [shownEntries, asDeclared, shown, matching, and_comm, and_left_comm]

theorem Reflects.rank_eq (hhosts : store.Hosts c device d) :
    inventory.rank device = store.rank d := by
  have hmember : (device, (store.device d).priority) ∈ inventory.roster inventory.devices := by
    rw [← hreflects.members, Store.members, List.mem_map]
    exact ⟨d, hhosts.mem, by rw [hhosts.named]⟩
  have hfound := (lookup_eq_some_iff_mem (nodup_roster _ _)).mpr hmember
  rw [lookup_roster] at hfound
  rw [Inventory.rank, declaredPriority, hfound]
  rfl

/-- Entries stand in the order in which their owners are first given a tag of the name. -/
theorem Reflects.entries_inOrder (name : String) :
    (store.entries c name).Pairwise fun t u =>
      ∀ device other, store.ownerName t = some device → store.ownerName u = some other →
        firstDeclaring inventory.devices name device <
          firstDeclaring inventory.devices name other := by
  have howners : (store.entries c name).map store.ownerName =
      ((column inventory.devices name).map Prod.fst).map some := by
    have hcolumn := congrArg (List.map Prod.fst) (hreflects.columns name)
    rw [shownEntries, List.map_map, List.map_map, List.map_map] at hcolumn
    rw [List.map_map]
    exact hcolumn
  have horder : ((store.entries c name).map store.ownerName).Pairwise fun owner met =>
      ∀ device other, owner = some device → met = some other →
        firstDeclaring inventory.devices name device <
          firstDeclaring inventory.devices name other := by
    rw [howners, List.pairwise_map]
    refine (column_inOrder inventory.devices name).imp fun hlt => ?_
    rintro _ _ ⟨⟩ ⟨⟩
    exact hlt
  exact List.pairwise_map.mp horder

/-- No entry matches exactly if no declared device has the tag. -/
theorem Reflects.matching_eq_nil_iff :
    store.matching c name value = [] ↔ ∀ device, ¬ inventory.Carries name value device := by
  constructor
  · intro hnone device hcarries
    obtain ⟨t, ht, -⟩ := hreflects.carries_iff.mp hcarries
    rw [hnone] at ht
    cases ht
  · intro hnone
    rw [List.eq_nil_iff_forall_not_mem]
    intro t ht
    obtain ⟨d, -, howner⟩ :=
      hreflects.sound.owner_of_entries hreflects.registered (List.mem_filter.mp ht).1
    refine hnone (store.device d).name (hreflects.carries_iff.mpr ⟨t, ht, ?_⟩)
    rw [ownerName, howner, Option.map_some]

/-- The leading entry belongs to the winner. -/
theorem Reflects.wins_of_leads (hleads : store.Leads (store.matching c name value) t d) :
    inventory.Wins name value (store.device d).name := by
  have hownerName : ∀ {u : TagId} {e : DeviceId}, (store.tag u).device = some e →
      store.ownerName u = some (store.device e).name := by
    intro u e howner
    rw [ownerName, howner, Option.map_some]
  have hhosts : ∀ {u : TagId} {e : DeviceId}, u ∈ store.matching c name value →
      (store.tag u).device = some e → store.Hosts c (store.device e).name e := by
    intro u e hu howner
    obtain ⟨f, hf, hother⟩ :=
      hreflects.sound.owner_of_entries hreflects.registered (List.mem_filter.mp hu).1
    rw [howner] at hother
    cases hother
    exact ⟨hf, rfl⟩
  obtain ⟨front, back, hplace, hfront, hback⟩ := hleads.place
  have hlead : t ∈ store.matching c name value := by
    rw [hplace]
    simp
  constructor
  case carries => exact hreflects.carries_iff.mpr ⟨t, hlead, hownerName hleads.owner⟩
  case first =>
    intro other hne hcarries
    obtain ⟨u, hu, hshown⟩ := hreflects.carries_iff.mp hcarries
    have hu' := hu
    rw [hplace, List.mem_append, List.mem_cons] at hu'
    rcases hu' with hu' | rfl | hu'
    · obtain ⟨e, howner, hlt⟩ := hfront u hu'
      rw [hownerName howner, Option.some.injEq] at hshown
      rw [← hshown, hreflects.rank_eq (hhosts hu howner), hreflects.rank_eq (hhosts hlead hleads.owner)]
      exact .inl hlt
    · rw [hownerName hleads.owner, Option.some.injEq] at hshown
      exact absurd hshown.symm hne
    · obtain ⟨e, howner, hle⟩ := hback u hu'
      have hbefore : firstDeclaring inventory.devices name (store.device d).name <
          firstDeclaring inventory.devices name other := by
        have horder := (hreflects.entries_inOrder name).sublist
          (List.filter_sublist (p := fun t => (store.tag t).value = value))
        rw [← Store.matching, hplace, List.pairwise_append, List.pairwise_cons] at horder
        exact horder.2.1.1 u hu' _ _ (hownerName hleads.owner) hshown
      rw [hownerName howner, Option.some.injEq] at hshown
      rw [← hshown] at hbefore ⊢
      rw [hreflects.rank_eq (hhosts hu howner), hreflects.rank_eq (hhosts hlead hleads.owner)]
      omega

end Reflected

end DeviceTags
