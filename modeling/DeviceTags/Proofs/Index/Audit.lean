import DeviceTags.Audit
import DeviceTags.Proofs.Index.Sound

/-!
# What the audit finds

The audit finds nothing in a cache exactly if every tag of its devices is in the head of its name,
once, and every entry of its heads belongs to one of its devices. In a sound store it finds nothing
in a cache that lists all devices that point to it.
-/

namespace DeviceTags.Audit

/-- What the audit looks for. -/
structure Clean (store : Store) (c : CacheId) : Prop where
  attached : ∀ d ∈ (store.cache c).devices, (store.device d).cache = some c
  owned : ∀ d ∈ (store.cache c).devices, ∀ t ∈ (store.device d).tags,
    (store.tag t).device = some d
  linked : ∀ d ∈ (store.cache c).devices, ∀ t ∈ (store.device d).tags,
    ∃ h, store.headOf? c (store.tag t).name = some h ∧ (store.tag t).head = some h ∧
      (store.head h).tags.count t = 1
  named : ∀ entry ∈ (store.cache c).heads, ∀ t ∈ (store.head entry.2).tags,
    (store.tag t).name = entry.1
  registered : ∀ entry ∈ (store.cache c).heads, ∀ t ∈ (store.head entry.2).tags,
    ∃ d ∈ (store.cache c).devices, (store.tag t).device = some d ∧ t ∈ (store.device d).tags

variable {store : Store} {c : CacheId}

theorem linkProblems_eq_nil_iff (device : String) (t : TagId) :
    linkProblems store c device t = [] ↔
      ∃ h, store.headOf? c (store.tag t).name = some h ∧ (store.tag t).head = some h ∧
        (store.head h).tags.count t = 1 := by
  unfold linkProblems
  dsimp only
  cases hfound : store.headOf? c (store.tag t).name with
  | none => simp
  | some h =>
    by_cases hhead : (store.tag t).head = some h
    · by_cases honce : (store.head h).tags.count t = 1 <;> simp [hhead, honce]
    · simp [hhead]

theorem deviceProblems_eq_nil_iff (d : DeviceId) :
    deviceProblems store c d = [] ↔ (store.device d).cache = some c ∧
      ∀ t ∈ (store.device d).tags, (store.tag t).device = some d ∧
        ∃ h, store.headOf? c (store.tag t).name = some h ∧ (store.tag t).head = some h ∧
          (store.head h).tags.count t = 1 := by
  simp only [deviceProblems, tagProblems, List.append_eq_nil_iff, List.flatMap_eq_nil_iff,
    ite_eq_left_iff, reduceCtorEq, imp_false, not_not, linkProblems_eq_nil_iff]

theorem ownerProblems_eq_nil_iff (name : String) (t : TagId) :
    ownerProblems store c name t = [] ↔
      ∃ d ∈ (store.cache c).devices, (store.tag t).device = some d ∧
        (store.device d).cache = some c ∧ t ∈ (store.device d).tags := by
  unfold ownerProblems
  dsimp only
  cases howner : (store.tag t).device with
  | none => simp
  | some d =>
    by_cases hdangling : (store.device d).cache ≠ some c ∨ t ∉ (store.device d).tags
    · simp only [hdangling, if_true, reduceCtorEq, false_iff]
      rintro ⟨e, -, he, hcache, hmem⟩
      cases he
      exact hdangling.elim (fun h => h hcache) fun h => h hmem
    · have hlinked : (store.device d).cache = some c ∧ t ∈ (store.device d).tags := by
        simpa only [not_or, not_not] using hdangling
      by_cases hmem : d ∈ (store.cache c).devices <;> simp [hlinked, hmem]

/-- Whether the audit finds anything, said without it. -/
theorem problems_eq_nil_iff : problems store c = [] ↔ Clean store c := by
  simp only [problems, headProblems, entryProblems, List.append_eq_nil_iff,
    List.flatMap_eq_nil_iff, deviceProblems_eq_nil_iff, ownerProblems_eq_nil_iff, ite_eq_left_iff,
    reduceCtorEq, imp_false, not_not]
  constructor
  · rintro ⟨hdevices, hheads⟩
    constructor
    case attached => exact fun d hd => (hdevices d hd).1
    case owned => exact fun d hd t ht => ((hdevices d hd).2 t ht).1
    case linked => exact fun d hd t ht => ((hdevices d hd).2 t ht).2
    case named => exact fun entry hentry t ht => (hheads entry hentry t ht).1
    case registered =>
      intro entry hentry t ht
      obtain ⟨d, hd, howner, -, hmem⟩ := (hheads entry hentry t ht).2
      exact ⟨d, hd, howner, hmem⟩
  · intro hclean
    constructor
    · intro d hd
      exact ⟨hclean.attached d hd, fun t ht => ⟨hclean.owned d hd t ht, hclean.linked d hd t ht⟩⟩
    · intro entry hentry t ht
      obtain ⟨d, hd, howner, hmem⟩ := hclean.registered entry hentry t ht
      exact ⟨hclean.named entry hentry t ht, d, hd, howner, hclean.attached d hd, hmem⟩

end DeviceTags.Audit

namespace DeviceTags.Store

variable {store : Store}

/-- Where the links agree, a cache is clean if it lists the devices that point to it and all of their
tags are in heads. -/
theorem Meshed.clean {c : CacheId} (hmeshed : store.Meshed fun d => (store.device d).cache)
    (hattached : ∀ d, d ∈ (store.cache c).devices ↔ (store.device d).cache = some c)
    (hindexed : ∀ d ∈ (store.cache c).devices, ∀ t ∈ (store.device d).tags,
      (store.tag t).head.isSome) : Audit.Clean store c where
  attached d hd := (hattached d).mp hd
  owned d _ t ht := (hmeshed.listed d t).mp ht
  linked d hd t ht := by
    obtain ⟨h, hfound, hhead⟩ := hmeshed.head_of_home ((hattached d).mp hd)
      ((hmeshed.listed d t).mp ht) (hindexed d hd t ht)
    refine ⟨h, hfound, hhead, ?_⟩
    exact List.count_eq_one_of_mem (hmeshed.enteredOnce h) ((hmeshed.entered h t).mpr hhead)
  named entry hentry t ht := (hmeshed.owner_of_entry hentry ht).1
  registered entry hentry t ht := by
    obtain ⟨-, d, howner, hcache⟩ := hmeshed.owner_of_entry hentry ht
    exact ⟨d, (hattached d).mpr hcache, howner, (hmeshed.listed d t).mpr howner⟩

/-- A device that points to a cache was made before. -/
theorem registered_iff {c : CacheId} :
    store.Registered c ↔ ∀ i < store.devices.size,
      (store.device ⟨i⟩).cache = some c → (store.cache c).devices.contains ⟨i⟩ = true :=
  ⟨fun hregistered i _ hcache => List.contains_iff_mem.mpr (hregistered ⟨i⟩ hcache),
    fun hall d hcache => List.contains_iff_mem.mp
      (hall d.index (holds_device_of_cache hcache) hcache)⟩

instance (store : Store) (c : CacheId) : Decidable (store.Registered c) :=
  decidable_of_iff _ registered_iff.symm

theorem Sound.clean (hsound : store.Sound) {c : CacheId} (hregistered : store.Registered c) :
    Audit.Clean store c :=
  hsound.linked.meshed.clean (fun _ => hsound.mem_devices_iff hregistered) fun d hd =>
    hsound.isSome_head_of_cache (hsound.attached c d hd)

end DeviceTags.Store
