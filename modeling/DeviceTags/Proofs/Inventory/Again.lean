import DeviceTags.Proofs.Inventory.Pass
import DeviceTags.Proofs.Store.Named

/-!
# A second pass

An inventory that was brought into a cache is brought in once more. Where it declares a tag of a
device twice, the second pass writes the values of the first one again, and on the way the tag has
other values than before. It comes out as it was for two reasons. After a pass every declared tag is
there, and either all its declarations agree or it can be written without a trace, since the first
pass has set the direct access and marked the cache already. And what is declared last has the last
word, in the second pass as in the first.
-/

namespace DeviceTags

open Attachment (named?)
open Inventory (declaredTags)
open Store (KeepsNamed)

variable {inventory : Inventory} {c : CacheId} {specs : List DeviceSpec}
  {store before middle after : Store} {d e : DeviceId} {t : TagId} {device name text : String}

/-! ## The first tag of a name -/

namespace Store

theorem firstTag?_eq_head? (store : Store) (d : DeviceId) (name : String) :
    store.firstTag? d name = (store.tagsNamed d name).head? :=
  List.head?_filter.symm

theorem KeepsNamed.firstTag? (hkeeps : KeepsNamed d name before after) :
    after.firstTag? d name = before.firstTag? d name := by
  rw [firstTag?_eq_head?, hkeeps.tags, firstTag?_eq_head?]

theorem keepsNamed_of_same (htags : (after.device d).tags = (before.device d).tags)
    (haliases : (after.device d).aliases = (before.device d).aliases)
    (htag : ∀ t, after.tag t = before.tag t) (name : String) : KeepsNamed d name before after where
  tags := tagsNamed_congr htags (fun t _ => by rw [htag]) name
  value t _ := by rw [htag]
  access which _ := by rw [haliases]

theorem keepsNamed_setPriority (e : DeviceId) (priority : Priority) (d : DeviceId) (name : String) :
    KeepsNamed d name store (store.setPriority e priority) :=
  keepsNamed_of_same ((sameIndex_setPriority e priority).deviceTags d)
    ((sameAliases_setPriority e priority).aliases d) (fun _ => rfl) name

theorem keepsNamed_enroll (c : CacheId) (device : String) (d : DeviceId) (name : String) :
    KeepsNamed d name store (store.enroll c device) := by
  have hrecord := device_enroll store c device d
  have hsame : ((store.enroll c device).device d).tags = (store.device d).tags ∧
      ((store.enroll c device).device d).aliases = (store.device d).aliases := by
    rw [hrecord]
    split
    · next hnew =>
      rw [hnew, Store.device_next]
      exact ⟨rfl, rfl⟩
    · exact ⟨rfl, rfl⟩
  exact keepsNamed_of_same hsame.1 hsame.2 (tag_enroll store c device) name

theorem keepsNamed_markProbed (c : CacheId) (d : DeviceId) (name : String) :
    KeepsNamed d name store (store.markProbed c) := by
  have htags : ((store.markProbed c).device d).tags = (store.device d).tags := rfl
  have htag : ∀ t, (store.markProbed c).tag t = store.tag t := fun _ => rfl
  exact keepsNamed_of_same htags rfl htag name

/-- The tags of a name on a device are the same, or there was none and there is one. -/
def GrowsNamed (d : DeviceId) (name : String) (before after : Store) : Prop :=
  after.tagsNamed d name = before.tagsNamed d name ∨
    before.tagsNamed d name = [] ∧ ∃ t, after.tagsNamed d name = [t]

theorem GrowsNamed.trans (hfirst : GrowsNamed d name before middle)
    (hsecond : GrowsNamed d name middle after) : GrowsNamed d name before after := by
  rcases hsecond with hsame | ⟨hnone, hmade⟩
  · rwa [GrowsNamed, hsame]
  · rcases hfirst with hsame | ⟨-, t, hthere⟩
    · exact .inr ⟨hsame ▸ hnone, hmade⟩
    · rw [hnone] at hthere
      cases hthere

theorem KeepsNamed.grows (hkeeps : KeepsNamed d name before after) :
    GrowsNamed d name before after := .inl hkeeps.tags

/-- A tag whose value can be set without another change: the direct access of its name points to it,
if that is not the type, and the cache counts as changed. -/
structure Rewritable (store : Store) (c : CacheId) (t : TagId) : Prop where
  behind : ∀ d which, (store.tag t).device = some d → which.name = (store.tag t).name →
    which ≠ .type → (store.device d).aliases.get which = some t
  changed : (store.cache c).changed = true

/-- The first tag of a name on a device has a value, or it can be given the value without another
change. -/
def Admits (store : Store) (c : CacheId) (d : DeviceId) (name text : String) : Prop :=
  ∃ t, store.firstTag? d name = some t ∧ ((store.tag t).value = text ∨ store.Rewritable c t)

theorem Sound.mem_of_firstTag? (hsound : store.Sound) (hfirst : store.firstTag? d name = some t) :
    t ∈ store.tagsNamed d name :=
  (hsound.mem_tagsNamed d name).mpr
    ⟨hsound.owner_of_firstTag? hfirst, (Store.mem_of_firstTag? hfirst).2⟩

/-- What is needed of a first tag, so that it can be written without a trace. -/
theorem Sound.rewritable (hsound : store.Sound) (hfirst : store.firstTag? d name = some t)
    (hbehind : ∀ which, which.name = name → which ≠ .type →
      (store.device d).aliases.get which = some t)
    (hchanged : (store.cache c).changed = true) : store.Rewritable c t where
  behind e which howner hwhich htype := by
    rw [hsound.owner_of_firstTag? hfirst, Option.some.injEq] at howner
    rw [(Store.mem_of_firstTag? hfirst).2] at hwhich
    exact howner ▸ hbehind which hwhich htype
  changed := hchanged

theorem Admits.keep (hadmits : before.Admits c d name text) (hbefore : before.Sound)
    (hafter : after.Sound) (hkeeps : KeepsNamed d name before after)
    (hchanged : (before.cache c).changed = true → (after.cache c).changed = true) :
    after.Admits c d name text := by
  obtain ⟨t, hfirst, hvalue⟩ := hadmits
  have hthere : after.firstTag? d name = some t := hkeeps.firstTag?.trans hfirst
  refine ⟨t, hthere, hvalue.imp (fun hvalue => ?_) fun hrewritable => ?_⟩
  · rw [hkeeps.value t (hbefore.mem_of_firstTag? hfirst), hvalue]
  · refine hafter.rewritable hthere (fun which hwhich htype => ?_) (hchanged hrewritable.changed)
    rw [hkeeps.access which hwhich]
    exact hrewritable.behind d which (hbefore.owner_of_firstTag? hfirst)
      (hwhich.trans (Store.mem_of_firstTag? hfirst).2.symm) htype

/-- A text is given to the first tag of the name, if that has another value. -/
theorem assignTag_of_first (hfirst : store.firstTag? d name = some t) (text : String) :
    store.assignTag d name text true =
      if (store.tag t).value = text then store
      else ((store.setTagValue t text).linkAlias d name (some t)).markDeviceChanged d := by
  rw [assignTag, hfirst]
  rfl

section Assign

variable (hsound : store.Sound) (hcache : (store.device d).cache = some c) (name text : String)

include hsound hcache

/-- Setting a text changes nothing, or the direct access points to the first tag of the name, which
is the only one if there was none before. -/
theorem Sound.assignTag_cases :
    store.assignTag d name text true = store ∨
      ∃ t, (store.assignTag d name text true).firstTag? d name = some t ∧
        (∀ which, which.name = name → which ≠ .type →
          ((store.assignTag d name text true).device d).aliases.get which = some t) ∧
        GrowsNamed d name store (store.assignTag d name text true) := by
  have hd := holds_device_of_cache hcache
  cases hfirst : store.firstTag? d name with
  | none =>
    rw [Store.assignTag, hfirst]
    dsimp only
    have hnone : store.tagsNamed d name = [] := by
      rwa [firstTag?_eq_head?, List.head?_eq_none_iff] at hfirst
    have htags : (((store.appendTag d name text).linkAlias d name
        (some store.tags.next)).markDeviceChanged d).tagsNamed d name = [store.tags.next] := by
      rw [tagsNamed_finish, hsound.tagsNamed_appendTag hd, if_pos ⟨rfl, rfl⟩, hnone, List.nil_append]
    have hheld : (store.appendTag d name text).devices.Holds d :=
      (sameAliases_appendTag d name text).lasting.holds_device hd
    refine .inr ⟨store.tags.next, ?_, fun which hwhich htype => ?_, .inr ⟨hnone, _, htags⟩⟩
    · rw [firstTag?_eq_head?, htags, List.head?_cons]
    · rw [get_finish hheld, if_pos ⟨rfl, hwhich, fun hall => htype hall.1⟩]
  | some first =>
    rw [assignTag_of_first hfirst]
    split
    · exact .inl rfl
    · have hset : SameAliases store (store.setTagValue first text) :=
        sameAliases_updateTag first fun _ => rfl
      have htags : (((store.setTagValue first text).linkAlias d name
          (some first)).markDeviceChanged d).tagsNamed d name = store.tagsNamed d name := by
        have hlisted : ((store.setTagValue first text).device d).tags = (store.device d).tags := rfl
        rw [tagsNamed_finish]
        refine tagsNamed_congr hlisted (fun t ht => hset.tagName t ?_) name
        exact holds_tag_of_device ((hsound.linked.listed d t).mp ht)
      have hheld : (store.setTagValue first text).devices.Holds d := hd
      refine .inr ⟨first, ?_, fun which hwhich htype => ?_, .inl htags⟩
      · rw [firstTag?_eq_head?, htags, ← firstTag?_eq_head?, hfirst]
      · rw [get_finish hheld, if_pos ⟨rfl, hwhich, fun hall => htype hall.1⟩]

theorem Sound.grows_assignTag (e : DeviceId) (other : String) :
    GrowsNamed e other store (store.assignTag d name text true) := by
  by_cases hboth : e = d ∧ other = name
  · obtain ⟨rfl, rfl⟩ := hboth
    rcases hsound.assignTag_cases hcache other text with hsame | ⟨t, -, -, hgrows⟩
    · rw [hsame]
      exact .inl rfl
    · exact hgrows
  · exact ((hsound.touches_setTag (holds_device_of_cache hcache) name (some text) true).others e
      other hboth).grows

/-- What a tag admitted before a text was set it admits afterwards. -/
theorem Sound.admits_assignTag {other value : String} (hadmits : store.Admits c e other value) :
    (store.assignTag d name text true).Admits c e other value := by
  have hd := holds_device_of_cache hcache
  have hset := hsound.setTag hd name (some text) true
  by_cases hboth : e = d ∧ other = name
  · obtain ⟨rfl, rfl⟩ := hboth
    rcases hsound.assignTag_cases hcache other text with hsame | ⟨t, hfirst, hbehind, -⟩
    · rwa [hsame]
    · rcases hsound.changed_assignTag hcache other text with hsame | hchanged
      · rwa [hsame]
      · exact ⟨t, hfirst, .inr (hset.rewritable hfirst hbehind hchanged)⟩
  · exact hadmits.keep hsound hset
      ((hsound.touches_setTag hd name (some text) true).others e other hboth)
      (hsound.changed_of_assignTag hcache name text)

/-- A text that was set is admitted. -/
theorem Sound.assignTag_admits : (store.assignTag d name text true).Admits c d name text := by
  have hpairs := hsound.pairs_assignTag hcache name text d
  have hread : ((store.assignTag d name text true).pairs d).lookup name = some text := by
    rw [hpairs, if_pos rfl, lookup_mergeEntry, if_pos rfl]
  rw [lookup_pairs] at hread
  obtain ⟨t, hfirst, hvalue⟩ := Option.map_eq_some_iff.mp hread
  exact ⟨t, hfirst, .inl hvalue⟩

end Assign

end Store

/-! ## The first pass -/

/-- The device of every declaration is there, and it admits the tags of the declaration. -/
def Inventory.Settled (c : CacheId) (specs : List DeviceSpec) (store : Store) : Prop :=
  ∀ spec ∈ specs, ∃ d, named? store c spec.name = some d ∧
    ∀ tag ∈ spec.tags, ∃ text, tag.2 = .string text ∧ store.Admits c d tag.1 text

/-- The device of every declaration is there, with the priority and the values that are declared
last. -/
structure Inventory.Prevails (inventory : Inventory) (c : CacheId) (specs : List DeviceSpec)
    (store : Store) : Prop where
  priority : ∀ device priority, (inventory.roster specs).lookup device = some priority →
    ∃ d, named? store c device = some d ∧ (store.device d).priority = priority
  value : ∀ device name text, (declaredTags specs device).lookup name = some (.string text) →
    ∃ d, named? store c device = some d ∧ (store.pairs d).lookup name = some text

open Inventory (Settled Prevails)

theorem settled_nil (c : CacheId) (store : Store) : Settled c [] store := nofun

theorem prevails_nil (inventory : Inventory) (c : CacheId) (store : Store) :
    Prevails inventory c [] store where
  priority _ _ hlookup := by cases hlookup
  value _ _ _ hlookup := by cases hlookup

/-- What a step keeps of the tags of every name stays settled. -/
theorem Inventory.Settled.keep (hsettled : Settled c specs before) (hbefore : before.Sound)
    (hafter : after.Sound)
    (hnamed : ∀ device d, named? before c device = some d → named? after c device = some d)
    (hkeeps : ∀ d name, KeepsNamed d name before after)
    (hchanged : (before.cache c).changed = true → (after.cache c).changed = true) :
    Settled c specs after := by
  intro spec hspec
  obtain ⟨d, hfound, hadmits⟩ := hsettled spec hspec
  refine ⟨d, hnamed _ _ hfound, fun tag htag => ?_⟩
  obtain ⟨text, htext, hadmit⟩ := hadmits tag htag
  exact ⟨text, htext, hadmit.keep hbefore hafter (hkeeps d tag.1) hchanged⟩

/-- A declaration without tags asks for its device only, and a priority is not seen. -/
theorem Inventory.Settled.rank (hsettled : Settled c specs store) (hsound : store.Sound)
    (hnamed : named? store c device = some d) (given : Option Priority) (priority : Priority) :
    Settled c (specs ++ [⟨device, given, []⟩]) (store.setPriority d priority) := by
  have hnames : ∀ other e, named? store c other = some e →
      named? (store.setPriority d priority) c other = some e :=
    fun other e hother => (named?_setPriority priority d other).trans hother
  intro spec hspec
  rcases List.mem_append.mp hspec with hold | hnew
  · exact hsettled.keep hsound (hsound.of_sameIndex (Store.sameIndex_setPriority d priority)) hnames
      (Store.keepsNamed_setPriority d priority) id spec hold
  · obtain rfl := List.mem_singleton.mp hnew
    exact ⟨d, hnames device d hnamed, nofun⟩

theorem along_settled (inventory : Inventory) (c : CacheId) :
    Along inventory c (Settled c) where
  found hsound hsettled hnamed priority := hsettled.rank hsound hnamed priority _
  made {specs store device} hsound hc hsettled hmissing priority := by
    have hseated := hsound.named?_enroll_self hc hmissing
    have hkept : Settled c specs (store.enroll c device) :=
      hsettled.keep hsound (hsound.enroll device hc)
        (fun other e hother => by rw [hsound.named?_enroll hc, hother, Option.some_or])
        (Store.keepsNamed_enroll c device) fun _ => Store.changed_enroll hc device
    exact hkept.rank (hsound.enroll device hc) hseated priority _
  assigned {specs store device d priority tags} hsound hsettled hnamed key value := by
    have hcache := cache_of_named? hsound hnamed
    have hstays : ∀ {spec : DeviceSpec}, spec ∈ specs ++ [⟨device, priority, tags⟩] →
        ∃ e, named? (store.assignTag d key value true) c spec.name = some e ∧
          named? store c spec.name = some e ∧ ∀ tag ∈ spec.tags, ∃ text, tag.2 = .string text ∧
            (store.assignTag d key value true).Admits c e tag.1 text := by
      intro spec hspec
      obtain ⟨e, hfound, hadmits⟩ := hsettled spec hspec
      refine ⟨e, (hsound.named?_assignTag hcache key value _).trans hfound, hfound,
        fun tag htag => ?_⟩
      obtain ⟨text, htext, hadmit⟩ := hadmits tag htag
      exact ⟨text, htext, hsound.admits_assignTag hcache key value hadmit⟩
    intro spec hspec
    rcases List.mem_append.mp hspec with hold | hnew
    · obtain ⟨e, hfound, -, hadmits⟩ := hstays (List.mem_append_left _ hold)
      exact ⟨e, hfound, hadmits⟩
    · obtain rfl := List.mem_singleton.mp hnew
      obtain ⟨e, hfound, hthere, hadmits⟩ := hstays (List.mem_append_right _ List.mem_cons_self)
      refine ⟨e, hfound, fun tag htag => ?_⟩
      rcases List.mem_append.mp htag with hfront | hlast
      · exact hadmits tag hfront
      · obtain rfl := List.mem_singleton.mp hlast
        obtain rfl : d = e := Option.some.inj (hnamed.symm.trans hthere)
        exact ⟨value, rfl, hsound.assignTag_admits hcache key value⟩
  marked {specs store} hsound hsettled :=
    hsettled.keep hsound (hsound.of_sameIndex (Store.sameIndex_markProbed c))
      (fun other e hother => (named?_markProbed other).trans hother)
      (Store.keepsNamed_markProbed c) fun hchanged => by rw [Store.changed_markProbed, hchanged]

/-- The last declaration of a device is that of its priority. -/
theorem Inventory.Prevails.rank (hprevails : Prevails inventory c specs store)
    (hsound : store.Sound) (hnamed : named? store c device = some d) (given : Option Priority) :
    Prevails inventory c (specs ++ [⟨device, given, []⟩])
      (store.setPriority d (inventory.priorityOf ⟨device, given, []⟩)) where
  priority other priority hlookup := by
    rw [Inventory.roster_concat, lookup_mergeEntry] at hlookup
    by_cases hother : other = device
    · rw [if_pos hother, Option.some.injEq] at hlookup
      refine ⟨d, by rw [named?_setPriority, hother, hnamed], ?_⟩
      have hd := Store.holds_device_of_cache (cache_of_named? hsound hnamed)
      rw [Store.setPriority, Store.device_updateDevice_self _ hd, ← hlookup]
    · rw [if_neg hother] at hlookup
      obtain ⟨e, hfound, hpriority⟩ := hprevails.priority other priority hlookup
      refine ⟨e, by rw [named?_setPriority, hfound], ?_⟩
      rw [Store.setPriority, Store.device_updateDevice_of_ne _ (named?_ne hnamed hfound hother),
        hpriority]
  value other name text hlookup := by
    rw [Inventory.declaredTags_concat_nil] at hlookup
    obtain ⟨e, hfound, hread⟩ := hprevails.value other name text hlookup
    exact ⟨e, by rw [named?_setPriority, hfound], by rw [Store.pairs_setPriority, hread]⟩

theorem Inventory.Prevails.enroll (hprevails : Prevails inventory c specs store)
    (hsound : store.Sound) (hc : store.caches.Holds c) (device : String) :
    Prevails inventory c specs (store.enroll c device) := by
  have hstays : ∀ {other : String} {e : DeviceId}, named? store c other = some e →
      named? (store.enroll c device) c other = some e ∧ e ≠ store.devices.next := by
    intro other e hfound
    refine ⟨by rw [hsound.named?_enroll hc, hfound, Option.some_or], ?_⟩
    exact Store.ne_next_of_cache (hsound.attached _ _ (mem_devices_of_named? hfound))
  constructor
  case priority =>
    intro other priority hlookup
    obtain ⟨e, hfound, hpriority⟩ := hprevails.priority other priority hlookup
    obtain ⟨hthere, hold⟩ := hstays hfound
    exact ⟨e, hthere, by rw [Store.device_enroll, if_neg hold, hpriority]⟩
  case value =>
    intro other name text hlookup
    obtain ⟨e, hfound, hread⟩ := hprevails.value other name text hlookup
    obtain ⟨hthere, hold⟩ := hstays hfound
    exact ⟨e, hthere, by rw [Store.pairs_enroll, if_neg hold, hread]⟩

/-- The last declaration of a tag is that of its value. -/
theorem Inventory.Prevails.assign {given : Option Priority} {tags : List (String × Datum)}
    (hprevails : Prevails inventory c (specs ++ [⟨device, given, tags⟩]) store)
    (hsound : store.Sound) (hnamed : named? store c device = some d) (key value : String) :
    Prevails inventory c (specs ++ [⟨device, given, tags ++ [(key, .string value)]⟩])
      (store.assignTag d key value true) := by
  have hcache := cache_of_named? hsound hnamed
  have hnames := hsound.named?_assignTag hcache key value
  constructor
  case priority =>
    intro other priority hlookup
    have hbefore : (inventory.roster (specs ++ [⟨device, given, tags⟩])).lookup other =
        some priority := by
      rw [Inventory.roster_concat] at hlookup ⊢
      exact hlookup
    obtain ⟨e, hfound, hpriority⟩ := hprevails.priority other priority hbefore
    refine ⟨e, (hnames other).trans hfound, ?_⟩
    rw [(hsound.look_assignTag hcache key value e).2.2, hpriority]
  case value =>
    intro other name text hlookup
    have hpairs := hsound.pairs_assignTag hcache key value
    rw [Inventory.declaredTags_concat_tag] at hlookup
    by_cases hother : device = other
    · subst hother
      rw [if_pos rfl, lookup_mergeEntry] at hlookup
      refine ⟨d, (hnames device).trans hnamed, ?_⟩
      rw [hpairs, if_pos rfl, lookup_mergeEntry]
      split at hlookup
      · next hname =>
        cases hlookup
        rw [if_pos hname]
      · next hname =>
        obtain ⟨e, hfound, hread⟩ := hprevails.value device name text hlookup
        rw [if_neg hname, Option.some.inj (hnamed.symm.trans hfound), hread]
    · rw [if_neg hother] at hlookup
      obtain ⟨e, hfound, hread⟩ := hprevails.value other name text hlookup
      refine ⟨e, (hnames other).trans hfound, ?_⟩
      rw [hpairs, if_neg (named?_ne hnamed hfound (Ne.symm hother)), hread]

theorem along_prevails (inventory : Inventory) (c : CacheId) :
    Along inventory c (Prevails inventory c) where
  found hsound hprevails hnamed priority := hprevails.rank hsound hnamed priority
  made hsound hc hprevails hmissing priority :=
    (hprevails.enroll hsound hc _).rank (hsound.enroll _ hc)
      (hsound.named?_enroll_self hc hmissing) priority
  assigned hsound hprevails hnamed key value := hprevails.assign hsound hnamed key value
  marked _ hprevails :=
    { priority := fun other priority hlookup => by
        obtain ⟨e, hfound, hpriority⟩ := hprevails.priority other priority hlookup
        exact ⟨e, (named?_markProbed other).trans hfound, hpriority⟩
      value := fun other name text hlookup => by
        obtain ⟨e, hfound, hread⟩ := hprevails.value other name text hlookup
        exact ⟨e, (named?_markProbed other).trans hfound, hread⟩ }

theorem along_grows (inventory : Inventory) (c : CacheId) (before : Store) :
    Along inventory c fun _ store => ∀ d name, Store.GrowsNamed d name before store where
  found _ hgrows _ _ d name := (hgrows d name).trans (Store.keepsNamed_setPriority _ _ d name).grows
  made _ _ hgrows _ _ d name :=
    (hgrows d name).trans ((Store.keepsNamed_enroll c _ d name).grows.trans
      (Store.keepsNamed_setPriority _ _ d name).grows)
  assigned hsound hgrows hnamed key value d name :=
    (hgrows d name).trans
      (hsound.grows_assignTag (cache_of_named? hsound hnamed) key value d name)
  marked _ hgrows d name := (hgrows d name).trans (Store.keepsNamed_markProbed c d name).grows

/-! ## The second pass -/

/-- The stores differ in the values of tags and the priorities of devices at most. -/
structure Store.SameButValues (before after : Store) : Prop where
  heads : after.heads = before.heads
  caches : after.caches = before.caches
  tagCount : after.tags.size = before.tags.size
  tag : ∀ t, after.tag t = { before.tag t with value := (after.tag t).value }
  deviceCount : after.devices.size = before.devices.size
  device : ∀ d, after.device d = { before.device d with priority := (after.device d).priority }

namespace Store.SameButValues

theorem refl (store : Store) : SameButValues store store :=
  ⟨rfl, rfl, rfl, fun _ => rfl, rfl, fun _ => rfl⟩

variable (hsame : SameButValues before after)

include hsame

theorem eq_of_values (hvalue : ∀ t, (after.tag t).value = (before.tag t).value)
    (hpriority : ∀ d, (after.device d).priority = (before.device d).priority) :
    after = before := by
  have htags : after.tags = before.tags := by
    refine Table.ext_get hsame.tagCount fun t => ?_
    have hrecord := hsame.tag t
    rw [hvalue] at hrecord
    exact hrecord
  have hdevices : after.devices = before.devices := by
    refine Table.ext_get hsame.deviceCount fun d => ?_
    have hrecord := hsame.device d
    rw [hpriority] at hrecord
    exact hrecord
  obtain ⟨tags, heads, devices, caches⟩ := after
  cases htags
  cases hdevices
  cases hsame.heads
  cases hsame.caches
  rfl

theorem cache (k : CacheId) : after.cache k = before.cache k := by
  rw [Store.cache, hsame.caches, Store.cache]

theorem named? (device : String) :
    Attachment.named? after c device = Attachment.named? before c device := by
  refine named?_congr (by rw [hsame.cache]) (fun e _ => ?_) device
  rw [hsame.device]

theorem firstTag? (d : DeviceId) (name : String) :
    after.firstTag? d name = before.firstTag? d name := by
  rw [Store.firstTag?, Store.firstTag?, hsame.device]
  exact List.find?_congr fun t _ => by rw [hsame.tag]

theorem setTagValue (ht : after.tags.Holds t) (value : String) :
    SameButValues before (after.setTagValue t value) where
  heads := hsame.heads
  caches := hsame.caches
  tagCount := (Table.size_update _ _ _).trans hsame.tagCount
  tag u := by
    rw [Store.setTagValue, tag_updateTag _ (.inl ht)]
    split
    · rw [hsame.tag u]
    · exact hsame.tag u
  deviceCount := hsame.deviceCount
  device := hsame.device

theorem setPriority (hd : after.devices.Holds d) (priority : Priority) :
    SameButValues before (after.setPriority d priority) where
  heads := hsame.heads
  caches := hsame.caches
  tagCount := hsame.tagCount
  tag := hsame.tag
  deviceCount := (Table.size_update _ _ _).trans hsame.deviceCount
  device e := by
    rw [Store.setPriority, device_updateDevice _ (.inl hd)]
    split
    · rw [hsame.device e]
    · exact hsame.device e

end Store.SameButValues

theorem Aliases.set_get {aliases : Aliases} {which : Alias} {link : Option TagId}
    (hget : aliases.get which = link) : aliases.set which link = aliases := by
  subst hget
  cases which <;> rfl

/-- Where the direct access points to the tag and the cache counts as changed, setting the tag has no
effect beside its value. -/
theorem Store.finish_eq_self (hcache : (store.device d).cache = some c)
    (hc : store.caches.Holds c)
    (hget : ∀ which, which.name = name → (store.device d).aliases.get which = some t)
    (hchanged : (store.cache c).changed = true) :
    (store.linkAlias d name (some t)).markDeviceChanged d = store := by
  have hlinked : store.linkAlias d name (some t) = store := by
    unfold Store.linkAlias
    split
    · rfl
    · next which hfound =>
      split
      · rfl
      · have hset := Aliases.set_get (hget which (Alias.ofName?_eq_some.mp hfound))
        have hdevices : store.devices.update d (fun device =>
            { device with aliases := device.aliases.set which (some t) }) = store.devices :=
          Table.update_eq_self (holds_device_of_cache hcache)
            (congrArg (fun aliases => { store.device d with aliases }) hset)
        rw [updateDevice, hdevices]
  have hcaches : store.caches.update c ({ · with changed := true }) = store.caches := by
    refine Table.update_eq_self hc ?_
    change { store.cache c with changed := true } = store.cache c
    rw [← hchanged]
  rw [hlinked, markDeviceChanged, hcache]
  dsimp only
  rw [updateCache, hcaches]

/-- A tag that declarations ask for. -/
def Inventory.Names (c : CacheId) (settled : Store) (specs : List DeviceSpec) (t : TagId) : Prop :=
  ∃ spec ∈ specs, ∃ tag ∈ spec.tags, ∃ d, named? settled c spec.name = some d ∧
    settled.firstTag? d tag.1 = some t

/-- In the midst of a second pass the store is as the first one left it, but for values and priorities
that are declared, and those values were written without a trace. -/
structure Inventory.Repeats (c : CacheId) (settled : Store) (specs : List DeviceSpec)
    (store : Store) : Prop where
  same : settled.SameButValues store
  value : ∀ t, (store.tag t).value = (settled.tag t).value ∨
    settled.Rewritable c t ∧ Inventory.Names c settled specs t
  priority : ∀ d, (store.device d).priority = (settled.device d).priority ∨
    ∃ spec ∈ specs, named? settled c spec.name = some d

open Inventory (Names Repeats)

section Repeat

variable {settled : Store} {given : Option Priority} {tags : List (String × Datum)}

theorem Inventory.Names.concat (hnames : Names c settled specs t) (spec : DeviceSpec) :
    Names c settled (specs ++ [spec]) t := by
  obtain ⟨other, hother, hasks⟩ := hnames
  exact ⟨other, List.mem_append_left _ hother, hasks⟩

/-- A declaration that goes on with a tag asks for what it asked for. -/
theorem Inventory.Names.extend (hnames : Names c settled (specs ++ [⟨device, given, tags⟩]) t)
    (tag : String × Datum) : Names c settled (specs ++ [⟨device, given, tags ++ [tag]⟩]) t := by
  obtain ⟨other, hother, asked, hasked, hasks⟩ := hnames
  rcases List.mem_append.mp hother with hold | hlast
  · exact ⟨other, List.mem_append_left _ hold, asked, hasked, hasks⟩
  · obtain rfl := List.mem_singleton.mp hlast
    exact ⟨_, List.mem_append_right _ List.mem_cons_self, asked, List.mem_append_left _ hasked, hasks⟩

theorem Inventory.Repeats.rank (hrepeats : Repeats c settled specs store) (hsound : store.Sound)
    (hnamed : named? store c device = some d) (priority : Priority) :
    Repeats c settled (specs ++ [⟨device, given, []⟩]) (store.setPriority d priority) where
  same := by
    have hd := Store.holds_device_of_cache (cache_of_named? hsound hnamed)
    exact hrepeats.same.setPriority hd priority
  value t := (hrepeats.value t).imp_right fun hwritten => ⟨hwritten.1, hwritten.2.concat _⟩
  priority e := by
    by_cases he : e = d
    · subst he
      refine .inr ⟨_, List.mem_append_right _ List.mem_cons_self, ?_⟩
      rw [← hrepeats.same.named?]
      exact hnamed
    · rw [Store.setPriority, Store.device_updateDevice_of_ne _ he]
      refine (hrepeats.priority e).imp_right fun hranked => ?_
      obtain ⟨spec, hspec, hfound⟩ := hranked
      exact ⟨spec, List.mem_append_left _ hspec, hfound⟩

/-- A tag that is written without a trace gets its value and nothing else. -/
theorem Store.SameButValues.finish_setTagValue (hsame : settled.SameButValues store)
    (haliased : settled.Aliased) (hsound : store.Sound)
    (hcache : (store.device d).cache = some c) (hfirst : settled.firstTag? d name = some t)
    (hrewritable : settled.Rewritable c t) (value : String) :
    ((store.setTagValue t value).linkAlias d name (some t)).markDeviceChanged d =
      store.setTagValue t value := by
  have hthere : store.firstTag? d name = some t := (hsame.firstTag? d name).trans hfirst
  have howner := hsound.owner_of_firstTag? hthere
  rw [hsame.tag t] at howner
  have hset : ((store.setTagValue t value).device d).cache = some c := hcache
  have hchanged : ((store.setTagValue t value).cache c).changed = true := by
    change (store.cache c).changed = true
    rw [hsame.cache, hrewritable.changed]
  refine Store.finish_eq_self hset (hsound.held _ _ hcache) (fun which hwhich => ?_)
    hchanged
  change (store.device d).aliases.get which = some t
  have haliases : (store.device d).aliases = (settled.device d).aliases := by
    rw [hsame.device]
  rw [haliases]
  by_cases htype : which = .type
  · subst htype
    exact haliased.first d t (hwhich ▸ hfirst)
  · exact hrewritable.behind d which howner
      (hwhich.trans (Store.mem_of_firstTag? hfirst).2.symm) htype

/-- What is declared of a tag that the first pass has settled is written without a trace. -/
theorem Inventory.Repeats.assign (hrepeats : Repeats c settled (specs ++ [⟨device, given, tags⟩]) store)
    (haliased : settled.Aliased) (hsound : store.Sound)
    (hnamed : named? store c device = some d) {key value : String}
    (hadmits : settled.Admits c d key value) :
    Repeats c settled (specs ++ [⟨device, given, tags ++ [(key, .string value)]⟩])
      (store.assignTag d key value true) := by
  obtain ⟨t, hfirst, hvalue⟩ := hadmits
  have hsame := hrepeats.same
  have hthere : store.firstTag? d key = some t := (hsame.firstTag? d key).trans hfirst
  have hcache := cache_of_named? hsound hnamed
  have howner := hsound.owner_of_firstTag? hthere
  have hpriority : ∀ e, (store.device e).priority = (settled.device e).priority ∨
      ∃ spec ∈ specs ++ [⟨device, given, tags ++ [(key, .string value)]⟩],
        named? settled c spec.name = some e := by
    refine fun e => (hrepeats.priority e).imp_right fun hranked => ?_
    obtain ⟨spec, hspec, hfound⟩ := hranked
    rcases List.mem_append.mp hspec with hold | hlast
    · exact ⟨spec, List.mem_append_left _ hold, hfound⟩
    · obtain rfl := List.mem_singleton.mp hlast
      exact ⟨_, List.mem_append_right _ List.mem_cons_self, hfound⟩
  have hwritten : ∀ u, (store.tag u).value = (settled.tag u).value ∨
      settled.Rewritable c u ∧ Names c settled
        (specs ++ [⟨device, given, tags ++ [(key, .string value)]⟩]) u :=
    fun u => (hrepeats.value u).imp_right fun hwritten => ⟨hwritten.1, hwritten.2.extend _⟩
  rw [Store.assignTag_of_first hthere]
  split
  · exact ⟨hsame, hwritten, hpriority⟩
  · next hother =>
    -- The tag has been given another value on the way, or gets one now.
    have hrewritable : settled.Rewritable c t := by
      rcases hvalue with hsettled | hrewritable
      · rcases hrepeats.value t with hkept | ⟨hwritten, -⟩
        · exact absurd (hkept.trans hsettled) hother
        · exact hwritten
      · exact hrewritable
    have ht : store.tags.Holds t := Store.holds_tag_of_device howner
    rw [hsame.finish_setTagValue haliased hsound hcache hfirst hrewritable]
    refine ⟨hsame.setTagValue ht value, fun u => ?_, hpriority⟩
    by_cases hu : u = t
    · subst hu
      rw [hsame.named?] at hnamed
      exact .inr ⟨hrewritable, _, List.mem_append_right _ List.mem_cons_self, _,
        List.mem_append_right _ List.mem_cons_self, d, hnamed, hfirst⟩
    · rw [Store.setTagValue, Store.tag_updateTag _ (.inl ht), if_neg hu]
      exact hwritten u

end Repeat

/-- What the first pass has settled the second one leaves as it is, as far as it has come. -/
theorem along_repeats (inventory : Inventory) {settled : Store} (haliased : settled.Aliased)
    (hheld : settled.caches.Holds c) (hprobed : (settled.cache c).probed = true) :
    Along inventory c fun specs store =>
      Settled c specs settled → Repeats c settled specs store where
  found hsound hrepeats hnamed priority hsettled :=
    (hrepeats fun spec hspec => hsettled spec (List.mem_append_left _ hspec)).rank hsound hnamed _
  made hsound hc hrepeats hmissing priority hsettled := by
    have hbefore := hrepeats fun spec hspec => hsettled spec (List.mem_append_left _ hspec)
    obtain ⟨d, hfound, -⟩ := hsettled _ (List.mem_append_right _ List.mem_cons_self)
    rw [hbefore.same.named?] at hmissing
    rw [hmissing] at hfound
    cases hfound
  assigned {specs store device d priority tags} hsound hrepeats hnamed key value hsettled := by
    obtain ⟨e, hfound, hadmits⟩ := hsettled _ (List.mem_append_right _ List.mem_cons_self)
    have hbegun : Settled c (specs ++ [⟨device, priority, tags⟩]) settled := by
      intro spec hspec
      rcases List.mem_append.mp hspec with hold | hlast
      · exact hsettled spec (List.mem_append_left _ hold)
      · obtain rfl := List.mem_singleton.mp hlast
        exact ⟨e, hfound, fun tag htag => hadmits tag (List.mem_append_left _ htag)⟩
    have hbefore := hrepeats hbegun
    obtain ⟨text, htext, hadmit⟩ :=
      hadmits (key, .string value) (List.mem_append_right _ List.mem_cons_self)
    obtain rfl : value = text := by
      injection htext
    obtain rfl : d = e := by
      rw [hbefore.same.named?] at hnamed
      exact Option.some.inj (hnamed.symm.trans hfound)
    exact hbefore.assign haliased hsound hnamed hadmit
  marked {specs store} _ hrepeats hsettled := by
    have hbefore := hrepeats hsettled
    have hmarked : store.markProbed c = store := by
      have hcaches : store.caches.update c ({ · with probed := true }) = store.caches := by
        refine Table.update_eq_self ?_ ?_
        · rw [hbefore.same.caches]
          exact hheld
        · change { store.cache c with probed := true } = store.cache c
          rw [← hprobed, hbefore.same.cache]
      rw [Store.markProbed, Store.updateCache, hcaches]
    rw [hmarked]
    exact hbefore

/-- A tag that declarations ask for has a last declaration. -/
theorem Inventory.Settled.lookup_declaredTags (hsettled : Settled c specs store)
    {spec : DeviceSpec} (hspec : spec ∈ specs) {tag : String × Datum} (htag : tag ∈ spec.tags) :
    ∃ text, (declaredTags specs spec.name).lookup tag.1 = some (.string text) := by
  have hmem : (tag.1, tag.2) ∈ (Inventory.declaring specs spec.name).flatMap DeviceSpec.tags :=
    List.mem_flatMap.mpr ⟨spec, List.mem_filter.mpr ⟨hspec, decide_eq_true rfl⟩, htag⟩
  obtain ⟨last, hlookup, hlast⟩ := exists_lookup_mergeEntries hmem
  obtain ⟨other, hother, hdeclared⟩ := List.mem_flatMap.mp hlast
  obtain ⟨_, -, hadmits⟩ := hsettled other (List.mem_filter.mp hother).1
  obtain ⟨text, rfl, -⟩ := hadmits _ hdeclared
  exact ⟨text, hlookup⟩

/-- When a second pass is done, what is declared last has the last word again. -/
theorem Inventory.Repeats.eq {settled : Store} (hrepeats : Repeats c settled specs store)
    (hsettled : Settled c specs settled) (hfirst : Prevails inventory c specs settled)
    (hagain : Prevails inventory c specs store) : store = settled := by
  refine hrepeats.same.eq_of_values (fun t => ?_) fun d => ?_
  · rcases hrepeats.value t with hkept | ⟨-, spec, hspec, tag, htag, d, hnamed, hthere⟩
    · exact hkept
    · obtain ⟨text, hlast⟩ := hsettled.lookup_declaredTags hspec htag
      obtain ⟨e, he, hread⟩ := hfirst.value spec.name tag.1 text hlast
      obtain ⟨e', he', hread'⟩ := hagain.value spec.name tag.1 text hlast
      rw [hrepeats.same.named?] at he'
      obtain rfl : d = e := Option.some.inj (hnamed.symm.trans he)
      obtain rfl : d = e' := Option.some.inj (hnamed.symm.trans he')
      rw [Store.lookup_pairs, hthere, Option.map_some, Option.some.injEq] at hread
      rw [Store.lookup_pairs, hrepeats.same.firstTag?, hthere, Option.map_some,
        Option.some.injEq] at hread'
      rw [hread, hread']
  · rcases hrepeats.priority d with hkept | ⟨spec, hspec, hnamed⟩
    · exact hkept
    · have hmem : (spec.name, inventory.priorityOf spec) ∈
          specs.map fun spec => (spec.name, inventory.priorityOf spec) :=
        List.mem_map_of_mem hspec
      obtain ⟨last, hlast, -⟩ := exists_lookup_mergeEntries hmem
      obtain ⟨e, he, hranked⟩ := hfirst.priority spec.name last hlast
      obtain ⟨e', he', hranked'⟩ := hagain.priority spec.name last hlast
      rw [hrepeats.same.named?] at he'
      obtain rfl : d = e := Option.some.inj (hnamed.symm.trans he)
      obtain rfl : d = e' := Option.some.inj (hnamed.symm.trans he')
      rw [hranked, hranked']

/-! ## Two passes -/

/-- After a pass over any reachable state, a second one changes nothing at all. Either of them fails
for want of memory only, and none gives a device a second tag of a name. -/
theorem second_pass_changes_nothing {memory : Memory} (hreach : Reachable memory)
    (supply again : Supply) (host : Host) (hc : memory.store.caches.Holds c)
    (hvalid : ∀ spec ∈ inventory.devices, spec.Valid) :
    Does ((Prober.inventory inventory).probe host c) { memory with supply }
      (fun _ once =>
        (∀ d name, Store.GrowsNamed d name memory.store once.store) ∧
        Does ((Prober.inventory inventory).probe host c) { once with supply := again }
          (fun _ twice => twice.store = once.store)
          fun failure _ => again ≠ .unlimited ∧ failure.kind.isA .memory)
      fun failure _ => supply ≠ .unlimited ∧ failure.kind.isA .memory := by
  obtain ⟨arrivals, hrun⟩ := hreach
  have hsound : memory.store.Sound := hrun.sound.1
  have hpackaged : (Prober.inventory inventory).IsPackaged := trivial
  have hadvances : Advances Memory.store ((Prober.inventory inventory).probe host c)
      { memory with supply } fun _ _ => True :=
    advances_prober host hpackaged hsound hc
  have hfirst : UnlessShort (inventory.probe c) { memory with supply } _ :=
    ((along_settled inventory c).and
      ((along_prevails inventory c).and (along_grows inventory c memory.store))).short_probe
        hvalid hsound hc
          ⟨settled_nil c _, prevails_nil inventory c _, fun _ _ => .inl rfl⟩
  refine Does.mono (Does.and hadvances hfirst) (fun _ once honce => ?_) fun _ _ hfailed => hfailed.2
  obtain ⟨⟨hadvance, -⟩, -, ⟨hsettled, hprevails, hgrows⟩, hprobed⟩ := honce
  have hheld := hadvance.progress.lasting.holds_cache hc
  refine ⟨hgrows, ?_⟩
  have hrepeating := along_repeats inventory (hadvance.aliased hrun.aliased) hheld hprobed
  have hstart : Settled c [] once.store → Repeats c once.store [] once.store :=
    fun _ => ⟨.refl _, fun _ => .inl rfl, fun _ => .inl rfl⟩
  have hsecond : UnlessShort (inventory.probe c) { once with supply := again } _ :=
    (hrepeating.and (along_prevails inventory c)).short_probe hvalid hadvance.sound hheld
      ⟨hstart, prevails_nil inventory c _⟩
  refine Does.mono hsecond (fun _ twice htwice => ?_) fun _ _ hfailed => hfailed
  obtain ⟨-, ⟨hrepeats, hprevailing⟩, -⟩ := htwice
  exact (hrepeats hsettled).eq hsettled hprevails hprevailing

/-- An inventory that declares a device twice, with another priority and another label. -/
def conflicting : Inventory where
  devices := [{ name := "/dev/sda1", priority := some (.integer 5),
                tags := [("LABEL", .string "spare"), ("UUID", .string "1234")] },
              { name := "/dev/sdb1", tags := [("LABEL", .string "spare")] },
              { name := "/dev/sda1", priority := some (.integer 9),
                tags := [("LABEL", .string "data")] }]

/-- The first label is written twice in each pass and comes out as it was, but the device reads it
now instead of the second one. -/
theorem conflicting_settles : ∃ once twice,
    (Prober.inventory conflicting).probe .bare ⟨0⟩ { relabelled with supply := .unlimited } =
      .ok () once ∧
    (Prober.inventory conflicting).probe .bare ⟨0⟩ { once with supply := .unlimited } =
      .ok () twice ∧
    twice.store = once.store ∧
    once.store.pairs ⟨0⟩ =
      [("LABEL", "data"), ("TYPE", "ext3"), ("LABEL", "spare"), ("TYPE", "jbd"), ("UUID", "1234")] ∧
    relabelled.store.aliasValue ⟨0⟩ .label = some "spare" ∧
    once.store.aliasValue ⟨0⟩ .label = some "data" ∧
    (once.store.device ⟨0⟩).priority = .integer 9 := by
  have hvalid : ∀ spec ∈ conflicting.devices, spec.Valid := by
    intro spec hspec
    simp only [conflicting, List.mem_cons, List.not_mem_nil, or_false] at hspec
    rcases hspec with rfl | rfl | rfl
    all_goals exact ⟨by decide, by decide, by simp⟩
  -- The state is known by a name only, so that nothing evaluates the passes on the way.
  obtain ⟨memory, hmemory⟩ : ∃ memory, memory = relabelled := ⟨_, rfl⟩
  have hreach : Reachable memory := hmemory ▸ reachable_relabelled
  have hheld : memory.store.caches.Holds ⟨0⟩ := by
    rw [hmemory]
    decide
  rw [← hmemory]
  have hpasses := second_pass_changes_nothing hreach .unlimited .unlimited .bare hheld hvalid
  obtain ⟨_, once, honce, -, hsecond⟩ := hpasses.exists_ok_of_not fun _ _ hfailed => hfailed.1 rfl
  obtain ⟨_, twice, htwice, hsame⟩ := hsecond.exists_ok_of_not fun _ _ hfailed => hfailed.1 rfl
  have hafter : once = ((Prober.inventory conflicting).probe .bare ⟨0⟩).after
      { relabelled with supply := .unlimited } := by
    rw [← hmemory, Op.after, honce]
  refine ⟨once, twice, honce, htwice, hsame, ?_, ?_, ?_, ?_⟩
  case refine_2 =>
    rw [hmemory]
    decide +kernel
  all_goals
    rw [hafter]
    decide +kernel

end DeviceTags
