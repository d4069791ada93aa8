import DeviceTags.Proofs.Inventory.Declared
import DeviceTags.Proofs.Revising

/-!
# A pass over devices that have a history

An inventory is brought into a cache that may hold anything: devices of the declared names with any
tags, several of one name among them. Afterwards the first tag of every declared name has the
declared value. The direct accesses follow, with one exception: where the first label or the first
identifier had the declared value before, nothing is set, and the access stays with whatever tag it
pointed to.
-/

namespace DeviceTags

open Store (Sound Aliased Advance SameDevice Revises)

variable {inventory : Inventory} {before middle after : Store} {c : CacheId} {d e : DeviceId}
  {name : String} {tags : List (String × Datum)}

/-! ## One tag -/

namespace Store

/-- What a device reads under a name after a text was set in the place of the first tag. -/
structure Reads (d : DeviceId) (name text : String) (before after : Store) : Prop where
  first : (after.pairs d).lookup name = some text
  access : ∀ which, which.name = name → after.aliasValue d which =
    if (before.pairs d).lookup name = some text then before.aliasValue d which else some text

/-- A device reads under a name what it read. -/
structure ReadsSame (d : DeviceId) (name : String) (before after : Store) : Prop where
  first : (after.pairs d).lookup name = (before.pairs d).lookup name
  access : ∀ which, which.name = name → after.aliasValue d which = before.aliasValue d which

theorem Reads.then_same {text : String} (hreads : Reads d name text before middle)
    (hsame : ReadsSame d name middle after) : Reads d name text before after where
  first := hsame.first.trans hreads.first
  access which hwhich := (hsame.access which hwhich).trans (hreads.access which hwhich)

theorem ReadsSame.then_reads {text : String} (hsame : ReadsSame d name before middle)
    (hreads : Reads d name text middle after) : Reads d name text before after where
  first := hreads.first
  access which hwhich := by
    rw [hreads.access which hwhich, hsame.first, hsame.access which hwhich]

theorem ReadsSame.trans (hfirst : ReadsSame d name before middle)
    (hsecond : ReadsSame d name middle after) : ReadsSame d name before after where
  first := hsecond.first.trans hfirst.first
  access which hwhich := (hsecond.access which hwhich).trans (hfirst.access which hwhich)

theorem SameDevice.readsSame (hsame : SameDevice before after d) (name : String) :
    ReadsSame d name before after :=
  ⟨by rw [hsame.pairs], fun which _ => hsame.access which⟩

/-- An access to a name that gets a value reads that value, unless the first tag of the name had it
before. -/
theorem Sound.aliasValue_assignTag (hsound : before.Sound) (haliased : before.Aliased)
    (hd : before.devices.Holds d) {which : Alias} (hwhich : which.name = name) (text : String) :
    (before.assignTag d name text true).aliasValue d which =
      if (before.pairs d).lookup name = some text then before.aliasValue d which
      else some text := by
  refine (hsound.aliasValue_setTag hwhich haliased hd (some text) true).trans ?_
  unfold Revision.of
  cases hfirst : (before.pairs d).lookup name with
  | none =>
    have hunset : ¬ (which = .type ∧ (before.aliasValue d which).isSome) := by
      rintro ⟨rfl, hset⟩
      rw [haliased.aliasValue_type hsound, ← lookup_pairs, hwhich, hfirst] at hset
      cases hset
    rw [if_neg nofun]
    exact if_neg hunset
  | some old =>
    dsimp only
    by_cases hvalue : old = text
    · rw [if_pos hvalue, if_pos (congrArg some hvalue)]
      rfl
    · rw [if_neg hvalue, if_neg (hvalue ∘ Option.some.inj), if_pos rfl]
      rfl

end Store

/-! ## The tags of one device -/

open Store (Reads ReadsSame)

/-- The declared tags of a device were set, and nothing of another device was changed. -/
structure Store.Fills (d : DeviceId) (tags : List (String × Datum)) (before after : Store) :
    Prop where
  advance : before.Advance after
  reads : ∀ name text, (name, .string text) ∈ tags → Reads d name text before after
  otherNames : ∀ name, name ∉ tags.map Prod.fst → ReadsSame d name before after
  otherDevices : ∀ e, e ≠ d → SameDevice before after e
  look : (after.device d).name = (before.device d).name ∧
    (after.device d).priority = (before.device d).priority ∧
    (after.device d).cache = (before.device d).cache
  devices : ∀ c, (after.cache c).devices = (before.cache c).devices

open Store (Fills)

theorem fills_nil (hsound : before.Sound) (d : DeviceId) : Fills d [] before before where
  advance := .refl hsound
  reads _ _ := nofun
  otherNames name _ := (SameDevice.refl before d).readsSame name
  otherDevices e _ := .refl before e
  look := ⟨rfl, rfl, rfl⟩
  devices _ := rfl

/-- A name that is declared once is read after the other names were set as after it was set itself. -/
theorem Store.Fills.cons {text : String} (hfirst : Fills d [(name, .string text)] before middle)
    (hrest : Fills d tags middle after) (hnew : name ∉ tags.map Prod.fst) :
    Fills d ((name, .string text) :: tags) before after where
  advance := hfirst.advance.trans hrest.advance
  reads other value hmem := by
    rcases List.mem_cons.mp hmem with hhead | htail
    · cases hhead
      exact (hfirst.reads _ _ List.mem_cons_self).then_same (hrest.otherNames _ hnew)
    · have hother : other ≠ name :=
        ne_of_mem_of_not_mem (List.mem_map_of_mem (f := Prod.fst) htail) hnew
      exact (hfirst.otherNames other (by simpa using hother)).then_reads
        (hrest.reads other value htail)
  otherNames other hother := by
    rw [List.map_cons, List.mem_cons, not_or] at hother
    exact (hfirst.otherNames other (by simpa using hother.1)).trans
      (hrest.otherNames other hother.2)
  otherDevices e he := (hfirst.otherDevices e he).trans (hrest.otherDevices e he)
  look := ⟨hrest.look.1.trans hfirst.look.1, hrest.look.2.1.trans hfirst.look.2.1,
    hrest.look.2.2.trans hfirst.look.2.2⟩
  devices c := (hrest.devices c).trans (hfirst.devices c)

theorem Store.Sound.fills_setTag (hsound : before.Sound) (haliased : before.Aliased)
    (hcache : (before.device d).cache = some c) (name text : String) :
    Fills d [(name, .string text)] before (before.setTag d name (some text) true) := by
  have hd := Store.holds_device_of_cache hcache
  have hrevises := hsound.revises_setTag hd name (some text) true
  have hpairs := hsound.pairs_assignTag hcache name text d
  rw [if_pos rfl] at hpairs
  constructor
  case advance => exact hsound.advance_setTag hd name (some text) true
  case reads =>
    intro other value hmem
    obtain ⟨rfl, rfl⟩ : other = name ∧ value = text := by simpa using hmem
    constructor
    · rw [Store.setTag, hpairs, lookup_mergeEntry, if_pos rfl]
    · exact fun which hwhich => hsound.aliasValue_assignTag haliased hd hwhich value
  case otherNames =>
    intro other hother
    have hne : other ≠ name := by simpa using hother
    constructor
    · rw [Store.setTag, hpairs, lookup_mergeEntry, if_neg hne]
    · rintro which rfl
      exact hrevises.access haliased hne
  case otherDevices =>
    exact fun e he => hrevises.sameDevice hsound (hsound.setTag hd name (some text) true) he
  case look => exact hrevises.look
  case devices => exact hrevises.devices

theorem short_bringTags {memory : Memory} (tags : List (String × Datum))
    (hnamed : ∀ tag ∈ tags, tag.1 ≠ "") (htexts : ∀ tag ∈ tags, ∃ text, tag.2 = .string text)
    (honce : (tags.map Prod.fst).Nodup) (hsound : memory.store.Sound)
    (haliased : memory.store.Aliased) (hcache : (memory.store.device d).cache = some c) :
    UnlessShort (Inventory.bringTags d tags) memory fun _ store =>
      Fills d tags memory.store store := by
  induction tags generalizing memory with
  | nil => exact .pure (fills_nil hsound d)
  | cons tag rest ih =>
    obtain ⟨name, datum⟩ := tag
    obtain ⟨text, rfl⟩ := htexts (name, datum) List.mem_cons_self
    have hname : name ≠ "" := hnamed (name, .string text) List.mem_cons_self
    rw [List.map_cons, List.nodup_cons] at honce
    unfold Inventory.bringTags
    refine (short_set hsound (Store.holds_device_of_cache hcache) hname text true).bind
      fun _ after hafter => ?_
    have hfirst : Fills d [(name, .string text)] memory.store after.store := by
      rw [hafter]
      exact hsound.fills_setTag haliased hcache name text
    refine (ih (fun tag ht => hnamed tag (List.mem_cons_of_mem _ ht))
      (fun tag ht => htexts tag (List.mem_cons_of_mem _ ht)) honce.2 hfirst.advance.sound
      (hfirst.advance.aliased haliased) (hfirst.look.2.2.trans hcache)).mono fun _ _ hrest => ?_
    exact hfirst.cons hrest honce.1

/-! ## One device -/

open Attachment (named?)

/-- A device of a name is in the cache, found or made, and reads what it read. -/
structure Store.Seats (c : CacheId) (device : String) (d : DeviceId) (before after : Store) :
    Prop where
  advance : before.Advance after
  named : named? after c device = some d
  own : before.devices.Holds d → (before.device d).name = device
  readsSame : ∀ name, ReadsSame d name before after
  otherNames : ∀ other, other ≠ device → named? after c other = named? before c other
  otherDevices : ∀ e, e ≠ d → SameDevice before after e

open Store (Seats)

theorem Store.Sound.seats_found (hsound : before.Sound) {device : String}
    (hfound : named? before c device = some d) : Seats c device d before before where
  advance := .refl hsound
  named := hfound
  own _ := (hosts_of_named? hfound).named
  readsSame name := (SameDevice.refl before d).readsSame name
  otherNames _ _ := rfl
  otherDevices e _ := .refl before e

/-- A device that is not there has no tags and no direct accesses, as the record that stands for it
has none. -/
theorem Store.Sound.seats_enroll (hsound : before.Sound) (hc : before.caches.Holds c)
    {device : String} (hmissing : named? before c device = none) :
    Seats c device before.devices.next before (before.enroll c device) := by
  have hmade : before.Advance { before with devices := before.devices.add { name := device } } :=
    hsound.advance_of_sameIndex (Store.sameIndex_addDevice device .default {})
      (Store.sameCollaborators_of_caches fun _ => rfl)
      (Store.sameAliases_addDevice device .default {})
  have henrolled : (before.enroll c device).Sound := hsound.enroll device hc
  have hnext := Store.device_enroll before c device before.devices.next
  rw [if_pos rfl] at hnext
  have hnamed := hsound.named?_enroll hc device
  constructor
  case advance =>
    have hnew := Store.device_next_add before { name := device }
    refine hmade.trans (hmade.sound.advance_attach hc (Table.holds_next_add _ _) ?_ ?_)
    · exact hmade.sound.invites_of_free (by rw [hnew]) c
    · rw [hnew]
  case named => exact hsound.named?_enroll_self hc hmissing
  case own => exact fun hheld => absurd hheld (Table.not_holds_next _)
  case readsSame =>
    intro name
    constructor
    · rw [Store.pairs_enroll, if_pos rfl, Store.pairs, Store.device_next]
      rfl
    · intro which _
      rw [Store.aliasValue, Store.aliasValue, hnext, Store.device_next]
      cases which <;> rfl
  case otherNames =>
    intro other hother
    rw [hnamed, if_neg (Ne.symm hother), Option.or_none]
  case otherDevices =>
    intro e he
    have hrecord : (before.enroll c device).device e = before.device e := by
      rw [Store.device_enroll, if_neg he]
    exact Store.sameDevice_of_record hsound henrolled hrecord fun t _ =>
      Store.tag_enroll before c device t

/-- A device that gets a priority reads what it read. -/
theorem Store.Seats.rank {device : String} (hseats : Seats c device d before middle)
    (priority : Priority) : Seats c device d before (middle.setPriority d priority) := by
  have hranked : middle.Advance (middle.setPriority d priority) :=
    hseats.advance.sound.advance_of_sameIndex (Store.sameIndex_setPriority d priority)
      (Store.sameCollaborators_of_caches fun _ => rfl) (Store.sameAliases_setPriority d priority)
  have hnames : ∀ other, named? (middle.setPriority d priority) c other = named? middle c other :=
    named?_setPriority priority d
  constructor
  case advance => exact hseats.advance.trans hranked
  case named => rw [hnames, hseats.named]
  case own => exact hseats.own
  case readsSame =>
    refine fun name => (hseats.readsSame name).trans ⟨by rw [Store.pairs_setPriority], ?_⟩
    intro which _
    refine Store.aliasValue_of_same ?_ (fun _ _ => Iff.rfl) fun _ _ _ => rfl
    rw [(Store.sameAliases_setPriority d priority).aliases]
  case otherNames =>
    intro other hother
    rw [hnames, hseats.otherNames other hother]
  case otherDevices =>
    intro e he
    refine (hseats.otherDevices e he).trans ?_
    exact Store.sameDevice_of_record hseats.advance.sound hranked.sound
      (Store.device_updateDevice_of_ne middle he _) fun _ _ => rfl

/-- A declared device is in the cache with its priority and its tags. -/
structure Inventory.Shows (inventory : Inventory) (c : CacheId) (spec : DeviceSpec) (d : DeviceId)
    (before after : Store) : Prop where
  named : named? after c spec.name = some d
  priority : (after.device d).priority = inventory.priorityOf spec
  reads : ∀ name text, (name, .string text) ∈ spec.tags → Reads d name text before after

/-- A declared device was brought in, and no other device was changed. -/
structure Inventory.Brings (inventory : Inventory) (c : CacheId) (spec : DeviceSpec) (d : DeviceId)
    (before after : Store) : Prop extends inventory.Shows c spec d before after where
  advance : before.Advance after
  own : before.devices.Holds d → (before.device d).name = spec.name
  otherNames : ∀ other, other ≠ spec.name → named? after c other = named? before c other
  otherDevices : ∀ e, e ≠ d → SameDevice before after e

open Inventory (Shows Brings)

theorem Store.Seats.fill {spec : DeviceSpec} (hseats : Seats c spec.name d before middle)
    (hpriority : (middle.device d).priority = inventory.priorityOf spec)
    (hfills : Fills d spec.tags middle after) : Brings inventory c spec d before after := by
  have hnames : ∀ other, named? after c other = named? middle c other := by
    refine named?_congr (hfills.devices c) fun e _ => ?_
    by_cases he : e = d
    · rw [he]
      exact hfills.look.1
    · rw [(hfills.otherDevices e he).record]
  constructor
  case toShows =>
    refine ⟨(hnames spec.name).trans hseats.named, hfills.look.2.1.trans hpriority, ?_⟩
    exact fun name text hmem => (hseats.readsSame name).then_reads (hfills.reads name text hmem)
  case advance => exact hseats.advance.trans hfills.advance
  case own => exact hseats.own
  case otherNames => exact fun other hother => (hnames other).trans (hseats.otherNames other hother)
  case otherDevices =>
    exact fun e he => (hseats.otherDevices e he).trans (hfills.otherDevices e he)

theorem short_bringDevice {memory : Memory} (spec : DeviceSpec) (hvalid : spec.Valid)
    (honce : (spec.tags.map Prod.fst).Nodup) (hsound : memory.store.Sound)
    (haliased : memory.store.Aliased) (hc : memory.store.caches.Holds c) :
    UnlessShort (inventory.bringDevice c spec) memory fun _ store =>
      ∃ d, Brings inventory c spec d memory.store store := by
  unfold Inventory.bringDevice
  refine (short_obtain hsound hvalid.named).bind fun d found hfound => .edit_bind ?_
  have hseats : Seats c spec.name d memory.store found.store := by
    rcases hfound with ⟨hnamed, hsame⟩ | ⟨hmissing, rfl, hmade⟩
    · rw [hsame]
      exact hsound.seats_found hnamed
    · rw [hmade]
      exact hsound.seats_enroll hc hmissing
  have hranked := hseats.rank (inventory.priorityOf spec)
  have hcache := hranked.advance.sound.attached c d (hosts_of_named? hranked.named).mem
  have hheld : found.store.devices.Holds d :=
    Store.holds_device_of_cache (hseats.advance.sound.attached c d
      (hosts_of_named? hseats.named).mem)
  have hpriority : ((found.store.setPriority d (inventory.priorityOf spec)).device d).priority =
      inventory.priorityOf spec := by
    rw [Store.setPriority, Store.device_updateDevice_self _ hheld]
  refine (short_bringTags spec.tags hvalid.tagsNamed hvalid.texts honce
    hranked.advance.sound (hranked.advance.aliased haliased) hcache).mono
      fun _ after hfills => ?_
  exact ⟨d, hranked.fill hpriority hfills⟩

/-! ## All devices -/

/-- The declared devices are in the cache with their priorities and their tags, and the devices of
other names are as they were. -/
structure Inventory.BringsAll (inventory : Inventory) (c : CacheId) (specs : List DeviceSpec)
    (before after : Store) : Prop where
  advance : before.Advance after
  shows : ∀ spec ∈ specs, ∃ d, inventory.Shows c spec d before after
  otherNames : ∀ other, other ∉ specs.map DeviceSpec.name →
    named? after c other = named? before c other
  otherDevices : ∀ e, before.devices.Holds e → (before.device e).name ∉ specs.map DeviceSpec.name →
    SameDevice before after e

open Inventory (BringsAll)

theorem bringsAll_nil (hsound : before.Sound) : BringsAll inventory c [] before before where
  advance := .refl hsound
  shows _ := nofun
  otherNames _ _ := rfl
  otherDevices e _ _ := .refl before e

/-- A device that was brought in stays as it is while devices of other names are brought in. -/
theorem Inventory.BringsAll.cons {spec : DeviceSpec} {specs : List DeviceSpec}
    (hfirst : Brings inventory c spec d before middle)
    (hrest : BringsAll inventory c specs middle after)
    (hnew : spec.name ∉ specs.map DeviceSpec.name) :
    BringsAll inventory c (spec :: specs) before after := by
  have hhosts := hosts_of_named? hfirst.named
  have hheld : middle.devices.Holds d :=
    Store.holds_device_of_cache (hfirst.advance.sound.attached c d hhosts.mem)
  have hstays : SameDevice middle after d := by
    refine hrest.otherDevices d hheld ?_
    rw [hhosts.named]
    exact hnew
  constructor
  case advance => exact hfirst.advance.trans hrest.advance
  case shows =>
    intro other hmem
    rcases List.mem_cons.mp hmem with rfl | htail
    · refine ⟨d, (hrest.otherNames other.name hnew).trans hfirst.named, ?_, fun name text ht => ?_⟩
      · rw [hstays.record, hfirst.priority]
      · exact (hfirst.reads name text ht).then_same (hstays.readsSame name)
    · obtain ⟨e, hshows⟩ := hrest.shows other htail
      have he : e ≠ d := by
        rintro rfl
        have hname := (hosts_of_named? hshows.named).named
        rw [hstays.record, hhosts.named] at hname
        exact hnew (hname ▸ List.mem_map_of_mem htail)
      refine ⟨e, hshows.named, hshows.priority, fun name text ht => ?_⟩
      exact ((hfirst.otherDevices e he).readsSame name).then_reads (hshows.reads name text ht)
  case otherNames =>
    intro other hother
    rw [List.map_cons, List.mem_cons, not_or] at hother
    exact (hrest.otherNames other hother.2).trans (hfirst.otherNames other hother.1)
  case otherDevices =>
    intro e hold hname
    rw [List.map_cons, List.mem_cons, not_or] at hname
    have he : e ≠ d := by
      rintro rfl
      exact hname.1 (hfirst.own hold)
    have hsame := hfirst.otherDevices e he
    refine hsame.trans (hrest.otherDevices e ?_ ?_)
    · exact hfirst.advance.progress.lasting.holds_device hold
    · rw [hsame.record]
      exact hname.2

theorem short_bringDevices {memory : Memory} (specs : List DeviceSpec)
    (hvalid : ∀ spec ∈ specs, spec.Valid ∧ (spec.tags.map Prod.fst).Nodup)
    (honce : (specs.map DeviceSpec.name).Nodup) (hsound : memory.store.Sound)
    (haliased : memory.store.Aliased) (hc : memory.store.caches.Holds c) :
    UnlessShort (inventory.bringDevices c specs) memory fun _ store =>
      BringsAll inventory c specs memory.store store := by
  induction specs generalizing memory with
  | nil => exact .pure (bringsAll_nil hsound)
  | cons spec rest ih =>
    rw [List.map_cons, List.nodup_cons] at honce
    obtain ⟨hspec, htags⟩ := hvalid spec List.mem_cons_self
    unfold Inventory.bringDevices
    refine (short_bringDevice spec hspec htags hsound haliased hc).bind fun _ brought hbrought => ?_
    obtain ⟨d, hfirst⟩ := hbrought
    refine (ih (fun other hother => hvalid other (List.mem_cons_of_mem _ hother)) honce.2
      hfirst.advance.sound (hfirst.advance.aliased haliased)
      (hfirst.advance.progress.lasting.holds_cache hc)).mono fun _ after hrest => ?_
    exact .cons hfirst hrest honce.1

/-- Marking the cache as probed changes no device. -/
theorem Inventory.BringsAll.markProbed {specs : List DeviceSpec}
    (hbrings : BringsAll inventory c specs before after) :
    BringsAll inventory c specs before (after.markProbed c) := by
  have hsame : Store.SameIndex after (after.markProbed c) := Store.sameIndex_markProbed c
  have hmarked : after.Advance (after.markProbed c) :=
    hbrings.advance.sound.advance_of_sameIndex hsame sameCollaborators_markProbed
      (Store.sameAliases_markProbed c)
  have hnames : ∀ other, named? (after.markProbed c) c other = named? after c other :=
    named?_markProbed
  constructor
  case advance => exact hbrings.advance.trans hmarked
  case shows =>
    intro spec hmem
    obtain ⟨d, hshows⟩ := hbrings.shows spec hmem
    refine ⟨d, (hnames spec.name).trans hshows.named, hshows.priority, fun name text ht => ?_⟩
    exact ⟨(hshows.reads name text ht).first, (hshows.reads name text ht).access⟩
  case otherNames => exact fun other hother => (hnames other).trans (hbrings.otherNames other hother)
  case otherDevices =>
    intro e hheld hname
    obtain ⟨hrecord, htags, haccess⟩ := hbrings.otherDevices e hheld hname
    exact ⟨hrecord, htags, haccess⟩

theorem short_probe {memory : Memory}
    (hvalid : ∀ spec ∈ inventory.devices, spec.Valid ∧ (spec.tags.map Prod.fst).Nodup)
    (honce : (inventory.devices.map DeviceSpec.name).Nodup) (hsound : memory.store.Sound)
    (haliased : memory.store.Aliased) (hc : memory.store.caches.Holds c) :
    UnlessShort (inventory.probe c) memory fun _ store =>
      BringsAll inventory c inventory.devices memory.store store := by
  unfold Inventory.probe
  refine (short_log _ _ _).bind fun _ logged hlogged => ?_
  rw [← hlogged] at hsound haliased hc ⊢
  refine (short_bringDevices _ hvalid honce hsound haliased hc).bind fun _ brought hbrought => ?_
  refine .edit_bind (.look_bind ((short_log _ _ _).mono fun _ after hafter => ?_))
  rw [hafter]
  exact hbrought.markProbed

/-- Probing an inventory into a cache of a reachable state fails only for want of memory. Afterwards
the device of every declared name is in the cache with its priority, and the first tag of every
declared name has the declared value. A direct access of the name reads that value, too, but for a
label or an identifier whose first tag had the value already: that one reads what it read. -/
theorem probe_shows_declared {memory : Memory} (hreach : Reachable memory) (supply : Supply)
    (host : Host) (hc : memory.store.caches.Holds c)
    (hvalid : ∀ spec ∈ inventory.devices, spec.Valid ∧ (spec.tags.map Prod.fst).Nodup)
    (honce : (inventory.devices.map DeviceSpec.name).Nodup) :
    Does ((Prober.inventory inventory).probe host c) { memory with supply }
      (fun _ after => ∀ spec ∈ inventory.devices, ∃ d,
        Attachment.find c (some spec.name) after = .ok (some d) after ∧
        (after.store.device d).priority = inventory.priorityOf spec ∧
        ∀ name text, (name, .string text) ∈ spec.tags →
          (∃ t, Tagging.find (some d) (.string name) after = .ok (some t) after ∧
            (after.store.tag t).value = text) ∧
          ∀ which, which.name = name → after.store.aliasValue d which =
            if which ≠ .type ∧ (memory.store.pairs d).lookup name = some text then
              memory.store.aliasValue d which
            else some text)
      fun failure _ => supply ≠ .unlimited ∧ failure.kind.isA .memory := by
  obtain ⟨arrivals, hrun⟩ := hreach
  have hsound : memory.store.Sound := hrun.sound.1
  have hprobe : UnlessShort (inventory.probe c) { memory with supply } _ :=
    short_probe hvalid honce hsound hrun.aliased hc
  refine Does.mono hprobe (fun _ after hafter spec hmem => ?_) fun _ _ hfailed => hfailed
  obtain ⟨d, hshows⟩ := hafter.2.shows spec hmem
  obtain ⟨hspec, -⟩ := hvalid spec hmem
  refine ⟨d, ?_, hshows.priority, fun name text htag => ⟨?_, fun which hwhich => ?_⟩⟩
  · rw [find_named c hspec.named, hshows.named]
  · have hfirst := (hshows.reads name text htag).first
    rw [Store.lookup_pairs] at hfirst
    obtain ⟨t, hfound, hvalue⟩ := Option.map_eq_some_iff.mp hfirst
    exact ⟨t, by rw [find_firstTag d (hspec.tagsNamed _ htag), hfound], hvalue⟩
  · rw [(hshows.reads name text htag).access which hwhich]
    by_cases hread : (memory.store.pairs d).lookup name = some text
    · rw [if_pos hread]
      by_cases htype : which = .type
      · rw [htype] at hwhich ⊢
        rw [if_neg fun hboth => hboth.1 rfl, hrun.aliased.aliasValue_type hsound, hwhich,
          ← Store.lookup_pairs, hread]
      · rw [if_pos ⟨htype, hread⟩]
    · rw [if_neg hread, if_neg fun hboth => hread hboth.2]

/-- A device that got a second label and a second type beside the first ones. -/
def relabelling : List Action :=
  [.newCache none none, .obtainDevice ⟨0⟩ (some "/dev/sda1"),
    .setTag (some ⟨0⟩) (.string "LABEL") (.string "data") false,
    .setTag (some ⟨0⟩) (.string "TYPE") (.string "ext3") false,
    .setTag (some ⟨0⟩) (.string "LABEL") (.string "spare") false,
    .setTag (some ⟨0⟩) (.string "TYPE") (.string "jbd") false]

/-- The state after that. -/
def relabelled : Memory := (Action.performAll .bare .unlimited relabelling ({}, [])).1

theorem reachable_relabelled : Reachable relabelled := by
  refine ⟨_, Run.start.performAll .bare .unlimited relabelling ?_⟩
  refine ⟨⟨by simp, by simp⟩, ?cache, ?_, ?_, ?_, ?_, trivial⟩
  case cache =>
    change Table.Holds _ _
    decide
  all_goals
    intro e he
    cases he
    decide

/-- An inventory that declares the first label of that device and another type. -/
def firstLabel : Inventory where
  devices := [{ name := "/dev/sda1", priority := some (.integer 7),
                tags := [("LABEL", .string "data"), ("TYPE", .string "ext4")] }]

/-- The first tags of the device are the declared ones, and so is its type. -/
theorem relabelled_shows :
    Does ((Prober.inventory firstLabel).probe .bare ⟨0⟩) { relabelled with supply := .unlimited }
      (fun _ after => ∃ d,
        Attachment.find ⟨0⟩ (some "/dev/sda1") after = .ok (some d) after ∧
        (after.store.device d).priority = .integer 7 ∧
        (∃ t, Tagging.find (some d) (.string "LABEL") after = .ok (some t) after ∧
          (after.store.tag t).value = "data") ∧
        after.store.aliasValue d .type = some "ext4")
      fun _ _ => False := by
  have hvalid : ∀ spec ∈ firstLabel.devices, spec.Valid ∧ (spec.tags.map Prod.fst).Nodup := by
    intro spec hmem
    obtain rfl := List.mem_singleton.mp hmem
    exact ⟨⟨by decide, by decide, by simp⟩, by decide⟩
  refine (probe_shows_declared reachable_relabelled .unlimited .bare (by decide) hvalid
    (by decide)).mono (fun _ after hafter => ?_) fun _ _ hfailed => hfailed.1 rfl
  obtain ⟨d, hfound, hpriority, hreads⟩ := hafter _ List.mem_cons_self
  have hlabel := (hreads "LABEL" "data" (by simp)).1
  have htype := (hreads "TYPE" "ext4" (by simp)).2 .type rfl
  exact ⟨d, hfound, hpriority, hlabel, by rw [htype, if_neg (by simp)]⟩

/-- The label that the device reads stays the second one, though the declared label is the first. -/
theorem relabelled_reads_spare : Reachable relabelled ∧
    ∃ after, (Prober.inventory firstLabel).probe .bare ⟨0⟩ relabelled = .ok () after ∧
      Attachment.find ⟨0⟩ (some "/dev/sda1") after = .ok (some ⟨0⟩) after ∧
      ("LABEL", "data") ∈ after.store.pairs ⟨0⟩ ∧
      after.store.aliasValue ⟨0⟩ .label = some "spare" :=
  ⟨reachable_relabelled, _, rfl, rfl, by decide +kernel, by decide +kernel⟩

end DeviceTags
