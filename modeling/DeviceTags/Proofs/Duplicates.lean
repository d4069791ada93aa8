import DeviceTags.Proofs.Changed
import DeviceTags.Proofs.Revising

/-!
# Several tags of one name

A device is marked as having several tags of one name. The mark can be relied on: a device without it
has at most one tag of each name. It is set by a tag that is added under a name that the device has
already, and by nothing else, and it is never taken away. So it may be there still when those tags
are long gone.
-/

namespace DeviceTags

/-! ## An entry beside another one -/

theorem isSome_lookup_iff {α : Type} {key : String} {table : List (String × α)} :
    (table.lookup key).isSome = true ↔ key ∈ table.map Prod.fst := by
  induction table with
  | nil => simp
  | cons entry rest ih =>
    rw [List.lookup_cons, List.map_cons, List.mem_cons, ← ih]
    by_cases hkey : key = entry.1
    · simp [hkey]
    · simp [hkey, beq_false_of_ne hkey]

namespace Revision

variable {before : List (String × String)} {name : String}

/-- The revision puts a new entry of the name beside one that is there. -/
def doubles (before : List (String × String)) (name : String) : Revision → Bool
  | adding _ => (before.lookup name).isSome
  | _ => false

/-- A value that is to take the place of another one does not come beside it. -/
theorem doubles_of_replace (before : List (String × String)) (name : String)
    (value : Option String) : (Revision.of before name value true).doubles before name = false := by
  unfold Revision.of
  cases value with
  | none => rfl
  | some text =>
    dsimp only
    cases hfirst : before.lookup name with
    | none => simp [doubles, hfirst]
    | some old =>
      dsimp only
      split <;> rfl

/-- Unless one comes beside another, entries that have names of their own go on having them. -/
theorem nodup_pairs {revision : Revision} (honce : (before.map Prod.fst).Nodup)
    (hsingle : revision.doubles before name = false) :
    ((revision.pairs name before).map Prod.fst).Nodup := by
  cases revision with
  | clearing => exact honce.sublist (List.filter_sublist.map _)
  | keeping => exact honce
  | rewriting text => exact nodup_mergeEntry name text honce
  | adding text =>
    have hnew : name ∉ before.map Prod.fst := by
      rw [← isSome_lookup_iff]
      exact Bool.eq_false_iff.mp hsingle
    rw [pairs, ← mergeEntry_of_not_mem hnew text]
    exact nodup_mergeEntry name text honce

end Revision

namespace Store

variable {store before after : Store} {c : CacheId} {d e : DeviceId} {t : TagId} {name : String}
  {value : Option String} {replace : Bool}

theorem flags_finish {middle : Store} (hd : middle.devices.Holds d) (name : String)
    (link : Option TagId) :
    (((middle.linkAlias d name link).markDeviceChanged d).device d).flags =
      (middle.device d).flags := by
  obtain ⟨aliases, hdevice⟩ := device_linkAlias hd name link
  rw [device_markDeviceChanged, hdevice]

/-- Of the flags of a device only the mark is touched when a tag is set. -/
theorem flags_setTag (hd : store.devices.Holds d) (name : String) (value : Option String)
    (replace : Bool) :
    ((store.setTag d name value replace).device d).flags =
      { (store.device d).flags with
        multiple := (store.device d).flags.multiple ||
          (Revision.of (store.pairs d) name value replace).doubles (store.pairs d) name } := by
  have happend : ∀ text,
      ((store.appendTag d name text).device d).flags = (store.device d).flags := by
    intro text
    rw [device_appendTag store hd, if_pos rfl]
  obtain ⟨hkeeping, hset⟩ | ⟨revision, middle, link, hrevision, hprepares, hset⟩ :=
    store.setTag_cases d name value replace
  · rw [hkeeping, hset]
    simp [Revision.doubles]
  · rw [hrevision, hset, flags_finish (hprepares.sameAliases.lasting.holds_device hd)]
    cases hprepares with
    | clearing =>
      obtain ⟨left, hleft, -⟩ := device_unlinkTags (store.tagsNamed d name) store d
      rw [dropNamed, device_updateDevice _ (.inr rfl), if_pos rfl, hleft]
      simp [Revision.doubles]
    | rewriting => simp [Revision.doubles, setTagValue]
    | adding hfirst => simp [happend, Revision.doubles, lookup_pairs, hfirst]
    | @doubling first text hfirst =>
      have hheld := (sameAliases_appendTag d name text).lasting.holds_device hd
      rw [markMultiple, device_updateDevice_self _ hheld, happend]
      simp [Revision.doubles, lookup_pairs, hfirst]

/-! ## The mark and the tags -/

/-- The device has no two tags of one name, unless it is marked. -/
def Singled (store : Store) (d : DeviceId) : Prop :=
  (store.device d).flags.multiple = false → ((store.pairs d).map Prod.fst).Nodup

theorem Singled.of_same (hsingled : Singled before d)
    (hmark : (after.device d).flags.multiple = (before.device d).flags.multiple)
    (hpairs : after.pairs d = before.pairs d) : Singled after d := by
  intro hclear
  rw [hpairs]
  exact hsingled (hmark ▸ hclear)

theorem Singled.tagsNamed (hsingled : Singled store d)
    (hclear : (store.device d).flags.multiple = false) (name : String) :
    (store.tagsNamed d name).length ≤ 1 := by
  have honce := List.nodup_iff_count_le_one.mp (hsingled hclear) name
  rw [Store.pairs, List.map_map, List.count, List.countP_map, List.countP_eq_length_filter] at honce
  refine le_of_eq_of_le (congrArg List.length (List.filter_congr fun t _ => ?_)) honce
  simp [Function.comp_def, Bool.beq_eq_decide_eq]

theorem multiple_updateDevice (d e : DeviceId) {change : Device → Device}
    (hkeep : ∀ device, (change device).flags.multiple = device.flags.multiple) :
    ((store.updateDevice e change).device d).flags.multiple = (store.device d).flags.multiple :=
  Table.field_update (·.flags.multiple) hkeep store.devices e d

theorem multiple_connect (he : store.devices.Holds e) (c : CacheId) (d : DeviceId) :
    ((store.connect c e).device d).flags.multiple = (store.device d).flags.multiple := by
  rw [device_connect he]
  split <;> rfl

/-- A change beside the tags leaves the marks of the devices that are there. -/
theorem Beside.multiple (hbeside : Beside before after) (hd : before.devices.Holds d) :
    (after.device d).flags.multiple = (before.device d).flags.multiple := by
  cases hbeside with
  | restored hrestored => rw [hrestored.device]
  | newDevice name priority flags =>
    exact congrArg (·.flags.multiple) (Table.get_add_of_holds hd _)
  | setPriority e priority =>
    rw [Store.setPriority, multiple_updateDevice]
    exact fun _ => rfl
  | markFound e =>
    rw [Store.markFound, multiple_updateDevice]
    exact fun _ => rfl
  | markGone e =>
    rw [Store.markGone, multiple_updateDevice]
    exact fun _ => rfl
  | _ => rfl

theorem Sound.singled_change (hsound : before.Sound) (hchange : Change before after)
    (hsingled : ∀ e, Singled before e) (d : DeviceId) : Singled after d := by
  cases hchange with
  | @set e he name value replace =>
    have hrevises := hsound.revises_setTag he name value replace
    have hafter := hsound.setTag he name value replace
    by_cases hd : d = e
    · subst hd
      intro hclear
      rw [flags_setTag he] at hclear
      obtain ⟨hclear, hsingle⟩ := Bool.or_eq_false_iff.mp hclear
      rw [hrevises.pairs]
      exact Revision.nodup_pairs (hsingled d hclear) hsingle
    · have hsame := hrevises.sameDevice hsound hafter hd
      exact (hsingled d).of_same (by rw [hsame.record]) hsame.pairs
  | attach hc he hinvites =>
    exact (hsingled d).of_same (multiple_connect he _ d) (hsound.pairs_connect he _ d)
  | @detach c e hmem =>
    have hremoved := hsound.removed_detach hmem
    by_cases hd : d = e
    · subst hd
      intro _
      rw [Store.pairs, hremoved.device]
      exact List.nodup_nil
    · have hsame := hremoved.others d hd
      exact (hsingled d).of_same (by rw [hsame.record]) hsame.pairs
  | beside hbeside =>
    intro hclear
    rw [hbeside.pairs hsound]
    by_cases hd : before.devices.Holds d
    · exact hsingled d (hbeside.multiple hd ▸ hclear)
    · -- A device that is not there yet has no tags.
      have hnone : before.pairs d = [] := by
        rw [Store.pairs, Store.device, Table.get_of_not_holds hd]
        rfl
      rw [hnone]
      exact List.nodup_nil

end Store

/-! ## Calls that duplicate -/

/-- The call put a new tag on its device, which had a tag of the same name already. -/
def Deed.Duplicates (deed : Deed) : Prop :=
  ∃ t ∈ (deed.after.device deed.device).tags, t ∉ (deed.before.device deed.device).tags ∧
    ∃ u ∈ (deed.before.device deed.device).tags,
      (deed.before.tag u).name = (deed.after.tag t).name

instance (deed : Deed) : Decidable deed.Duplicates :=
  inferInstanceAs (Decidable (∃ t ∈ (deed.after.device deed.device).tags,
    t ∉ (deed.before.device deed.device).tags ∧
      ∃ u ∈ (deed.before.device deed.device).tags,
        (deed.before.tag u).name = (deed.after.tag t).name))

/-- Some of the calls duplicated on the device. -/
def Duplicated (deeds : List Deed) (d : DeviceId) : Prop :=
  ∃ deed ∈ deeds, deed.device = d ∧ deed.Duplicates

instance (deeds : List Deed) (d : DeviceId) : Decidable (Duplicated deeds d) :=
  inferInstanceAs (Decidable (∃ deed ∈ deeds, deed.device = d ∧ deed.Duplicates))

theorem duplicated_append (deeds : List Deed) (deed : Deed) (d : DeviceId) :
    Duplicated (deeds ++ [deed]) d ↔ Duplicated deeds d ∨ deed.device = d ∧ deed.Duplicates := by
  simp [Duplicated, or_and_right, exists_or]

/-- Without a new tag nothing is duplicated. -/
theorem Deed.not_duplicates {deed : Deed}
    (hsubset : (deed.after.device deed.device).tags ⊆ (deed.before.device deed.device).tags) :
    ¬ deed.Duplicates :=
  fun ⟨_, ht, hnew, _⟩ => hnew (hsubset ht)

section Calls

variable {before after : Store} {d : DeviceId} {replacing : Bool} {now next : Store × List Deed}

open Store (Books)

theorem Store.Sound.duplicates_setTag (hsound : before.Sound) (hd : before.devices.Holds d)
    (name : String) (value : Option String) (replace : Bool) :
    (⟨d, before, before.setTag d name value replace⟩ : Deed).Duplicates ↔
      (Revision.of (before.pairs d) name value replace).doubles (before.pairs d) name = true := by
  have hrevises := hsound.revises_setTag hd name value replace
  have hnames : name ∈ (before.pairs d).map Prod.fst ↔
      ∃ u ∈ (before.device d).tags, (before.tag u).name = name := by
    rw [Store.pairs, List.map_map, List.mem_map]
    rfl
  unfold Deed.Duplicates
  dsimp only
  generalize before.setTag d name value replace = after at hrevises ⊢
  cases hrevision : Revision.of (before.pairs d) name value replace with
  | adding text =>
    rw [hrevision] at hrevises
    have hmade := hrevises.pair_of_made.1
    have hnew : before.tags.next ∉ (before.device d).tags :=
      fun hmem => hsound.linked.mem_device_ne_next hmem rfl
    rw [Revision.doubles, isSome_lookup_iff, hnames, hrevises.tags]
    constructor
    · rintro ⟨t, ht, hout, u, hu, hname⟩
      obtain ⟨rfl, -⟩ := (Store.Revision.mem_tags ht).resolve_left hout
      exact ⟨u, hu, hname.trans hmade⟩
    · rintro ⟨u, hu, hname⟩
      exact ⟨before.tags.next, List.mem_append_right _ List.mem_cons_self, hnew, u, hu,
        hname.trans hmade.symm⟩
  | _ =>
    refine iff_of_false ?_ (by simp [Revision.doubles])
    rintro ⟨t, ht, hout, -⟩
    rw [hrevises.tags, hrevision] at ht
    obtain ⟨-, text, htext⟩ := (Store.Revision.mem_tags ht).resolve_left hout
    cases htext

/-- One step of a run: the mark of a device goes on telling whether anything was duplicated. -/
theorem Store.Books.multiple_iff {marked : Prop} (hbooks : Books replacing now next)
    (hsound : now.1.Sound) (hd : now.1.devices.Holds d)
    (hnow : (now.1.device d).flags.multiple = true ↔ marked ∨ Duplicated now.2 d) :
    (next.1.device d).flags.multiple = true ↔ marked ∨ Duplicated next.2 d := by
  have hquiet : ∀ {deed : Deed}, (deed.device = d → ¬ deed.Duplicates) →
      (marked ∨ Duplicated (now.2 ++ [deed]) d ↔ marked ∨ Duplicated now.2 d) := by
    intro deed hnot
    rw [duplicated_append]
    exact or_congr_right (or_iff_left fun hboth => hnot hboth.1 hboth.2)
  cases hbooks with
  | @set store deeds e he name value replace hreplace =>
    have hrevises := hsound.revises_setTag he name value replace
    by_cases heq : e = d
    · subst heq
      rw [duplicated_append, hsound.duplicates_setTag he, Store.flags_setTag he, ← or_assoc, ← hnow,
        Bool.or_eq_true]
      simp
    · rw [hquiet fun hsame => absurd hsame heq, ← hnow, hrevises.otherDevices d (Ne.symm heq)]
  | @attach store deeds c e hc he hinvites =>
    have hdevice : ∀ k, ((store.attach c e).device k).tags = (store.device k).tags ∧
        ((store.attach c e).device k).flags = (store.device k).flags := by
      intro k
      rw [Store.device_attach he]
      split <;> exact ⟨rfl, rfl⟩
    rw [hquiet fun _ => Deed.not_duplicates fun t ht => (hdevice e).1 ▸ ht, ← hnow, (hdevice d).2]
  | again hmem => rw [hquiet fun _ => Deed.not_duplicates (List.Subset.refl _), ← hnow]
  | @detach store deeds c e hmem =>
    rw [← hnow, hsound.device_detach]
    split <;> rfl
  | beside hbeside => rw [← hnow, hbeside.multiple hd]

/-- Where every tag that is set takes the place of those of its name, nothing is duplicated. -/
theorem Store.Books.not_duplicated (hbooks : Books true now next) (hsound : now.1.Sound)
    (hnone : ∀ d, ¬ Duplicated now.2 d) (d : DeviceId) : ¬ Duplicated next.2 d := by
  cases hbooks with
  | @set store deeds e he name value replace hreplace =>
    rw [duplicated_append, hsound.duplicates_setTag he, hreplace rfl,
      Revision.doubles_of_replace]
    simp [hnone d]
  | @attach store deeds c e hc he hinvites =>
    have htags : ((store.attach c e).device e).tags = (store.device e).tags := by
      rw [Store.device_attach he, if_pos rfl]
    rw [duplicated_append, not_or]
    exact ⟨hnone d, fun hboth => Deed.not_duplicates (fun t ht => htags ▸ ht) hboth.2⟩
  | again hmem =>
    rw [duplicated_append, not_or]
    exact ⟨hnone d, fun hboth => Deed.not_duplicates (List.Subset.refl _) hboth.2⟩
  | detach hmem => exact hnone d
  | beside hbeside => exact hnone d

end Calls

/-! ## Turns -/

namespace Turn

variable {turn : Turn} {memory : Memory} {d : DeviceId}

/-- A tag is set in a turn by at most one call, which leads from the state before to that after. -/
theorem of_mem_deeds {e : Option DeviceId} {name value : Datum} {replace : Bool}
    (haction : turn.action = .setTag e name value replace) {deed : Deed}
    (hmem : deed ∈ turn.deeds memory) :
    (turn.action.perform turn.host).failure? (turn.start memory) = none ∧
      e = some deed.device ∧ deed.before = memory.store ∧
      deed.after = (turn.after memory).store := by
  have hledger : turn.action.ledger turn.host =
      .entering e (Tagging.set e name value replace) := by rw [haction]; rfl
  have hperform : turn.action.perform turn.host = Tagging.set e name value replace := by
    rw [haction]
    rfl
  rw [deeds, hledger, endState, Ledger.entering] at hmem
  rw [Turn.after, hperform, Op.after, Op.failure?]
  cases hrun : Tagging.set e name value replace (turn.start memory) with
  | error failure after => simp [hrun] at hmem
  | ok _ after =>
    simp only [hrun, List.nil_append, List.mem_map, Option.mem_toList] at hmem
    obtain ⟨f, hf, rfl⟩ := hmem
    exact ⟨rfl, hf, rfl, rfl⟩

/-- Without the tags of a name a device has no tag that it did not have. -/
theorem tags_subset_of_deletion {e : Option DeviceId} {name : Datum} {replace : Bool}
    (haction : turn.action = .setTag e name .none replace) (hsound : memory.store.Sound)
    (hadmissible : turn.action.Admissible memory.store) (hd : d ∈ e) :
    ((turn.after memory).store.device d).tags ⊆ (memory.store.device d).tags := by
  subst hd
  have hheld : memory.store.devices.Holds d := by
    rw [haction] at hadmissible
    exact hadmissible d rfl
  have hperform : turn.action.perform turn.host =
      Tagging.set (some d) name .none replace := by rw [haction]; rfl
  rw [Turn.after, hperform]
  refine Does.after
    (fun after => (after.store.device d).tags ⊆ (memory.store.device d).tags) ?_
  cases harguments : Tagging.arguments name .none with
  | error failure =>
    rw [Does, Tagging.set_of_rejected harguments]
    exact List.Subset.refl _
  | ok given =>
    obtain ⟨n, v⟩ := given
    obtain ⟨hn, rfl, hv⟩ := Tagging.of_arguments harguments
    cases v with
    | some text => cases hv
    | none =>
      have hstart : (turn.start memory).store.Sound := hsound
      refine (does_setTag hstart hheld hn none replace).mono (fun _ after hafter => ?_) ?_
      · have hrevises := hsound.revises_setTag hheld n none replace
        rw [hafter]
        change ((memory.store.setTag d n none replace).device d).tags ⊆ _
        rw [hrevises.tags]
        exact List.filter_subset_self _
      · exact fun _ _ hfailed => absurd hfailed.2.1 (by simp)

/-- A turn that has no business with marks: every tag that it sets takes the place of those of its
name, or it deletes, finds nothing to do, or fails. -/
inductive SparesMarks (turn : Turn) (memory : Memory) : Prop where
  | replacing (hreplaces : turn.action.replaces = true)
  | deleting {e : Option DeviceId} {name : Datum} {replace : Bool}
      (haction : turn.action = .setTag e name .none replace)
  | idle (hidle : turn.action.IsIdle memory.store)
  | failing (hfailed : ((turn.action.perform turn.host).failure? (turn.start memory)).isSome)

section Duplicated

variable (hreachable : Reachable memory) (hadmissible : turn.action.Admissible memory.store)

include hreachable hadmissible

theorem not_duplicated_of_replacing (hreplaces : turn.action.replaces = true) (d : DeviceId) :
    ¬ Duplicated (turn.deeds memory) d := by
  have hempty : ∀ e, ¬ Duplicated [] e := fun e ⟨_, hmem, _⟩ => nomatch hmem
  by_cases hclear : ∃ c, turn.action = .clearChanged c
  · obtain ⟨c, hclear⟩ := hclear
    have hnone : turn.deeds memory = [] := by
      rw [deeds, hclear]
      rfl
    rw [hnone]
    exact hempty d
  · obtain ⟨store, hbooked, -⟩ := booked_or_breaks (not_exists.mp hclear) hreachable.sound
      hreachable.packaged hadmissible
    rw [hreplaces] at hbooked
    let single (state : Store × List Deed) : Prop := ∀ e, ¬ Duplicated state.2 e
    have hend : single (store, turn.deeds memory) :=
      Store.Sound.booked_keeps hreachable.sound hbooked hempty
        fun hsound hbooks hnone => Store.Books.not_duplicated hbooks hsound hnone
    exact hend d

theorem not_duplicated (hspares : turn.SparesMarks memory) (d : DeviceId) :
    ¬ Duplicated (turn.deeds memory) d := by
  by_cases hreplaces : turn.action.replaces = true
  · exact not_duplicated_of_replacing hreachable hadmissible hreplaces d
  · obtain ⟨e, name, value, replace, haction⟩ :
        ∃ e name value replace, turn.action = .setTag e name value replace := by
      cases hcase : turn.action with
      | setTag e name value replace => exact ⟨e, name, value, replace, rfl⟩
      | _ => simp [hcase, Action.replaces] at hreplaces
    rintro ⟨deed, hmem, hdevice, hduplicates⟩
    obtain ⟨hpassed, he, hbefore, hafter⟩ := of_mem_deeds haction hmem
    refine Deed.not_duplicates ?_ hduplicates
    rw [hbefore, hafter]
    cases hspares with
    | replacing hreplacing => exact absurd hreplacing hreplaces
    | deleting hdeleting =>
      refine tags_subset_of_deletion hdeleting hreachable.sound hadmissible ?_
      rw [haction] at hdeleting
      cases hdeleting
      exact he
    | idle hidle =>
      have hready : turn.action.IsIdle (turn.start memory).store := hidle
      have hsame : turn.after memory = turn.start memory := Action.after_of_idle hready turn.host
      rw [hsame]
      exact List.Subset.refl _
    | failing hfailed =>
      rw [hpassed] at hfailed
      cases hfailed

/-- After a turn a device is marked if it was marked before, or a call of the turn duplicated on it. -/
theorem multiple_iff (hd : memory.store.devices.Holds d) :
    ((turn.after memory).store.device d).flags.multiple = true ↔
      (memory.store.device d).flags.multiple = true ∨ Duplicated (turn.deeds memory) d := by
  by_cases hclear : ∃ c, turn.action = .clearChanged c
  · obtain ⟨c, hclear⟩ := hclear
    have hreplaces : turn.action.replaces = true := by rw [hclear]; rfl
    rw [after_clearChanged hclear, or_iff_left
      (not_duplicated_of_replacing hreachable hadmissible hreplaces d)]
    rfl
  · let tells (state : Store × List Deed) : Prop := state.1.devices.Holds d ∧
      ((state.1.device d).flags.multiple = true ↔
        (memory.store.device d).flags.multiple = true ∨ Duplicated state.2 d)
    have hstart : tells (memory.store, []) :=
      ⟨hd, (or_iff_left fun ⟨_, hmem, _⟩ => nomatch hmem).symm⟩
    obtain ⟨store, hbooked, hlast⟩ := booked_or_breaks (not_exists.mp hclear) hreachable.sound
      hreachable.packaged hadmissible
    have hend : tells (store, turn.deeds memory) :=
      Store.Sound.booked_keeps hreachable.sound hbooked hstart
        fun hsound hbooks htells => ⟨(hbooks.changes.lasting hsound).holds_device htells.1,
          hbooks.multiple_iff hsound htells.1 htells.2⟩
    obtain rfl | ⟨c, e, -, he, -, hafter⟩ := hlast
    · exact hend.2
    · rw [hafter, Store.multiple_connect he]
      exact hend.2

/-- A device that is not marked after a turn has no two tags of one name. -/
theorem singled (hsingled : ∀ e, memory.store.Singled e) (d : DeviceId) :
    (turn.after memory).store.Singled d := by
  by_cases hclear : ∃ c, turn.action = .clearChanged c
  · obtain ⟨c, hclear⟩ := hclear
    rw [after_clearChanged hclear]
    exact hsingled d
  · have hchanged : ∀ {after : Store}, memory.store.Changes after → ∀ e, after.Singled e :=
      fun hchanges => hreachable.sound.changes_keep hchanges hsingled
        fun hsound hchange hsingled => hsound.singled_change hchange hsingled
    obtain hchanges | ⟨store, hchanges, c, e, -, he, -, hafter⟩ :=
      changes_or_breaks (not_exists.mp hclear) hreachable.sound hreachable.packaged hadmissible
    · exact hchanged hchanges d
    · rw [hafter]
      exact (hchanged hchanges d).of_same (Store.multiple_connect he c d)
        ((hchanges.sound hreachable.sound).pairs_connect he c d)

end Duplicated

end Turn

theorem Reachable.singled {memory : Memory} (hreachable : Reachable memory) :
    ∀ d, memory.store.Singled d := by
  obtain ⟨arrivals, hrun⟩ := hreachable
  induction hrun with
  | start => exact fun _ _ => List.nodup_nil
  | step host supply action hrun hadmissible ih =>
    exact @Turn.singled ⟨host, supply, action⟩ _ ⟨_, hrun⟩ hadmissible ih

/-! ## Checks of paths -/

/-- What becomes of the flags of a device whose path is looked for. Where the path is there, bits that
have no name are lost. -/
def DeviceFlags.checked (flags : DeviceFlags) : Except FileError Bool → DeviceFlags
  | .ok true => { flags with verified := true, invalid := false, unnamed := 0 }
  | .ok false => { flags with invalid := true }
  | .error _ => flags

theorem flags_verifyPath {memory : Memory} {d : DeviceId} (hsound : memory.store.Sound)
    (hd : memory.store.devices.Holds d) (host : Host) (root : Option Path) (c : CacheId)
    (e : DeviceId) :
    (((verifyPath host root c d).after memory).store.device e).flags =
      if e = d then (memory.store.device e).flags.checked
        (host.contains (devicePath root (memory.store.device d).name))
      else (memory.store.device e).flags := by
  refine Does.after (fun after => (after.store.device e).flags = _) ?_
  unfold verifyPath
  refine .look_bind ?_
  cases host.contains (devicePath root (memory.store.device d).name) with
  | error error =>
    refine Does.throw ?_
    split <;> rfl
  | ok found =>
    cases found with
    | true =>
      refine .edit_bind (.pure ?_)
      rw [Memory.store_withStore, Store.markFound, Store.device_updateDevice _ (.inl hd)]
      split <;> rfl
    | false =>
      refine (does_log _ _ _).andThen fun _ logged hlogged => .edit_bind ?_
      rw [← hlogged] at hsound hd ⊢
      have hmarked : (logged.store.markGone d).Sound :=
        hsound.of_sameIndex (Store.sameIndex_markGone d)
      have hflags : ((logged.store.markGone d).device e).flags =
          if e = d then (logged.store.device e).flags.checked (.ok false)
          else (logged.store.device e).flags := by
        rw [Store.markGone, Store.device_updateDevice _ (.inl hd)]
        split <;> rfl
      split
      · refine Does.bind (does_remove hmarked (some d)) (fun _ removed hremoved => .pure ?_)
          fun _ removed hfailed => ?_
        · obtain ⟨f, -, -, hstore⟩ := hremoved
          have hkept : ((removed.store.device e).flags) =
              ((logged.store.markGone d).device e).flags := by
            rw [hstore, Memory.store_withStore, hmarked.device_detach]
            split <;> rfl
          exact hkept.trans hflags
        · rw [hfailed.1]
          exact hflags
      · exact .pure hflags

/-! ## What the mark tells -/

/-- In every state that a run leads to, and after every turn from there, a device that is not marked
has at most one tag of each name. After a turn a device is marked exactly if it was marked before, or
the turn put a tag on it under a name that the device had already; turns that replace, delete, find
nothing to do or fail put none. Of the flags that have a name a check of its path changes whether the
device is verified and whether it is invalid, and no flag of any other device. -/
theorem multiple_tells_duplicates {memory : Memory} (hreachable : Reachable memory) :
    (∀ d, (memory.store.device d).flags.multiple = false →
      ∀ name, (memory.store.tagsNamed d name).length ≤ 1) ∧
    (∀ turn : Turn, turn.action.Admissible memory.store → ∀ d,
      ((turn.after memory).store.device d).flags.multiple = false →
        ∀ name, ((turn.after memory).store.tagsNamed d name).length ≤ 1) ∧
    (∀ turn : Turn, turn.action.Admissible memory.store → ∀ d, memory.store.devices.Holds d →
      (((turn.after memory).store.device d).flags.multiple = true ↔
        (memory.store.device d).flags.multiple = true ∨ Duplicated (turn.deeds memory) d) ∧
      (turn.SparesMarks memory → ((turn.after memory).store.device d).flags.multiple =
        (memory.store.device d).flags.multiple)) ∧
    ∀ host root c d e, memory.store.devices.Holds d →
      (((verifyPath host root c d).after memory).store.device e).flags =
        if e = d then (memory.store.device e).flags.checked
          (host.contains (devicePath root (memory.store.device d).name))
        else (memory.store.device e).flags := by
  refine ⟨fun d hclear => (hreachable.singled d).tagsNamed hclear,
    fun turn hadmissible d hclear => ?_, fun turn hadmissible d hd => ?_,
    fun host root c d e hd => ?_⟩
  · exact (Turn.singled hreachable hadmissible hreachable.singled d).tagsNamed hclear
  · have hiff := Turn.multiple_iff hreachable hadmissible hd
    refine ⟨hiff, fun hspares => ?_⟩
    rw [or_iff_left (Turn.not_duplicated hreachable hadmissible hspares d)] at hiff
    exact Bool.eq_iff_iff.mpr hiff
  · exact flags_verifyPath hreachable.sound hd host root c e

/-- A second label for the first of two devices that have one each. -/
def Turn.relabel (replace : Bool) : Turn where
  host := .bare
  action := .setTag (some ⟨0⟩) (.string "LABEL") (.string "spare") replace

/-- The device is marked if the label is added, and not if it takes the place of the other one. -/
theorem relabel_marks :
    (((Turn.relabel false).after lateAttached.1).store.device ⟨0⟩).flags.multiple = true ∧
      (((Turn.relabel true).after lateAttached.1).store.device ⟨0⟩).flags.multiple = false := by
  have hadmissible : ∀ replace, (Turn.relabel replace).action.Admissible lateAttached.1.store := by
    rintro replace d ⟨⟩
    decide
  obtain ⟨-, -, hturn, -⟩ := multiple_tells_duplicates ⟨_, run_lateAttached⟩
  constructor
  · refine (hturn _ (hadmissible false) ⟨0⟩ (by decide)).1.mpr (.inr ?_)
    decide +kernel
  · rw [(hturn _ (hadmissible true) ⟨0⟩ (by decide)).2 (.replacing rfl)]
    decide

/-- A device with a bit of its flags that has no name. -/
def oddBit : List Action :=
  [.newCache none none, .newDevice "/dev/null" .default { unnamed := 8 },
    .addDevice ⟨0⟩ (some ⟨0⟩)]

def odd : Memory := (Action.performAll .bare .unlimited oddBit ({}, [])).1

def Turn.check : Turn where
  host := .bare
  action := .verify (.paths none) ⟨0⟩ ⟨0⟩

/-- Where the path of the device is there, that bit is lost. -/
theorem check_drops_odd_bit : Reachable odd ∧ Turn.check.action.Admissible odd.store ∧
    ¬ ∃ verified invalid, ((Turn.check.after odd).store.device ⟨0⟩).flags =
      { (odd.store.device ⟨0⟩).flags with verified, invalid } := by
  refine ⟨?_, ⟨trivial, by decide, by decide⟩, ?_⟩
  · refine ⟨_, Run.start.performAll .bare .unlimited oddBit ?_⟩
    refine ⟨⟨by simp, by simp⟩, trivial, ⟨by decide, ?_⟩, trivial⟩
    rintro d ⟨⟩
    decide
  · rintro ⟨verified, invalid, hflags⟩
    have hunnamed := congrArg DeviceFlags.unnamed hflags
    have hdropped : ((Turn.check.after odd).store.device ⟨0⟩).flags.unnamed = 0 := by
      decide +kernel
    have hgiven : (odd.store.device ⟨0⟩).flags.unnamed = 8 := by decide +kernel
    rw [hdropped] at hunnamed
    exact absurd (hunnamed.trans hgiven) (by decide)

end DeviceTags
