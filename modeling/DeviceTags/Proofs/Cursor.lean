import DeviceTags.Cursor
import DeviceTags.Proofs.Changes
import DeviceTags.Proofs.Store.Removed

/-!
# Cursors on lists that change

A cursor is no more than a position in a list that other operations append to, overwrite and cut
down. What they do to the list of a device is this: some of its tags go, the others stay in their
order, and tags that were not there before come behind them. So as long as no tag of the device is
destroyed, what was read stays the front of the list, and a cursor neither skips a tag nor gives one
twice, whatever happens between its steps.
-/

namespace DeviceTags

open Store (Sound Extends Change Changes)

/-! ## The list of a device -/

namespace Store

/-- A tag by its name and its value. -/
def pairOf (store : Store) (t : TagId) : String × String :=
  ((store.tag t).name, (store.tag t).value)

/-- Of the tags of a device some stay, in their order, and behind them come tags that were not there
before. -/
structure Continues (d : DeviceId) (before after : Store) : Prop where
  lasting : Extends before after
  tags : ∃ kept added, (after.device d).tags = kept ++ added ∧
    kept.Sublist (before.device d).tags ∧ ∀ t ∈ added, ¬ before.tags.Holds t

variable {store before middle after : Store} {c : CacheId} {d : DeviceId}

theorem continues_of_sublist (hlasting : Extends before after)
    (hsublist : (after.device d).tags.Sublist (before.device d).tags) :
    Continues d before after :=
  ⟨hlasting, _, [], (List.append_nil _).symm, hsublist, nofun⟩

theorem continues_of_same (hlasting : Extends before after)
    (hsame : (after.device d).tags = (before.device d).tags) : Continues d before after :=
  continues_of_sublist hlasting (hsame ▸ List.Sublist.refl _)

theorem Continues.trans (hfirst : Continues d before middle) (hsecond : Continues d middle after) :
    Continues d before after where
  lasting := hfirst.lasting.trans hsecond.lasting
  tags := by
    obtain ⟨kept, added, htags, hkept, hadded⟩ := hfirst.tags
    obtain ⟨kept', added', htags', hkept', hadded'⟩ := hsecond.tags
    rw [htags, List.sublist_append_iff] at hkept'
    obtain ⟨old, young, rfl, hold, hyoung⟩ := hkept'
    refine ⟨old, young ++ added', by rw [htags', List.append_assoc], hold.trans hkept, ?_⟩
    intro t ht
    rcases List.mem_append.mp ht with hmade | hmade
    · exact hadded t (hyoung.subset hmade)
    · exact fun hheld => hadded' t hmade (hfirst.lasting.holds_tag hheld)

theorem Sound.continues_change (hsound : before.Sound) (hchange : Change before after) :
    Continues d before after := by
  have hlasting := (hsound.change hchange).2
  cases hchange with
  | @set e he name value replace =>
    have hrevises := hsound.revises_setTag he name value replace
    by_cases hd : d = e
    · subst hd
      have htags := hrevises.tags
      cases hrevision : Revision.of (before.pairs d) name value replace with
      | clearing =>
        rw [hrevision] at htags
        exact continues_of_sublist hlasting (htags ▸ List.filter_sublist)
      | keeping =>
        rw [hrevision] at htags
        exact continues_of_same hlasting htags
      | rewriting text =>
        rw [hrevision] at htags
        exact continues_of_same hlasting htags
      | adding text =>
        rw [hrevision] at htags
        refine ⟨hlasting, _, [before.tags.next], htags, List.Sublist.refl _, fun t ht => ?_⟩
        rw [List.mem_singleton.mp ht]
        exact Table.not_holds_next _
    · exact continues_of_same hlasting (by rw [hrevises.otherDevices d hd])
  | attach hc he hinvites =>
    refine continues_of_same hlasting ?_
    rw [device_attach he]
    split <;> rfl
  | @detach c e hmem =>
    refine continues_of_sublist hlasting ?_
    rw [hsound.device_detach]
    split
    · exact List.nil_sublist _
    · exact List.Sublist.refl _
  | beside hbeside => exact continues_of_same hlasting (hbeside.sameIndex.deviceTags d)

theorem Sound.continues_changes (hsound : before.Sound) (hchanges : Changes before after) :
    Continues d before after :=
  hsound.changes_keep hchanges (continues_of_same (.refl before) rfl) fun hnow hchange hcontinues =>
    hcontinues.trans (hnow.continues_change hchange)

/-- If none of its tags is destroyed, the list of a device only grows at its end. -/
theorem Continues.isPrefix (hcontinues : Continues d before after) (hsound : before.Sound)
    (hspared : (before.device d).tags ⊆ (after.device d).tags) :
    (before.device d).tags <+: (after.device d).tags := by
  obtain ⟨kept, added, htags, hkept, hadded⟩ := hcontinues.tags
  have hsubset : (before.device d).tags ⊆ kept := by
    intro t ht
    have hmem := hspared ht
    rw [htags, List.mem_append] at hmem
    have hheld := holds_tag_of_device ((hsound.linked.listed d t).mp ht)
    exact hmem.resolve_right fun hnew => hadded t hnew hheld
  have hle := (List.subperm_of_subset (hsound.linked.listedOnce d) hsubset).length_le
  rw [htags, hkept.eq_of_length_le hle]
  exact List.prefix_append _ _

end Store

theorem Store.continues_connect {store : Store} {e : DeviceId} (he : store.devices.Holds e)
    (c : CacheId) (d : DeviceId) : store.Continues d (store.connect c e) := by
  refine continues_of_same (extends_connect store c e) ?_
  rw [device_connect he]
  split <;> rfl

theorem Turn.continues {turn : Turn} {memory : Memory} (hsound : memory.store.Sound)
    (hpackaged : memory.store.Packaged) (hadmissible : turn.action.Admissible memory.store)
    (d : DeviceId) : memory.store.Continues d (turn.after memory).store := by
  by_cases hclear : ∃ c, turn.action = .clearChanged c
  · obtain ⟨c, hc⟩ := hclear
    have hindex : Store.SameIndex memory.store _ := Store.sameIndex_clearChanged c
    rw [Turn.after_clearChanged hc]
    exact Store.continues_of_same hindex.lasting (hindex.deviceTags d)
  · obtain hchanges | ⟨store, hchanges, c, e, -, he, -, hafter⟩ :=
      Turn.changes_or_breaks (not_exists.mp hclear) hsound hpackaged hadmissible
    · exact hsound.continues_changes hchanges
    · rw [hafter]
      exact (hsound.continues_changes hchanges).trans (Store.continues_connect he c d)

/-! ## A cursor among other operations -/

namespace Cursor

/-- What happens while a cursor is open: a turn of a run, a step of the cursor, its release. -/
inductive Event where
  | turn (turn : Turn)
  | next
  | release

/-- A cursor and the memory that it reads, with the pairs that it gave, the earliest first, each
with the store that it was read from. -/
structure Walk where
  memory : Memory
  cursor : Cursor
  given : List (Store × String × String) := []

namespace Walk

def step (walk : Walk) : Event → Walk
  | .turn turn => { walk with memory := turn.after walk.memory }
  | .next =>
    match walk.cursor.next walk.memory.store with
    | .ok (some pair, cursor) =>
      { walk with cursor, given := walk.given ++ [(walk.memory.store, pair)] }
    | .ok (none, cursor) => { walk with cursor }
    | .error _ => walk
  | .release => { walk with cursor := walk.cursor.release }

def run (walk : Walk) (events : List Event) : Walk := events.foldl step walk

/-- Every turn is admissible when it comes. -/
def AllAdmissible : List Event → Walk → Prop
  | [], _ => True
  | event :: rest, walk =>
    (∀ turn, event = .turn turn → turn.action.Admissible walk.memory.store) ∧
      AllAdmissible rest (walk.step event)

/-- No turn destroys a tag of a device. -/
def Spares (d : DeviceId) : List Event → Walk → Prop
  | [], _ => True
  | event :: rest, walk =>
    (walk.memory.store.device d).tags ⊆ ((walk.step event).memory.store.device d).tags ∧
      Spares d rest (walk.step event)

/-- The turns among events, without what happens to the cursor. -/
def turns (events : List Event) : List Turn :=
  events.filterMap fun
    | .turn turn => some turn
    | _ => none

/-- A given pair is that of a tag in the store that it was read from. -/
def ReadFrom (t : TagId) (given : Store × String × String) : Prop := given.2 = given.1.pairOf t

/-- What was given so far are the first tags of the device, and the next one is behind them. -/
structure Exact (d : DeviceId) (walk : Walk) : Prop where
  cursor : walk.cursor = ⟨some d, walk.given.length⟩
  given : List.Forall₂ ReadFrom
    ((walk.memory.store.device d).tags.take walk.given.length) walk.given

variable {walk : Walk} {event : Event} {d : DeviceId}

/-! ### One event -/

theorem memory_step (walk : Walk) (event : Event) :
    (walk.step event).memory = match event with
      | .turn turn => turn.after walk.memory
      | _ => walk.memory := by
  cases event with
  | next =>
    unfold step
    dsimp only
    split <;> rfl
  | _ => rfl

theorem reachable_step (hreachable : Reachable walk.memory)
    (hadmissible : ∀ turn, event = .turn turn → turn.action.Admissible walk.memory.store) :
    Reachable (walk.step event).memory := by
  rw [memory_step]
  cases event with
  | turn turn => exact hreachable.after (hadmissible turn rfl)
  | _ => exact hreachable

/-- Without its release a cursor stays on its device. -/
theorem device_step (hdevice : walk.cursor.device = some d) (hevent : event ≠ .release) :
    (walk.step event).cursor.device = some d := by
  cases event with
  | turn turn => exact hdevice
  | next =>
    unfold step Cursor.next
    rw [hdevice]
    dsimp only
    split
    · next hnone =>
      split at hnone <;> cases hnone
      rfl
    · next hsome =>
      split at hsome <;> cases hsome
      exact hdevice
    · exact hdevice
  | release => exact absurd rfl hevent

theorem device_step_of_none (hdevice : walk.cursor.device = none) :
    (walk.step event).cursor.device = none := by
  cases event with
  | turn turn => exact hdevice
  | next =>
    unfold step Cursor.next
    rw [hdevice]
    exact hdevice
  | release => rfl

/-- What the cursor gives next is the pair of the tag at its position, if there is one. -/
theorem next_eq {cursor : Cursor} (hdevice : cursor.device = some d) (store : Store) :
    ∃ behind, cursor.next store =
      .ok ((store.device d).tags[cursor.position]?.map store.pairOf, behind) := by
  unfold Cursor.next Store.pairs
  rw [hdevice]
  dsimp only
  rw [List.getElem?_map]
  cases (store.device d).tags[cursor.position]? with
  | none => exact ⟨_, rfl⟩
  | some t => exact ⟨_, rfl⟩

theorem Exact.length_le (hexact : Exact d walk) :
    walk.given.length ≤ (walk.memory.store.device d).tags.length := by
  have hlength := hexact.given.length_eq
  rw [List.length_take] at hlength
  omega

/-- What was given stays the front of a list that grows at its end. -/
theorem Exact.grow (hexact : Exact d walk) {memory : Memory}
    (hgrows : (walk.memory.store.device d).tags <+: (memory.store.device d).tags) :
    Exact d { walk with memory } where
  cursor := hexact.cursor
  given := by
    obtain ⟨added, hadded⟩ := hgrows
    dsimp only
    rw [← hadded, List.take_append_of_le_length hexact.length_le]
    exact hexact.given

/-- A step of the cursor gives the first tag that was not given yet. -/
theorem Exact.next (hexact : Exact d walk) : Exact d (walk.step .next) := by
  obtain ⟨memory, cursor, given⟩ := walk
  obtain ⟨hcursor, hgiven⟩ := hexact
  dsimp only at hcursor hgiven
  subst hcursor
  cases htag : (memory.store.device d).tags[given.length]? with
  | none =>
    have hstep : step ⟨memory, ⟨some d, given.length⟩, given⟩ .next =
        ⟨memory, ⟨some d, given.length⟩, given⟩ := by
      simp [step, Cursor.next, Store.pairs, htag]
    rw [hstep]
    exact ⟨rfl, hgiven⟩
  | some t =>
    have hstep : step ⟨memory, ⟨some d, given.length⟩, given⟩ .next =
        ⟨memory, ⟨some d, given.length + 1⟩,
          given ++ [(memory.store, (memory.store.tag t).name, (memory.store.tag t).value)]⟩ := by
      simp [step, Cursor.next, Store.pairs, htag]
    rw [hstep]
    refine ⟨by simp, ?_⟩
    dsimp only
    rw [List.length_append, List.length_singleton, List.take_add_one, htag]
    exact List.rel_append hgiven (.cons rfl .nil)

/-! ### Any events -/

theorem memory_run (events : List Event) (walk : Walk) :
    (walk.run events).memory =
      (turns events).foldl (fun memory turn => turn.after memory) walk.memory := by
  induction events generalizing walk with
  | nil => rfl
  | cons event rest ih =>
    rw [run, List.foldl_cons, ← run, ih, memory_step]
    cases event <;> rfl

theorem device_run {events : List Event} (hdevice : walk.cursor.device = some d)
    (hopen : .release ∉ events) : (walk.run events).cursor.device = some d := by
  induction events generalizing walk with
  | nil => exact hdevice
  | cons event rest ih =>
    rw [List.mem_cons, not_or] at hopen
    exact ih (device_step hdevice (Ne.symm hopen.1)) hopen.2

theorem device_run_of_none (events : List Event) (hdevice : walk.cursor.device = none) :
    (walk.run events).cursor.device = none := by
  induction events generalizing walk with
  | nil => exact hdevice
  | cons event rest ih => exact ih (device_step_of_none hdevice)

theorem device_run_of_release {events : List Event} (hreleased : .release ∈ events) :
    (walk.run events).cursor.device = none := by
  induction events generalizing walk with
  | nil => cases hreleased
  | cons event rest ih =>
    rcases List.mem_cons.mp hreleased with rfl | hlater
    · exact device_run_of_none rest rfl
    · exact ih hlater

theorem reachable_run {events : List Event} (hreachable : Reachable walk.memory)
    (hadmissible : AllAdmissible events walk) : Reachable (walk.run events).memory := by
  induction events generalizing walk with
  | nil => exact hreachable
  | cons event rest ih =>
    exact ih (reachable_step hreachable hadmissible.1) hadmissible.2

/-- As long as no tag of the device is destroyed, the pairs that were given are its first ones. -/
theorem exact_run {events : List Event} (hreachable : Reachable walk.memory)
    (hadmissible : AllAdmissible events walk) (hopen : .release ∉ events)
    (hspares : Spares d events walk) (hexact : Exact d walk) :
    Exact d (walk.run events) := by
  -- The invariant is carried from event to event; a turn can only lengthen the list.
  induction events generalizing walk with
  | nil => exact hexact
  | cons event rest ih =>
    obtain ⟨hturn, hrest⟩ := hadmissible
    obtain ⟨hkept, hlater⟩ := hspares
    rw [List.mem_cons, not_or] at hopen
    refine ih (reachable_step hreachable hturn) hrest hopen.2 hlater ?_
    cases event with
    | turn turn =>
      have hcontinues := Turn.continues hreachable.sound hreachable.packaged (hturn turn rfl) d
      exact hexact.grow (hcontinues.isPrefix hreachable.sound hkept)
    | next => exact hexact.next
    | release => exact absurd rfl hopen.1

/-- What holds of a cursor on a device after any events. -/
structure Follows (d : DeviceId) (opened : Walk) (events : List Event) : Prop where
  /-- Neither a step of the cursor nor its release changes anything but the cursor. -/
  memory : (opened.run events).memory =
    (turns events).foldl (fun memory turn => turn.after memory) opened.memory
  live : .release ∉ events → ∃ found behind,
    (opened.run events).cursor.next (opened.run events).memory.store = .ok (found, behind) ∧
      ∀ pair ∈ found, ∃ t ∈ ((opened.run events).memory.store.device d).tags,
        pair = (opened.run events).memory.store.pairOf t
  /-- If nothing is destroyed, the tags that were given are the first ones, each of them once. -/
  exact : .release ∉ events → Spares d events opened →
    ((opened.run events).memory.store.device d).tags.Nodup ∧
      ∃ k ≤ ((opened.run events).memory.store.device d).tags.length,
        List.Forall₂ ReadFrom (((opened.run events).memory.store.device d).tags.take k)
          (opened.run events).given ∧
        ∃ behind, (opened.run events).cursor.next (opened.run events).memory.store =
          .ok (((opened.run events).memory.store.device d).tags[k]?.map
            (opened.run events).memory.store.pairOf, behind)
  released : .release ∈ events → ∃ failure,
    (opened.run events).cursor.next (opened.run events).memory.store = .error failure ∧
      failure.kind = .invalidIterator

end Walk

/-- In every run a cursor follows the list of its device: as long as no tag of the device is
destroyed, it gives the first tags, each once and as it was when it was given, and it stops only at
the end of the list as it is by then; tags that are destroyed only shorten what it gives, and once
it is released it is refused. -/
theorem follows_tags {memory : Memory} (hreachable : Reachable memory) {d : DeviceId}
    {cursor : Cursor} (hstart : Cursor.start (some d) = .ok cursor) (events : List Event)
    (hadmissible : Walk.AllAdmissible events ⟨memory, cursor, []⟩) :
    Walk.Follows d ⟨memory, cursor, []⟩ events := by
  cases hstart
  have hdevice : (⟨memory, ⟨some d, 0⟩, []⟩ : Walk).cursor.device = some d := rfl
  constructor
  case memory => exact Walk.memory_run events _
  case live =>
    intro hopen
    obtain ⟨behind, hnext⟩ := Walk.next_eq (Walk.device_run hdevice hopen) _
    refine ⟨_, behind, hnext, fun pair hpair => ?_⟩
    obtain ⟨t, ht, rfl⟩ := Option.mem_map.mp hpair
    exact ⟨t, List.mem_of_getElem? ht, rfl⟩
  case exact =>
    intro hopen hspares
    have hreached : Reachable (Walk.run ⟨memory, ⟨some d, 0⟩, []⟩ events).memory :=
      Walk.reachable_run hreachable hadmissible
    have hexact : Walk.Exact d (Walk.run ⟨memory, ⟨some d, 0⟩, []⟩ events) :=
      Walk.exact_run hreachable hadmissible hopen hspares ⟨rfl, .nil⟩
    refine ⟨hreached.sound.linked.listedOnce d, _, hexact.length_le, hexact.given, ?_⟩
    obtain ⟨behind, hnext⟩ := Walk.next_eq (Walk.device_run hdevice hopen) _
    rw [hexact.cursor] at hnext ⊢
    exact ⟨behind, hnext⟩
  case released =>
    intro hreleased
    have hnone : (Walk.run ⟨memory, ⟨some d, 0⟩, []⟩ events).cursor.device = none :=
      Walk.device_run_of_release hreleased
    refine ⟨.iteratorReleased, ?_, rfl⟩
    unfold Cursor.next
    rw [hnone]

/-- A device of a cache with a label. -/
def labelling : List Action :=
  [.newCache none none, .obtainDevice ⟨0⟩ (some "/dev/sda1"),
    .setTag (some ⟨0⟩) (.string "LABEL") (.string "data") false]

/-- A cursor on that device, before its first step. -/
def opened : Walk where
  memory := (Action.performAll .bare .unlimited labelling ({}, [])).1
  cursor := ⟨some ⟨0⟩, 0⟩

/-- A turn that sets the identifier of the device. -/
def identifying (text : String) : Turn where
  host := .bare
  action := .setTag (some ⟨0⟩) (.string "UUID") (.string text) true

/-- The cursor comes to the end of the list before a tag is added, and is past that tag before its
value is replaced. -/
def lateTag : List Event :=
  [.next, .next, .turn (identifying "1234"), .next, .turn (identifying "5678")]

/-- The tag that is added at the end is given with the value that it has by then. -/
theorem follows_late_tag : Walk.Follows ⟨0⟩ opened lateTag ∧ Walk.Spares ⟨0⟩ lateTag opened ∧
    (opened.run lateTag).given.map Prod.snd = [("LABEL", "data"), ("UUID", "1234")] ∧
    (opened.run lateTag).memory.store.pairs ⟨0⟩ = [("LABEL", "data"), ("UUID", "5678")] := by
  have hreachable : Reachable (Action.performAll .bare .unlimited labelling ({}, [])).1 := by
    refine ⟨_, Run.start.performAll .bare .unlimited labelling ?_⟩
    refine ⟨⟨by simp, by simp⟩, ?cache, fun e he => ?_, trivial⟩
    case cache =>
      change Table.Holds _ _
      decide
    cases he
    decide
  have hturn : ∀ (walk : Walk) (text : String), walk.memory.store.devices.Holds ⟨0⟩ →
      ∀ turn, Event.turn (identifying text) = .turn turn →
        turn.action.Admissible walk.memory.store := by
    rintro walk text hheld _ ⟨⟩ e he
    cases he
    exact hheld
  have hnext : ∀ walk : Walk, ∀ turn, Event.next = .turn turn →
      turn.action.Admissible walk.memory.store := fun _ _ hevent => nomatch hevent
  have hadmissible : Walk.AllAdmissible lateTag opened :=
    ⟨hnext _, hnext _, hturn _ _ (by decide +kernel), hnext _, hturn _ _ (by decide +kernel),
      trivial⟩
  have hfollows : Walk.Follows ⟨0⟩ ⟨opened.memory, ⟨some ⟨0⟩, 0⟩, []⟩ lateTag :=
    follows_tags hreachable rfl lateTag hadmissible
  refine ⟨hfollows, ?_, by decide +kernel, by decide +kernel⟩
  exact ⟨by decide +kernel, by decide +kernel, by decide +kernel, by decide +kernel,
    by decide +kernel, trivial⟩

end Cursor

end DeviceTags
