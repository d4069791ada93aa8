import DeviceTags.Proofs.Probing
import DeviceTags.Proofs.Store.View

/-!
# Operations with memory to spare

Where memory has no limit, linking, tagging and attaching cannot fail for want of it, so that each of
them goes through with the effect that the store defines for it. That is what a program may count on
that is not short of memory. Where an operation can fail for nothing else, it has that effect with
any supply, unless it fails for want of memory.
-/

namespace DeviceTags

variable {α β : Type}

/-- The operation goes through if memory has no limit, leaves memory without limit, and gives a
result and a store as said. -/
def GoesThrough (operation : Op α) (before : Memory) (done : α → Store → Prop) : Prop :=
  before.supply = .unlimited →
    Does operation before (fun value after => after.supply = .unlimited ∧ done value after.store)
      fun _ _ => False

namespace GoesThrough

variable {operation : Op α} {before : Memory} {done done' : α → Store → Prop}

theorem exists_ok (hgoes : GoesThrough operation before done)
    (hsupply : before.supply = .unlimited) :
    ∃ value after, operation before = .ok value after ∧ after.supply = .unlimited ∧
      done value after.store :=
  (hgoes hsupply).exists_ok

theorem mono (hgoes : GoesThrough operation before done)
    (hdone : ∀ value after, done value after → done' value after) :
    GoesThrough operation before done' :=
  fun hsupply => (hgoes hsupply).weaken fun value after hafter =>
    ⟨hafter.1, hdone value after.store hafter.2⟩

theorem pure {value : α} (hdone : done value before.store) :
    GoesThrough (Pure.pure value) before done :=
  fun hsupply => Does.pure ⟨hsupply, hdone⟩

theorem bind {next : α → Op β} {done' : β → Store → Prop}
    (hfirst : GoesThrough operation before done)
    (hnext : ∀ value after, done value after.store → GoesThrough (next value) after done') :
    GoesThrough (operation >>= next) before done' :=
  fun hsupply => (hfirst hsupply).andThen fun value after hafter =>
    hnext value after hafter.2 hafter.1

theorem discard {done : Store → Prop}
    (hgoes : GoesThrough operation before fun _ after => done after) :
    GoesThrough (Functor.discard operation) before fun _ after => done after :=
  hgoes.bind fun _ _ hdone => .pure hdone

/-- An argument that passes its check is what the operation goes on with. -/
theorem given_bind {check : Op α} {value : α} {next : α → Op β} {done : β → Store → Prop}
    (hcheck : check = Pure.pure value) (hnext : GoesThrough (next value) before done) :
    GoesThrough (check >>= next) before done :=
  hcheck ▸ hnext

/-- What stands in for an operation that runs out of memory is not needed. -/
theorem onShortage (hgoes : GoesThrough operation before done) (instead : Op α) :
    GoesThrough (Op.onShortage operation instead) before done :=
  fun hsupply => (hgoes hsupply).onShortage (fun _ hnever => hnever.elim) fun _ _ _ hnever => hnever

theorem look_bind {γ : Type} {read : Store → γ} {next : γ → Op α}
    (hnext : GoesThrough (next (read before.store)) before done) :
    GoesThrough (Op.look read >>= next) before done := hnext

theorem edit_bind {change : Store → Store} {next : Unit → Op α}
    (hnext : GoesThrough (next ()) (before.withStore (change before.store)) done) :
    GoesThrough (Op.edit change >>= next) before done := hnext

theorem edit {done : Unit → Store → Prop} {change : Store → Store}
    (hdone : done () (change before.store)) : GoesThrough (Op.edit change) before done :=
  fun hsupply => Does.edit ⟨hsupply, hdone⟩

end GoesThrough

/-- What goes through without limit fails, if it fails, under a limit. -/
theorem GoesThrough.limits {operation : Op α} {before : Memory} {done : α → Store → Prop}
    {done' : α → Memory → Prop} {failed : Failure → Memory → Prop}
    (hgoes : GoesThrough operation before done) (hdoes : Does operation before done' failed) :
    Does operation before
      (fun value after => (before.supply = .unlimited → after.supply = .unlimited) ∧
        done' value after)
      fun failure after => before.supply ≠ .unlimited ∧ failed failure after := by
  unfold GoesThrough Does at *
  cases hrun : operation before with
  | ok value after =>
    rw [hrun] at hdoes hgoes
    exact ⟨fun hsupply => (hgoes hsupply).1, hdoes⟩
  | error failure after =>
    rw [hrun] at hdoes hgoes
    exact ⟨fun hsupply => hgoes hsupply, hdoes⟩

/-- Unless memory is short the operation goes through, and wherever it goes through it gives a result
and a store as said. -/
def UnlessShort (operation : Op α) (before : Memory) (done : α → Store → Prop) : Prop :=
  Does operation before
    (fun value after => (before.supply = .unlimited → after.supply = .unlimited) ∧
      done value after.store)
    fun failure _ => before.supply ≠ .unlimited ∧ failure.kind.isA .memory

namespace UnlessShort

variable {operation : Op α} {before : Memory} {done done' : α → Store → Prop}

theorem goesThrough (hshort : UnlessShort operation before done) :
    GoesThrough operation before done :=
  fun hsupply => Does.mono hshort (fun _ _ hafter => ⟨hafter.1 hsupply, hafter.2⟩)
    fun _ _ hfailed => hfailed.1 hsupply

theorem mono (hshort : UnlessShort operation before done)
    (hdone : ∀ value after, done value after → done' value after) :
    UnlessShort operation before done' :=
  Does.mono hshort (fun value after hafter => ⟨hafter.1, hdone value after.store hafter.2⟩)
    fun _ _ hfailed => hfailed

theorem pure {value : α} (hdone : done value before.store) :
    UnlessShort (Pure.pure value) before done := Does.pure ⟨id, hdone⟩

theorem bind {next : α → Op β} {done' : β → Store → Prop}
    (hfirst : UnlessShort operation before done)
    (hnext : ∀ value after, done value after.store → UnlessShort (next value) after done') :
    UnlessShort (operation >>= next) before done' := by
  refine Does.bind hfirst (fun value middle hmiddle => ?_) fun _ _ hfailed => hfailed
  refine Does.mono (hnext value middle hmiddle.2) (fun _ after hafter => ?_) fun _ _ hfailed => ?_
  · exact ⟨fun hsupply => hafter.1 (hmiddle.1 hsupply), hafter.2⟩
  · exact ⟨fun hsupply => hfailed.1 (hmiddle.1 hsupply), hfailed.2⟩

/-- An argument that passes its check is what the operation goes on with. -/
theorem given_bind {check : Op α} {value : α} {next : α → Op β} {done : β → Store → Prop}
    (hcheck : check = Pure.pure value) (hnext : UnlessShort (next value) before done) :
    UnlessShort (check >>= next) before done :=
  hcheck ▸ hnext

theorem look_bind {γ : Type} {read : Store → γ} {next : γ → Op α}
    (hnext : UnlessShort (next (read before.store)) before done) :
    UnlessShort (Op.look read >>= next) before done := hnext

theorem edit_bind {change : Store → Store} {next : Unit → Op α}
    (hnext : UnlessShort (next ()) (before.withStore (change before.store)) done) :
    UnlessShort (Op.edit change >>= next) before done := hnext

end UnlessShort

variable {memory : Memory} {c : CacheId}

theorem short_log (level : Level) (source : Source) (message : String) :
    UnlessShort (Op.log level source message) memory fun _ store => store = memory.store :=
  ⟨id, rfl⟩

theorem goes_log (level : Level) (source : Source) (message : String) :
    GoesThrough (Op.log level source message) memory fun _ store => store = memory.store :=
  (short_log level source message).goesThrough

theorem goes_request (what : Request) :
    GoesThrough (Op.request what) memory fun _ store => store = memory.store := by
  intro hsupply
  have hgranted : Op.request what memory = .ok () memory :=
    Op.request_of_unlimited (by rw [hsupply]; rfl)
  rw [Does, hgranted]
  exact ⟨hsupply, rfl⟩

theorem goes_newTag (record : Tag) :
    GoesThrough (Op.newTag record) memory fun t store => t = memory.store.tags.next ∧
      store = { memory.store with tags := memory.store.tags.add record } :=
  fun hsupply => ⟨hsupply, rfl, rfl⟩

theorem goes_newHead (record : Head) :
    GoesThrough (Op.newHead record) memory fun h store => h = memory.store.heads.next ∧
      store = { memory.store with heads := memory.store.heads.add record } :=
  fun hsupply => ⟨hsupply, rfl, rfl⟩

theorem short_newDevice (record : Device) :
    UnlessShort (Op.newDevice record) memory fun d store => d = memory.store.devices.next ∧
      store = { memory.store with devices := memory.store.devices.add record } :=
  ⟨id, rfl, rfl⟩

theorem short_newCache (record : Cache) :
    UnlessShort (Op.newCache record) memory fun k store => k = memory.store.caches.next ∧
      store = { memory.store with caches := memory.store.caches.add record } :=
  ⟨id, rfl, rfl⟩

theorem goes_newCache (record : Cache) :
    GoesThrough (Op.newCache record) memory fun k store => k = memory.store.caches.next ∧
      store = { memory.store with caches := memory.store.caches.add record } :=
  (short_newCache record).goesThrough

/-! ## Tags -/

theorem goes_obtainHead (c : CacheId) (name : String) :
    GoesThrough (Index.obtainHead c name) memory fun h store =>
      h = memory.store.headFor c name ∧ store = memory.store.ensureHead c name := by
  unfold Index.obtainHead Store.headFor Store.ensureHead
  apply GoesThrough.look_bind
  cases hfound : memory.store.headOf? c name with
  | some h => exact .pure ⟨rfl, rfl⟩
  | none =>
    refine (goes_request .head).bind fun _ granted hgranted => ?_
    rw [← hgranted]
    refine (goes_newHead _).bind fun h made hmade => ?_
    obtain ⟨rfl, hstore⟩ := hmade
    refine .edit_bind ((goes_log _ _ _).bind fun _ logged hlogged => .pure ⟨rfl, ?_⟩)
    rw [hlogged, Memory.store_withStore, hstore]

theorem goes_link (c : CacheId) (t : TagId) :
    GoesThrough (Index.link c t) memory fun _ store => store = memory.store.linkTag c t := by
  unfold Index.link
  apply GoesThrough.look_bind
  refine (goes_obtainHead c _).bind fun h ensured hensured => ?_
  obtain ⟨rfl, hstore⟩ := hensured
  apply GoesThrough.edit_bind
  refine (goes_request _).bind fun _ granted hgranted => ?_
  refine .edit_bind (.pure ?_)
  rw [Memory.store_withStore, hgranted, Memory.store_withStore, hstore]
  rfl

theorem goes_append (d : DeviceId) (name value : String) :
    GoesThrough (Tagging.append d name value) memory fun t store =>
      t = memory.store.tags.next ∧ store = memory.store.appendTag d name value := by
  unfold Tagging.append Store.appendTag
  refine .look_bind (.look_bind ?_)
  refine ((goes_request .tag).onShortage _).bind fun _ granted hgranted => ?_
  rw [← hgranted]
  refine (goes_newTag _).bind fun t made hmade => ?_
  obtain ⟨rfl, hstore⟩ := hmade
  have henter : made.store.enterDevice d granted.store.tags.next =
      granted.store.makeTag d name value := by
    rw [hstore]
    rfl
  refine GoesThrough.bind (GoesThrough.onShortage
    (?henters : GoesThrough _ made fun _ store => store = granted.store.appendTag d name value) _)
    fun _ after hafter => .pure ⟨rfl, hafter⟩
  case henters =>
    refine (goes_request .deviceSlot).bind fun _ slot hslot => ?_
    apply GoesThrough.edit_bind
    rw [hslot, henter]
    unfold Store.appendTag
    cases (granted.store.device d).cache with
    | none => exact .pure rfl
    | some c => exact (goes_link c _).discard

theorem goes_assign (d : DeviceId) (name value : String) (replace : Bool) :
    GoesThrough (Tagging.assign d name value replace) memory fun _ store =>
      store = memory.store.assignTag d name value replace := by
  unfold Tagging.assign Store.assignTag
  apply GoesThrough.look_bind
  cases memory.store.firstTag? d name with
  | none =>
    refine (goes_append d name value).bind fun t made hmade => .edit ?_
    obtain ⟨rfl, hstore⟩ := hmade
    rw [hstore]
  | some first =>
    apply GoesThrough.look_bind
    dsimp only
    by_cases hvalue : (memory.store.tag first).value = value
    · rw [if_pos hvalue, if_pos hvalue]
      exact .pure rfl
    · rw [if_neg hvalue, if_neg hvalue]
      by_cases hreplace : replace
      · rw [if_pos hreplace, if_pos hreplace]
        exact .edit rfl
      · rw [if_neg hreplace, if_neg hreplace]
        refine (goes_append d name value).bind fun t made hmade => .edit ?_
        obtain ⟨rfl, hstore⟩ := hmade
        rw [hstore]

/-- A text is set under a name with something in it. -/
theorem goes_set (d : DeviceId) {name : String} (hname : name ≠ "") (value : String)
    (replace : Bool) :
    GoesThrough (Tagging.set (some d) (.string name) (.string value) replace) memory
      fun _ store => store = memory.store.assignTag d name value replace := by
  unfold Tagging.set
  rw [requireName_of_ne hname]
  exact goes_assign d name value replace

theorem short_set (hsound : memory.store.Sound) {d : DeviceId} (hd : memory.store.devices.Holds d)
    {name : String} (hname : name ≠ "") (value : String) (replace : Bool) :
    UnlessShort (Tagging.set (some d) (.string name) (.string value) replace) memory
      fun _ store => store = memory.store.assignTag d name value replace := by
  have hdoes : Does (Tagging.set (some d) (.string name) (.string value) replace) memory
      (fun _ after => after.store = memory.store.assignTag d name value replace)
      fun failure _ => failure.kind.isA .memory := by
    unfold Tagging.set
    rw [requireName_of_ne hname]
    refine (does_assign (hsound.taggable hd) name value replace).mono (fun _ _ hafter => hafter) ?_
    rintro failure after ⟨rfl, -⟩
    rfl
  exact (goes_set d hname value replace).limits hdoes

/-! ## Devices -/

theorem goes_linkAll (shortage : Failure) (headsBefore : List String) (linked waiting : List TagId) :
    GoesThrough (Attachment.linkAll c shortage headsBefore linked waiting) memory fun _ store =>
      store = Store.linkMissing c waiting memory.store := by
  induction waiting generalizing memory linked with
  | nil => exact .pure rfl
  | cons t rest ih =>
    unfold Attachment.linkAll Store.linkMissing
    refine .look_bind ?_
    split
    · exact ih linked
    · refine ((goes_link c t).discard.onShortage _).bind fun _ after hafter => ?_
      rw [← hafter]
      exact ih (linked ++ [t])

/-- A device joins a cache that does not list it, unless it points to another one. -/
theorem goes_add {d : DeviceId} (hinvites : memory.store.Invites c d) :
    GoesThrough (Attachment.add c (some d)) memory fun _ store =>
      store = memory.store.attach c d := by
  unfold Attachment.add Store.attach Store.connect
  refine .given_bind rfl (.look_bind (.look_bind ?_))
  rw [if_neg (by simpa using hinvites.out), hinvites.not_elsewhere]
  refine GoesThrough.look_bind ((goes_linkAll _ _ [] _).bind fun _ linked hlinked => ?_)
  refine GoesThrough.edit_bind ((goes_request .cacheSlot).bind fun _ granted hgranted => ?_)
  refine GoesThrough.edit_bind ((goes_log _ _ _).mono fun _ store hstore => ?_)
  rw [hstore, Memory.store_withStore, hgranted, Memory.store_withStore, hlinked]

/-- A device without tags joins a cache that it is not in. -/
theorem short_add {d : DeviceId} (hinvites : memory.store.Invites c d)
    (hempty : (memory.store.device d).tags = []) :
    UnlessShort (Attachment.add c (some d)) memory fun _ store =>
      store = memory.store.attach c d := by
  have hadd := does_addUntagged hinvites hempty
  refine (goes_add hinvites).limits (hadd.mono (fun _ _ hafter => hafter) ?_)
  rintro failure after hbreaks
  rw [hbreaks.kind]
  rfl

/-- The device of a name is there, or it is made and attached. -/
theorem short_obtain (hsound : memory.store.Sound) {name : String} (hname : name ≠ "") :
    UnlessShort (Attachment.obtain c (some name)) memory fun d store =>
      (Attachment.named? memory.store c name = some d ∧ store = memory.store) ∨
        (Attachment.named? memory.store c name = none ∧ d = memory.store.devices.next ∧
          store = memory.store.enroll c name) := by
  unfold Attachment.obtain
  rw [requireDeviceName_of_ne hname]
  refine .given_bind rfl (.look_bind ?_)
  cases hfound : Attachment.named? memory.store c name with
  | some d => exact .pure (.inl ⟨rfl, rfl⟩)
  | none =>
    refine (short_newDevice _).bind fun d made hmade => ?_
    obtain ⟨rfl, hstore⟩ := hmade
    have hrecord : made.store.device memory.store.devices.next = { name } := by
      rw [hstore, Store.device_next_add]
    have hmade : made.store.Sound := by
      rw [hstore]
      exact hsound.of_sameIndex (Store.sameIndex_addDevice name .default {})
    have hinvites := hmade.invites_of_free (by rw [hrecord]) c
    refine (short_add hinvites (by rw [hrecord])).bind fun _ after hafter => ?_
    refine .pure (.inr ⟨rfl, rfl, ?_⟩)
    rw [hafter, hstore, Store.enroll]

end DeviceTags
