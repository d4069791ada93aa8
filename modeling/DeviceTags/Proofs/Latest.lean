import DeviceTags.Proofs.ProbeOnce
import DeviceTags.Proofs.Store.Latest

/-!
# What the direct accesses read

In every state that a run leads to, the type of a device is the value of its first type, and its
label and its identifier are those that were written last of the ones that it still has. Operations
that set no tag keep what the chronicle says or take all tags of a device away; each tag that is set,
by a caller or by an inventory on the way, is noted as the latest of its name.
-/

namespace DeviceTags

open Store (Sound Tracked Spares)

variable {σ α β : Type}

/-! ## Operations that set no tag -/

/-- A store moves onward, what a chronicle says of it stays right, and no device gets a tag. -/
structure Store.Rests (before after : Store) : Prop where
  onward : before.Onward after
  tracked : ∀ written, before.Tracked written → after.Tracked written
  listed : ∀ d, (after.device d).tags ⊆ (before.device d).tags

theorem Store.Rests.refl {store : Store} (hsound : store.Sound) : store.Rests store :=
  ⟨.refl hsound, fun _ htracked => htracked, fun _ => List.Subset.refl _⟩

theorem Store.Rests.trans {before middle after : Store} (hfirst : before.Rests middle)
    (hsecond : middle.Rests after) : before.Rests after :=
  ⟨hfirst.onward.trans hsecond.onward,
    fun written htracked => hsecond.tracked written (hfirst.tracked written htracked),
    fun d => List.Subset.trans (hsecond.listed d) (hfirst.listed d)⟩

instance (storeOf : σ → Store) : IsTrans σ fun s t => (storeOf s).Rests (storeOf t) :=
  ⟨fun _ _ _ => Store.Rests.trans⟩

/-- From every sound state, an operation sets no tag, whether it goes through or fails. -/
def Quiet (storeOf : σ → Store) (operation : EStateM Failure σ α) : Prop :=
  ∀ state, (storeOf state).Sound →
    Moves (fun s t => (storeOf s).Rests (storeOf t)) operation state

namespace Quiet

variable {storeOf : σ → Store} {operation : EStateM Failure σ α}

theorem pure (value : α) : Quiet storeOf (Pure.pure value) :=
  fun _ hsound => .pure (.refl hsound)

theorem throw (failure : Failure) :
    Quiet storeOf (MonadExcept.throw failure : EStateM Failure σ α) :=
  fun _ hsound => Does.throw (Store.Rests.refl hsound)

theorem bind {next : α → EStateM Failure σ β} (hfirst : Quiet storeOf operation)
    (hnext : ∀ value, Quiet storeOf (next value)) : Quiet storeOf (operation >>= next) :=
  fun state hsound => (hfirst state hsound).bind fun value middle hmiddle =>
    hnext value middle hmiddle.onward.sound

theorem discard (hoperation : Quiet storeOf operation) : Quiet storeOf (Functor.discard operation) :=
  hoperation.bind fun _ => .pure ()

theorem look {γ : Type} (read : Store → γ) : Quiet Memory.store (Op.look read) :=
  fun _ hsound => Store.Rests.refl hsound

theorem log (level : Level) (source : Source) (message : String) :
    Quiet Memory.store (Op.log level source message) :=
  fun _ hsound => Store.Rests.refl hsound

theorem checked (check : Except Failure α) : Quiet Memory.store (Tagging.checked check) := by
  cases check with
  | ok value => exact .pure value
  | error failure => exact .throw failure

theorem of_unmoved {operation : Op α}
    (hunmoved : ∀ memory, Moves (fun s t => t.store = s.store) operation memory) :
    Quiet Memory.store operation := by
  intro memory hsound
  refine (hunmoved memory).mono fun after hstore => ?_
  rw [hstore]
  exact .refl hsound

theorem edit {change : Store → Store}
    (hchange : ∀ store : Store, store.Sound → store.Rests (change store)) :
    Quiet Memory.store (Op.edit change) :=
  fun memory hsound => hchange memory.store hsound

theorem toOp {dialogue : Dialogue α} (hdialogue : Quiet Dialogue.store dialogue) :
    Quiet Memory.store dialogue.toOp :=
  fun memory hsound => Moves.toOp (hdialogue (memory, []) hsound)

end Quiet

section Operations

variable {store : Store} {memory : Memory} {c : CacheId}

/-- A change that neither the index nor a direct access nor a tag sees. -/
theorem Store.Sound.rests (hsound : store.Sound) {after : Store}
    (hindex : Store.SameIndex store after) (hcollaborators : Store.SameCollaborators store after)
    (haliases : Store.SameAliases store after)
    (hvalue : ∀ t, store.tags.Holds t → (after.tag t).value = (store.tag t).value) :
    store.Rests after where
  onward := (hsound.advance_of_sameIndex hindex hcollaborators haliases).toOnward
  tracked _ htracked :=
    htracked.spare hsound (Store.spares_of_same haliases hindex.deviceTags hvalue)
  listed d := by
    rw [hindex.deviceTags]
    exact List.Subset.refl _

theorem quiet_setPriority (d : DeviceId) (priority : Priority) :
    Quiet Memory.store (Op.edit (·.setPriority d priority)) :=
  .edit fun _ hsound => hsound.rests (Store.sameIndex_setPriority d priority)
    (Store.sameCollaborators_of_caches fun _ => rfl) (Store.sameAliases_setPriority d priority)
    fun _ _ => rfl

theorem quiet_markFound (d : DeviceId) : Quiet Memory.store (Op.edit (·.markFound d)) :=
  .edit fun _ hsound => hsound.rests (Store.sameIndex_markFound d)
    (Store.sameCollaborators_of_caches fun _ => rfl) (Store.sameAliases_markFound d) fun _ _ => rfl

theorem quiet_markGone (d : DeviceId) : Quiet Memory.store (Op.edit (·.markGone d)) :=
  .edit fun _ hsound => hsound.rests (Store.sameIndex_markGone d)
    (Store.sameCollaborators_of_caches fun _ => rfl) (Store.sameAliases_markGone d) fun _ _ => rfl

theorem quiet_markProbed (c : CacheId) : Quiet Memory.store (Op.edit (·.markProbed c)) :=
  .edit fun _ hsound => hsound.rests (Store.sameIndex_markProbed c) sameCollaborators_markProbed
    (Store.sameAliases_markProbed c) fun _ _ => rfl

theorem quiet_markChanged (c : CacheId) : Quiet Memory.store (Op.edit (·.markChanged c)) :=
  .edit fun _ hsound => hsound.rests (Store.sameIndex_markChanged c)
    (Store.sameCollaborators_markChanged c) (Store.sameAliases_markChanged c) fun _ _ => rfl

theorem quiet_clearChanged (c : CacheId) : Quiet Memory.store (Op.edit (·.clearChanged c)) :=
  .edit fun _ hsound => hsound.rests (Store.sameIndex_clearChanged c)
    (Store.sameCollaborators_updateCache c fun _ => ⟨rfl, rfl⟩)
    (Store.sameAliases_clearChanged c) fun _ _ => rfl

theorem quiet_newDevice (name : String) (priority : Priority) (flags : DeviceFlags) :
    Quiet Memory.store (Op.newDevice { name, priority, flags }) :=
  fun _ hsound => hsound.rests (Store.sameIndex_addDevice name priority flags)
    (Store.sameCollaborators_of_caches fun _ => rfl)
    (Store.sameAliases_addDevice name priority flags) fun _ _ => rfl

/-- A device that is removed takes all its tags along. -/
theorem quiet_remove (c : CacheId) (d : Option DeviceId) :
    Quiet Memory.store (Attachment.remove c d) := by
  intro memory hsound
  refine (does_remove hsound d).mono (fun _ after hafter => ?_) fun _ after hafter => ?_
  · obtain ⟨e, -, hmem, hstore⟩ := hafter
    have hspares := hsound.spares_detach c e
    rw [hstore]
    exact ⟨(hsound.advance_detach hmem).toOnward, fun _ htracked => htracked.spare hsound hspares,
      hspares.listed⟩
  · change memory.store.Rests after.store
    rw [hafter.1]
    exact .refl hsound

theorem quiet_verifyPath (host : Host) (root : Option Path) (c : CacheId) (d : DeviceId) :
    Quiet Memory.store (verifyPath host root c d) := by
  unfold verifyPath
  refine .bind (.look _) fun device => ?_
  cases host.contains (devicePath root device.name) with
  | error error => exact .throw _
  | ok found =>
    cases found with
    | true => exact .bind (quiet_markFound d) fun _ => .pure _
    | false =>
      refine .bind (.log _ _ _) fun _ => .bind (quiet_markGone d) fun _ => ?_
      split
      · exact .bind (quiet_remove c _) fun _ => .pure none
      · exact .bind (.pure ()) fun _ => .pure none

theorem Verifier.IsPackaged.quiet {verifier : Verifier} (hpackaged : verifier.IsPackaged)
    (host : Host) (c : CacheId) (d : Option DeviceId) :
    Quiet Memory.store (verifier.verify host c d) := by
  cases verifier with
  | trusting => exact .pure d
  | paths root =>
    cases d with
    | none => exact .throw _
    | some d => exact quiet_verifyPath host root c d
  | custom number => exact hpackaged.elim

namespace Lookup

/-- A look into the index sets no tag; its verifier may remove a device. -/
theorem quiet_attempt (host : Host) (c : CacheId) (name value : String) {verifier : Verifier}
    (hverifier : verifier.IsPackaged) :
    Quiet Dialogue.store (attempt host c name value verifier) := by
  intro state hsound
  refine attempt_keeps (fun before after calls hstore hrests => ?_)
    (fun _ _ _ _ _ hrests => hrests) (fun d memory calls hrests => ?_) (.refl hsound)
  · change state.1.store.Rests after.store
    rw [hstore]
    exact hrests
  · exact Does.mono (hverifier.quiet host c d memory hrests.onward.sound)
      (fun _ _ hafter => hrests.trans hafter) fun _ _ hafter => hrests.trans hafter

end Lookup

/-- A device that is attached keeps the tags that it has, also if the attachment breaks off. -/
theorem spares_add (hsound : memory.store.Sound) (hc : memory.store.caches.Holds c)
    {d : Option DeviceId} (hd : ∀ e ∈ d, memory.store.devices.Holds e) :
    Moves (fun s t => Spares s.store t.store) (Attachment.add c d) memory := by
  refine (does_add hsound hc hd).mono (fun _ after hafter => ?_) fun failure after hafter => ?_
  · change Spares memory.store after.store
    obtain ⟨e, he, ⟨-, hkept⟩ | ⟨-, hstore⟩⟩ := hafter
    · rw [hkept]
      exact Store.Restored.spares (.refl _)
    · rw [hstore]
      exact Store.spares_attach (hd e he) c
  · change Spares memory.store after.store
    obtain ⟨hrestored, -⟩ | hbreaks := hafter
    · exact hrestored.spares
    · obtain ⟨e, he, -, hstore⟩ := hbreaks.connected
      rw [hstore]
      exact Store.spares_connect (hd e he) c

theorem rests_addEmpty (hsound : memory.store.Sound) (hc : memory.store.caches.Holds c)
    {d : DeviceId} (hd : memory.store.devices.Holds d)
    (hempty : (memory.store.device d).tags = []) :
    Moves (fun s t => s.store.Rests t.store) (Attachment.add c (some d)) memory := by
  have hadvances : Advances Memory.store (Attachment.add c (some d)) memory fun _ _ => True :=
    advances_addEmpty hsound hc hd hempty
  have hrests : ∀ {after : Memory}, memory.store.Onward after.store →
      Spares memory.store after.store → memory.store.Rests after.store := fun honward hspares =>
    ⟨honward, fun _ htracked => htracked.spare hsound hspares, hspares.listed⟩
  have hspares := spares_add hsound hc (d := some d) (by simpa using hd)
  exact Does.mono (hadvances.and hspares) (fun _ _ hafter => hrests hafter.1.1.toOnward hafter.2)
    fun _ _ hafter => hrests hafter.1.toOnward hafter.2

theorem rests_obtain (hsound : memory.store.Sound) (hc : memory.store.caches.Holds c)
    (name : Option String) :
    Does (Attachment.obtain c name) memory
      (fun d after => memory.store.Rests after.store ∧ after.store.devices.Holds d)
      fun _ after => memory.store.Rests after.store := by
  have hrests : Moves (fun s t => s.store.Rests t.store) (Attachment.obtain c name) memory := by
    unfold Attachment.obtain
    refine (Quiet.checked _ memory hsound).bind fun n given hgiven => ?_
    refine (Quiet.look _ given hgiven.onward.sound).bind fun found looked hlooked => ?_
    have hready := hgiven.trans hlooked
    cases found with
    | some d => exact .pure (.refl hready.onward.sound)
    | none =>
      have hmakes := quiet_newDevice n .default {} looked hready.onward.sound
      have hmade := advances_newDevice hready.onward.sound n .default {}
      refine Does.bind (Does.and hmakes hmade) (fun d made hmade => ?_) fun _ _ hfailed => hfailed.1
      obtain ⟨hnew, -, hd, hempty⟩ := hmade
      have hlasting := (hready.trans hnew).onward.progress.lasting
      have hadded := rests_addEmpty hnew.onward.sound (hlasting.holds_cache hc) hd hempty
      have hseated : Moves (fun s t => s.store.Rests t.store) (do
          Attachment.add c (some d)
          return d) made :=
        hadded.bind fun _ _ hafter => .pure (.refl hafter.onward.sound)
      exact hseated.after hnew
  refine (hrests.and (advances_obtain hsound hc name)).mono (fun d after hafter => ?_)
    fun _ _ hfailed => hfailed.1
  exact ⟨hafter.1, hafter.2.2⟩

end Operations

/-! ## Operations with their chronicle -/

/-- If the chronicle was right it is so still, and every tag that a device did not have before is in
it. -/
structure Records (before after : Memory × List TagId) : Prop where
  tracked : before.1.store.Tracked before.2 → after.1.store.Tracked after.2
  grows : before.2 ⊆ after.2
  listed : ∀ d, ∀ t ∈ (after.1.store.device d).tags,
    t ∈ (before.1.store.device d).tags ∨ t ∈ after.2

theorem Records.trans {before middle after : Memory × List TagId} (hfirst : Records before middle)
    (hsecond : Records middle after) : Records before after where
  tracked htracked := hsecond.tracked (hfirst.tracked htracked)
  grows := List.Subset.trans hfirst.grows hsecond.grows
  listed d t ht := by
    rcases hsecond.listed d t ht with hold | hnew
    · exact (hfirst.listed d t hold).imp_right fun hwritten => hsecond.grows hwritten
    · exact .inr hnew

/-- A store moves onward, and the chronicle goes along. -/
structure Tracks (before after : Memory × List TagId) : Prop extends Records before after where
  onward : before.1.store.Onward after.1.store

theorem Tracks.trans {before middle after : Memory × List TagId} (hfirst : Tracks before middle)
    (hsecond : Tracks middle after) : Tracks before after :=
  ⟨hfirst.toRecords.trans hsecond.toRecords, hfirst.onward.trans hsecond.onward⟩

instance : IsTrans (Memory × List TagId) Tracks := ⟨fun _ _ _ => Tracks.trans⟩

theorem Tracks.refl {state : Memory × List TagId} (hsound : state.1.store.Sound) :
    Tracks state state :=
  ⟨⟨id, List.Subset.refl _, fun _ _ => .inl⟩, .refl hsound⟩

section Chronicle

variable {state : Memory × List TagId} {c : CacheId}

theorem Does.chronicled {operation : Op α} {done : α → Memory × List TagId → Prop}
    {failed : Failure → Memory × List TagId → Prop}
    (hdoes : Does operation state.1 (fun value after => done value (after, state.2))
      fun failure after => failed failure (after, state.2)) :
    Does (Chronicle.ofOp operation) state done failed :=
  hdoes.carried

theorem Store.Rests.records {after : Memory} (hrests : state.1.store.Rests after.store) :
    Records state (after, state.2) :=
  ⟨hrests.tracked state.2, List.Subset.refl _, fun d _ ht => .inl (hrests.listed d ht)⟩

theorem Store.Rests.tracks {after : Memory} (hrests : state.1.store.Rests after.store) :
    Tracks state (after, state.2) :=
  ⟨hrests.records, hrests.onward⟩

theorem Store.Spares.records {after : Memory} (hsound : state.1.store.Sound)
    (hspares : Spares state.1.store after.store) : Records state (after, state.2) :=
  ⟨fun htracked => htracked.spare hsound hspares, List.Subset.refl _,
    fun d _ ht => .inl (hspares.listed d ht)⟩

theorem Quiet.tracks {operation : Op α} (hquiet : Quiet Memory.store operation)
    (hsound : state.1.store.Sound) : Moves Tracks (Chronicle.ofOp operation) state :=
  Does.chronicled (Does.mono (hquiet state.1 hsound) (fun _ _ hafter => hafter.tracks)
    fun _ _ hafter => hafter.tracks)

/-- What is set is noted as the latest. -/
theorem tracks_set (hsound : state.1.store.Sound) {d : Option DeviceId}
    (hd : ∀ e ∈ d, state.1.store.devices.Holds e) (name value : Datum) (replace : Bool) :
    Moves Tracks (Chronicle.noting (Tagging.set d name value replace)) state := by
  have hset : Moves (fun s t => s.store.Onward t.store ∧
      ∀ d name, Store.TracesNamed d name s.store t.store)
      (Tagging.set d name value replace) state.1 := by
    refine (does_set (fun e he => hsound.taggable (hd e he)) name value replace).mono
      (fun _ after hafter => ?_) fun _ after hafter => ?_
    · obtain ⟨e, he, n, v, hstore⟩ := hafter
      rw [hstore]
      exact ⟨(hsound.advance_setTag (hd e he) n v replace).toOnward,
        (hsound.touches_setTag (hd e he) n v replace).traces⟩
    · exact ⟨(hsound.advance_restored hafter.1).toOnward, hsound.traces_spared hafter.1.spares⟩
  have htracks : ∀ after : Memory, state.1.store.Onward after.store →
      (∀ d name, Store.TracesNamed d name state.1.store after.store) →
      Tracks state (after, state.2 ++ state.1.store.written after.store) :=
    fun after honward htraces =>
      ⟨⟨fun htracked => htracked.step hsound honward.sound htraces,
        List.subset_append_left _ _,
        fun _ _ ht => (honward.sound.listed_of_traces htraces ht).imp_right
          fun hwritten => List.mem_append_right _ hwritten⟩, honward⟩
  unfold Moves Does at hset ⊢
  unfold Chronicle.noting
  split at hset
  · next after hrun =>
    rw [hrun]
    exact htracks after hset.1 hset.2
  · next after hrun =>
    rw [hrun]
    exact htracks after hset.1 hset.2

open Inventory (chronicleTags)

theorem tracks_chronicleTags (d : DeviceId) (tags : List (String × Datum))
    (hsound : state.1.store.Sound) (hd : state.1.store.devices.Holds d) :
    Moves Tracks (chronicleTags d tags) state := by
  induction tags generalizing state with
  | nil => exact .pure (.refl hsound)
  | cons tag rest ih =>
    refine (tracks_set hsound (by simpa using hd) _ _ true).bind fun _ after hafter => ?_
    exact ih hafter.onward.sound (hafter.onward.progress.lasting.holds_device hd)

theorem tracks_chronicleDevices (inventory : Inventory) (specs : List DeviceSpec)
    (hsound : state.1.store.Sound) (hc : state.1.store.caches.Holds c) :
    Moves Tracks (inventory.chronicleDevices c specs) state := by
  induction specs generalizing state with
  | nil => exact .pure (.refl hsound)
  | cons spec rest ih =>
    have hdevice : Moves Tracks (inventory.chronicleDevice c spec) state := by
      have hobtain : Does (Chronicle.ofOp (Attachment.obtain c (some spec.name))) state
          (fun d after => Tracks state after ∧ after.1.store.devices.Holds d)
          fun _ after => Tracks state after :=
        Does.chronicled ((rests_obtain hsound hc (some spec.name)).mono
          (fun _ _ hafter => ⟨hafter.1.tracks, hafter.2⟩) fun _ _ hafter => hafter.tracks)
      refine Does.bind hobtain (fun d seated hseated => ?_) fun _ _ hfailed => hfailed
      obtain ⟨htracks, hd⟩ := hseated
      have hrest : Moves Tracks (do
          Chronicle.ofOp (Op.edit (·.setPriority d (inventory.priorityOf spec)))
          chronicleTags d spec.tags) seated := by
        refine ((quiet_setPriority d _).tracks htracks.onward.sound).bind fun _ ranked hranked => ?_
        exact tracks_chronicleTags d spec.tags hranked.onward.sound
          (hranked.onward.progress.lasting.holds_device hd)
      exact hrest.after htracks
    refine hdevice.bind fun _ after hafter => ?_
    exact ih hafter.onward.sound (hafter.onward.progress.lasting.holds_cache hc)

theorem tracks_prober (host : Host) {prober : Prober} (hpackaged : prober.IsPackaged)
    (hsound : state.1.store.Sound) (hc : state.1.store.caches.Holds c) :
    Moves Tracks (prober.chronicle host c) state := by
  cases prober with
  | nothing => exact (quiet_markProbed c).tracks hsound
  | inventory declared =>
    refine ((Quiet.log _ _ _).tracks hsound).bind fun _ logged hlogged => ?_
    have hheld := hlogged.onward.progress.lasting.holds_cache hc
    refine (tracks_chronicleDevices declared _ hlogged.onward.sound hheld).bind
      fun _ brought hbrought => ?_
    have hend : Quiet Memory.store (do
        Op.edit (·.markProbed c)
        let cache ← Op.cache c
        Op.log .info .probe ("Probe complete: " ++
          String.ofList (Text.decimal cache.devices.length) ++ " devices in cache")) :=
      .bind (quiet_markProbed c) fun _ => .bind (.look _) fun _ => .log _ _ _
    exact hend.tracks hbrought.onward.sound
  | custom number => exact hpackaged.elim

theorem tracks_search (host : Host) (name value : String) {prober : Option Prober}
    {verifier : Verifier} (hprober : ∀ p ∈ prober, p.IsPackaged) (hverifier : verifier.IsPackaged)
    (allowed : Nat) (hsound : state.1.store.Sound) (hc : state.1.store.caches.Holds c) :
    Moves Tracks
      (Lookup.chronicleSearch host c name value prober verifier allowed) state := by
  induction allowed generalizing state with
  | zero => exact .pure (.refl hsound)
  | succ further ih =>
    unfold Lookup.chronicleSearch
    have hattempt := (Lookup.quiet_attempt host c name value hverifier).toOp
    refine (hattempt.tracks hsound).bind fun found tried htried => ?_
    have hnothing : Tracks tried tried := .refl htried.onward.sound
    cases found with
    | some d => exact .pure hnothing
    | none =>
      cases prober with
      | none => exact .pure hnothing
      | some p =>
        refine ((Quiet.look _).tracks htried.onward.sound).bind fun cache looked hlooked => ?_
        have hready := htried.trans hlooked
        split
        · exact .pure (.refl hready.onward.sound)
        · refine ((Quiet.log _ _ _).tracks hready.onward.sound).bind fun _ logged hlogged => ?_
          have hbegun := (hready.trans hlogged).onward
          refine (tracks_prober host (hprober p rfl) hbegun.sound
            (hbegun.progress.lasting.holds_cache hc)).bind fun _ probed hprobed => ?_
          have hdone := hbegun.trans hprobed.onward
          exact ih hdone.sound (hdone.progress.lasting.holds_cache hc)

theorem tracks_quest (host : Host) {quest : Lookup.Quest} (hfits : quest.Fits state.1.store)
    (hsound : state.1.store.Sound) :
    Moves Tracks (quest.chronicle host) state := by
  have hprober : ∀ p ∈ quest.proberIn state.1.store, p.IsPackaged := hfits.prober
  have hlooking : Moves Tracks (do
      Chronicle.ofOp quest.announce
      Lookup.chronicleSearch host quest.cache quest.name quest.value
        (quest.proberIn state.1.store) (quest.verifierIn state.1.store) Lookup.maxAttempts) state := by
    refine ((Quiet.log _ _ _).tracks hsound).bind fun _ announced hannounced => ?_
    exact tracks_search host quest.name quest.value hprober hfits.verifier _
      hannounced.onward.sound (hannounced.onward.progress.lasting.holds_cache hfits.held)
  exact hlooking

end Chronicle

/-! ## Public operations -/

section Actions

open Lookup (Quest)

variable {memory : Memory} {written : List TagId}

theorem Chronicle.ending_ofOp (operation : Op α) (memory : Memory) (written : List TagId) :
    (ofOp operation).ending (memory, written) = (operation.after memory, written) := by
  unfold ending ofOp Op.after
  cases operation memory <;> rfl

namespace Action

variable {action : Action} {host : Host}

theorem chronicle_of_quest {quest : Quest} (hquest : action.quest? = some quest) :
    action.chronicle host = (do
      Chronicle.ofOp action.note
      let found ← quest.chronicle host
      Chronicle.ofOp (Functor.discard (Lookup.foundName found))) := by
  cases action <;> first | cases hquest | (unfold chronicle; dsimp only; rw [hquest])

/-- Without a quest only a tag that is set and an inventory that is brought in have a chronicle of
their own. -/
theorem chronicle_of_no_quest (hquest : action.quest? = none)
    (hset : ∀ d name value replace, action ≠ .setTag d name value replace)
    (hprobe : ∀ prober c, action ≠ .probe prober c) :
    action.chronicle host = .ofOp (action.perform host) := by
  unfold chronicle
  split
  · exact absurd rfl (hset _ _ _ _)
  · exact absurd rfl (hprobe _ _)
  · rw [hquest]

/-- Where neither a tag is set nor a prober may be called, a chronicle stays right as it is. -/
theorem records_of_no_quest (host : Host) (hquest : action.quest? = none)
    (hset : ∀ d name value replace, action ≠ .setTag d name value replace)
    (hprobe : ∀ prober c, action ≠ .probe prober c) (hsound : memory.store.Sound)
    (hadmissible : action.Admissible memory.store) :
    Records (memory, written) ((action.perform host).after memory, written) := by
  have hquiet : Quiet Memory.store (action.perform host) →
      Records (memory, written) ((action.perform host).after memory, written) := by
    intro hquiet
    refine Does.after (fun after => Records (memory, written) (after, written)) ?_
    exact Does.mono (hquiet memory hsound) (fun _ _ hrests => hrests.records)
      fun _ _ hrests => hrests.records
  cases action with
  | newCache prober verifier =>
    have hsame : Store.SameAliases memory.store { memory.store with
        caches := memory.store.caches.add { prober, verifier } } :=
      ⟨fun _ => rfl, fun _ _ => rfl,
        (Store.sameIndex_addCache prober verifier).lasting⟩
    have hspares := Store.spares_of_same hsame (fun _ => rfl) fun _ _ => rfl
    exact hspares.records hsound
  | newDevice name priority flags => exact hquiet (quiet_newDevice name priority flags).discard
  | findDevice c name =>
    exact hquiet (Quiet.bind (.checked _) fun _ => .look _).discard
  | obtainDevice c name =>
    refine Does.after (fun after => Records (memory, written) (after, written)) ?_
    exact Does.discard ((rests_obtain hsound hadmissible name).mono
      (fun _ _ hafter => hafter.1.records) fun _ _ hrests => hrests.records)
  | addDevice c d =>
    refine Does.after (fun after => Records (memory, written) (after, written)) ?_
    exact Does.mono (spares_add hsound hadmissible.1 hadmissible.2)
      (fun _ _ hspares => hspares.records hsound) fun _ _ hspares => hspares.records hsound
  | removeDevice c d => exact hquiet (quiet_remove c d)
  | setTag d name value replace => exact absurd rfl (hset d name value replace)
  | setPriority d priority => exact hquiet (quiet_setPriority d priority)
  | clearChanged c => exact hquiet (quiet_clearChanged c)
  | markChanged c => exact hquiet (quiet_markChanged c)
  | markProbed c => exact hquiet (quiet_markProbed c)
  | probe prober c => exact absurd rfl (hprobe prober c)
  | verify verifier c d => exact hquiet (hadmissible.1.quiet host c (some d)).discard
  | find c name value prober verifier =>
    exact hquiet (Quiet.of_unmoved fun _ => unmoved_find hquest).discard
  | deviceName c token value =>
    exact hquiet (Quiet.of_unmoved fun _ => unmoved_deviceName hquest).discard

/-- After every public operation a chronicle that was right is right with what was added to it. -/
theorem records (action : Action) (host : Host) (written : List TagId)
    (hsound : memory.store.Sound) (hpackaged : memory.store.Packaged)
    (hadmissible : action.Admissible memory.store) :
    Records (memory, written) ((action.chronicle host).ending (memory, written)) := by
  have hmoves : Moves Tracks (action.chronicle host) (memory, written) →
      Records (memory, written) ((action.chronicle host).ending (memory, written)) := by
    intro hmoves
    rw [Chronicle.ending_eq]
    exact (endState_of_does (Tracks (memory, written)) hmoves).toRecords
  cases hquest : action.quest? with
  | some quest =>
    refine hmoves ?_
    rw [chronicle_of_quest hquest]
    obtain ⟨noted, ⟨hstore, -⟩, hnote⟩ := action.exists_note memory
    have hfits : quest.Fits noted.store := hstore ▸ fits_quest hquest hadmissible hpackaged
    have hnoted : Does (Chronicle.ofOp action.note) (memory, written)
        (fun _ after => after = (noted, written)) fun _ _ => False := by
      rw [Does, Chronicle.ofOp, hnote]
    have hrests : memory.store.Rests noted.store := by
      rw [hstore]
      exact .refl hsound
    have hstart : Tracks (memory, written) (noted, written) := hrests.tracks
    refine hnoted.andThen fun _ after hafter => ?_
    subst hafter
    suffices hrest : Moves Tracks _ (noted, written) from hrest.after hstart
    refine (tracks_quest host hfits hstart.onward.sound).bind fun found ended hended => ?_
    rw [discard_foundName]
    exact (Quiet.pure ()).tracks hended.onward.sound
  | none =>
    by_cases hset : ∃ d name value replace, action = .setTag d name value replace
    · obtain ⟨d, name, value, replace, rfl⟩ := hset
      have hd : ∀ e ∈ d, memory.store.devices.Holds e := hadmissible
      exact hmoves (tracks_set hsound hd name value replace)
    · by_cases hprobe : ∃ prober c, action = .probe prober c
      · obtain ⟨prober, c, rfl⟩ := hprobe
        exact hmoves (tracks_prober host hadmissible.1 hsound hadmissible.2)
      · push Not at hset hprobe
        rw [chronicle_of_no_quest hquest hset hprobe, Chronicle.ending_ofOp]
        exact records_of_no_quest host hquest hset hprobe hsound hadmissible

end Action

end Actions

/-! ## Whole runs -/

/-- What a device reads directly, given the tags that were written, the latest last. -/
structure Store.ReadsLatest (store : Store) (written : List TagId) (d : DeviceId) : Prop where
  type : store.aliasValue d .type =
    (store.firstTag? d Alias.type.name).map fun t => (store.tag t).value
  latest : ∀ which, which ≠ .type → store.aliasValue d which =
    (store.latest? written d which.name).map fun t => (store.tag t).value
  nothing : ∀ which, store.aliasValue d which = none ↔
    ∀ t ∈ (store.device d).tags, (store.tag t).name ≠ which.name
  /-- A tag that was destroyed is never read. -/
  owned : ∀ which value, store.aliasValue d which = some value →
    ∃ t ∈ (store.device d).tags, (store.tag t).name = which.name ∧ (store.tag t).value = value

theorem Store.Tracked.readsLatest {store : Store} {written : List TagId}
    (htracked : store.Tracked written) (hsound : store.Sound) (haliased : store.Aliased)
    (d : DeviceId) : store.ReadsLatest written d := by
  have htype := haliased.aliasValue_type hsound d
  have hlatest : ∀ which, which ≠ .type → store.aliasValue d which =
      (store.latest? written d which.name).map fun t => (store.tag t).value :=
    fun _ hwhich => htracked.aliasValue_eq hsound haliased d hwhich
  have howned : ∀ which value, store.aliasValue d which = some value →
      ∃ t ∈ (store.device d).tags, (store.tag t).name = which.name ∧
        (store.tag t).value = value := by
    intro which value hread
    by_cases hwhich : which = .type
    · rw [hwhich, htype] at hread
      obtain ⟨t, hfirst, hvalue⟩ := Option.map_eq_some_iff.mp hread
      obtain ⟨hmem, hname⟩ := mem_of_firstTag? hfirst
      exact ⟨t, hmem, hwhich ▸ hname, hvalue⟩
    · rw [hlatest which hwhich] at hread
      obtain ⟨t, hfound, hvalue⟩ := Option.map_eq_some_iff.mp hread
      obtain ⟨hmem, hname⟩ := List.mem_filter.mp (mem_of_latest? hfound)
      exact ⟨t, hmem, of_decide_eq_true hname, hvalue⟩
  refine ⟨htype, hlatest, fun which => ⟨fun hread t ht hname => ?_, fun hnone => ?_⟩, howned⟩
  · have hnamed : t ∈ store.tagsNamed d which.name :=
      List.mem_filter.mpr ⟨ht, decide_eq_true hname⟩
    by_cases hwhich : which = .type
    · rw [hwhich, htype, Option.map_eq_none_iff] at hread
      exact List.find?_eq_none.mp hread t ht (decide_eq_true (hwhich ▸ hname))
    · rw [hlatest which hwhich, Option.map_eq_none_iff] at hread
      exact latest?_eq_none_iff.mp hread t (htracked.listed d _ t hnamed) hnamed
  · cases hread : store.aliasValue d which with
    | none => rfl
    | some value =>
      obtain ⟨t, ht, hname, -⟩ := howned which value hread
      exact absurd hname (hnone t ht)

theorem Chronicled.tracked {memory : Memory} {written : List TagId}
    (hchronicled : Chronicled memory written) : memory.store.Tracked written := by
  induction hchronicled with
  | start => exact Store.tracked_empty
  | @step memory written host supply action hrun hadmissible ih =>
    obtain ⟨arrivals, hrun⟩ := hrun.reachable
    obtain ⟨hsound, hpackaged⟩ := hrun.sound
    have hrecords : Records ({ memory with supply }, written) _ :=
      action.records host written hsound hpackaged hadmissible
    rw [← action.ending_chronicle host { memory with supply } written]
    exact hrecords.tracked ih

/-- In every state that a run leads to, however the tags were set, the type of a device is that of its
first type, and its label and its identifier are those that were written last of the ones it has. -/
theorem accesses_read_latest {memory : Memory} (hreachable : Reachable memory) :
    (∃ written, Chronicled memory written) ∧
      ∀ written, Chronicled memory written → ∀ d, memory.store.ReadsLatest written d := by
  refine ⟨hreachable.exists_chronicled, fun written hchronicled d => ?_⟩
  obtain ⟨arrivals, hrun⟩ := hreachable
  exact hchronicled.tracked.readsLatest hrun.sound.1 hrun.aliased d

/-- A device that loses a label and a type with its cache and gets two labels and a type when it is
back, the first of which is then set anew. -/
def reattachment : List Action :=
  [.newCache none none, .obtainDevice ⟨0⟩ (some "/dev/sda1"),
    .setTag (some ⟨0⟩) (.string "LABEL") (.string "lost") false,
    .setTag (some ⟨0⟩) (.string "TYPE") (.string "ext3") false,
    .removeDevice ⟨0⟩ (some ⟨0⟩), .addDevice ⟨0⟩ (some ⟨0⟩),
    .setTag (some ⟨0⟩) (.string "LABEL") (.string "first") false,
    .setTag (some ⟨0⟩) (.string "LABEL") (.string "second") false,
    .setTag (some ⟨0⟩) (.string "LABEL") (.string "renewed") true]

/-- The state after that, and the tags in the order in which they were written. -/
def reattached : Memory × List TagId := Action.chronicleAll .bare .unlimited reattachment ({}, [])

/-- The label is the one that was set anew, though the second one was made after it; the type that
went away with the device is not read. -/
theorem reattached_reads : reattached.1.store.pairs ⟨0⟩ = [("LABEL", "renewed"), ("LABEL", "second")] ∧
    reattached.2 = [⟨0⟩, ⟨1⟩, ⟨2⟩, ⟨3⟩, ⟨2⟩] ∧
    reattached.1.store.aliasValue ⟨0⟩ .label = some "renewed" ∧
    reattached.1.store.aliasValue ⟨0⟩ .type = none := by
  have hchronicled : Chronicled reattached.1 reattached.2 := by
    refine Chronicled.start.chronicleAll .bare .unlimited reattachment ?_
    refine ⟨⟨by simp, by simp⟩, ?cache, ?_, ?_, ⟨by decide, ?_⟩, ⟨by decide, ?_⟩, ?_, ?_, ?_,
      trivial⟩
    case cache =>
      change Table.Holds _ _
      decide
    all_goals
      intro e he
      cases he
      decide
  have hreads := (accesses_read_latest hchronicled.reachable).2 _ hchronicled ⟨0⟩
  refine ⟨by decide +kernel, by decide +kernel, ?_, ?_⟩
  · rw [hreads.latest .label (by decide)]
    decide +kernel
  · rw [hreads.nothing .type]
    decide +kernel

end DeviceTags
