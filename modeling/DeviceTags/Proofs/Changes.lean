import DeviceTags.Proofs.Ledger
import Mathlib.Logic.Relation

/-!
# What a run is made of

Whatever a public operation does to the store, it does by a few changes: a tag is set, a device is
attached or removed, or something is changed beside the tags and their places. That holds of every
operation of a run, also of one that stops on its way, except for the one that takes the mark of a
change away. What is kept by these changes is kept by every operation, and so along every run. An
operation that breaks a registration off has made such changes before it leaves a device half
registered. Each tag that is set and each device that is attached is a call of its own, which the
ledger of the run has an entry for.
-/

namespace DeviceTags

open Store (Sound Restored Extends SameIndex)

variable {σ α β : Type}

namespace Store

/-- A change that no list of tags, no head and no list of devices sees. -/
inductive Beside (before : Store) : Store → Prop where
  | restored {after : Store} (hrestored : Restored before after) : Beside before after
  | newCache (prober : Option Prober) (verifier : Option Verifier) :
      Beside before { before with caches := before.caches.add { prober, verifier } }
  | newDevice (name : String) (priority : Priority) (flags : DeviceFlags) :
      Beside before { before with devices := before.devices.add { name, priority, flags } }
  | setPriority (d : DeviceId) (priority : Priority) : Beside before (before.setPriority d priority)
  | markFound (d : DeviceId) : Beside before (before.markFound d)
  | markGone (d : DeviceId) : Beside before (before.markGone d)
  | markProbed (c : CacheId) : Beside before (before.markProbed c)
  | markChanged (c : CacheId) : Beside before (before.markChanged c)

/-- A single change, with what an operation makes sure of before it. -/
inductive Change (before : Store) : Store → Prop where
  | set {d : DeviceId} (hd : before.devices.Holds d) (name : String) (value : Option String)
      (replace : Bool) : Change before (before.setTag d name value replace)
  | attach {c : CacheId} {d : DeviceId} (hc : before.caches.Holds c)
      (hd : before.devices.Holds d) (hinvites : before.Invites c d) :
      Change before (before.attach c d)
  | detach {c : CacheId} {d : DeviceId} (hmem : d ∈ (before.cache c).devices) :
      Change before (before.detach c d)
  | beside {after : Store} (hbeside : Beside before after) : Change before after

/-- What a registration that breaks off does: the device points to the cache and is not listed. -/
def Breaks (before after : Store) : Prop :=
  ∃ c d, before.caches.Holds c ∧ before.devices.Holds d ∧ before.Invites c d ∧
    after = before.connect c d

/-- One change after the other. -/
def Changes : Store → Store → Prop := Relation.ReflTransGen Change

variable {before middle after : Store}

theorem Beside.sameIndex (hbeside : Beside before after) : SameIndex before after := by
  cases hbeside with
  | restored hrestored => exact hrestored.sameIndex
  | newCache prober verifier => exact sameIndex_addCache prober verifier
  | newDevice name priority flags => exact sameIndex_addDevice name priority flags
  | setPriority d priority => exact sameIndex_setPriority d priority
  | markFound d => exact sameIndex_markFound d
  | markGone d => exact sameIndex_markGone d
  | markProbed c => exact sameIndex_markProbed c
  | markChanged c => exact sameIndex_markChanged c

/-- The tags that are there stay as they are. -/
theorem Beside.tag (hbeside : Beside before after) {t : TagId} (ht : before.tags.Holds t) :
    after.tag t = before.tag t := by
  cases hbeside with
  | restored hrestored => exact hrestored.tag t ht
  | _ => rfl

theorem Sound.change (hsound : before.Sound) (hchange : Change before after) :
    after.Sound ∧ Extends before after := by
  cases hchange with
  | set hd name value replace =>
    have hprogress := hsound.progress_setTag hd name value replace
    exact ⟨hsound.setTag hd name value replace, hprogress.lasting⟩
  | attach hc hd hinvites =>
    exact ⟨hsound.attach hc hd hinvites, (hsound.progress_attach hc hinvites).lasting⟩
  | detach hmem => exact ⟨hsound.detach hmem, (hsound.progress_detach _ _).lasting⟩
  | beside hbeside => exact ⟨hsound.of_sameIndex hbeside.sameIndex, hbeside.sameIndex.lasting⟩

/-- What every single change keeps in a sound store is kept by any number of them. -/
theorem Sound.changes_keep (hsound : before.Sound) (hchanges : Changes before after)
    {keeps : Store → Prop} (hbefore : keeps before)
    (hstep : ∀ {now next : Store}, now.Sound → Change now next → keeps now → keeps next) :
    keeps after := by
  -- Soundness goes along in the induction, since a change is only followed in a sound store.
  have hboth : after.Sound ∧ keeps after := by
    induction hchanges with
    | refl => exact ⟨hsound, hbefore⟩
    | tail _ hchange ih => exact ⟨(ih.1.change hchange).1, hstep ih.1 hchange ih.2⟩
  exact hboth.2

theorem Changes.refl (store : Store) : store.Changes store := Relation.ReflTransGen.refl

theorem Change.changes (hchange : Change before after) : Changes before after :=
  Relation.ReflTransGen.single hchange

theorem Changes.trans (hfirst : Changes before middle) (hsecond : Changes middle after) :
    Changes before after :=
  Relation.ReflTransGen.trans hfirst hsecond

theorem Changes.sound (hchanges : Changes before after) (hsound : before.Sound) : after.Sound :=
  hsound.changes_keep hchanges hsound fun hnow hchange _ => (hnow.change hchange).1

theorem Changes.lasting (hchanges : Changes before after) (hsound : before.Sound) :
    Extends before after :=
  hsound.changes_keep hchanges (.refl before) fun hnow hchange hlasting =>
    hlasting.trans (hnow.change hchange).2

/-- A single change with the entry that the ledger gets for it. In an operation that is `replacing`
every tag that is set takes the place of those of its name. -/
inductive Books (replacing : Bool) : Store × List Deed → Store × List Deed → Prop where
  | set {before : Store} {deeds : List Deed} {d : DeviceId} (hd : before.devices.Holds d)
      (name : String) (value : Option String) (replace : Bool)
      (hreplace : replacing = true → replace = true) :
      Books replacing (before, deeds) (before.setTag d name value replace,
        deeds ++ [⟨d, before, before.setTag d name value replace⟩])
  | attach {before : Store} {deeds : List Deed} {c : CacheId} {d : DeviceId}
      (hc : before.caches.Holds c) (hd : before.devices.Holds d)
      (hinvites : before.Invites c d) :
      Books replacing (before, deeds) (before.attach c d,
        deeds ++ [⟨d, before, before.attach c d⟩])
  /-- A device that is there already is added once more. -/
  | again {before : Store} {deeds : List Deed} {c : CacheId} {d : DeviceId}
      (hmem : d ∈ (before.cache c).devices) :
      Books replacing (before, deeds) (before, deeds ++ [⟨d, before, before⟩])
  | detach {before : Store} {deeds : List Deed} {c : CacheId} {d : DeviceId}
      (hmem : d ∈ (before.cache c).devices) :
      Books replacing (before, deeds) (before.detach c d, deeds)
  | beside {before after : Store} {deeds : List Deed} (hbeside : Beside before after) :
      Books replacing (before, deeds) (after, deeds)

/-- One change after the other, with the ledger going along. -/
def Booked (replacing : Bool) : Store × List Deed → Store × List Deed → Prop :=
  Relation.ReflTransGen (Books replacing)

/-- Changes for which no ledger gets an entry. -/
def Unbooked (before after : Store) : Prop :=
  ∀ replacing deeds, Booked replacing (before, deeds) (after, deeds)

section Booking

variable {replacing : Bool} {start finish : Store × List Deed}

/-- The change of an entry is a change. -/
theorem Books.changes (hbooks : Books replacing start finish) : Changes start.1 finish.1 := by
  cases hbooks with
  | set hd name value replace => exact (Change.set hd name value replace).changes
  | attach hc hd hinvites => exact (Change.attach hc hd hinvites).changes
  | again => exact .refl _
  | detach hmem => exact (Change.detach hmem).changes
  | beside hbeside => exact (Change.beside hbeside).changes

theorem Booked.changes (hbooked : Booked replacing start finish) : Changes start.1 finish.1 := by
  induction hbooked with
  | refl => exact .refl _
  | tail _ hbooks ih => exact ih.trans hbooks.changes

/-- What every single change keeps in a sound store is kept by any number of them. -/
theorem Sound.booked_keeps (hsound : start.1.Sound) (hbooked : Booked replacing start finish)
    {keeps : Store × List Deed → Prop} (hstart : keeps start)
    (hstep : ∀ {now next}, now.1.Sound → Books replacing now next → keeps now → keeps next) :
    keeps finish := by
  have hboth : finish.1.Sound ∧ keeps finish := by
    induction hbooked with
    | refl => exact ⟨hsound, hstart⟩
    | tail _ hbooks ih => exact ⟨hbooks.changes.sound ih.1, hstep ih.1 hbooks ih.2⟩
  exact hboth.2

theorem Unbooked.refl (store : Store) : store.Unbooked store :=
  fun _ _ => Relation.ReflTransGen.refl

theorem Unbooked.trans (hfirst : Unbooked before middle) (hsecond : Unbooked middle after) :
    Unbooked before after :=
  fun replacing deeds => Relation.ReflTransGen.trans (hfirst replacing deeds)
    (hsecond replacing deeds)

theorem Beside.unbooked (hbeside : Beside before after) : Unbooked before after :=
  fun _ _ => Relation.ReflTransGen.single (.beside hbeside)

theorem Unbooked.changes (hunbooked : Unbooked before after) : Changes before after :=
  (hunbooked false []).changes

end Booking

end Store

/-! ## Operations that enter nothing -/

/-- Changes for which no ledger gets an entry lead from the store of one state to that of another. -/
def Unbooking (storeOf : σ → Store) (before after : σ) : Prop :=
  (storeOf before).Unbooked (storeOf after)

instance (storeOf : σ → Store) : IsTrans σ (Unbooking storeOf) :=
  ⟨fun _ _ _ => Store.Unbooked.trans⟩

theorem Unbooking.refl (storeOf : σ → Store) (state : σ) : Unbooking storeOf state state :=
  Store.Unbooked.refl _

section Unbooked

variable {memory : Memory} {c : CacheId}

theorem unbooking_of_same {after : Memory} (hsame : after.store = memory.store) :
    Unbooking Memory.store memory after := by
  unfold Unbooking
  rw [hsame]
  exact .refl _

theorem unbooked_look {γ : Type} (read : Store → γ) :
    Moves (Unbooking Memory.store) (Op.look read) memory :=
  Unbooking.refl Memory.store memory

theorem unbooked_log (level : Level) (source : Source) (message : String) :
    Moves (Unbooking Memory.store) (Op.log level source message) memory :=
  Unbooking.refl Memory.store memory

theorem unbooked_checked (check : Except Failure α) :
    Moves (Unbooking Memory.store) (Tagging.checked check) memory := by
  cases check with
  | ok value => exact Does.pure (.refl _ memory)
  | error failure => exact Does.throw (.refl _ memory)

theorem unbooked_edit (change : Store → Store)
    (hbeside : memory.store.Beside (change memory.store)) :
    Moves (Unbooking Memory.store) (Op.edit change) memory :=
  hbeside.unbooked

theorem unbooked_newDevice (name : String) (priority : Priority) (flags : DeviceFlags) :
    Moves (Unbooking Memory.store) (Op.newDevice { name, priority, flags }) memory :=
  (Store.Beside.newDevice name priority flags).unbooked

theorem unbooked_discard {operation : Op α} (hmoves : Moves (Unbooking Memory.store) operation memory) :
    Moves (Unbooking Memory.store) (discard operation) memory :=
  Moves.bind hmoves fun _ after _ => .pure (.refl _ after)

theorem unbooked_remove (hsound : memory.store.Sound) (d : Option DeviceId) :
    Moves (Unbooking Memory.store) (Attachment.remove c d) memory := by
  refine (does_remove hsound d).mono (fun _ after hafter => ?_) fun _ after hafter => ?_
  · obtain ⟨e, -, hmem, hstore⟩ := hafter
    unfold Unbooking
    rw [hstore]
    exact fun _ _ => Relation.ReflTransGen.single (.detach hmem)
  · exact unbooking_of_same hafter.1

theorem unbooked_verifyPath (host : Host) (root : Option Path) (d : DeviceId)
    (hsound : memory.store.Sound) :
    Moves (Unbooking Memory.store) (verifyPath host root c d) memory := by
  unfold verifyPath
  refine (unbooked_look _).bind fun device looked hlooked => ?_
  cases host.contains (devicePath root device.name) with
  | error error => exact Does.throw (.refl _ looked)
  | ok found =>
    cases found with
    | true => exact (unbooked_edit _ (.markFound d)).bind fun _ marked _ => .pure (.refl _ marked)
    | false =>
      refine (unbooked_log _ _ _).bind fun _ logged hlogged => ?_
      refine (unbooked_edit _ (.markGone d)).bind fun _ marked hmarked => ?_
      split
      · have hready := (hlooked.trans hlogged).trans hmarked
        exact (unbooked_remove (hready.changes.sound hsound) _).bind fun _ removed _ =>
          .pure (.refl _ removed)
      · exact Does.pure (.refl _ marked)

theorem unbooked_verifier (host : Host) {verifier : Verifier} (hpackaged : verifier.IsPackaged)
    (hsound : memory.store.Sound) (d : Option DeviceId) :
    Moves (Unbooking Memory.store) (verifier.verify host c d) memory := by
  cases verifier with
  | trusting => exact .pure (.refl _ memory)
  | paths root =>
    cases d with
    | none => exact Does.throw (.refl _ memory)
    | some d => exact unbooked_verifyPath host root d hsound
  | custom number => exact hpackaged.elim

/-- A look into the index is made of the changes that its verifier makes. -/
theorem Lookup.unbooked_attempt (host : Host) (name value : String) {verifier : Verifier}
    (hverifier : verifier.IsPackaged) (hsound : memory.store.Sound) :
    Moves (Unbooking Memory.store) (attempt host c name value verifier).toOp memory := by
  refine Moves.toOp (attempt_keeps (fun before after calls hstore hchanges => ?_)
    (fun _ _ _ _ _ hchanges => hchanges) (fun d now calls hchanges => ?_) (.refl _ memory))
  · exact hchanges.trans (unbooking_of_same hstore)
  · exact Does.mono (unbooked_verifier host hverifier (hchanges.changes.sound hsound) d)
      (fun _ _ hafter => hchanges.trans hafter) fun _ _ hafter => hchanges.trans hafter

end Unbooked

/-! ## Operations that may break off -/

/-- An operation leads from a state to a related one, whether it goes through or fails. What it leads
to if it breaks a registration off is said apart. -/
def Proceeds (related broken : σ → σ → Prop) (operation : EStateM Failure σ α)
    (before : σ) : Prop :=
  Does operation before (fun _ after => related before after)
    fun failure after => related before after ∨ (failure.kind = .memory ∧ broken before after)

section Proceeds

variable {related broken : σ → σ → Prop} {operation : EStateM Failure σ α} {before middle : σ}

theorem Moves.proceeds (hmoves : Moves related operation before) :
    Proceeds related broken operation before :=
  Does.mono hmoves (fun _ _ hafter => hafter) fun _ _ hafter => .inl hafter

theorem Proceeds.unbroken (hproceeds : Proceeds related broken operation before) :
    Does operation before (fun _ after => related before after)
      fun failure after => failure.kind ≠ .memory → related before after :=
  Does.mono hproceeds (fun _ _ hafter => hafter) fun _ _ hafter hkind =>
    hafter.resolve_right fun hbroken => hkind hbroken.1

theorem Proceeds.after [IsTrans σ related] [Trans related broken broken]
    (hproceeds : Proceeds related broken operation middle) (hbefore : related before middle) :
    Does operation middle (fun _ after => related before after)
      fun failure after => related before after ∨ (failure.kind = .memory ∧ broken before after) :=
  Does.mono hproceeds (fun _ after hafter => IsTrans.trans before middle after hbefore hafter)
    fun _ _ hafter => hafter.imp (IsTrans.trans before middle _ hbefore)
      (And.imp_right (Trans.trans hbefore))

theorem Proceeds.bind [IsTrans σ related] [Trans related broken broken]
    {next : α → EStateM Failure σ β} (hfirst : Proceeds related broken operation before)
    (hnext : ∀ value middle, related before middle →
      Proceeds related broken (next value) middle) :
    Proceeds related broken (operation >>= next) before :=
  Does.bind hfirst (fun value middle hmiddle => (hnext value middle hmiddle).after hmiddle)
    fun _ _ hfailed => hfailed

end Proceeds

/-! ## Operations with their ledger -/

/-- Changes lead from one state to another, and the ledger goes along. -/
def Booking (replacing : Bool) (before after : Memory × List Deed) : Prop :=
  Store.Booked replacing (before.1.store, before.2) (after.1.store, after.2)

instance (replacing : Bool) : IsTrans (Memory × List Deed) (Booking replacing) :=
  ⟨fun _ _ _ => Relation.ReflTransGen.trans⟩

/-- Changes lead from one state to a store in which a registration breaks off. -/
def Breaking (replacing : Bool) (before after : Memory × List Deed) : Prop :=
  ∃ store : Store, Store.Booked replacing (before.1.store, before.2) (store, after.2) ∧
    store.Breaks after.1.store

instance (replacing : Bool) :
    Trans (Booking replacing) (Breaking replacing) (Breaking replacing) where
  trans hfirst hbreaking :=
    hbreaking.imp fun _ hlast => ⟨Relation.ReflTransGen.trans hfirst hlast.1, hlast.2⟩

theorem Booking.refl (replacing : Bool) (state : Memory × List Deed) :
    Booking replacing state state :=
  Relation.ReflTransGen.refl

theorem Booking.sound {replacing : Bool} {before after : Memory × List Deed}
    (hbooking : Booking replacing before after) (hsound : before.1.store.Sound) :
    after.1.store.Sound :=
  hbooking.changes.sound hsound

theorem Booking.lasting {replacing : Bool} {before after : Memory × List Deed}
    (hbooking : Booking replacing before after) (hsound : before.1.store.Sound) :
    before.1.store.Extends after.1.store :=
  hbooking.changes.lasting hsound

section Booked

variable {state : Memory × List Deed} {c : CacheId} {replacing : Bool}

theorem booked_carry {operation : Op α}
    (hoperation : Moves (Unbooking Memory.store) operation state.1) :
    Moves (Booking replacing) operation.carry state :=
  Does.carried (Does.mono hoperation (fun _ _ hafter => hafter replacing state.2)
    fun _ _ hafter => hafter replacing state.2)

theorem booking_restored {after : Memory} (hrestored : Restored state.1.store after.store) :
    Booking replacing state (after, state.2) :=
  Relation.ReflTransGen.single (.beside (.restored hrestored))

/-! ### Tags and devices -/

theorem booked_set (hsound : state.1.store.Sound) {d : Option DeviceId}
    (hd : ∀ e ∈ d, state.1.store.devices.Holds e) (name value : Datum) {replace : Bool}
    (hreplace : replacing = true → replace = true) :
    Moves (Booking replacing) (Ledger.entering d (Tagging.set d name value replace)) state := by
  have hset := does_set (fun e he => hsound.taggable (hd e he)) name value replace
  refine Does.entered (hset.mono (fun _ after hafter => ?_)
    fun _ after hafter => booking_restored hafter.1)
  obtain ⟨e, rfl, n, v, hstore⟩ := hafter
  have hbooks : Store.Books replacing (state.1.store, state.2) _ :=
    .set (hd e rfl) n v replace hreplace
  rw [← hstore] at hbooks
  exact Relation.ReflTransGen.single hbooks

theorem booked_add (hsound : state.1.store.Sound) (hc : state.1.store.caches.Holds c)
    {d : Option DeviceId} (hd : ∀ e ∈ d, state.1.store.devices.Holds e) :
    Proceeds (Booking replacing) (Breaking replacing) (Ledger.entering d (Attachment.add c d))
      state := by
  refine Does.entered ((does_add hsound hc hd).mono (fun _ after hafter => ?_)
    fun _ after hafter => hafter.imp (fun hrestored => booking_restored hrestored.1)
      fun hbreaks => ?_)
  · obtain ⟨e, rfl, ⟨hmem, hstore⟩ | ⟨hinvites, hstore⟩⟩ := hafter
    · have hbooks : Store.Books replacing (state.1.store, state.2) _ := .again hmem
      exact Relation.ReflTransGen.single (by simpa [hstore] using hbooks)
    · have hbooks : Store.Books replacing (state.1.store, state.2) _ :=
        .attach hc (hd e rfl) hinvites
      rw [← hstore] at hbooks
      exact Relation.ReflTransGen.single hbooks
  · obtain ⟨e, he, hinvites, hstore⟩ := hbreaks.connected
    exact ⟨hbreaks.kind, state.1.store, .refl, c, e, hc, hd e he, hinvites, hstore⟩

theorem booked_obtain (hsound : state.1.store.Sound) (hc : state.1.store.caches.Holds c)
    (name : Option String) :
    Does (Attachment.ledgerObtain c name) state
      (fun d after => Booking replacing state after ∧ after.1.store.devices.Holds d)
      fun failure after => Booking replacing state after ∨
        (failure.kind = .memory ∧ Breaking replacing state after) := by
  unfold Attachment.ledgerObtain
  refine Does.bind (booked_carry (unbooked_checked _)) (fun n given hgiven => ?_)
    fun _ _ hfailed => .inl hfailed
  have hlook : Does ((Op.look fun store => Attachment.named? store c n).carry : Ledger _) given
      (fun found after => after = given ∧ found = Attachment.named? given.1.store c n)
      fun _ _ => False := Does.carried ⟨rfl, rfl⟩
  refine hlook.andThen fun found looked hlooked => ?_
  obtain ⟨rfl, rfl⟩ := hlooked
  have hready := hgiven.sound hsound
  cases hfound : Attachment.named? looked.1.store c n with
  | some d =>
    have hcache := hready.attached c d (mem_devices_of_named? hfound)
    exact .pure ⟨hgiven, Store.holds_device_of_cache hcache⟩
  | none =>
    have hheld : Does ((Op.newDevice { name := n }).carry : Ledger DeviceId) looked
        (fun d after => after.1.store.devices.Holds d) fun _ _ => True :=
      Does.carried (Does.mono (advances_newDevice hready n .default {})
        (fun _ _ hafter => hafter.2.1) fun _ _ _ => trivial)
    refine Does.bind ((booked_carry (unbooked_newDevice n .default {})).and hheld)
      (fun d made hmade => ?_) fun _ _ hfailed => .inl (IsTrans.trans _ _ _ hgiven hfailed.1)
    obtain ⟨hnew, hd⟩ := hmade
    have hmade : Booking replacing state made := IsTrans.trans _ _ _ hgiven hnew
    have hadd : Proceeds (Booking replacing) (Breaking replacing)
        (Ledger.entering (some d) (Attachment.add c (some d))) made :=
      booked_add (hmade.sound hsound) ((hmade.lasting hsound).holds_cache hc) (by simpa using hd)
    refine Does.bind (Does.and hadd (hadd.after hmade)) (fun _ added hadded => ?_)
      fun _ _ hfailed => hfailed.2
    exact .pure ⟨hadded.2, (hadded.1.lasting (hmade.sound hsound)).holds_device hd⟩

/-! ### Collaborators -/

theorem booked_tags (d : DeviceId) (tags : List (String × Datum))
    (hsound : state.1.store.Sound) (hd : state.1.store.devices.Holds d) :
    Moves (Booking replacing) (Inventory.ledgerTags d tags) state := by
  induction tags generalizing state with
  | nil => exact .pure (.refl _ state)
  | cons tag rest ih =>
    refine (booked_set hsound (by simpa using hd) _ _ fun _ => rfl).bind fun _ after hafter => ?_
    exact ih (hafter.sound hsound) ((hafter.lasting hsound).holds_device hd)

theorem booked_device (inventory : Inventory) (spec : DeviceSpec)
    (hsound : state.1.store.Sound) (hc : state.1.store.caches.Holds c) :
    Proceeds (Booking replacing) (Breaking replacing) (inventory.ledgerDevice c spec) state := by
  refine Does.bind (booked_obtain hsound hc (some spec.name)) (fun d seated hseated => ?_)
    fun _ _ hfailed => hfailed
  obtain ⟨hobtained, hd⟩ := hseated
  have hready := hobtained.sound hsound
  have hrest : Proceeds (Booking replacing) (Breaking replacing) (do
      (Op.edit (·.setPriority d (inventory.priorityOf spec))).carry
      Inventory.ledgerTags d spec.tags) seated := by
    refine Moves.proceeds ?_
    refine (booked_carry (unbooked_edit _ (.setPriority d _))).bind fun _ ranked hranked => ?_
    exact booked_tags d spec.tags (hranked.sound hready) ((hranked.lasting hready).holds_device hd)
  exact hrest.after hobtained

theorem booked_devices (inventory : Inventory) (specs : List DeviceSpec)
    (hsound : state.1.store.Sound) (hc : state.1.store.caches.Holds c) :
    Proceeds (Booking replacing) (Breaking replacing) (inventory.ledgerDevices c specs) state := by
  induction specs generalizing state with
  | nil => exact .pure (.refl _ state)
  | cons spec rest ih =>
    refine (booked_device inventory spec hsound hc).bind fun _ after hafter => ?_
    exact ih (hafter.sound hsound) ((hafter.lasting hsound).holds_cache hc)

theorem booked_prober (host : Host) {prober : Prober} (hpackaged : prober.IsPackaged)
    (hsound : state.1.store.Sound) (hc : state.1.store.caches.Holds c) :
    Proceeds (Booking replacing) (Breaking replacing) (prober.ledger host c) state := by
  cases prober with
  | nothing => exact (booked_carry (unbooked_edit (·.markProbed c) (.markProbed c))).proceeds
  | inventory declared =>
    refine (booked_carry (unbooked_log _ _ _)).proceeds.bind fun _ logged hlogged => ?_
    refine (booked_devices declared _ (hlogged.sound hsound)
      ((hlogged.lasting hsound).holds_cache hc)).bind fun _ brought _ => ?_
    refine (booked_carry ?_).proceeds
    refine (unbooked_edit (·.markProbed c) (.markProbed c)).bind fun _ _ _ => ?_
    exact (unbooked_look _).bind fun _ _ _ => unbooked_log _ _ _
  | custom number => exact hpackaged.elim

/-! ### Lookups -/

theorem booked_search (host : Host) (name value : String) {prober : Option Prober}
    {verifier : Verifier} (hprober : ∀ p ∈ prober, p.IsPackaged) (hverifier : verifier.IsPackaged)
    (allowed : Nat) (hsound : state.1.store.Sound) (hc : state.1.store.caches.Holds c) :
    Proceeds (Booking replacing) (Breaking replacing)
      (Lookup.ledgerSearch host c name value prober verifier allowed) state := by
  induction allowed generalizing state with
  | zero => exact .pure (.refl _ state)
  | succ further ih =>
    unfold Lookup.ledgerSearch
    refine (booked_carry (Lookup.unbooked_attempt host name value hverifier hsound)).proceeds.bind
      fun found tried htried => ?_
    cases found with
    | some d => exact .pure (.refl _ tried)
    | none =>
      cases prober with
      | none => exact .pure (.refl _ tried)
      | some p =>
        refine (booked_carry (unbooked_look _)).proceeds.bind fun cache looked hlooked => ?_
        split
        · exact .pure (.refl _ looked)
        · refine (booked_carry (unbooked_log _ _ _)).proceeds.bind fun _ logged hlogged => ?_
          have hready : Booking replacing state logged := (htried.trans hlooked).trans hlogged
          refine (booked_prober host (hprober p rfl) (hready.sound hsound)
            ((hready.lasting hsound).holds_cache hc)).bind fun _ probed hprobed => ?_
          have hdone : Booking replacing state probed := hready.trans hprobed
          exact ih (hdone.sound hsound) ((hdone.lasting hsound).holds_cache hc)

theorem booked_quest (host : Host) {quest : Lookup.Quest} (hfits : quest.Fits state.1.store)
    (hsound : state.1.store.Sound) :
    Proceeds (Booking replacing) (Breaking replacing) (quest.ledger host) state := by
  have hlooking : Proceeds (Booking replacing) (Breaking replacing) (do
      quest.announce.carry
      Lookup.ledgerSearch host quest.cache quest.name quest.value
        (quest.proberIn state.1.store) (quest.verifierIn state.1.store) Lookup.maxAttempts)
      state := by
    refine (booked_carry (unbooked_log _ _ _)).proceeds.bind fun _ announced hannounced => ?_
    exact booked_search host quest.name quest.value hfits.prober hfits.verifier _
      (hannounced.sound hsound) ((hannounced.lasting hsound).holds_cache hfits.held)
  exact hlooking

end Booked

/-! ## Public operations -/

section Actions

variable {action : Action} {turn : Turn} {memory : Memory} {deeds : List Deed} {c : CacheId}

/-- Every tag that the operation sets takes the place of those of its name. -/
def Action.replaces : Action → Bool
  | .setTag _ _ _ replace => replace
  | _ => true

theorem Action.booked_of_no_quest (host : Host) (hquest : action.quest? = none)
    (hclear : ∀ c, action ≠ .clearChanged c) (hsound : memory.store.Sound)
    (hadmissible : action.Admissible memory.store) :
    Proceeds (Booking action.replaces) (Breaking action.replaces) (action.ledger host)
      (memory, deeds) := by
  have hcarry : ∀ {β : Type} {operation : Op β}, Moves (Unbooking Memory.store) operation memory →
      Proceeds (Booking action.replaces) (Breaking action.replaces) operation.carry
        (memory, deeds) :=
    fun hmoves => (booked_carry hmoves).proceeds
  have hunmoved : ∀ {β : Type} {operation : Op β},
      Moves (fun s t => t.store = s.store) operation memory →
      Moves (Unbooking Memory.store) operation memory :=
    fun hmoves => hmoves.mono fun _ hsame => unbooking_of_same hsame
  cases action with
  | newCache prober verifier =>
    exact @hcarry _ ((Action.newCache prober verifier).perform host)
      (Store.Beside.newCache prober verifier).unbooked
  | newDevice name priority flags =>
    exact hcarry (unbooked_discard (unbooked_newDevice name priority flags))
  | findDevice c name =>
    exact hcarry (unbooked_discard ((unbooked_checked _).bind fun _ _ _ => unbooked_look _))
  | obtainDevice c name =>
    exact Does.bind (@booked_obtain (memory, deeds) c true hsound hadmissible name)
      (fun _ _ hafter => hafter.1) fun _ _ hfailed => hfailed
  | addDevice c d => exact booked_add hsound hadmissible.1 hadmissible.2
  | removeDevice c d => exact hcarry (unbooked_remove hsound d)
  | setTag d name value replace =>
    have hd : ∀ e ∈ d, memory.store.devices.Holds e := hadmissible
    exact (booked_set hsound hd name value id).proceeds
  | setPriority d priority =>
    exact hcarry (unbooked_edit (·.setPriority d priority) (.setPriority d priority))
  | clearChanged c => exact absurd rfl (hclear c)
  | markChanged c => exact hcarry (unbooked_edit (·.markChanged c) (.markChanged c))
  | markProbed c => exact hcarry (unbooked_edit (·.markProbed c) (.markProbed c))
  | probe prober c => exact booked_prober host hadmissible.1 hsound hadmissible.2
  | verify verifier c d =>
    exact hcarry (unbooked_discard (unbooked_verifier host hadmissible.1 hsound (some d)))
  | find c name value prober verifier =>
    have hledger : (Action.find c name value prober verifier).ledger host =
        ((Action.find c name value prober verifier).perform host).carry := by
      unfold Action.ledger
      dsimp only
      rw [hquest]
    rw [hledger]
    exact hcarry (unbooked_discard (hunmoved (Action.unmoved_find hquest)))
  | deviceName c token value =>
    have hledger : (Action.deviceName c token value).ledger host =
        ((Action.deviceName c token value).perform host).carry := by
      unfold Action.ledger
      dsimp only
      rw [hquest]
    rw [hledger]
    exact hcarry (unbooked_discard (hunmoved (Action.unmoved_deviceName hquest)))

theorem Action.booked_of_quest (host : Host) {quest : Lookup.Quest}
    (hquest : action.quest? = some quest) (hsound : memory.store.Sound)
    (hfits : quest.Fits memory.store) :
    Proceeds (Booking action.replaces) (Breaking action.replaces) (action.ledger host)
      (memory, deeds) := by
  have hledger : action.ledger host = (do
      action.note.carry
      let found ← quest.ledger host
      Op.carry (discard (Lookup.foundName found))) := by
    cases action <;> first | cases hquest | (unfold Action.ledger; dsimp only; rw [hquest])
  obtain ⟨noted, ⟨hstore, -⟩, hnote⟩ := action.exists_note memory
  have hnoted : Does (action.note.carry : Ledger Unit) (memory, deeds)
      (fun _ after => after = (noted, deeds)) fun _ _ => False := by
    rw [Does, Op.carry, hnote]
  have hstart : Booking action.replaces (memory, deeds) (noted, deeds) :=
    unbooking_of_same hstore _ deeds
  rw [hledger]
  refine hnoted.andThen fun _ ready hready => ?_
  subst hready
  rw [← hstore] at hfits hsound
  have hrest : Proceeds (Booking action.replaces) (Breaking action.replaces) (do
      let found ← quest.ledger host
      Op.carry (discard (Lookup.foundName found))) (noted, deeds) := by
    refine (booked_quest host hfits hsound).bind fun found ended _ => ?_
    rw [Action.discard_foundName]
    exact (booked_carry (Does.pure (.refl _ ended.1))).proceeds
  exact hrest.after hstart

theorem Turn.proceeds (hclear : ∀ c, turn.action ≠ .clearChanged c) (hsound : memory.store.Sound)
    (hpackaged : memory.store.Packaged) (hadmissible : turn.action.Admissible memory.store) :
    Proceeds (Booking turn.action.replaces) (Breaking turn.action.replaces)
      (turn.action.ledger turn.host) (turn.start memory, []) := by
  have hstart : (turn.start memory).store.Sound := hsound
  cases hquest : turn.action.quest? with
  | none => exact Action.booked_of_no_quest turn.host hquest hclear hstart hadmissible
  | some quest =>
    have hfits : quest.Fits (turn.start memory).store :=
      Action.fits_quest hquest hadmissible hpackaged
    exact Action.booked_of_quest turn.host hquest hstart hfits

/-- Every turn of a run is made of changes that its ledger has, unless it takes the mark of a change
away. -/
theorem Turn.booked (hclear : ∀ c, turn.action ≠ .clearChanged c) (hsound : memory.store.Sound)
    (hpackaged : memory.store.Packaged) (hadmissible : turn.action.Admissible memory.store)
    (hunbroken : turn.Unbroken memory) :
    Store.Booked turn.action.replaces (memory.store, [])
      ((turn.after memory).store, turn.deeds memory) := by
  rw [turn.after_eq_endState memory []]
  exact (turn.action.tells_ledger turn.host).endState_of_unbroken hunbroken
    (Booking turn.action.replaces (turn.start memory, []))
    (Turn.proceeds hclear hsound hpackaged hadmissible).unbroken

/-- A turn that breaks a registration off makes such changes before that. -/
theorem Turn.booked_or_breaks (hclear : ∀ c, turn.action ≠ .clearChanged c)
    (hsound : memory.store.Sound) (hpackaged : memory.store.Packaged)
    (hadmissible : turn.action.Admissible memory.store) :
    ∃ store, Store.Booked turn.action.replaces (memory.store, []) (store, turn.deeds memory) ∧
      (store = (turn.after memory).store ∨ store.Breaks (turn.after memory).store) := by
  rw [turn.after_eq_endState memory []]
  refine endState_of_does (fun ended : Memory × List Deed => ∃ store,
    Store.Booked turn.action.replaces (memory.store, []) (store, ended.2) ∧
      (store = ended.1.store ∨ store.Breaks ended.1.store)) ?_
  refine Does.mono (Turn.proceeds hclear hsound hpackaged hadmissible)
    (fun _ _ hafter => ⟨_, hafter, .inl rfl⟩) fun _ _ hafter => ?_
  obtain hafter | ⟨-, store, hbooked, hbreaks⟩ := hafter
  · exact ⟨_, hafter, .inl rfl⟩
  · exact ⟨store, hbooked, .inr hbreaks⟩

theorem Turn.changes_or_breaks (hclear : ∀ c, turn.action ≠ .clearChanged c)
    (hsound : memory.store.Sound) (hpackaged : memory.store.Packaged)
    (hadmissible : turn.action.Admissible memory.store) :
    memory.store.Changes (turn.after memory).store ∨
      ∃ store, memory.store.Changes store ∧ store.Breaks (turn.after memory).store := by
  obtain ⟨store, hbooked, rfl | hbreaks⟩ :=
    Turn.booked_or_breaks hclear hsound hpackaged hadmissible
  · exact .inl hbooked.changes
  · exact .inr ⟨store, hbooked.changes, hbreaks⟩

theorem Turn.after_clearChanged (hclear : turn.action = .clearChanged c) :
    (turn.after memory).store = memory.store.clearChanged c := by
  unfold Turn.after
  rw [hclear]
  rfl

end Actions

end DeviceTags
