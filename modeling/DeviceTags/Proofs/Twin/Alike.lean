import DeviceTags.Proofs.Outcome
import DeviceTags.Proofs.Store.Effect

/-!
# Stores that differ in one prober

Two states are alike if their stores differ in nothing but the prober of one cache. What happens in
them is alike as long as nobody asks for that prober: every change of a store that does not set it is
made to both in the same way. The log and the notes are left out, since nothing reads them.
-/

namespace DeviceTags

variable {σ τ α β : Type}

/-! ## Two runs -/

/-- Two runs end alike: with the same result or the same failure, and in related states. -/
def EndAlike (related : σ → τ → Prop) :
    EStateM.Result Failure σ α → EStateM.Result Failure τ α → Prop
  | .ok value after, .ok other final => value = other ∧ related after final
  | .error failure after, .error other final => failure = other ∧ related after final
  | _, _ => False

theorem EndAlike.mono {related related' : σ → τ → Prop} {first : EStateM.Result Failure σ α}
    {second : EStateM.Result Failure τ α} (halike : EndAlike related first second)
    (himp : ∀ s t, related s t → related' s t) : EndAlike related' first second := by
  unfold EndAlike at *
  split at halike
  · exact ⟨halike.1, himp _ _ halike.2⟩
  · exact ⟨halike.1, himp _ _ halike.2⟩
  · exact halike.elim

theorem EndAlike.bind {related related' : σ → τ → Prop} {first : EStateM Failure σ α}
    {second : EStateM Failure τ α} {next : α → EStateM Failure σ β}
    {other : α → EStateM Failure τ β} {s : σ} {t : τ}
    (hfirst : EndAlike related (first s) (second t))
    (hnext : ∀ value s t, related s t → EndAlike related' (next value s) (other value t))
    (hfailed : ∀ s t, related s t → related' s t) :
    EndAlike related' ((first >>= next) s) ((second >>= other) t) := by
  change EndAlike related' (EStateM.bind first next s) (EStateM.bind second other t)
  unfold EStateM.bind
  cases hs : first s with
  | ok value after =>
    cases ht : second t with
    | ok other final =>
      rw [hs, ht] at hfirst
      obtain ⟨rfl, hrelated⟩ := hfirst
      exact hnext value after final hrelated
    | error failure final =>
      rw [hs, ht] at hfirst
      exact hfirst.elim
  | error failure after =>
    cases ht : second t with
    | ok other final =>
      rw [hs, ht] at hfirst
      exact hfirst.elim
    | error other final =>
      rw [hs, ht] at hfirst
      exact ⟨hfirst.1, hfailed _ _ hfirst.2⟩

/-- What goes on in the same way ends with the same result. -/
theorem EndAlike.followed {related : σ → τ → Prop} {first : EStateM Failure σ α}
    {second : EStateM Failure τ α} {next : α → EStateM Failure σ β}
    {other : α → EStateM Failure τ β} {s : σ} {t : τ}
    (hfirst : EndAlike related (first s) (second t))
    (hnext : ∀ value s t, related s t → EndAlike related (next value s) (other value t)) :
    EndAlike (fun _ _ => True) ((first >>= next) s) ((second >>= other) t) :=
  (hfirst.bind hnext fun _ _ h => h).mono fun _ _ _ => trivial

/-- An operation keeps states related and ends alike in them. -/
def Respects (related : σ → σ → Prop) (operation : EStateM Failure σ α) : Prop :=
  ∀ s t, related s t → EndAlike related (operation s) (operation t)

namespace Respects

variable {related : σ → σ → Prop}

theorem pure (value : α) : Respects related (Pure.pure value) :=
  fun _ _ hrelated => ⟨rfl, hrelated⟩

theorem throw (failure : Failure) :
    Respects related (MonadExcept.throw failure : EStateM Failure σ α) :=
  fun _ _ hrelated => ⟨rfl, hrelated⟩

theorem bind {operation : EStateM Failure σ α} {next : α → EStateM Failure σ β}
    (hfirst : Respects related operation) (hnext : ∀ value, Respects related (next value)) :
    Respects related (operation >>= next) :=
  fun s t hrelated => (hfirst s t hrelated).bind (fun value => hnext value) fun _ _ h => h

theorem discard {operation : EStateM Failure σ α} (hfirst : Respects related operation) :
    Respects related (Functor.discard operation) :=
  hfirst.bind fun _ => .pure ()

end Respects

theorem Table.update_comm {kind : RecordKind} (table : Table kind α) {id other : Id kind}
    {change change' : α → α} (hcomm : id = other → ∀ record,
      change (change' record) = change' (change record)) :
    (table.update id change).update other change' =
      (table.update other change').update id change := by
  have hrows : (table.rows.modify id.index change).modify other.index change' =
      (table.rows.modify other.index change').modify id.index change := by
    ext i hi hi'
    · simp
    · simp only [Array.getElem_modify]
      by_cases hid : id.index = i
      · by_cases hother : other.index = i
        · have hsame : id = other := by
            cases id
            cases other
            simp_all
          simp [hid, hother, hcomm hsame]
        · simp [hid, hother]
      · simp [hid]
  unfold update
  rw [hrows]

/-- A record that is changed right after it was added might have been added as changed. -/
theorem Table.update_next_add {kind : RecordKind} (table : Table kind α) (record : α)
    (change : α → α) : (table.add record).update table.next change = table.add (change record) := by
  have hrows : (table.rows.push record).modify table.rows.size change =
      table.rows.push (change record) := by
    ext i hi hi'
    · simp
    · by_cases hlast : table.rows.size = i
      · subst hlast
        simp [Array.getElem_modify]
      · rw [Array.getElem_modify_of_ne hlast, Array.getElem_push, Array.getElem_push]
        split
        · rfl
        · simp at hi'
          omega
  exact congrArg Table.mk hrows

/-! ## Conversations -/

section Dialogue

variable {related : Memory → Memory → Prop} {s t : Memory × List Call}

theorem EndAlike.ofOp {first second : Op α} (hends : EndAlike related (first s.1) (second t.1)) :
    EndAlike (fun s t => related s.1 t.1) (Dialogue.ofOp first s) (Dialogue.ofOp second t) := by
  unfold EndAlike at hends
  unfold Dialogue.ofOp
  split at hends
  · next hfirst hsecond =>
    rw [hfirst, hsecond]
    exact hends
  · next hfirst hsecond =>
    rw [hfirst, hsecond]
    exact hends
  · exact hends.elim

theorem EndAlike.toOp {first second : Dialogue α} {memory other : Memory}
    (hends : EndAlike (fun s t => related s.1 t.1) (first (memory, [])) (second (other, []))) :
    EndAlike related (first.toOp memory) (second.toOp other) := by
  unfold EndAlike at hends
  unfold Dialogue.toOp
  split at hends
  · next hfirst hsecond =>
    rw [hfirst, hsecond]
    exact hends
  · next hfirst hsecond =>
    rw [hfirst, hsecond]
    exact hends
  · exact hends.elim

theorem Respects.ofOp {operation : Op α} (hrespects : Respects related operation) :
    Respects (fun s t => related s.1 t.1) (Dialogue.ofOp operation) :=
  fun _ _ hrelated => .ofOp (hrespects _ _ hrelated)

theorem Respects.record (call : Call) :
    Respects (fun s t => related s.1 t.1) (Dialogue.record call) :=
  fun _ _ hrelated => ⟨rfl, hrelated⟩

end Dialogue

/-! ## Changes that do not set the prober -/

section Blind

variable (c : CacheId) (prober : Option Prober)

/-- The store with another prober in a cache. -/
def Store.withProber (store : Store) : Store := store.updateCache c ({ · with prober })

/-- A change of a store that neither sets the collaborators of a cache nor depends on its prober, and
that does not make it unprobed. -/
structure Blind (change : Store → Store) : Prop where
  commutes : ∀ store, change (store.withProber c prober) = (change store).withProber c prober
  prober : ∀ store, ((change store).cache c).prober = (store.cache c).prober
  verifier : ∀ store, ((change store).cache c).verifier = (store.cache c).verifier
  probed : ∀ store, (store.cache c).probed = true → ((change store).cache c).probed = true
  held : ∀ store, store.caches.Holds c → (change store).caches.Holds c

variable {c prober}

theorem Blind.id : Blind c prober fun store => store :=
  ⟨fun _ => rfl, fun _ => rfl, fun _ => rfl, fun _ h => h, fun _ h => h⟩

theorem Blind.comp {change change' : Store → Store} (hsecond : Blind c prober change')
    (hfirst : Blind c prober change) : Blind c prober fun store => change' (change store) where
  commutes store := by rw [hfirst.commutes, hsecond.commutes]
  prober store := by rw [hsecond.prober, hfirst.prober]
  verifier store := by rw [hsecond.verifier, hfirst.verifier]
  probed store h := hsecond.probed _ (hfirst.probed _ h)
  held store h := hsecond.held _ (hfirst.held _ h)

/-- What a change reads may be anything that does not depend on the prober. -/
theorem Blind.of_read {γ : Type} (change : γ → Store → Store) (read : Store → γ)
    (hread : ∀ store, read (store.withProber c prober) = read store)
    (hchange : ∀ value, Blind c prober (change value)) :
    Blind c prober fun store => change (read store) store where
  commutes store := by rw [hread, (hchange _).commutes]
  prober store := (hchange _).prober store
  verifier store := (hchange _).verifier store
  probed store := (hchange _).probed store
  held store := (hchange _).held store

theorem blind_updateTag (t : TagId) (change : Tag → Tag) :
    Blind c prober fun store => store.updateTag t change :=
  ⟨fun _ => rfl, fun _ => rfl, fun _ => rfl, fun _ h => h, fun _ h => h⟩

theorem blind_updateHead (h : HeadId) (change : Head → Head) :
    Blind c prober fun store => store.updateHead h change :=
  ⟨fun _ => rfl, fun _ => rfl, fun _ => rfl, fun _ h => h, fun _ h => h⟩

theorem blind_updateDevice (d : DeviceId) (change : Device → Device) :
    Blind c prober fun store => store.updateDevice d change :=
  ⟨fun _ => rfl, fun _ => rfl, fun _ => rfl, fun _ h => h, fun _ h => h⟩

theorem blind_addTag (record : Tag) :
    Blind c prober fun store => { store with tags := store.tags.add record } :=
  ⟨fun _ => rfl, fun _ => rfl, fun _ => rfl, fun _ h => h, fun _ h => h⟩

theorem blind_addHead (record : Head) :
    Blind c prober fun store => { store with heads := store.heads.add record } :=
  ⟨fun _ => rfl, fun _ => rfl, fun _ => rfl, fun _ h => h, fun _ h => h⟩

theorem blind_addDevice (record : Device) :
    Blind c prober fun store => { store with devices := store.devices.add record } :=
  ⟨fun _ => rfl, fun _ => rfl, fun _ => rfl, fun _ h => h, fun _ h => h⟩

/-- A change of a cache that leaves its collaborators as they are. -/
structure KeepsCollaborators (change : Cache → Cache) : Prop where
  commutes : ∀ record prober, change { record with prober } = { change record with prober }
  prober : ∀ record, (change record).prober = record.prober
  verifier : ∀ record, (change record).verifier = record.verifier
  probed : ∀ record, record.probed = true → (change record).probed = true

theorem blind_updateCache (k : CacheId) {change : Cache → Cache}
    (hkeeps : KeepsCollaborators change) :
    Blind c prober fun store => store.updateCache k change where
  commutes store := by
    unfold Store.withProber Store.updateCache
    rw [Table.update_comm]
    exact fun _ record => (hkeeps.commutes record prober).symm
  prober store := Table.field_update Cache.prober hkeeps.prober store.caches k c
  verifier store := Table.field_update Cache.verifier hkeeps.verifier store.caches k c
  probed store hprobed := by
    by_cases hk : c = k
    · subst hk
      by_cases hheld : store.caches.Holds c
      · rw [Store.cache_updateCache_self _ hheld]
        exact hkeeps.probed _ hprobed
      · rw [Store.cache, Table.get_of_not_holds hheld] at hprobed
        cases hprobed
    · rw [Store.cache_updateCache_of_ne _ hk]
      exact hprobed
  held store hheld := by simpa [Store.updateCache] using hheld

end Blind

end DeviceTags
