import DeviceTags.Proofs.Index.Audit
import DeviceTags.Proofs.Outcome

/-!
# The candidate of a lookup

In a cache in which the audit finds nothing every entry has an owner, so a look into the index
cannot fail: it finds no candidate where no entry has the value, and otherwise the owner of the entry
of the highest rank, the earliest of equals.
-/

namespace DeviceTags

/-- The entries of a cache that carry a name with a value, in the order of the index. -/
def Store.matching (store : Store) (c : CacheId) (name value : String) : List TagId :=
  (store.entries c name).filter fun t => (store.tag t).value = value

/-- A device owns the entry of the highest rank, which is the earliest of that rank. -/
structure Store.Leads (store : Store) (ts : List TagId) (t : TagId) (d : DeviceId) : Prop where
  owner : (store.tag t).device = some d
  place : ∃ front back, ts = front ++ t :: back ∧
    (∀ u ∈ front, ∃ e, (store.tag u).device = some e ∧ store.rank e < store.rank d) ∧
    ∀ u ∈ back, ∃ e, (store.tag u).device = some e ∧ store.rank e ≤ store.rank d

section Leads

variable {store : Store} {ts : List TagId} {t u : TagId} {d e : DeviceId}

theorem Store.leads_singleton (howner : (store.tag t).device = some d) : store.Leads [t] t d :=
  ⟨howner, [], [], rfl, by simp, by simp⟩

theorem Store.Leads.mem (hleads : store.Leads ts t d) : t ∈ ts := by
  obtain ⟨front, back, rfl, -⟩ := hleads.place
  simp

/-- No entry outranks the leading one. -/
theorem Store.Leads.le (hleads : store.Leads ts t d) (hu : u ∈ ts) :
    ∃ e, (store.tag u).device = some e ∧ store.rank e ≤ store.rank d := by
  obtain ⟨front, back, rfl, hfront, hback⟩ := hleads.place
  rcases List.mem_append.mp hu with hu | hu
  · obtain ⟨e, howner, hlt⟩ := hfront u hu
    exact ⟨e, howner, Int.le_of_lt hlt⟩
  · rcases List.mem_cons.mp hu with rfl | hu
    · exact ⟨d, hleads.owner, Int.le_refl _⟩
    · exact hback u hu

/-- An entry of a higher rank takes the lead. -/
theorem Store.Leads.overtaken (hleads : store.Leads ts t d)
    (howner : (store.tag u).device = some e) (hlt : store.rank d < store.rank e) :
    store.Leads (ts ++ [u]) u e := by
  refine ⟨howner, ts, [], rfl, fun v hv => ?_, by simp⟩
  obtain ⟨f, hf, hle⟩ := hleads.le hv
  exact ⟨f, hf, Int.lt_of_le_of_lt hle hlt⟩

theorem Store.Leads.kept (hleads : store.Leads ts t d)
    (howner : (store.tag u).device = some e) (hle : ¬ store.rank d < store.rank e) :
    store.Leads (ts ++ [u]) t d := by
  obtain ⟨front, back, rfl, hfront, hback⟩ := hleads.place
  refine ⟨hleads.owner, front, back ++ [u], by simp, hfront, fun v hv => ?_⟩
  rcases List.mem_append.mp hv with hv | hv
  · exact hback v hv
  · rw [List.mem_singleton.mp hv]
    exact ⟨e, howner, Int.not_lt.mp hle⟩

end Leads

namespace Lookup

variable {store : Store} {c : CacheId} {name value : String}

theorem requireArguments_eq_ok (hname : name ≠ "") :
    requireArguments (some c) (some name) (some value) = .ok (c, name, value) := by
  unfold requireArguments
  split <;> simp_all

/-- A leading entry of those seen so far makes the better entry lead them all. -/
theorem better_leads {seen : List TagId} {best : TagId} {d : DeviceId}
    (hbest : store.Leads seen best d) {rest : List TagId}
    (howned : ∀ t ∈ rest, ∃ e, (store.tag t).device = some e) :
    ∃ t e, better store best rest = .ok t ∧ store.Leads (seen ++ rest) t e := by
  -- On the entries that are still to come; what was seen before grows by each of them.
  induction rest generalizing seen best d with
  | nil =>
    refine ⟨best, d, rfl, ?_⟩
    rw [List.append_nil]
    exact hbest
  | cons t rest ih =>
    obtain ⟨e, howner⟩ := howned t List.mem_cons_self
    have hrest : ∀ u ∈ rest, ∃ e, (store.tag u).device = some e :=
      fun u hu => howned u (List.mem_cons_of_mem t hu)
    have hnext : better store best (t :: rest) =
        better store (if store.rank d < store.rank e then t else best) rest := by
      rw [better]
      simp only [rankOf, howner, hbest.owner]
      rfl
    rw [hnext, ← List.singleton_append, ← List.append_assoc]
    split
    · next hlt => exact ih (hbest.overtaken howner hlt) hrest
    · next hle => exact ih (hbest.kept howner hle) hrest

theorem bestMatch_leads
    (howned : ∀ t ∈ store.matching c name value, ∃ d, (store.tag t).device = some d) :
    (store.matching c name value = [] ∧ bestMatch store c name value = .ok none) ∨
      ∃ t d, store.Leads (store.matching c name value) t d ∧
        bestMatch store c name value = .ok (some t) := by
  unfold bestMatch
  unfold Store.matching Store.entries at *
  cases hfound : store.headOf? c name with
  | none => exact .inl ⟨rfl, rfl⟩
  | some h =>
    rw [hfound] at howned
    dsimp only [entriesWith] at howned ⊢
    cases hentries : (store.head h).tags.filter fun t => (store.tag t).value = value with
    | nil => exact .inl ⟨rfl, rfl⟩
    | cons first rest =>
      rw [hentries] at howned
      obtain ⟨d, howner⟩ := howned first List.mem_cons_self
      obtain ⟨t, e, hbetter, hleads⟩ := better_leads (Store.leads_singleton howner)
        fun u hu => howned u (List.mem_cons_of_mem first hu)
      refine .inr ⟨t, e, hleads, ?_⟩
      dsimp only
      rw [hbetter]
      rfl

/-- A device that points to the cache owns each entry of a sound index. -/
theorem owner_of_sound (hsound : store.Sound) {t : TagId}
    (ht : t ∈ store.matching c name value) :
    ∃ d, (store.tag t).device = some d ∧ (store.device d).cache = some c :=
  (hsound.of_mem_entries (List.mem_filter.mp ht).1).2

/-- A device of the cache owns each entry of an index in which the audit finds nothing. -/
theorem owner_of_matching (hclean : Audit.Clean store c) {t : TagId}
    (ht : t ∈ store.matching c name value) :
    ∃ d ∈ (store.cache c).devices, (store.tag t).device = some d := by
  have hentry : t ∈ store.entries c name := (List.mem_filter.mp ht).1
  unfold Store.entries at hentry
  split at hentry
  · cases hentry
  · next h hfound =>
    obtain ⟨d, hd, howner, -⟩ :=
      hclean.registered (name, h) (Store.mem_heads_of_headOf? hfound) t hentry
    exact ⟨d, hd, howner⟩

theorem owned_of_clean (hclean : Audit.Clean store c) (name value : String) :
    ∀ t ∈ store.matching c name value, ∃ d, (store.tag t).device = some d := by
  intro t ht
  obtain ⟨d, -, howner⟩ := owner_of_matching hclean ht
  exact ⟨d, howner⟩

theorem mem_devices_of_leads (hclean : Audit.Clean store c) {t : TagId} {d : DeviceId}
    (hleads : store.Leads (store.matching c name value) t d) : d ∈ (store.cache c).devices := by
  obtain ⟨e, he, howner⟩ := owner_of_matching hclean hleads.mem
  rw [hleads.owner] at howner
  cases howner
  exact he

/-- Where every entry has an owner, the candidate is the device of the leading entry, and there is
none where no entry matches. -/
theorem does_candidate {memory : Memory} {name value : String}
    (howned : ∀ t ∈ memory.store.matching c name value,
      ∃ d, (memory.store.tag t).device = some d) :
    Does (candidate c name value) memory
      (fun found after => memory = after ∧
        ((found = none ∧ memory.store.matching c name value = []) ∨
          ∃ t d, found = some (some d) ∧
            memory.store.Leads (memory.store.matching c name value) t d))
      fun _ _ => False := by
  unfold candidate
  refine .look_bind ?_
  rcases bestMatch_leads howned with ⟨hnone, hbest⟩ | ⟨t, d, hleads, hbest⟩
  · rw [hbest]
    exact .pure ⟨rfl, .inl ⟨rfl, hnone⟩⟩
  · rw [hbest]
    refine .look_bind (.pure ⟨rfl, .inr ⟨t, d, ?_, hleads⟩⟩)
    exact congrArg some hleads.owner

end Lookup

end DeviceTags
