import DeviceTags.HandEdit
import DeviceTags.Proofs.Index.Audit
import DeviceTags.Proofs.Run

/-!
# One entry for every tag

The audit looks at one tag and at one entry at a time. Together its checks force that the tags on the
devices of a cache and the entries of its index are one to one. The number of times that a tag
stands in a head is then known for every tag and every head, on whatever path the store came to be.
All that is taken for granted is that no two heads have the same name, which no edit can change.
-/

namespace DeviceTags

theorem HandEdit.headNames_apply (change : HandEdit) (store : Store) (c : CacheId) :
    (change.apply store).headNames c = store.headNames c := by
  cases change
  case repeatEntry t =>
    simp only [apply]
    split <;> rfl
  case clearHead k name =>
    simp only [apply]
    split <;> rfl
  all_goals rfl

/-- Names stay unique however often a sound store is edited by hand. -/
theorem Store.Sound.nodup_headNames_edited {store : Store} (hsound : store.Sound)
    (changes : List HandEdit) (c : CacheId) :
    ((changes.foldl (fun edited change => change.apply edited) store).headNames c).Nodup := by
  have hnames : ∀ edited : Store,
      (changes.foldl (fun edited change => change.apply edited) edited).headNames c =
        edited.headNames c := by
    induction changes with
    | nil => exact fun _ => rfl
    | cons change rest ih =>
      exact fun edited => (ih _).trans (change.headNames_apply edited c)
  rw [hnames]
  exact hsound.linked.namesOnce c

end DeviceTags

namespace DeviceTags.Audit

/-- A tag of the name that is on a device of the cache. -/
def Carried (store : Store) (c : CacheId) (name : String) (t : TagId) : Prop :=
  (store.tag t).name = name ∧ ∃ d ∈ (store.cache c).devices, t ∈ (store.device d).tags

instance (store : Store) (c : CacheId) (name : String) (t : TagId) :
    Decidable (Carried store c name t) :=
  inferInstanceAs (Decidable (_ ∧ _))

/-- The devices know their cache, their tags know them and the head of their name, and a head holds
every tag that is carried under its name once and nothing else. -/
structure OneToOne (store : Store) (c : CacheId) : Prop where
  attached : ∀ d ∈ (store.cache c).devices, (store.device d).cache = some c
  owned : ∀ d ∈ (store.cache c).devices, ∀ t ∈ (store.device d).tags,
    (store.tag t).device = some d
  headed : ∀ d ∈ (store.cache c).devices, ∀ t ∈ (store.device d).tags,
    ∃ h, store.headOf? c (store.tag t).name = some h ∧ (store.tag t).head = some h
  counted : ∀ name h, store.headOf? c name = some h → ∀ t,
    (store.head h).tags.count t = if Carried store c name t then 1 else 0

variable {store : Store} {c : CacheId}

theorem Clean.oneToOne (hclean : Clean store c) : OneToOne store c where
  attached := hclean.attached
  owned := hclean.owned
  headed d hd t ht := by
    obtain ⟨h, hfound, hhead, -⟩ := hclean.linked d hd t ht
    exact ⟨h, hfound, hhead⟩
  counted name h hfound t := by
    split
    · next hcarried =>
      obtain ⟨rfl, d, hd, ht⟩ := hcarried
      obtain ⟨k, hk, -, honce⟩ := hclean.linked d hd t ht
      cases hfound.symm.trans hk
      exact honce
    · next hcarried =>
      -- an entry is carried by its owner
      refine List.count_eq_zero.mpr fun ht => hcarried ?_
      have hentry := Store.mem_heads_of_headOf? hfound
      obtain ⟨d, hd, -, hlisted⟩ := hclean.registered (name, h) hentry t ht
      exact ⟨hclean.named (name, h) hentry t ht, d, hd, hlisted⟩

theorem OneToOne.clean (hone : OneToOne store c) (honce : (store.headNames c).Nodup) :
    Clean store c := by
  have hcarried : ∀ entry ∈ (store.cache c).heads, ∀ t ∈ (store.head entry.2).tags,
      Carried store c entry.1 t := by
    intro entry hentry t ht
    have hcount := hone.counted entry.1 entry.2 (Store.headOf?_of_mem honce hentry) t
    have hpositive := List.count_pos_iff.mpr ht
    by_contra hfree
    rw [hcount, if_neg hfree] at hpositive
    exact Nat.lt_irrefl 0 hpositive
  constructor
  case attached => exact hone.attached
  case owned => exact hone.owned
  case linked =>
    intro d hd t ht
    obtain ⟨h, hfound, hhead⟩ := hone.headed d hd t ht
    refine ⟨h, hfound, hhead, ?_⟩
    rw [hone.counted _ h hfound t, if_pos ⟨rfl, d, hd, ht⟩]
  case named => exact fun entry hentry t ht => (hcarried entry hentry t ht).1
  case registered =>
    intro entry hentry t ht
    obtain ⟨-, d, hd, hlisted⟩ := hcarried entry hentry t ht
    exact ⟨d, hd, hone.owned d hd t hlisted, hlisted⟩

/-- The audit finds nothing exactly where tags and entries are one to one. -/
theorem problems_eq_nil_iff_oneToOne (store : Store) (c : CacheId)
    (honce : (store.headNames c).Nodup) : problems store c = [] ↔ OneToOne store c := by
  rw [problems_eq_nil_iff]
  exact ⟨Clean.oneToOne, fun hone => hone.clean honce⟩

/-- An entry that is repeated by hand is found, and a tag stands in its head twice. -/
theorem oneToOne_fails_on_repeated_entry :
    let store := (HandEdit.repeatEntry ⟨0⟩).apply lateAttached.1.store
    (store.headNames ⟨0⟩).Nodup ∧
      problems store ⟨0⟩ = [.missingOrRepeated "/dev/sda1" "LABEL"] ∧
      ¬ OneToOne store ⟨0⟩ := by
  intro store
  have honce : (store.headNames ⟨0⟩).Nodup :=
    run_lateAttached.sound.1.nodup_headNames_edited [.repeatEntry ⟨0⟩] ⟨0⟩
  have hfound : problems store ⟨0⟩ = [.missingOrRepeated "/dev/sda1" "LABEL"] := by
    decide +kernel
  refine ⟨honce, hfound, fun hone => ?_⟩
  have hnone := (problems_eq_nil_iff_oneToOne store ⟨0⟩ honce).mpr hone
  exact List.cons_ne_nil _ _ (hfound.symm.trans hnone)

end DeviceTags.Audit
