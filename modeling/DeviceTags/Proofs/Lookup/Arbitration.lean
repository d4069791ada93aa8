import DeviceTags.Proofs.Lookup.Listing
import DeviceTags.Proofs.Lookup.Settled

/-!
# The candidate is listed first

A lookup scans the entries and keeps the first one of the highest rank; a listing takes each owner
once, in the order of the entries, and sorts the owners by rank. Both choose the same device. The
owners before that of the leading entry have a lower rank, so that owner is met after them all, and
the sort, which keeps the order of equals, brings it to the front.
-/

namespace DeviceTags

/-- Sorting brings an element to the front that stands before its equals, and that no element before
it reaches. -/
theorem head?_mergeSort_of_first {α : Type} (le : α → α → Bool) {front back : List α} {a : α}
    (htrans : ∀ a b c, le a b → le b c → le a c) (htotal : ∀ a b, le a b || le b a)
    (honce : (front ++ a :: back).Nodup) (hfront : ∀ b ∈ front, ¬ le b a)
    (hback : ∀ b ∈ back, le a b) :
    ((front ++ a :: back).mergeSort le).head? = some a := by
  obtain ⟨-, hnodup, hapart⟩ := List.nodup_append.mp honce
  -- Whatever stands before the element is not reached by the sort's comparison.
  have horder : (front ++ a :: back).Pairwise fun b c => c = a → ¬ le b a := by
    rw [List.pairwise_append]
    refine ⟨List.pairwise_of_forall_mem_list fun b hb _ _ _ => hfront b hb, ?_, ?_⟩
    · rw [List.pairwise_cons]
      rw [List.nodup_cons] at hnodup
      refine ⟨fun b hb heq => absurd (heq ▸ hb) hnodup.1, ?_⟩
      exact List.pairwise_of_forall_mem_list fun b _ c hc heq => absurd (heq ▸ hc) hnodup.1
    · intro b hb c hc _
      exact hfront b hb
  have hstable := pairwise_mergeSort_stable le htrans htotal honce horder
  have ha : a ∈ (front ++ a :: back).mergeSort le := by simp
  cases hsorted : (front ++ a :: back).mergeSort le with
  | nil =>
    rw [hsorted] at ha
    cases ha
  | cons b rest =>
    rw [List.head?_cons, Option.some_inj]
    by_contra hne
    rw [hsorted] at hstable ha
    have hrest : a ∈ rest := (List.mem_cons.mp ha).resolve_left fun heq => hne heq.symm
    obtain ⟨hle, hbefore⟩ := (List.pairwise_cons.mp hstable).1 a hrest
    have hkept : b ∈ (front ++ a :: back).mergeSort le := by
      rw [hsorted]
      exact List.mem_cons_self
    have hb : b ∈ front ++ a :: back := List.mem_mergeSort.mp hkept
    rcases List.mem_append.mp hb with hb | hb
    · exact hfront b hb hle
    · have hreached : le a b := by
        rcases List.mem_cons.mp hb with rfl | hb
        · exact absurd rfl hne
        · exact hback b hb
      exact hbefore hreached rfl hle

namespace Lookup

variable {store : Store} {c : CacheId} {name value : String} {ts : List TagId} {d : DeviceId}

/-! ## Owners -/

theorem mem_distinctOwners {owner : Option DeviceId} :
    owner ∈ distinctOwners store ts ↔ ∃ t ∈ ts, (store.tag t).device = owner := by
  have hmet := (metInOrder_distinctOwners store ts fun _ => true).mem owner
  simpa using hmet

theorem nodup_distinctOwners (store : Store) (ts : List TagId) :
    (distinctOwners store ts).Nodup := by
  have honce := (metInOrder_distinctOwners store ts fun _ => true).once
  simpa using honce

/-- Entries that come later add owners at the end. -/
theorem distinctOwners_prefix (store : Store) (front back : List TagId) :
    distinctOwners store front <+: distinctOwners store (front ++ back) := by
  induction back using List.reverseRecOn with
  | nil => simp
  | append_singleton back t ih =>
    rw [← List.append_assoc, distinctOwners_concat]
    split
    · exact ih
    · exact ih.trans (List.prefix_append _ _)

/-- The owner of the leading entry is met after owners of lower rank only. -/
theorem distinctOwners_of_leads {t : TagId} (hleads : store.Leads ts t d) :
    ∃ front back : List DeviceId,
      distinctOwners store ts = (front ++ d :: back).map some ∧
      (∀ e ∈ front, store.rank e < store.rank d) ∧ ∀ e ∈ back, store.rank e ≤ store.rank d := by
  obtain ⟨before, after, hplace, hbefore, -⟩ := hleads.place
  have hnew : some d ∉ distinctOwners store before := by
    intro hmet
    obtain ⟨u, hu, howner⟩ := mem_distinctOwners.mp hmet
    obtain ⟨e, he, hlt⟩ := hbefore u hu
    rw [howner] at he
    cases he
    exact absurd hlt (Int.lt_irrefl _)
  have hconcat : distinctOwners store (before ++ [t]) =
      distinctOwners store before ++ [some d] := by
    rw [distinctOwners_concat, hleads.owner, if_neg hnew]
  obtain ⟨later, hlater⟩ := distinctOwners_prefix store (before ++ [t]) after
  have howners : distinctOwners store ts =
      distinctOwners store before ++ some d :: later := by
    rw [hplace, List.append_cons, ← hlater, hconcat, List.append_assoc, List.singleton_append]
  obtain ⟨front, hfront⟩ := exists_map_some (l := distinctOwners store before) fun o ho => by
    obtain ⟨u, hu, rfl⟩ := mem_distinctOwners.mp ho
    exact (hbefore u hu).imp fun _ h => h.1
  have hle : ∀ o ∈ later, ∃ e, o = some e ∧ store.rank e ≤ store.rank d := by
    intro o ho
    have hmet : o ∈ distinctOwners store ts := by simp [howners, ho]
    obtain ⟨u, hu, rfl⟩ := mem_distinctOwners.mp hmet
    exact hleads.le hu
  obtain ⟨back, rfl⟩ := exists_map_some fun o ho => (hle o ho).imp fun _ h => h.1
  refine ⟨front, back, ?_, fun e he => ?_, fun e he => ?_⟩
  · rw [howners, hfront]
    simp
  · have hmet : some e ∈ distinctOwners store before := by simp [hfront, he]
    obtain ⟨u, hu, howner⟩ := mem_distinctOwners.mp hmet
    obtain ⟨f, hf, hlt⟩ := hbefore u hu
    rw [howner] at hf
    cases hf
    exact hlt
  · obtain ⟨f, hf, hrank⟩ := hle (some e) (List.mem_map_of_mem he)
    cases hf
    exact hrank

/-! ## Listings -/

theorem listing_of_owners {devices : List DeviceId}
    (howners : distinctOwners store (store.matching c name value) = devices.map some) :
    listing store c name value =
      .ok (devices.mergeSort fun d e => store.rank e ≤ store.rank d) := by
  unfold listing
  unfold Store.matching Store.entries at howners
  cases hfound : store.headOf? c name with
  | none =>
    rw [hfound] at howners
    have hnil : devices = [] := List.map_eq_nil_iff.mp howners.symm
    rw [hnil, List.mergeSort_nil]
  | some h =>
    rw [hfound] at howners
    dsimp only [entriesWith]
    rw [howners, mapM_id_map_some]

/-- What a look into the index finds is listed first, and nothing is listed where it finds nothing. -/
theorem listing_of_answers {found : Option DeviceId}
    (hanswer : store.Answers c name value found) :
    ∃ devices, listing store c name value = .ok devices ∧ devices.head? = found := by
  cases found with
  | none =>
    have howners : distinctOwners store (store.matching c name value) =
        ([] : List DeviceId).map some := congrArg (distinctOwners store) hanswer
    exact ⟨_, listing_of_owners howners, by rw [List.mergeSort_nil, List.head?_nil]⟩
  | some d =>
    obtain ⟨t, hleads⟩ := hanswer
    obtain ⟨front, back, howners, hfront, hback⟩ := distinctOwners_of_leads hleads
    have honce : ((front ++ d :: back).map some).Nodup := by
      rw [← howners]
      exact nodup_distinctOwners store _
    refine ⟨_, listing_of_owners howners, ?_⟩
    apply head?_mergeSort_of_first
    · simp only [decide_eq_true_eq]
      omega
    · simp only [Bool.or_eq_true, decide_eq_true_eq]
      omega
    · exact honce.of_map
    · intro e he
      simpa using hfront e he
    · intro e he
      simpa using hback e he

/-- The owner of the best entry is what a look into the index finds. -/
theorem bestMatch_answers (hclean : Audit.Clean store c) (name value : String) :
    ∃ best, bestMatch store c name value = .ok best ∧
      store.Answers c name value (best.bind fun t => (store.tag t).device) ∧
      (best = none ↔ (best.bind fun t => (store.tag t).device) = none) := by
  have howned : ∀ t ∈ store.matching c name value, ∃ d, (store.tag t).device = some d :=
    fun t ht => (owner_of_matching hclean ht).imp fun _ hd => hd.2
  rcases bestMatch_leads howned with ⟨hnone, hbest⟩ | ⟨t, d, hleads, hbest⟩
  · exact ⟨none, hbest, hnone, by simp⟩
  · have howner : (some t).bind (fun t => (store.tag t).device) = some d := hleads.owner
    refine ⟨some t, hbest, ?_⟩
    rw [howner]
    exact ⟨⟨t, hleads⟩, by simp⟩

theorem all_of_listing {memory : Memory} {devices : List DeviceId} (hname : name ≠ "")
    (hlisting : listing memory.store c name value = .ok devices) :
    all (some c) (some name) (some value) memory = .ok devices memory := by
  have hlook : all (some c) (some name) (some value) memory =
      Tagging.checked (listing memory.store c name value) memory := by
    unfold all
    rw [requireArguments_eq_ok hname]
    rfl
  rw [hlook, hlisting]
  rfl

/-! ## Arbitration and enumeration -/

/-- In a cache in which the audit finds nothing, the owner of the best entry is the device that is
listed first, and there is no best entry exactly if nothing is listed. With a verifier that accepts
and nothing to probe, a lookup gives the device that is listed first and leaves the store alone. -/
theorem best_is_listed_first {memory : Memory} {c : CacheId} {name : String}
    (hclean : Audit.problems memory.store c = []) (hname : name ≠ "") (value : String) :
    ∃ (best : Option TagId) (devices : List DeviceId),
      bestMatch memory.store c name value = .ok best ∧
      all (some c) (some name) (some value) memory = .ok devices memory ∧
      best.bind (fun t => (memory.store.tag t).device) = devices.head? ∧
      (best = none ↔ devices = []) ∧
      ∀ (host : Host) (prober : Option Prober) (verifier : Option Verifier),
        ((prober <|> (memory.store.cache c).prober) = none ∨
          (memory.store.cache c).probed = true) →
        ((verifier <|> (memory.store.cache c).verifier).getD .trusting).Accepts host c →
        ∃ after,
          find host (some c) (some name) (some value) prober verifier memory =
            .ok devices.head? after ∧ SameButLog memory after := by
  have hclean' := Audit.problems_eq_nil_iff.mp hclean
  obtain ⟨best, hbest, hanswer, hnone⟩ := bestMatch_answers hclean' name value
  obtain ⟨devices, hlisting, hfirst⟩ := listing_of_answers hanswer
  refine ⟨best, devices, hbest, all_of_listing hname hlisting, hfirst.symm, ?_, ?_⟩
  · rw [hnone, ← hfirst, List.head?_eq_none_iff]
  · intro host prober verifier hsettled haccepts
    obtain ⟨found, after, hrun, hsame, hfound⟩ :=
      (does_find_settled value hname hclean' hsettled haccepts).exists_ok
    -- The listing is one list, so the lookup found what stands at its front.
    obtain ⟨devices', hlisting', hfirst'⟩ := listing_of_answers hfound
    rw [hlisting] at hlisting'
    cases hlisting'
    rw [hfirst']
    exact ⟨after, hrun, hsame⟩

/-- Three devices with the same label, two of them of the same huge rank and one of a negative rank.
The entry of the last one is the first of the head, and one of the others has the label twice. -/
def contest : List Action :=
  [.newCache none none, .newDevice "/dev/sda1" (.integer (-5)) {},
    .newDevice "/dev/sdb1" (.integer 1180591620717411303424) {},
    .newDevice "/dev/sdc1" (.integer 1180591620717411303424) {},
    .addDevice ⟨0⟩ (some ⟨0⟩), .addDevice ⟨0⟩ (some ⟨1⟩), .addDevice ⟨0⟩ (some ⟨2⟩),
    .setTag (some ⟨0⟩) (.string "LABEL") (.string "data") false,
    .setTag (some ⟨1⟩) (.string "LABEL") (.string "old") false,
    .setTag (some ⟨1⟩) (.string "LABEL") (.string "data") false,
    .setTag (some ⟨2⟩) (.string "LABEL") (.string "data") false,
    .setTag (some ⟨1⟩) (.string "LABEL") (.string "data") false]

/-- The state after the contest. -/
def contested : Memory := (Action.performAll .bare .unlimited contest ({}, [])).1

/-- The first of the two devices of the same rank is found and is listed first. -/
theorem best_of_contest :
    bestMatch contested.store ⟨0⟩ "LABEL" "data" = .ok (some ⟨2⟩) ∧
      ∃ devices after,
        all (some ⟨0⟩) (some "LABEL") (some "data") contested = .ok devices contested ∧
        devices.head? = some ⟨1⟩ ∧
        find .bare (some ⟨0⟩) (some "LABEL") (some "data") none none contested =
          .ok (some ⟨1⟩) after ∧ SameButLog contested after := by
  have hclean : Audit.problems contested.store ⟨0⟩ = [] := by decide +kernel
  have hbest : bestMatch contested.store ⟨0⟩ "LABEL" "data" = .ok (some ⟨2⟩) := by rfl
  have howner : (contested.store.tag ⟨2⟩).device = some ⟨1⟩ := by decide +kernel
  obtain ⟨best, devices, hmatch, hall, hfirst, -, hfind⟩ :=
    best_is_listed_first hclean (by decide : "LABEL" ≠ "") "data"
  rw [hbest] at hmatch
  cases hmatch
  rw [Option.bind_some, howner] at hfirst
  have hsettled : (none <|> (contested.store.cache ⟨0⟩).prober).isNone = true := by decide +kernel
  have htrusting : (none <|> (contested.store.cache ⟨0⟩).verifier).getD .trusting =
      Verifier.trusting := by rfl
  obtain ⟨after, hrun, hsame⟩ := hfind .bare none none
    (.inl (Option.isNone_iff_eq_none.mp hsettled)) (by
      rw [htrusting]
      exact Verifier.accepts_trusting .bare ⟨0⟩)
  rw [← hfirst] at hrun
  exact ⟨hbest, devices, after, hall, hfirst.symm, hrun, hsame⟩

end Lookup

end DeviceTags
