import DeviceTags.Proofs.Index.Membership
import DeviceTags.Proofs.Index.Rollback

/-!
# How the heads move on

`Progress` compares the index before and after. Entries leave a head together with their device or
stay where they are, new entries come last and in the order in which they were made, and a tag that
nothing owns is never owned again. Which tags may come in is left open: an attachment brings in tags
of any age, every other operation only tags that were not there before.
-/

namespace DeviceTags.Store

/-- The heads after an operation hold entries from before, in order, and behind them new ones. -/
structure Progress (before after : Store) (fresh : TagId → Prop) : Prop where
  lasting : Extends before after
  stays : ∀ t h, (before.tag t).head = some h →
    (after.tag t).head = some h ∨ (after.tag t).device = none
  gone : ∀ t, before.tags.Holds t → (before.tag t).device = none → (after.tag t).device = none
  entries : ∀ h, ∃ kept added, (after.head h).tags = kept ++ added ∧
    kept.Sublist (before.head h).tags ∧ added.Pairwise (·.index < ·.index) ∧
    ∀ t ∈ added, fresh t ∧ after.tags.Holds t

variable {store before middle after : Store} {fresh fresh' : TagId → Prop}

theorem holds_tag_of_head {t : TagId} {h : HeadId} (hhead : (store.tag t).head = some h) :
    store.tags.Holds t := by
  by_contra hmissing
  rw [tag_of_not_holds hmissing] at hhead
  cases hhead

theorem Progress.mono (hprogress : Progress before after fresh)
    (hfresh : ∀ t, fresh t → fresh' t) : Progress before after fresh' :=
  { hprogress with
    entries := by
      intro h
      obtain ⟨kept, added, htags, hkept, horder, hadded⟩ := hprogress.entries h
      exact ⟨kept, added, htags, hkept, horder, fun t ht =>
        ⟨hfresh t (hadded t ht).1, (hadded t ht).2⟩⟩ }

/-- Two parts go together if the new entries of the second one were made after those of the first. -/
theorem Progress.trans (hfirst : Progress before middle fresh)
    (hsecond : Progress middle after fresh')
    (hlater : ∀ t u, middle.tags.Holds t → fresh t → fresh' u → t.index < u.index) :
    Progress before after fun t => fresh t ∨ fresh' t where
  lasting := hfirst.lasting.trans hsecond.lasting
  stays t h hhead := by
    rcases hfirst.stays t h hhead with hstay | hloose
    · exact hsecond.stays t h hstay
    · have ht := hfirst.lasting.holds_tag (holds_tag_of_head hhead)
      exact .inr (hsecond.gone t ht hloose)
  gone t ht howner :=
    hsecond.gone t (hfirst.lasting.holds_tag ht) (hfirst.gone t ht howner)
  entries h := by
    obtain ⟨kept, added, htags, hkept, horder, hadded⟩ := hfirst.entries h
    obtain ⟨kept', added', htags', hkept', horder', hadded'⟩ := hsecond.entries h
    rw [htags, List.sublist_append_iff] at hkept'
    obtain ⟨old, young, rfl, hold, hyoung⟩ := hkept'
    refine ⟨old, young ++ added', by rw [htags', List.append_assoc], hold.trans hkept, ?_, ?_⟩
    · rw [List.pairwise_append]
      refine ⟨horder.sublist hyoung, horder', fun t ht u hu => ?_⟩
      obtain ⟨hnew, hheld⟩ := hadded t (hyoung.subset ht)
      exact hlater t u hheld hnew (hadded' u hu).1
    · intro t ht
      rcases List.mem_append.mp ht with hmade | hmade
      · obtain ⟨hnew, hheld⟩ := hadded t (hyoung.subset hmade)
        exact ⟨.inl hnew, hsecond.lasting.holds_tag hheld⟩
      · obtain ⟨hnew, hheld⟩ := hadded' t hmade
        exact ⟨.inr hnew, hheld⟩

/-- A store with the same links has made no progress. -/
theorem Progress.of_sameLinks (hsame : SameLinks before after) :
    Progress before after fun _ => False where
  lasting := hsame.lasting
  stays t h hhead := .inl ((hsame.tagHead t).trans hhead)
  gone t _ howner := (hsame.tagDevice t).trans howner
  entries h := ⟨(before.head h).tags, [], by simp [hsame.headTags], List.Sublist.refl _,
    List.Pairwise.nil, by simp⟩

theorem Progress.then_sameLinks (hprogress : Progress before middle fresh)
    (hsame : SameLinks middle after) : Progress before after fresh :=
  (hprogress.trans (.of_sameLinks hsame) fun _ _ _ _ => False.elim).mono
    fun _ => Or.rec id False.elim

/-! ### The effects of operations -/

theorem Linked.progress_unlinkTags {home : DeviceId → Option CacheId} {waiting : List TagId}
    (hlinked : store.Linked home waiting) (ts : List TagId) :
    Progress store (store.unlinkTags ts) fun _ => False where
  lasting := extends_unlinkTags ts store
  stays t h hhead := by
    rw [tag_unlinkTags]
    split
    · exact .inr rfl
    · exact .inl hhead
  gone t _ howner := by
    rw [tag_unlinkTags]
    split
    · rfl
    · exact howner
  entries h := by
    refine ⟨_, [], by rw [List.append_nil], ?_, List.Pairwise.nil, by simp⟩
    rw [hlinked.tags_head_unlinkTags]
    exact List.filter_sublist

theorem progress_linkTag {c : CacheId} {t : TagId} (ht : store.tags.Holds t)
    (hfree : (store.tag t).head = none)
    (hfound : ∀ h, store.headOf? c (store.tag t).name = some h → store.heads.Holds h) :
    Progress store (store.linkTag c t) fun u => u = t where
  lasting := extends_linkTag store c t
  stays u h hhead := by
    have hu : u ≠ t := by
      rintro rfl
      rw [hfree] at hhead
      cases hhead
    rw [tag_linkTag store ht, if_neg hu]
    exact .inl hhead
  gone u _ howner := by
    rw [tag_linkTag store ht]
    split <;> exact howner
  entries h := by
    rw [tags_head_linkTag store hfound]
    split
    · refine ⟨_, [t], rfl, List.Sublist.refl _, List.pairwise_singleton _ _, fun u hu => ?_⟩
      rw [List.mem_singleton.mp hu]
      exact ⟨rfl, (extends_linkTag store c t).holds_tag ht⟩
    · exact ⟨_, [], by rw [List.append_nil], List.Sublist.refl _, List.Pairwise.nil, by simp⟩

theorem progress_makeTag (d : DeviceId) (name value : String) :
    Progress store (store.makeTag d name value) fun _ => False where
  lasting := extends_makeTag store d name value
  stays t h hhead := by
    rw [tag_makeTag, if_neg (Table.ne_next_of_holds (holds_tag_of_head hhead))]
    exact .inl hhead
  gone t ht howner := by
    rw [tag_makeTag, if_neg (Table.ne_next_of_holds ht)]
    exact howner
  entries h := ⟨_, [], by rw [List.append_nil]; rfl, List.Sublist.refl _, List.Pairwise.nil,
    by simp⟩

/-- The one entry that may come in is the tag that is made. -/
theorem Sound.progress_appendTag (hsound : store.Sound) {d : DeviceId}
    (hd : store.devices.Holds d) (name value : String) :
    Progress store (store.appendTag d name value) fun t => ¬ store.tags.Holds t := by
  have hmade : Progress store (store.makeTag d name value) fun _ => False :=
    progress_makeTag d name value
  have hlinked := hsound.linked.makeTag hd name value
  have hfree := hlinked.waitingFree store.tags.next List.mem_cons_self
  have ht : (store.makeTag d name value).tags.Holds store.tags.next := Table.holds_next_add _ _
  unfold Store.appendTag
  split
  · exact hmade.mono fun _ => False.elim
  · next c hcache =>
    refine (hmade.trans (progress_linkTag (c := c) ht hfree (hlinked.headOf?_held _)) ?_).mono ?_
    · exact fun _ _ _ => False.elim
    · rintro t (hnever | rfl)
      · exact hnever.elim
      · exact Table.not_holds_next _

theorem Linked.progress_linkMissing {home : DeviceId → Option CacheId} {d : DeviceId} {c : CacheId}
    (hhome : home d = some c) (waiting : List TagId) {store : Store}
    (hlinked : store.Linked home waiting) (hc : store.caches.Holds c)
    (hsuffix : ∃ done, (store.device d).tags = done ++ waiting) :
    Progress store (Store.linkMissing c waiting store) (· ∈ waiting) := by
  -- The tags that are left are younger than those that are linked.
  induction waiting generalizing store with
  | nil => exact (Progress.of_sameLinks (.refl store)).mono fun _ => False.elim
  | cons t rest ih =>
    obtain ⟨done, htags⟩ := hsuffix
    have hfree : (store.tag t).head = none := hlinked.waitingFree t List.mem_cons_self
    have ht : store.tags.Holds t := by
      refine holds_tag_of_device ((hlinked.listed d t).mp ?_)
      rw [htags]
      simp
    have hsorted := hlinked.listedInOrder d
    rw [htags, List.pairwise_append, List.pairwise_cons] at hsorted
    have hrest := ih (hlinked.linkNext hhome hc htags)
      ((extends_linkTag store c t).holds_cache hc)
      ⟨done ++ [t], by rw [device_linkTag, htags]; simp⟩
    rw [Store.linkMissing, if_neg (by simp [hfree])]
    refine ((progress_linkTag ht hfree (hlinked.headOf?_held _)).trans hrest ?_).mono ?_
    · rintro u v - rfl hv
      exact hsorted.2.1.1 v hv
    · rintro u (rfl | hu)
      · exact List.mem_cons_self
      · exact List.mem_cons_of_mem t hu

/-- A device that is pointed to a cache brings in those of its tags that were in no head. -/
theorem Sound.progress_connect (hsound : store.Sound) {c : CacheId} {d : DeviceId}
    (hc : store.caches.Holds c) (hinvites : store.Invites c d) :
    Progress store (store.connect c d)
      fun t => t ∈ (store.device d).tags ∧ (store.tag t).head = none := by
  rcases hinvites.free_or_pointed with hfree | hpointed
  · have hinvited := hsound.linked.invite hfree c
    have hlinked := hinvited.progress_linkMissing (d := d) (if_pos rfl) _ hc ⟨[], rfl⟩
    refine (hlinked.then_sameLinks (sameLinks_setDeviceCache d (some c))).mono fun t ht => ?_
    exact ⟨ht, hinvited.waitingFree t ht⟩
  · rw [hsound.connect_eq_self hpointed]
    exact (Progress.of_sameLinks (.refl store)).mono fun _ => False.elim

theorem Sound.progress_attach (hsound : store.Sound) {c : CacheId} {d : DeviceId}
    (hc : store.caches.Holds c) (hinvites : store.Invites c d) :
    Progress store (store.attach c d)
      fun t => t ∈ (store.device d).tags ∧ (store.tag t).head = none :=
  (hsound.progress_connect hc hinvites).then_sameLinks (sameLinks_enlist _ c d)

theorem Sound.progress_detach (hsound : store.Sound) (c : CacheId) (d : DeviceId) :
    Progress store (store.detach c d) fun _ => False := by
  have hunlinked := hsound.linked.progress_unlinkTags (store.device d).tags
  exact hunlinked.then_sameLinks (sameLinks_detach store c d)

/-- No way to set a tag adds anything to a head but a new tag. -/
theorem Prepares.progress {d : DeviceId} {name : String} {revision : Revision} {middle : Store}
    {link : Option TagId} (hprepares : store.Prepares d name revision middle link)
    (hsound : store.Sound) (hd : store.devices.Holds d) :
    Progress store middle fun t => ¬ store.tags.Holds t := by
  cases hprepares with
  | clearing =>
    exact ((hsound.linked.progress_unlinkTags _).then_sameLinks
      (hsound.linked.sameIndex_dropNamed d name).toSameLinks).mono fun _ => False.elim
  | rewriting =>
    exact (Progress.of_sameLinks (sameIndex_setTagValue _ _).toSameLinks).mono
      fun _ => False.elim
  | adding => exact hsound.progress_appendTag hd name _
  | doubling =>
    exact (hsound.progress_appendTag hd name _).then_sameLinks
      (sameIndex_markMultiple d).toSameLinks

theorem Sound.progress_setTag (hsound : store.Sound) {d : DeviceId} (hd : store.devices.Holds d)
    (name : String) (value : Option String) (replace : Bool) :
    Progress store (store.setTag d name value replace) fun t => ¬ store.tags.Holds t := by
  obtain ⟨-, hset⟩ | ⟨_, middle, link, -, hprepares, hset⟩ :=
    store.setTag_cases d name value replace
  · rw [hset]
    exact (Progress.of_sameLinks (.refl store)).mono fun _ => False.elim
  · rw [hset]
    exact (hprepares.progress hsound hd).then_sameLinks (sameIndex_finish d name link).toSameLinks

end DeviceTags.Store
