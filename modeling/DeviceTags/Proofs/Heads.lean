import DeviceTags.Proofs.Agreement
import DeviceTags.Proofs.Changes
import DeviceTags.Proofs.Store.Removed

/-!
# Heads only accumulate

Which heads a cache has is a matter of its history. Each name has a head from the first call on that
linked a tag of the name into the cache and went through. Neither deletions nor removals nor lookups
take a head away, and of a call that fails none is left, whatever had become of the heads before. Only
an attachment that breaks off before the cache lists the device leaves the heads that it made.
-/

namespace DeviceTags

/-- Names with one more behind them, unless it is one of them. -/
def addName (names : List String) (name : String) : List String :=
  if name ∈ names then names else names ++ [name]

theorem eraseDups_append_eq_foldl (names added : List String) :
    (names ++ added).eraseDups = added.foldl addName names.eraseDups := by
  induction added generalizing names with
  | nil => rw [List.append_nil, List.foldl_nil]
  | cons name rest ih =>
    have hone : (names ++ [name]).eraseDups = addName names.eraseDups name := by
      rw [List.eraseDups_append, addName]
      by_cases hmem : name ∈ names
      · rw [if_pos (List.mem_eraseDups.mpr hmem)]
        simp [List.removeAll, hmem]
      · rw [if_neg (hmem ∘ List.mem_eraseDups.mp)]
        simp [List.removeAll, hmem, List.eraseDups_cons]
    rw [List.foldl_cons, ← hone, ← ih, List.append_assoc, List.singleton_append]

/-! ## The tags that a call links -/

/-- The tag is in a head of the cache. -/
def Store.indexes (store : Store) (c : CacheId) (t : TagId) : Bool :=
  (store.cache c).heads.any fun entry => (store.tag t).head = some entry.2

/-- The tags that a call linked into a cache: those on its device that are in the index afterwards and
were not before, in the order in which the device lists them. -/
def Deed.linked (deed : Deed) (c : CacheId) : List TagId :=
  (deed.after.device deed.device).tags.filter fun t =>
    deed.after.indexes c t && !deed.before.indexes c t

def Deed.linkedNames (deed : Deed) (c : CacheId) : List String :=
  (deed.linked c).map fun t => (deed.after.tag t).name

namespace Store

variable {store before after : Store} {c k : CacheId} {d : DeviceId} {t : TagId} {name : String}

/-- In a sound store the tags in the index of a cache are those of its devices. -/
theorem Sound.indexes_iff (hsound : store.Sound) :
    store.indexes c t = true ↔
      ∃ d, (store.tag t).device = some d ∧ (store.device d).cache = some c := by
  rw [indexes, List.any_eq_true]
  constructor
  · rintro ⟨entry, hentry, hhead⟩
    obtain ⟨d, k, howner, hcache, hhome⟩ :=
      hsound.linked.homed t entry.2 (of_decide_eq_true hhead)
    rw [hsound.linked.headOfOne k c _ entry hhome hentry rfl] at hcache
    exact ⟨d, howner, hcache⟩
  · rintro ⟨d, howner, hcache⟩
    obtain ⟨h, hfound, hhead⟩ :=
      hsound.head_of_attached hcache ((hsound.linked.listed d t).mpr howner)
    exact ⟨_, mem_heads_of_headOf? hfound, decide_eq_true hhead⟩

theorem Sound.indexes_of_listed (hsound : store.Sound) (ht : t ∈ (store.device d).tags) :
    store.indexes c t = decide ((store.device d).cache = some c) := by
  rw [Bool.eq_iff_iff, hsound.indexes_iff, (hsound.linked.listed d t).mp ht, decide_eq_true_iff]
  simp

/-- Of a device that is in the cache afterwards those tags were linked that were not there before. -/
theorem linked_eq (hbefore : before.Sound) (hafter : after.Sound)
    (hfresh : ∀ t ∈ (after.device d).tags, t ∉ (before.device d).tags →
      (before.tag t).device = none) (c : CacheId) :
    (⟨d, before, after⟩ : Deed).linked c =
      if (after.device d).cache = some c then
        (after.device d).tags.filter fun t =>
          ¬ (t ∈ (before.device d).tags ∧ (before.device d).cache = some c)
      else [] := by
  have hthere : ∀ t ∈ (after.device d).tags, before.indexes c t =
      decide (t ∈ (before.device d).tags ∧ (before.device d).cache = some c) := by
    intro t ht
    by_cases hold : t ∈ (before.device d).tags
    · rw [hbefore.indexes_of_listed hold]
      simp [hold]
    · rw [Bool.eq_iff_iff, hbefore.indexes_iff, hfresh t ht hold]
      simp [hold]
  split
  · next hcache =>
    refine List.filter_congr fun t ht => ?_
    change (after.indexes c t && !before.indexes c t) = _
    rw [hafter.indexes_of_listed ht, hthere t ht]
    simp [hcache]
  · next hcache =>
    refine List.filter_eq_nil_iff.mpr fun t ht => ?_
    change ¬ (after.indexes c t && !before.indexes c t) = true
    rw [hafter.indexes_of_listed ht]
    simp [hcache]

/-! ## Heads after a change -/

section Link

variable (hc : store.caches.Holds c)

include hc

theorem prefix_heads_linkTag (t : TagId) (k : CacheId) :
    (store.cache k).heads <+: ((store.linkTag c t).cache k).heads := by
  rw [cache_linkTag store hc]
  split
  · exact List.prefix_append _ _
  · exact List.prefix_rfl

theorem headNames_linkTag_of_ne (hk : k ≠ c) (t : TagId) :
    (store.linkTag c t).headNames k = store.headNames k := by
  rw [headNames, cache_linkTag store hc, if_neg fun hnew => hk hnew.2]
  rfl

end Link

/-- The heads of a cache after the tags of a list were linked, none of which was linked before. -/
theorem headNames_linkMissing (ts : List TagId) {store : Store} (hc : store.caches.Holds c)
    (honce : ts.Nodup) (hheld : ∀ t ∈ ts, store.tags.Holds t)
    (hfree : ∀ t ∈ ts, (store.tag t).head = none) (k : CacheId) :
    (linkMissing c ts store).headNames k =
      if k = c then (ts.map fun t => (store.tag t).name).foldl addName (store.headNames c)
      else store.headNames k := by
  induction ts generalizing store with
  | nil =>
    rw [linkMissing, List.map_nil, List.foldl_nil]
    split
    · next hk => rw [hk]
    · rfl
  | cons t rest ih =>
    obtain ⟨hout, honce⟩ := List.nodup_cons.mp honce
    have ht := hheld t List.mem_cons_self
    have hother : ∀ u ∈ rest, (store.linkTag c t).tag u = store.tag u := by
      intro u hu
      rw [tag_linkTag store ht, if_neg (ne_of_mem_of_not_mem hu hout)]
    have hlasting := extends_linkTag store c t
    rw [linkMissing, hfree t List.mem_cons_self, if_neg (by simp),
      ih (hlasting.holds_cache hc) honce
        (fun u hu => hlasting.holds_tag (hheld u (List.mem_cons_of_mem t hu)))
        (fun u hu => by rw [hother u hu, hfree u (List.mem_cons_of_mem t hu)])]
    split
    · rw [List.map_congr_left fun u hu => by rw [hother u hu], headNames_linkTag hc]
      rfl
    · next hk => rw [headNames_linkTag_of_ne hc hk]

theorem prefix_heads_linkMissing (ts : List TagId) {store : Store} (hc : store.caches.Holds c)
    (k : CacheId) : (store.cache k).heads <+: ((linkMissing c ts store).cache k).heads := by
  induction ts generalizing store with
  | nil => exact List.prefix_rfl
  | cons t rest ih =>
    rw [linkMissing]
    split
    · exact ih hc
    · exact (prefix_heads_linkTag hc t k).trans
        (ih ((extends_linkTag store c t).holds_cache hc))

/-- What is left to do after the tags of an attached device are linked touches no head. -/
theorem heads_attach (store : Store) (c : CacheId) (d : DeviceId) (k : CacheId) :
    ((store.attach c d).cache k).heads =
      ((linkMissing c (store.device d).tags store).cache k).heads :=
  (sameLinks_attach store c d).cacheHeads k

/-- Setting a tag adds a head at most where it adds a tag. -/
theorem heads_setTag (store : Store) (d : DeviceId) (name : String) (value : Option String)
    (replace : Bool) (c : CacheId) :
    ((store.setTag d name value replace).cache c).heads =
      match Revision.of (store.pairs d) name value replace with
      | .adding text => ((store.appendTag d name text).cache c).heads
      | _ => (store.cache c).heads := by
  have hfinish : ∀ (middle : Store) (link : Option TagId),
      (((middle.linkAlias d name link).markDeviceChanged d).cache c).heads =
        (middle.cache c).heads :=
    fun middle link => (unseen_finish d name link).cacheHeads c
  obtain ⟨hkeeping, hset⟩ | ⟨revision, middle, link, hrevision, hprepares, hset⟩ :=
    store.setTag_cases d name value replace
  · rw [hkeeping, hset]
  · rw [hrevision, hset, hfinish]
    cases hprepares with
    | clearing => rw [dropNamed, cache_updateDevice, cache_unlinkTags]
    | rewriting => rfl
    | adding => rfl
    | doubling => rfl

/-- A new tag brings in the head of its name if its device is attached. -/
theorem Sound.headNames_appendTag_of_cache (hsound : store.Sound) (name text : String)
    (c : CacheId) :
    (store.appendTag d name text).headNames c =
      if (store.device d).cache = some c then addName (store.headNames c) name
      else store.headNames c := by
  split
  · next hcache => exact hsound.headNames_appendTag hcache name text
  · next hcache =>
    rw [Store.appendTag]
    cases hk : (store.device d).cache with
    | none => rfl
    | some k =>
      have hc : (store.makeTag d name text).caches.Holds k := hsound.held _ _ hk
      have hne : c ≠ k := fun heq => hcache (heq ▸ hk)
      exact headNames_linkTag_of_ne hc hne _

theorem Sound.prefix_heads_appendTag (hsound : store.Sound) (name text : String) (c : CacheId) :
    (store.cache c).heads <+: ((store.appendTag d name text).cache c).heads := by
  rw [Store.appendTag]
  cases hk : (store.device d).cache with
  | none => exact List.prefix_rfl
  | some k =>
    have hc : (store.makeTag d name text).caches.Holds k := hsound.held _ _ hk
    exact prefix_heads_linkTag hc store.tags.next c

/-- No change takes a head away. -/
theorem Change.prefix_heads (hchange : Change before after) (hsound : before.Sound) (c : CacheId) :
    (before.cache c).heads <+: (after.cache c).heads := by
  cases hchange with
  | set hd name value replace =>
    rw [heads_setTag]
    split
    · exact hsound.prefix_heads_appendTag name _ c
    · exact List.prefix_rfl
  | attach hc hd hinvites =>
    rw [heads_attach]
    exact prefix_heads_linkMissing _ hc c
  | detach hmem =>
    rw [cache_detach (holds_cache_of_mem hmem)]
    split <;> exact List.prefix_rfl
  | beside hbeside => exact hbeside.sameIndex.cacheHeads c ▸ List.prefix_rfl

/-! ## Heads and entries of the ledger -/

/-- A call that sets a tag links the tag if it makes one on an attached device. -/
theorem Sound.linked_setTag (hsound : before.Sound) (hd : before.devices.Holds d) (name : String)
    (value : Option String) (replace : Bool) (c : CacheId) :
    (⟨d, before, before.setTag d name value replace⟩ : Deed).linked c =
      match Revision.of (before.pairs d) name value replace with
      | .adding _ => if (before.device d).cache = some c then [before.tags.next] else []
      | _ => [] := by
  have hrevises := hsound.revises_setTag hd name value replace
  have hafter := hsound.setTag hd name value replace
  generalize before.setTag d name value replace = after at hrevises hafter ⊢
  generalize Revision.of (before.pairs d) name value replace = revision at hrevises ⊢
  have hmade : ∀ t ∈ (after.device d).tags,
      t ∈ (before.device d).tags ∨ (t = before.tags.next ∧ ∃ text, revision = .adding text) := by
    intro t ht
    rw [hrevises.tags] at ht
    exact Revision.mem_tags ht
  have hfresh : ∀ t ∈ (after.device d).tags, t ∉ (before.device d).tags →
      (before.tag t).device = none := by
    intro t ht hnew
    rw [((hmade t ht).resolve_left hnew).1, tag_next]
    rfl
  have hnone : (∀ text, revision ≠ .adding text) → (⟨d, before, after⟩ : Deed).linked c = [] := by
    intro hkept
    rw [linked_eq hsound hafter hfresh, hrevises.look.2.2]
    split
    · next hcache =>
      refine List.filter_eq_nil_iff.mpr fun t ht => ?_
      have hold := (hmade t ht).resolve_right fun hnew => hkept _ hnew.2.choose_spec
      simp [hold, hcache]
    · rfl
  cases revision with
  | adding text =>
    have hout : before.tags.next ∉ (before.device d).tags :=
      fun hmem => hsound.linked.mem_device_ne_next hmem rfl
    rw [linked_eq hsound hafter hfresh, hrevises.look.2.2, hrevises.tags, Revision.tags]
    dsimp only
    split
    · next hcache =>
      have hold : (before.device d).tags.filter (fun t =>
          ¬ (t ∈ (before.device d).tags ∧ (before.device d).cache = some c)) = [] :=
        List.filter_eq_nil_iff.mpr fun t ht => by simp [ht, hcache]
      rw [List.filter_append, hold, List.nil_append, List.filter_singleton]
      simp [hout]
    · rfl
  | clearing => exact hnone fun _ hadding => by cases hadding
  | keeping => exact hnone fun _ hadding => by cases hadding
  | rewriting text => exact hnone fun _ hadding => by cases hadding

theorem Sound.headNames_set (hsound : before.Sound) (hd : before.devices.Holds d) (name : String)
    (value : Option String) (replace : Bool) (c : CacheId) :
    (before.setTag d name value replace).headNames c =
      ((⟨d, before, before.setTag d name value replace⟩ : Deed).linkedNames c).foldl addName
        (before.headNames c) := by
  have hrevises := hsound.revises_setTag hd name value replace
  rw [Deed.linkedNames, hsound.linked_setTag hd, headNames, heads_setTag]
  cases hrevision : Revision.of (before.pairs d) name value replace with
  | adding text =>
    rw [hrevision] at hrevises
    have hnames := hsound.headNames_appendTag_of_cache (d := d) name text c
    dsimp only
    rw [← headNames, hnames]
    split
    · rw [List.map_singleton, hrevises.pair_of_made.1]
      rfl
    · rfl
  | clearing => rfl
  | keeping => rfl
  | rewriting text => rfl

/-- A device that is attached brings in heads for the names of its tags. -/
theorem Sound.headNames_attach (hsound : before.Sound) (hc : before.caches.Holds c)
    (hd : before.devices.Holds d) (hinvites : before.Invites c d) (k : CacheId) :
    (before.attach c d).headNames k =
      ((⟨d, before, before.attach c d⟩ : Deed).linkedNames k).foldl addName
        (before.headNames k) := by
  have hafter := hsound.attach hc hd hinvites
  have hdevice := device_attach (c := c) hd d
  rw [if_pos rfl] at hdevice
  have htags : ((before.attach c d).device d).tags = (before.device d).tags := by rw [hdevice]
  have hlinked := linked_eq hsound hafter
    (fun t ht hnew => absurd (htags ▸ ht) hnew) k
  have hnames : ∀ t ∈ (before.device d).tags,
      ((before.attach c d).tag t).name = (before.tag t).name := fun t ht =>
    (sameAliases_attach c d).tagName t (holds_tag_of_device ((hsound.linked.listed d t).mp ht))
  rw [headNames, heads_attach, ← headNames, Deed.linkedNames, hlinked, htags, hdevice]
  rcases hinvites.free_or_pointed with hfree | hpointed
  · rw [headNames_linkMissing _ hc (hsound.linked.listedInOrder d).nodup
      (fun t ht => holds_tag_of_device ((hsound.linked.listed d t).mp ht))
      (hsound.linked.invite hfree c).waitingFree]
    by_cases hk : k = c
    · have hall : (before.device d).tags.filter (fun t =>
          ¬ (t ∈ (before.device d).tags ∧ (before.device d).cache = some k)) =
            (before.device d).tags :=
        List.filter_eq_self.mpr fun t _ => by simp [hfree]
      subst hk
      rw [if_pos rfl, if_pos rfl, hall, List.map_congr_left hnames]
    · rw [if_neg hk, if_neg fun heq => hk (Option.some.inj heq).symm]
      rfl
  · -- The tags of a device that points to the cache are in its heads already.
    rw [linkMissing_eq_self (hsound.isSome_head_of_cache hpointed)]
    split
    · next hk =>
      have hnone : (before.device d).tags.filter (fun t =>
          ¬ (t ∈ (before.device d).tags ∧ (before.device d).cache = some k)) = [] :=
        List.filter_eq_nil_iff.mpr fun t ht => by simp [ht, hpointed, Option.some.inj hk]
      rw [hnone]
      rfl
    · rfl

end Store

/-! ## Heads along a run -/

/-- The names of the tags that calls linked into a cache, call after call. -/
def linkedNames (deeds : List Deed) (c : CacheId) : List String :=
  deeds.flatMap (·.linkedNames c)

/-- Every cache has a head for each name that calls linked into it, in the order of the first links. -/
def HeadsFollow (store : Store) (deeds : List Deed) : Prop :=
  ∀ c, store.headNames c = (linkedNames deeds c).eraseDups

section Run

variable {before after : Store} {deeds : List Deed} {memory : Memory}

theorem HeadsFollow.entered (hfollow : HeadsFollow before deeds) {deed : Deed}
    (hdeed : ∀ c, after.headNames c = (deed.linkedNames c).foldl addName (before.headNames c)) :
    HeadsFollow after (deeds ++ [deed]) := by
  intro c
  rw [hdeed, hfollow c, ← eraseDups_append_eq_foldl]
  simp [linkedNames]

theorem HeadsFollow.of_same (hfollow : HeadsFollow before deeds)
    (hsame : ∀ c, (after.cache c).heads = (before.cache c).heads) : HeadsFollow after deeds := by
  intro c
  rw [Store.headNames, hsame]
  exact hfollow c

/-- A call that changes nothing links nothing. -/
theorem Deed.linkedNames_same (d : DeviceId) (store : Store) (c : CacheId) :
    (⟨d, store, store⟩ : Deed).linkedNames c = [] := by
  have hnone : (⟨d, store, store⟩ : Deed).linked c = [] :=
    List.filter_eq_nil_iff.mpr fun t _ => by simp
  rw [Deed.linkedNames, hnone, List.map_nil]

/-- One step of a run: heads go on following the ledger. -/
theorem HeadsFollow.books {earlier : List Deed} {replacing : Bool} {now next : Store × List Deed}
    (hbooks : Store.Books replacing now next) (hsound : now.1.Sound)
    (hfollow : HeadsFollow now.1 (earlier ++ now.2)) : HeadsFollow next.1 (earlier ++ next.2) := by
  cases hbooks with
  | set hd name value replace =>
    rw [← List.append_assoc]
    exact hfollow.entered fun c => hsound.headNames_set hd name value replace c
  | attach hc hd hinvites =>
    rw [← List.append_assoc]
    exact hfollow.entered fun k => hsound.headNames_attach hc hd hinvites k
  | again =>
    rw [← List.append_assoc]
    exact hfollow.entered fun c => by rw [Deed.linkedNames_same, List.foldl_nil]
  | detach hmem =>
    refine hfollow.of_same fun k => ?_
    rw [Store.cache_detach (Store.holds_cache_of_mem hmem)]
    split <;> rfl
  | beside hbeside => exact hfollow.of_same hbeside.sameIndex.cacheHeads

theorem Turn.heads_clearChanged {turn : Turn} {c : CacheId}
    (hclear : turn.action = .clearChanged c) (k : CacheId) :
    ((turn.after memory).store.cache k).heads = (memory.store.cache k).heads := by
  rw [Turn.after_clearChanged hclear]
  exact (Store.sameIndex_clearChanged c).cacheHeads k

theorem Ledgered.headsFollow (hledgered : Ledgered memory deeds) :
    HeadsFollow memory.store deeds := by
  induction hledgered with
  | start => exact fun _ => rfl
  | @step memory deeds turn hrun hadmissible hunbroken ih =>
    by_cases hclear : ∃ c, turn.action = .clearChanged c
    · obtain ⟨c, hclear⟩ := hclear
      have hnone : turn.deeds memory = [] := by
        unfold Turn.deeds
        rw [hclear]
        rfl
      rw [hnone, List.append_nil]
      exact ih.of_same (Turn.heads_clearChanged hclear)
    · rw [not_exists] at hclear
      have hreachable := hrun.reachable
      let follows (state : Store × List Deed) : Prop := HeadsFollow state.1 (deeds ++ state.2)
      have hstart : follows (memory.store, []) := by rwa [← List.append_nil deeds] at ih
      have hend : follows ((turn.after memory).store, turn.deeds memory) :=
        Store.Sound.booked_keeps hreachable.sound
          (Turn.booked hclear hreachable.sound hreachable.packaged hadmissible hunbroken) hstart
          fun hsound hbooks hfollow => HeadsFollow.books hbooks hsound hfollow
      exact hend

/-- No turn takes a head away. -/
theorem Turn.prefix_heads {turn : Turn} (hreachable : Reachable memory)
    (hadmissible : turn.action.Admissible memory.store) (c : CacheId) :
    (memory.store.cache c).heads <+: ((turn.after memory).store.cache c).heads := by
  by_cases hclear : ∃ k, turn.action = .clearChanged k
  · obtain ⟨k, hclear⟩ := hclear
    exact Turn.heads_clearChanged hclear c ▸ List.prefix_rfl
  · rw [not_exists] at hclear
    let grown (after : Store) : Prop := (memory.store.cache c).heads <+: (after.cache c).heads
    have hgrown : ∀ {after : Store}, memory.store.Changes after → grown after := fun hchanges =>
      hreachable.sound.changes_keep hchanges List.prefix_rfl
        fun hsound hchange hgrown => List.IsPrefix.trans hgrown (hchange.prefix_heads hsound c)
    obtain hchanges | ⟨store, hchanges, k, d, hk, -, -, hafter⟩ :=
      Turn.changes_or_breaks hclear hreachable.sound hreachable.packaged hadmissible
    · exact hgrown hchanges
    · rw [hafter]
      exact (hgrown hchanges).trans (Store.prefix_heads_linkMissing _ hk c)

/-- The operation is a single call that sets a tag or adds a device. -/
def Action.IsLinking : Action → Prop
  | .setTag .. | .addDevice .. => True
  | _ => False

/-- A call that fails leaves every cache as it was, or it is an attachment that breaks off and leaves
the heads that it would have made. -/
theorem Turn.caches_of_failed {turn : Turn} (hreachable : Reachable memory)
    (hadmissible : turn.action.Admissible memory.store) (hlinking : turn.action.IsLinking)
    (hfailed : ((turn.action.perform turn.host).failure? (turn.start memory)).isSome) :
    (∀ c, (turn.after memory).store.cache c = memory.store.cache c) ∨
      (¬ turn.Unbroken memory ∧ ∃ k d, turn.action = .addDevice k (some d) ∧
        ∀ c, ((turn.after memory).store.cache c).heads =
          ((memory.store.attach k d).cache c).heads) := by
  obtain ⟨failure, hfailure⟩ := Option.isSome_iff_exists.mp hfailed
  obtain ⟨after, hrun⟩ := Op.exists_error hfailure
  have hafter : turn.after memory = after := by
    rw [Turn.after, Op.after, hrun]
  have hstart : (turn.start memory).store.Sound := hreachable.sound
  rw [hafter]
  cases haction : turn.action with
  | setTag d name value replace =>
    rw [haction] at hrun hadmissible
    have hdoes := does_set (fun e he => hstart.taggable (hadmissible e he)) name value replace
    exact .inl (hdoes.of_error hrun).1.cache
  | addDevice k d =>
    rw [haction] at hrun hadmissible
    obtain ⟨hrestored, -⟩ | hbreaks :=
      (does_add hstart hadmissible.1 hadmissible.2).of_error hrun
    · exact .inl hrestored.cache
    · obtain ⟨e, rfl, -, hstore⟩ := hbreaks.connected
      refine .inr ⟨fun hunbroken => hunbroken ?_, k, e, rfl, fun c => ?_⟩
      · rw [hfailure, Option.map_some, hbreaks.kind]
      · rw [hstore, Store.heads_attach]
        rfl
  | _ =>
    rw [haction] at hlinking
    exact hlinking.elim

end Run

/-- As long as no registration breaks off, the heads of a cache are for the names of the tags that
calls linked into it, each once and in the order of the first links. In every state that a run leads
to, no name has two heads, and no turn takes a head away. One that fails to set a tag or to add a
device leaves none, unless it is an attachment that breaks off: then all the heads stay that it
would have made. -/
theorem heads_accumulate {memory : Memory} (hreachable : Reachable memory) :
    (Orderly memory → ∃ deeds, Ledgered memory deeds) ∧
    (∀ deeds, Ledgered memory deeds → ∀ c,
      memory.store.headNames c = (linkedNames deeds c).eraseDups) ∧
    (∀ c, (memory.store.headNames c).Nodup) ∧
    ∀ turn : Turn, turn.action.Admissible memory.store →
      (∀ c, (memory.store.cache c).heads <+: ((turn.after memory).store.cache c).heads) ∧
      (turn.action.IsLinking →
        ((turn.action.perform turn.host).failure? (turn.start memory)).isSome →
        (∀ c, ((turn.after memory).store.cache c).heads = (memory.store.cache c).heads) ∨
        (¬ turn.Unbroken memory ∧ ∃ k d, turn.action = .addDevice k (some d) ∧
          ∀ c, ((turn.after memory).store.cache c).heads =
            ((memory.store.attach k d).cache c).heads)) := by
  refine ⟨Orderly.exists_ledgered, fun deeds hledgered => hledgered.headsFollow,
    hreachable.sound.linked.namesOnce, fun turn hadmissible => ⟨?_, ?_⟩⟩
  · exact Turn.prefix_heads hreachable hadmissible
  · intro hlinking hfailed
    refine (Turn.caches_of_failed hreachable hadmissible hlinking hfailed).imp_left
      fun hcaches c => ?_
    rw [hcaches]

/-- A device gets a label and loses it again. A UUID does not get in for lack of memory in its new
head, a type does, and at last the device is removed. -/
def Turn.labelled : List Turn :=
  [⟨.bare, .unlimited, .newCache none none⟩,
    ⟨.bare, .unlimited, .obtainDevice ⟨0⟩ (some "/dev/sda1")⟩,
    ⟨.bare, .unlimited, .setTag (some ⟨0⟩) (.string "LABEL") (.string "data") true⟩,
    ⟨.bare, .unlimited, .setTag (some ⟨0⟩) (.string "LABEL") .none true⟩,
    ⟨.bare, fun request => if request = .headSlot ⟨1⟩ then some 0 else none,
      .setTag (some ⟨0⟩) (.string "UUID") (.string "1234") true⟩,
    ⟨.bare, .unlimited, .setTag (some ⟨0⟩) (.string "TYPE") (.string "ext4") true⟩,
    ⟨.bare, .unlimited, .removeDevice ⟨0⟩ (some ⟨0⟩)⟩]

/-- Nothing of the device is left in the index but the heads of what went through. -/
theorem labelled_heads :
    ((Turn.ledgerAll Turn.labelled ({}, [])).1.store.cache ⟨0⟩).devices = [] ∧
      linkedNames (Turn.ledgerAll Turn.labelled ({}, [])).2 ⟨0⟩ = ["LABEL", "TYPE"] ∧
      (Turn.ledgerAll Turn.labelled ({}, [])).1.store.headNames ⟨0⟩ = ["LABEL", "TYPE"] := by
  have hadmissible : Turn.AllAdmissible Turn.labelled {} := by
    have hdevice : ∀ {store : Store}, store.devices.Holds ⟨0⟩ →
        ∀ e ∈ some (⟨0⟩ : DeviceId), store.devices.Holds e := by
      rintro store hheld e ⟨⟩
      exact hheld
    refine ⟨⟨nofun, nofun⟩, ?_, hdevice ?_, hdevice ?_, hdevice ?_, hdevice ?_, ⟨?_, hdevice ?_⟩,
      trivial⟩
    all_goals
      change Table.Holds _ _
      decide +kernel
  have hledgered := Ledgered.start.ledgerAll Turn.labelled hadmissible (by decide +kernel)
  have hlinked : linkedNames (Turn.ledgerAll Turn.labelled ({}, [])).2 ⟨0⟩ = ["LABEL", "TYPE"] := by
    decide +kernel
  obtain ⟨-, hheads, -⟩ := heads_accumulate hledgered.reachable
  refine ⟨by decide +kernel, hlinked, ?_⟩
  rw [hheads _ hledgered, hlinked]
  decide +kernel

/-- The attachment that finds no memory for its place in the cache fails, and the head that it made
for the label stays. -/
theorem unlisted_head :
    Reachable labelledOutside ∧
      (Action.addDevice ⟨0⟩ (some ⟨0⟩)).Admissible labelledOutside.store ∧
      ((Attachment.add ⟨0⟩ (some ⟨0⟩)).failure?
        { labelledOutside with supply := .withoutCacheSlot }).isSome ∧
      labelledOutside.store.headNames ⟨0⟩ = [] ∧ unlisted.store.headNames ⟨0⟩ = ["LABEL"] :=
  ⟨reachable_labelledOutside, admissible_labelledOutside, by decide +kernel, by decide +kernel,
    by decide +kernel⟩

end DeviceTags
