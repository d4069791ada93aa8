import DeviceTags.Proofs.Lookup.Vanished
import DeviceTags.Proofs.ProbeOnce
import DeviceTags.Proofs.Token

/-!
# Spellings of a lookup

The name of a device can be asked for with a name and a value, or with a token that spells both. All
spellings of a pair have the same aim, and before they go there they differ in one record of the log.
Nothing that a lookup does reads the log, so that from there on they go the same way. A token without
an equals sign has no aim but itself.
-/

namespace DeviceTags

open Store

variable {α : Type} {host : Host} {c : CacheId}

/-! ## States that differ in the log -/

theorem EndAlike.meet {σ τ υ : Type} {related : σ → τ → Prop} {related' : υ → τ → Prop}
    {both : σ → υ → Prop} {first : EStateM.Result Failure σ α} {second : EStateM.Result Failure υ α}
    {third : EStateM.Result Failure τ α} (hfirst : EndAlike related first third)
    (hsecond : EndAlike related' second third)
    (himp : ∀ s t u, related s u → related' t u → both s t) : EndAlike both first second := by
  unfold EndAlike at *
  split at hfirst
  · split at hsecond
    · next hthird =>
      cases hthird
      exact ⟨hfirst.1.trans hsecond.1.symm, himp _ _ _ hfirst.2 hsecond.2⟩
    · next hthird => cases hthird
    · exact hsecond.elim
  · split at hsecond
    · next hthird => cases hthird
    · next hthird =>
      cases hthird
      exact ⟨hfirst.1.trans hsecond.1.symm, himp _ _ _ hfirst.2 hsecond.2⟩
    · exact hsecond.elim
  · exact hfirst.elim

theorem Table.update_restored {kind : RecordKind} [Inhabited α] (table : Table kind α) (id : Id kind)
    {change back : α → α} (hback : back (change (table.get id)) = table.get id) :
    (table.update id change).update id back = table := by
  have hrows : (table.rows.modify id.index change).modify id.index back = table.rows := by
    ext i hi hi'
    · simp
    · by_cases hid : id.index = i
      · subst hid
        simpa [Array.getElem_modify, Table.get, hi'] using hback
      · simp [Array.getElem_modify, hid]
  exact congrArg Table.mk hrows

/-- A prober that is taken away and put back. -/
theorem withProber_restored (store : Store) (c : CacheId) :
    (store.withProber c none).withProber c (store.cache c).prober = store := by
  have hcaches : (store.caches.update c ({ · with prober := none })).update c
      ({ · with prober := (store.cache c).prober }) = store.caches :=
    Table.update_restored store.caches c rfl
  exact congrArg (fun caches => { store with caches }) hcaches

/-- The state without the prober of a cache. -/
def Memory.unguided (memory : Memory) (c : CacheId) : Memory :=
  { memory with store := memory.store.withProber c none }

theorem Memory.alike_unguided {first second : Memory} (hheld : first.store.caches.Holds c)
    (hsame : SameButLog first second) :
    Memory.Alike c (first.store.cache c).prober (first.store.cache c).verifier False second
      (first.unguided c) where
  store := hsame.store.trans (withProber_restored first.store c).symm
  supply := hsame.supply
  unguided := by rw [unguided, withProber, cache_updateCache_self _ hheld]
  verifier := by rw [unguided, withProber, cache_updateCache_self _ hheld]
  probed := False.elim
  held := (Table.holds_update _ _ _ _).mpr hheld

/-- Two conversations have come equally far: to states that differ in nothing but the log, by the
same calls. -/
structure Abreast (c : CacheId) (first second : Memory × List Call) : Prop where
  same : SameButLog first.1 second.1
  calls : second.2 = first.2
  held : first.1.store.caches.Holds c

/-- An operation that does not ask for the prober of the cache ends with both as it ends without the
prober. -/
theorem abreast_ofOp {operation : Op α}
    (hrespects : ∀ prober verifier known,
      Respects (Memory.Alike c prober verifier known) operation) :
    Respects (Abreast c) (Dialogue.ofOp operation) := by
  intro first second habreast
  -- The logs of alike states may differ, so that both are alike to the first one without its prober.
  have hfirst := hrespects _ _ _ _ _ (Memory.alike_unguided habreast.held (.refl first.1))
  have hsecond := hrespects _ _ _ _ _ (Memory.alike_unguided habreast.held habreast.same)
  have hends : EndAlike (fun s t => SameButLog s t ∧ s.store.caches.Holds c) (operation first.1)
      (operation second.1) := by
    refine hfirst.meet hsecond fun s t u hs ht => ⟨⟨?_, ?_⟩, ?_⟩
    · rw [hs.store, ht.store]
    · rw [hs.supply, ht.supply]
    · rw [hs.store]
      exact (Table.holds_update _ _ _ _).mpr hs.held
  unfold EndAlike at hends
  unfold Dialogue.ofOp
  split at hends
  · next hran hran' =>
    rw [hran, hran']
    exact ⟨hends.1, hends.2.1, habreast.calls, hends.2.2⟩
  · next hran hran' =>
    rw [hran, hran']
    exact ⟨hends.1, hends.2.1, habreast.calls, hends.2.2⟩
  · exact hends.elim

theorem abreast_record (call : Call) : Respects (Abreast c) (Dialogue.record call) :=
  fun _ _ habreast => ⟨rfl, habreast.same, congrArg (call :: ·) habreast.calls, habreast.held⟩

theorem abreast_cache (k : CacheId) : Respects (Abreast c) (Dialogue.ofOp (Op.cache k)) :=
  fun _ _ habreast => ⟨congrArg (·.cache k) habreast.same.store.symm, habreast⟩

theorem EndAlike.ending {related : Memory × List Call → Memory × List Call → Prop}
    {dialogue other : Dialogue α} {s t : Memory × List Call}
    (hends : EndAlike related (dialogue s) (other t)) :
    related (dialogue.ending s) (other.ending t) := by
  unfold EndAlike at hends
  unfold Dialogue.ending
  split at hends
  · next hs ht =>
    rw [hs, ht]
    exact hends.2
  · next hs ht =>
    rw [hs, ht]
    exact hends.2
  · exact hends.elim

/-! ## Lookups in such states -/

namespace Lookup

theorem abreast_probe (host : Host) {prober : Prober} (hpackaged : prober.IsPackaged) :
    Respects (Abreast c) (Dialogue.ofOp (prober.probe host c)) := by
  cases prober with
  | nothing => exact abreast_ofOp fun _ _ _ => respects_edit (blind_markProbed c)
  | inventory inventory => exact abreast_ofOp fun _ _ _ => respects_inventory inventory c
  | custom number => exact hpackaged.elim

theorem abreast_attempt (host : Host) {verifier : Verifier} (hpackaged : verifier.IsPackaged)
    (name value : String) : Respects (Abreast c) (attempt host c name value verifier) := by
  refine respects_attempt_of abreast_ofOp abreast_record (fun number hcustom => ?_) name value
  rw [hcustom] at hpackaged
  exact hpackaged

theorem abreast_search (host : Host) {prober : Option Prober} {verifier : Verifier}
    (hprober : ∀ p ∈ prober, p.IsPackaged) (hverifier : verifier.IsPackaged)
    (name value : String) (allowed : Nat) :
    Respects (Abreast c) (search host c name value prober verifier allowed) := by
  induction allowed with
  | zero => exact .pure none
  | succ further ih =>
    unfold search
    refine (abreast_attempt host hverifier name value).bind fun found => ?_
    cases found with
    | some d => exact .pure _
    | none =>
      cases prober with
      | none => exact .pure none
      | some p =>
        refine (abreast_cache c).bind fun cache => ?_
        split
        · exact .pure none
        · refine (abreast_ofOp fun _ _ _ => respects_log _ _ _).bind fun _ => ?_
          refine (abreast_record _).bind fun _ => ?_
          refine (abreast_probe host (hprober p rfl)).bind fun _ => ?_
          exact (abreast_record _).bind fun _ => ih

/-- A quest with packaged collaborators ends alike in states that differ in the log. -/
theorem abreast_dialogue (host : Host) {quest : Quest} {first second : Memory × List Call}
    (hfits : quest.Fits first.1.store) (habreast : Abreast quest.cache first second) :
    EndAlike (Abreast quest.cache) (quest.dialogue host first) (quest.dialogue host second) := by
  have hrest : Respects (Abreast quest.cache) (do
      Dialogue.ofOp quest.announce
      search host quest.cache quest.name quest.value (quest.proberIn first.1.store)
        (quest.verifierIn first.1.store) maxAttempts) :=
    (abreast_ofOp fun _ _ _ => respects_log _ _ _).bind fun _ =>
      abreast_search host hfits.prober hfits.verifier _ _ _
  have hsecond : quest.dialogue host second = (do
      Dialogue.ofOp quest.announce
      search host quest.cache quest.name quest.value (quest.proberIn first.1.store)
        (quest.verifierIn first.1.store) maxAttempts : Dialogue (Option DeviceId)) second := by
    rw [← habreast.same.store]
    rfl
  rw [hsecond]
  exact hrest first second habreast

/-! ## Questions -/

/-- A question for the name of a device: a token, with a value or without one. -/
structure Question where
  token : String
  value : Option String := none

namespace Question

def action (c : CacheId) (question : Question) : Action :=
  .deviceName (some c) (some question.token) question.value

def answer (host : Host) (c : CacheId) (question : Question) : Op (Option String) :=
  deviceName host (some c) (some question.token) question.value

/-- The calls of the collaborators that an answer takes, newest first. -/
def calls (host : Host) (c : CacheId) (question : Question) (start : Memory) : List Call :=
  (((question.action c).converse host).ending (start, [])).2

/-- Two questions come to the same: to the same name or the same failure, in states that differ in
nothing but the log, by the same calls of the collaborators. -/
structure Agrees (host : Host) (c : CacheId) (start : Memory) (question other : Question) :
    Prop where
  ends : EndAlike SameButLog (question.answer host c start) (other.answer host c start)
  calls : other.calls host c start = question.calls host c start

/-- Where a question leads. -/
def aim (question : Question) : Except Failure (String ⊕ String × String) :=
  (Inquiry.deviceName (some question.token) question.value).aim

variable {question other : Question} {name value token : String} {start : Memory}

theorem quest_of_aim (haim : question.aim = .ok (.inr (name, value))) (c : CacheId) :
    (question.action c).quest? = some { cache := c, name, value } := by
  unfold aim at haim
  rw [action, Action.quest?, haim]

/-- A question for a pair leaves at most a record and goes on a quest for the pair. -/
theorem exists_noted (haim : question.aim = .ok (.inr (name, value))) (host : Host) (c : CacheId)
    (start : Memory) : ∃ noted, SameButLog start noted ∧
      question.answer host c start =
        (do Dialogue.ofOp (foundName (← Quest.dialogue host { cache := c, name, value }))
          : Dialogue (Option String)).toOp noted ∧
      question.calls host c start =
        ((Quest.dialogue host { cache := c, name, value }).ending (noted, [])).2 := by
  have hquest := quest_of_aim haim c
  obtain ⟨noted, hsame, hnote⟩ := (question.action c).exists_note start
  refine ⟨noted, hsame, ?_, ?_⟩
  · rw [answer, Action.perform_deviceName hquest, Dialogue.toOp_bind_ofOp]
    exact Op.bind_of_ok hnote _
  · rw [calls, Action.ending_converse hquest hnote]

/-- Questions for the same pair come to the same. -/
theorem agrees_of_aim (start : Memory) (hpackaged : start.store.Packaged)
    (hheld : start.store.caches.Holds c) (host : Host)
    (haim : question.aim = .ok (.inr (name, value)))
    (hother : other.aim = .ok (.inr (name, value))) : question.Agrees host c start other := by
  obtain ⟨noted, hsame, hanswer, hcalls⟩ := exists_noted haim host c start
  obtain ⟨noted', hsame', hanswer', hcalls'⟩ := exists_noted hother host c start
  have hadmissible : (question.action c).Admissible start.store := by
    intro k hk
    cases hk
    exact hheld
  have hfits : Quest.Fits { cache := c, name, value } noted.store := by
    rw [hsame.store]
    exact Action.fits_quest (quest_of_aim haim c) hadmissible hpackaged
  have habreast : Abreast c (noted, []) (noted', []) :=
    ⟨⟨hsame'.store.trans hsame.store.symm, hsame'.supply.trans hsame.supply.symm⟩, rfl,
      hfits.held⟩
  have hdialogue := @abreast_dialogue host { cache := c, name, value } _ _ hfits habreast
  constructor
  case ends =>
    rw [hanswer, hanswer']
    have hnamed := hdialogue.bind
      (fun found => abreast_ofOp fun _ _ _ => respects_foundName found) fun _ _ hfailed => hfailed
    exact (hnamed.mono fun _ _ hended => hended.same).toOp
  case calls =>
    rw [hcalls, hcalls']
    exact hdialogue.ending.calls

theorem aim_pair (hname : name ≠ "") (value : String) :
    ({ token := name, value := some value } : Question).aim = .ok (.inr (name, value)) :=
  if_neg hname

/-- A token that reads as a pair has the aim of the pair. -/
theorem aim_reads (hname : name ≠ "") (hreads : Token.Reads token name value) :
    ({ token } : Question).aim = .ok (.inr (name, value)) := by
  obtain ⟨after, htoken, -, -⟩ := Token.reads_iff.mp hreads
  have hequals : '=' ∈ token.toList := by simp [htoken]
  have hsome : token ≠ "" := by
    rintro rfl
    cases hequals
  have hpair : Inquiry.pairFor (some name) (some value) = .ok (name, value) := if_neg hname
  rw [aim, Inquiry.aim, if_neg hsome, Inquiry.aimOf, if_pos (by simpa using hequals),
    Token.parse_eq_ok_iff.mpr hreads]
  simp only [Except.bind, hpair]
  rfl

/-- A token without an equals sign stands for itself, and nothing happens. -/
theorem answer_plain (host : Host) (c : CacheId) (htoken : token ≠ "")
    (hplain : '=' ∉ token.toList) (start : Memory) :
    ({ token } : Question).answer host c start = .ok (some token) start ∧
      ((({ token } : Question).action c).converse host).ending (start, []) = (start, []) := by
  have haim : ({ token } : Question).aim = .ok (.inl token) := by
    rw [aim, Inquiry.aim, if_neg htoken, Inquiry.aimOf, if_neg (by simpa using hplain)]
  have hanswer : ({ token } : Question).answer host c start = .ok (some token) start := by
    rw [answer, deviceName_token htoken, if_neg (by simpa using hplain)]
    rfl
  have hquest : (({ token } : Question).action c).quest? = none := by
    unfold aim at haim
    rw [action, Action.quest?, haim]
  refine ⟨hanswer, ?_⟩
  have hperform : (({ token } : Question).action c).perform host start = .ok () start :=
    Op.bind_of_ok hanswer _
  unfold Action.converse Dialogue.ending
  rw [hquest]
  dsimp only
  rw [Dialogue.ofOp, hperform]

end Question

/-- All spellings of a lookup for a pair come to the same, from every state that a run leads to: the
name with the value, and every token that reads as both, such as the value in quotes of either sort
or a bare value that starts with no quote. A token without an equals sign gives itself back, with no
call of a collaborator and without a change. -/
theorem spellings_agree {memory : Memory} (hreachable : Reachable memory) {c : CacheId}
    (hheld : memory.store.caches.Holds c) (host : Host) (supply : Supply) :
    (∀ name value, name ≠ "" → '=' ∉ name.toList →
      (∀ token, Token.Reads token name value →
        Question.Agrees host c { memory with supply } { token := name, value := some value }
          { token }) ∧
      Token.Reads (name ++ "=\"" ++ value ++ "\"") name value ∧
      Token.Reads (name ++ "='" ++ value ++ "'") name value ∧
      ((∀ q, Token.Quote q → value.toList.head? ≠ some q) →
        Token.Reads (name ++ "=" ++ value) name value)) ∧
    ∀ token, token ≠ "" → '=' ∉ token.toList →
      ({ token } : Question).answer host c { memory with supply } =
          .ok (some token) { memory with supply } ∧
        ({ token } : Question).calls host c { memory with supply } = [] := by
  have hquoted : ∀ q, Token.Quote q → ∀ name value, '=' ∉ name.toList →
      Token.Reads (name ++ ("=" ++ String.singleton q) ++ value ++ String.singleton q) name
        value := by
    intro q hq name value hname
    have hreads := Token.reads_inQuotes hname hq value
    simpa only [Token.inQuotes, String.append_assoc] using hreads
  refine ⟨fun name value hname hplain => ⟨fun token hreads => ?_, ?_, ?_, ?_⟩,
    fun token htoken hplain => ?_⟩
  · exact Question.agrees_of_aim { memory with supply } hreachable.packaged hheld host
      (Question.aim_pair hname value) (Question.aim_reads hname hreads)
  · exact hquoted '"' (.inl rfl) name value hplain
  · exact hquoted '\'' (.inr rfl) name value hplain
  · exact fun hbare => ⟨hplain, .inl ⟨rfl, hbare⟩⟩
  · obtain ⟨hanswer, hending⟩ := Question.answer_plain host c htoken hplain { memory with supply }
    exact ⟨hanswer, congrArg Prod.snd hending⟩

/-- Opens a cache that is still to be filled with two disks of the same label. -/
def opening : Action :=
  .newCache
    (some (.inventory { devices :=
      [{ name := "/dev/sda1", tags := [("LABEL", .string "my \"disk\"")] },
        { name := "/dev/sdb1", priority := some (.integer 5),
          tags := [("LABEL", .string "my \"disk\"")] }] }))
    (some (.paths none))

def unfilled : Memory := (opening.perform firstDiskOnly).after {}

/-- The label of the disks, given as a value and in quotes. -/
def labelAsked : Question := { token := "LABEL", value := some "my \"disk\"" }

def labelSpelled : Question := { token := "LABEL=\"my \"disk\"\"" }

/-- Asked in either way, the lookup fills the cache and drops the better disk, which is gone. -/
theorem quoted_label_drops_disk :
    labelAsked.Agrees firstDiskOnly ⟨0⟩ { unfilled with supply := .unlimited } labelSpelled ∧
      labelSpelled.calls firstDiskOnly ⟨0⟩ { unfilled with supply := .unlimited } =
        [.answer none, .asking (some ⟨1⟩), .probed, .probing] ∧
      (((labelSpelled.answer firstDiskOnly ⟨0⟩).after
        { unfilled with supply := .unlimited }).store.cache ⟨0⟩).devices = [⟨0⟩] := by
  have hadmissible : opening.Admissible ({} : Memory).store := by
    constructor
    all_goals
      intro collaborator hgiven
      cases hgiven
      trivial
  have hreachable : Reachable unfilled :=
    ⟨_, Run.start.step firstDiskOnly .unlimited opening hadmissible⟩
  have hheld : unfilled.store.caches.Holds ⟨0⟩ := by decide +kernel
  obtain ⟨hspellings, -⟩ := spellings_agree hreachable hheld firstDiskOnly .unlimited
  obtain ⟨hagrees, hdouble, -⟩ := hspellings "LABEL" "my \"disk\"" (by decide) (by decide)
  have hagree := hagrees _ hdouble
  refine ⟨hagree, hagree.calls.trans ?_, ?_⟩
  · decide +kernel
  · decide +kernel

end Lookup

end DeviceTags
