import DeviceTags.Proofs.Store.Effect

/-!
# The ways to set a tag

The pairs of a device decide what setting a tag of it comes to: nothing changes, the tags of the name
go, the first of them gets another value, or a tag is added. Whatever changes, the access of the name
is set afterwards and the cache of the device is marked. What follows from that for a property of
stores is shown for each of the ways once, and for what comes afterwards once.
-/

namespace DeviceTags

/-- What setting a tag does to the tags of the device. -/
inductive Revision where
  | clearing
  | keeping
  | rewriting (text : String)
  | adding (text : String)
  deriving DecidableEq, Repr

/-- No value clears the name. The value that the first entry of the name has is kept; another one
takes its place if that is asked for, and is added otherwise. -/
def Revision.of (pairs : List (String × String)) (name : String) (value : Option String)
    (replace : Bool) : Revision :=
  match value with
  | none => clearing
  | some text =>
    match pairs.lookup name with
    | none => adding text
    | some old =>
      if old = text then keeping else if replace then rewriting text else adding text

namespace Store

/-- The first tag of a name is the first pair of the name. -/
theorem lookup_pairs (store : Store) (d : DeviceId) (name : String) :
    (store.pairs d).lookup name = (store.firstTag? d name).map fun t => (store.tag t).value := by
  rw [Store.pairs, Store.firstTag?]
  induction (store.device d).tags with
  | nil => rfl
  | cons t rest ih =>
    rw [List.map_cons, List.lookup_cons, List.find?_cons, ih]
    by_cases hname : (store.tag t).name = name
    · simp [hname]
    · simp [hname, beq_false_of_ne (Ne.symm hname)]

/-- What a revision does before the access of the name is set, and the tag that the access is set
to. A tag that is added beside another one of the name marks the device. -/
inductive Prepares (store : Store) (d : DeviceId) (name : String) :
    Revision → Store → Option TagId → Prop where
  | clearing : Prepares store d name .clearing
      ((store.unlinkTags (store.tagsNamed d name)).dropNamed d name) none
  | rewriting {first : TagId} {text : String} (hfirst : store.firstTag? d name = some first)
      (hvalue : (store.tag first).value ≠ text) :
      Prepares store d name (.rewriting text) (store.setTagValue first text) (some first)
  | adding {text : String} (hfirst : store.firstTag? d name = none) :
      Prepares store d name (.adding text) (store.appendTag d name text) (some store.tags.next)
  | doubling {first : TagId} {text : String} (hfirst : store.firstTag? d name = some first)
      (hvalue : (store.tag first).value ≠ text) :
      Prepares store d name (.adding text) ((store.appendTag d name text).markMultiple d)
        (some store.tags.next)

/-- Setting a tag changes nothing, or it is prepared, the access is set and the cache is marked. -/
theorem setTag_cases (store : Store) (d : DeviceId) (name : String) (value : Option String)
    (replace : Bool) :
    (Revision.of (store.pairs d) name value replace = .keeping ∧
      store.setTag d name value replace = store) ∨
    ∃ revision middle link, Revision.of (store.pairs d) name value replace = revision ∧
      store.Prepares d name revision middle link ∧
      store.setTag d name value replace =
        (middle.linkAlias d name link).markDeviceChanged d := by
  unfold setTag
  cases value with
  | none => exact .inr ⟨_, _, _, rfl, .clearing, rfl⟩
  | some text =>
    unfold assignTag Revision.of
    rw [lookup_pairs]
    cases hfirst : store.firstTag? d name with
    | none => exact .inr ⟨_, _, _, rfl, .adding hfirst, rfl⟩
    | some first =>
      dsimp only [Option.map_some]
      split
      · exact .inl ⟨rfl, rfl⟩
      · next hvalue =>
        split
        · exact .inr ⟨_, _, _, rfl, .rewriting hfirst hvalue, rfl⟩
        · exact .inr ⟨_, _, _, rfl, .doubling hfirst hvalue, rfl⟩

end Store

end DeviceTags
