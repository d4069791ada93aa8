import DeviceTags.Inventory
import DeviceTags.Proofs.Merging

/-!
# What an inventory declares

Declared devices may share a name; together they declare one device. Of its tags the value that is
declared last counts, and its priority is that of the last declaration. The declarations are looked
at in three ways: the devices with their priorities, the values of one tag name on all devices, and
the tag names. All of them list what is declared first at the front.
-/

namespace DeviceTags

/-- A declaration that can be brought in: nothing in it is without a name, and its values are texts. -/
structure DeviceSpec.Valid (spec : DeviceSpec) : Prop where
  named : spec.name ≠ ""
  tagsNamed : ∀ tag ∈ spec.tags, tag.1 ≠ ""
  texts : ∀ tag ∈ spec.tags, ∃ text, tag.2 = .string text

namespace Inventory

variable (specs : List DeviceSpec) (spec : DeviceSpec) (name device : String)

/-! ## One device -/

/-- The declarations of one device. -/
def declaring : List DeviceSpec := specs.filter fun spec => spec.name = device

/-- The tags that the declarations of a device come to. -/
def declaredTags : List (String × Datum) :=
  mergeEntries ((declaring specs device).flatMap DeviceSpec.tags)

/-- The priority that the declarations of a device come to. -/
def declaredPriority (inventory : Inventory) (device : String) : Option Priority :=
  (declaring inventory.devices device).getLast?.map inventory.priorityOf

/-- Which declaration is the first one that gives a device a tag of a name. -/
def firstDeclaring : Nat :=
  specs.findIdx fun spec => spec.name = device ∧ name ∈ spec.tags.map Prod.fst

/-! ## All devices -/

/-- The declared devices with their priorities. -/
def roster (inventory : Inventory) (specs : List DeviceSpec) : List (String × Priority) :=
  mergeEntries (specs.map fun spec => (spec.name, inventory.priorityOf spec))

/-- The values of a tag name in one declaration, each with the name of the device. -/
def valuesIn : List (String × Datum) :=
  (spec.tags.filter fun tag => tag.1 = name).map fun tag => (spec.name, tag.2)

/-- The devices that have a tag of a name, with its value. -/
def column : List (String × Datum) := mergeEntries (specs.flatMap (valuesIn · name))

def tagNames : List String := (mergeEntries (specs.flatMap DeviceSpec.tags)).map Prod.fst

theorem nodup_column : ((column specs name).map Prod.fst).Nodup := nodup_mergeEntries _

theorem nodup_roster (inventory : Inventory) : ((inventory.roster specs).map Prod.fst).Nodup :=
  nodup_mergeEntries _

theorem length_roster (inventory : Inventory) :
    (inventory.roster specs).length = (specs.map DeviceSpec.name).dedup.length := by
  rw [roster, length_mergeEntries, List.map_map]
  rfl

theorem length_tagNames :
    (tagNames specs).length = (specs.flatMap fun spec => spec.tags.map Prod.fst).dedup.length := by
  rw [tagNames, List.length_map, length_mergeEntries, List.map_flatMap]

/-! ## One declaration more -/

theorem roster_concat (inventory : Inventory) :
    inventory.roster (specs ++ [spec]) =
      mergeEntry spec.name (inventory.priorityOf spec) (inventory.roster specs) := by
  rw [roster, List.map_append]
  exact mergeEntries_concat _ _ _

/-- A declaration without tags adds no value. -/
theorem column_concat_nil (priority : Option Priority) :
    column (specs ++ [⟨device, priority, []⟩]) name = column specs name := by
  simp [column, valuesIn]

theorem tagNames_concat_nil (priority : Option Priority) :
    tagNames (specs ++ [⟨device, priority, []⟩]) = tagNames specs := by
  simp [tagNames]

/-- A declaration that goes on with a tag adds its value to the values of its name. -/
theorem column_concat_tag (priority : Option Priority) (tags : List (String × Datum))
    (key : String) (value : Datum) :
    column (specs ++ [⟨device, priority, tags ++ [(key, value)]⟩]) name =
      if key = name then mergeEntry device value (column (specs ++ [⟨device, priority, tags⟩]) name)
      else column (specs ++ [⟨device, priority, tags⟩]) name := by
  unfold column
  rw [List.flatMap_append, List.flatMap_append, List.flatMap_singleton, List.flatMap_singleton]
  have hvalues : valuesIn ⟨device, priority, tags ++ [(key, value)]⟩ name =
      valuesIn ⟨device, priority, tags⟩ name ++ if key = name then [(device, value)] else [] := by
    by_cases hkey : key = name <;> simp [valuesIn, hkey]
  rw [hvalues, ← List.append_assoc]
  split
  · exact mergeEntries_concat _ _ _
  · rw [List.append_nil]

theorem tagNames_concat_tag (priority : Option Priority) (tags : List (String × Datum))
    (key : String) (value : Datum) :
    tagNames (specs ++ [⟨device, priority, tags ++ [(key, value)]⟩]) =
      if key ∈ tagNames (specs ++ [⟨device, priority, tags⟩]) then
        tagNames (specs ++ [⟨device, priority, tags⟩])
      else tagNames (specs ++ [⟨device, priority, tags⟩]) ++ [key] := by
  unfold tagNames
  rw [List.flatMap_append, List.flatMap_append, List.flatMap_singleton, List.flatMap_singleton,
    ← List.append_assoc, mergeEntries_concat]
  exact map_fst_mergeEntry _ _ _

end Inventory

end DeviceTags
