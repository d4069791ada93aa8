import DeviceTags.Files

/-!
# What a tree holds after a change

A file that was written is there and reads as it was written. The walk along a path ends in the tree
with the file as it ended before: whatever it passes on the way is a directory or a link, and the file
is neither. A file that can be read can be written too, and its directory needs no making.
-/

namespace DeviceTags

/-- Where a file is written: in the place of the one that is there, or where there is none. -/
def Place.spot? : Place → Option (List String)
  | .found location (.file _ _) => some location
  | .found _ _ => none
  | .vacant directory name => some (directory ++ [name])

namespace FileTree

variable {tree after : FileTree} {aim : Aim} {links : Nat} {start names spot : List String}
  {place : Place} {content : ByteArray} {mode : Nat}

/-- Where a file can be written, there is a file or nothing. -/
theorem entryAt_of_walk (hwalk : tree.walk aim links start names = .ok place)
    (hspot : place.spot? = some spot) :
    ∀ entry, tree.entryAt spot = some entry → ∃ content mode, entry = .file content mode := by
  fun_induction tree.walk aim links start names
  case case1 =>
    cases hwalk
    cases hspot
  case case2 ih => exact ih hwalk
  case case3 ih => exact ih hwalk
  case case6 hvacant _ =>
    cases hwalk
    cases hspot
    intro entry hentry
    rw [hvacant] at hentry
    cases hentry
  case case8 ih => exact ih hwalk
  case case9 hfile _ =>
    cases hwalk
    cases hspot
    intro entry hentry
    rw [hfile] at hentry
    cases hentry
    exact ⟨_, _, rfl⟩
  case case11 =>
    cases hwalk
    cases hspot
  case case13 ih => exact ih hwalk
  all_goals cases hwalk

/-- The walk to a place where a file is written leads to the file afterwards. -/
theorem walk_of_written (hkeep : ∀ other, other ≠ spot → after.entryAt other = tree.entryAt other)
    (hnew : after.entryAt spot = some (.file content mode))
    (hwalk : tree.walk .file links start names = .ok place) (hspot : place.spot? = some spot) :
    after.walk .target links start names = .ok (.found spot (.file content mode)) := by
  have hpassed : ∀ location entry, tree.entryAt location = some entry →
      (∀ content mode, entry ≠ .file content mode) → after.entryAt location = some entry := by
    intro location entry hentry hother
    by_cases hsame : location = spot
    · subst hsame
      obtain ⟨_, _, rfl⟩ := entryAt_of_walk hwalk hspot entry hentry
      exact absurd rfl (hother _ _)
    · rw [hkeep location hsame, hentry]
  fun_induction tree.walk .file links start names
  case case1 =>
    cases hwalk
    cases hspot
  case case2 hblank ih =>
    rw [walk, if_pos hblank]
    exact ih hwalk
  case case3 ih =>
    rw [walk, if_neg (by decide), if_pos rfl]
    exact ih hwalk
  case case6 hblank hdots _ hlong _ hlast =>
    cases hwalk
    cases hspot
    rw [walk, if_neg hblank, if_neg hdots, if_neg (by simp), if_neg hlong, hnew]
    exact if_pos hlast
  case case8 hblank hdots _ hlong hentry ih =>
    rw [walk, if_neg hblank, if_neg hdots, if_neg (by simp), if_neg hlong,
      hpassed _ _ hentry (fun _ _ h => nomatch h)]
    exact ih hwalk
  case case9 hblank hdots _ hlong _ _ hentry hlast =>
    cases hwalk
    cases hspot
    rw [walk, if_neg hblank, if_neg hdots, if_neg (by simp), if_neg hlong, hnew]
    exact if_pos hlast
  case case13 hblank hdots _ hlong _ hentry _ _ _ ih =>
    rw [walk, if_neg hblank, if_neg hdots, if_neg (by simp), if_neg hlong,
      hpassed _ _ hentry (fun _ _ h => nomatch h)]
    dsimp only
    rw [if_neg (by simp)]
    exact ih hwalk
  case case11 =>
    cases hwalk
    cases hspot
  all_goals cases hwalk

/-! ## Names that a directory does not hold -/

theorem walk_vacant {name : String} (hplain : name ≠ "" ∧ name ≠ "." ∧ name ≠ "..")
    (hshort : name.utf8ByteSize ≤ longestName) {location : List String}
    (hvacant : tree.entryAt (location ++ [name]) = none) (aim : Aim) (links : Nat) :
    tree.walk aim links location [name] = .ok (.vacant location name) := by
  rw [walk, if_neg (by simp [hplain]), if_neg hplain.2.2, if_neg (by simp), if_neg (by omega),
    hvacant]
  rfl

/-- Nothing is there under a name that the working directory does not hold. -/
theorem contains_vacant {name : String} (hplain : name ≠ "" ∧ name ≠ "." ∧ name ≠ "..")
    (hshort : name.utf8ByteSize ≤ longestName) (hnull : '\x00' ∉ name.toList)
    (hvacant : tree.entryAt (tree.workingDirectory ++ [name]) = none) :
    tree.contains ⟨.here, [name]⟩ = .ok false := by
  have htext : (⟨.here, [name]⟩ : Path).text = name := by
    rw [Path.text]
    exact String.empty_append
  have hfits : ¬ name.utf8ByteSize ≥ pathLimit := by
    simp only [pathLimit, longestName] at *
    omega
  rw [FileTree.contains, locate, htext, if_pos rfl, if_neg (by simpa using hnull), if_neg hfits,
    walk_vacant hplain hshort hvacant]
  rfl

/-! ## Files that are written -/

/-- A file can be written at a path, whatever is written. -/
def CanWrite (tree : FileTree) (path : Path) : Prop :=
  ∃ content after, tree.write path content = .ok after

variable {path : Path}

theorem exists_spot (hcan : tree.CanWrite path) :
    ∃ place spot, tree.locate .file path = .ok place ∧ place.spot? = some spot := by
  obtain ⟨content, after, hwrite⟩ := hcan
  unfold write change at hwrite
  split at hwrite
  · next hlocate => exact ⟨_, _, hlocate, rfl⟩
  · cases hwrite
  · next hlocate => exact ⟨_, _, hlocate, rfl⟩
  · cases hwrite

theorem write_spot (hlocate : tree.locate .file path = .ok place) (hspot : place.spot? = some spot)
    (content : ByteArray) :
    ∃ mode, tree.write path content = .ok (tree.put spot (.file content mode)) := by
  unfold write change
  rw [hlocate]
  cases place with
  | vacant directory name =>
    cases hspot
    exact ⟨_, rfl⟩
  | found location entry =>
    cases entry with
    | file old mode =>
      cases hspot
      exact ⟨mode, rfl⟩
    | directory => cases hspot
    | link target => cases hspot

/-- Only the walk depends on the entries of the tree. -/
theorem exists_walk_of_locate (hlocate : tree.locate aim path = .ok place) :
    ∃ start, tree.walk aim linkLimit start path.names = .ok place ∧
      ∀ other : FileTree, other.workingDirectory = tree.workingDirectory → ∀ aim' found,
        other.walk aim' linkLimit start path.names = .ok found →
          other.locate aim' path = .ok found := by
  unfold locate at *
  dsimp only at *
  split at hlocate
  · cases hlocate
  · split at hlocate
    · cases hlocate
    · next hnull hfits =>
      refine ⟨if path.anchor = .here then tree.workingDirectory else [], ?_, ?_⟩
      · cases hwalk : tree.walk aim linkLimit
          (if path.anchor = .here then tree.workingDirectory else []) path.names with
        | error fault =>
          rw [hwalk] at hlocate
          cases hlocate
        | ok found =>
          rw [hwalk] at hlocate
          cases hlocate
          rfl
      · intro other hsame aim' found hwalk
        rw [if_neg hnull, if_neg hfits, hsame, hwalk]
        rfl

/-- Where a file can be written it is there afterwards, with what was written. -/
theorem exists_write (hcan : tree.CanWrite path) (content : ByteArray) :
    ∃ after, tree.write path content = .ok after ∧ after.contains path = .ok true ∧
      after.read path = .ok content := by
  obtain ⟨place, spot, hlocate, hspot⟩ := exists_spot hcan
  obtain ⟨mode, hwrite⟩ := write_spot hlocate hspot content
  obtain ⟨start, hwalk, hagain⟩ := exists_walk_of_locate hlocate
  have hbelow : spot ≠ [] := by
    rintro rfl
    obtain ⟨_, _, hfile⟩ := entryAt_of_walk hwalk hspot .directory (if_pos rfl)
    cases hfile
  have hwritten : (tree.put spot (.file content mode)).locate .target path =
      .ok (.found spot (.file content mode)) := by
    refine hagain (tree.put spot _) rfl .target _ (walk_of_written (fun other hother => ?_) ?_ hwalk hspot)
    · rw [entryAt_put tree hbelow, if_neg hother]
    · rw [entryAt_put tree hbelow, if_pos rfl]
  refine ⟨_, hwrite, ?_, ?_⟩
  · rw [contains, hwritten]
  · rw [read, hwritten]

/-! ## What was read can be written -/

variable {found : Place} {more : List String} {entry : FileEntry}

/-- Where further names lead somewhere, the names before them lead to a directory. -/
theorem walk_split (hmore : more ≠ [])
    (hwalk : tree.walk .target links start (names ++ more) = .ok found) :
    ∃ left location, tree.walk .target links start names = .ok (.found location .directory) ∧
      tree.walk .target left location more = .ok found := by
  have hopen : ∀ rest : List String, (rest ++ more).isEmpty = false := by
    simp [hmore]
  fun_induction tree.walk .target links start names
  case case1 links location => exact ⟨links, location, rfl, hwalk⟩
  case case2 hblank ih =>
    rw [List.cons_append, walk, if_pos hblank] at hwalk
    exact ih hwalk
  case case3 ih =>
    rw [List.cons_append, walk, if_neg (by decide), if_pos rfl] at hwalk
    exact ih hwalk
  case case4 haim => simp at haim
  case case5 hblank hdots _ hlong =>
    rw [List.cons_append, walk, if_neg hblank, if_neg hdots, if_neg (by simp), if_pos hlong] at hwalk
    cases hwalk
  case case8 hblank hdots _ hlong hentry ih =>
    rw [List.cons_append, walk, if_neg hblank, if_neg hdots, if_neg (by simp), if_neg hlong,
      hentry] at hwalk
    exact ih hwalk
  case case13 hblank hdots _ hlong _ hentry _ _ _ ih =>
    rw [List.cons_append, walk, if_neg hblank, if_neg hdots, if_neg (by simp), if_neg hlong,
      hentry, hopen, Bool.false_and, if_neg (by simp)] at hwalk
    dsimp only at hwalk
    rw [← List.append_assoc] at hwalk
    exact ih hwalk
  case case6 hblank hdots _ hlong hentry _ =>
    rw [List.cons_append, walk, if_neg hblank, if_neg hdots, if_neg (by simp), if_neg hlong,
      hentry, hopen] at hwalk
    cases hwalk
  case case7 hblank hdots _ hlong hentry _ =>
    rw [List.cons_append, walk, if_neg hblank, if_neg hdots, if_neg (by simp), if_neg hlong,
      hentry, hopen] at hwalk
    cases hwalk
  case case9 hblank hdots _ hlong _ _ hentry _ =>
    rw [List.cons_append, walk, if_neg hblank, if_neg hdots, if_neg (by simp), if_neg hlong,
      hentry, hopen] at hwalk
    cases hwalk
  case case10 hblank hdots _ hlong _ _ hentry _ =>
    rw [List.cons_append, walk, if_neg hblank, if_neg hdots, if_neg (by simp), if_neg hlong,
      hentry, hopen] at hwalk
    cases hwalk
  case case11 haim => simp at haim
  case case12 hblank hdots _ hlong _ hentry _ =>
    rw [List.cons_append, walk, if_neg hblank, if_neg hdots, if_neg (by simp), if_neg hlong,
      hentry, hopen, Bool.false_and, if_neg (by simp)] at hwalk
    cases hwalk

/-- An empty name stays in a directory. -/
theorem walk_slash (hwalk : tree.walk .target links start (names ++ [""]) = .ok (.found spot entry)) :
    entry = .directory := by
  obtain ⟨left, location, -, hend⟩ := walk_split (by simp) hwalk
  rw [walk, if_pos (by simp), walk] at hend
  cases hend
  rfl

/-- The walk to a file that is read is also the walk to write it. -/
theorem walk_file_of_target
    (hwalk : tree.walk .target links start names = .ok (.found spot (.file content mode))) :
    tree.walk .file links start names = .ok (.found spot (.file content mode)) := by
  have hslash : ∀ {left location rest}, tree.walk .target left location rest =
      .ok (.found spot (.file content mode)) → ∀ front, rest ≠ front ++ [""] := by
    rintro left location _ hrest front rfl
    cases walk_slash hrest
  fun_induction tree.walk .target links start names
  case case2 hblank ih =>
    rw [walk, if_pos hblank]
    exact ih hwalk
  case case3 ih =>
    rw [walk, if_neg (by decide), if_pos rfl]
    exact ih hwalk
  case case8 hblank hdots _ hlong hentry ih =>
    have hopen := hslash hwalk []
    rw [walk, if_neg hblank, if_neg hdots, if_neg (by simpa using hopen), if_neg hlong, hentry]
    exact ih hwalk
  case case9 hblank hdots _ hlong _ _ hentry hlast =>
    cases hwalk
    rw [List.isEmpty_iff] at hlast
    subst hlast
    rw [walk, if_neg hblank, if_neg hdots, if_neg (by simp), if_neg hlong, hentry]
    rfl
  case case13 location name rest hblank hdots _ hlong target hentry _ _ _ ih =>
    have hopen : rest ≠ [""] := by
      rintro rfl
      exact hslash hwalk _ rfl
    rw [walk, if_neg hblank, if_neg hdots, if_neg (by simpa using hopen), if_neg hlong, hentry]
    dsimp only
    rw [if_neg (by simp)]
    exact ih hwalk
  all_goals cases hwalk

/-- Where a walk leads to a directory, something is there under its name. -/
theorem walk_entry_of_target
    (hwalk : tree.walk .target links start names = .ok (.found spot .directory)) :
    ∃ location entry, tree.walk .entry links start names = .ok (.found location entry) := by
  fun_induction tree.walk .target links start names
  case case1 location =>
    rw [walk]
    exact ⟨location, .directory, rfl⟩
  case case2 hblank ih =>
    rw [walk, if_pos hblank]
    exact ih hwalk
  case case3 ih =>
    rw [walk, if_neg (by decide), if_pos rfl]
    exact ih hwalk
  case case8 hblank hdots _ hlong hentry ih =>
    rw [walk, if_neg hblank, if_neg hdots, if_neg (by simp), if_neg hlong, hentry]
    exact ih hwalk
  case case13 location name rest hblank hdots _ hlong target hentry _ _ _ ih =>
    rw [walk, if_neg hblank, if_neg hdots, if_neg (by simp), if_neg hlong, hentry]
    by_cases hlast : rest.isEmpty = true
    · exact ⟨location ++ [name], .link target, if_pos (by simp [hlast])⟩
    · dsimp only
      rw [if_neg (by simp [hlast])]
      exact ih hwalk
  all_goals cases hwalk

/-- A file that was read can be written. -/
theorem canWrite_of_read (hread : tree.read path = .ok content) : tree.CanWrite path := by
  unfold read at hread
  split at hread
  · next hlocate =>
    obtain ⟨start, hwalk, hagain⟩ := exists_walk_of_locate hlocate
    have hfile := hagain tree rfl .file _ (walk_file_of_target hwalk)
    obtain ⟨mode, hwrite⟩ := write_spot hfile rfl content
    exact ⟨content, _, hwrite⟩
  · cases hread
  · cases hread
  · cases hread

theorem size_intercalate_le (names : List String) (name : String) :
    ("/".intercalate names).utf8ByteSize ≤ ("/".intercalate (names ++ [name])).utf8ByteSize := by
  induction names with
  | nil => simp
  | cons first rest ih =>
    cases rest with
    | nil =>
      simp
      omega
    | cons second rest =>
      simp only [List.cons_append, String.intercalate_cons_cons, String.utf8ByteSize_append] at ih ⊢
      omega

theorem size_text_le (anchor : Anchor) (names : List String) (name : String) :
    (⟨anchor, names⟩ : Path).text.utf8ByteSize ≤
      max 1 (⟨anchor, names ++ [name]⟩ : Path).text.utf8ByteSize := by
  have hsize := size_intercalate_le names name
  have hbelow : (⟨anchor, names ++ [name]⟩ : Path).text =
      Path.anchorText anchor ++ "/".intercalate (names ++ [name]) := by
    unfold Path.text
    split
    · next heq => simp at heq
    · rfl
  rw [hbelow, String.utf8ByteSize_append]
  unfold Path.text
  split
  · exact Nat.le_max_left _ _
  · rw [String.utf8ByteSize_append]
    exact Nat.le_trans (Nat.add_le_add_left hsize _) (Nat.le_max_right _ _)

theorem exists_locate_of_read (hread : tree.read path = .ok content) :
    ∃ place, tree.locate .target path = .ok place := by
  unfold read at hread
  split at hread
  · next hlocate => exact ⟨_, hlocate⟩
  · next hlocate => exact ⟨_, hlocate⟩
  · next hlocate => exact ⟨_, hlocate⟩
  · cases hread

section

variable {anchor : Anchor} (hlocate : tree.locate .target ⟨anchor, names ++ [name]⟩ = .ok place)

include hlocate

/-- The directory above a place is there. -/
theorem locate_above :
    ∃ location, tree.locate .target ⟨anchor, names⟩ = .ok (.found location .directory) := by
  unfold locate at hlocate ⊢
  dsimp only at hlocate ⊢
  split at hlocate
  · cases hlocate
  · split at hlocate
    · cases hlocate
    · next hnull hfits =>
      have hkeep : ¬ names.any (·.toList.contains '\x00') = true := by
        intro hany
        rw [List.any_append, hany] at hnull
        exact hnull rfl
      have hshorter : ¬ (⟨anchor, names⟩ : Path).text.utf8ByteSize ≥ pathLimit := by
        have hsize := size_text_le anchor names name
        simp only [pathLimit] at hfits ⊢
        omega
      rw [if_neg hkeep, if_neg hshorter]
      cases hwalk : tree.walk .target linkLimit (if anchor = .here then tree.workingDirectory else [])
          (names ++ [name]) with
      | error fault =>
        rw [hwalk] at hlocate
        cases hlocate
      | ok found =>
        obtain ⟨_, location, habove, -⟩ := walk_split (by simp) hwalk
        rw [habove]
        exact ⟨location, rfl⟩

/-- The directory of a file that is there is left as it is. -/
theorem makeDirectories_above : tree.makeDirectories ⟨anchor, names⟩ = (.ok (), tree) := by
  obtain ⟨location, habove⟩ := locate_above hlocate
  obtain ⟨start, hwalk, hagain⟩ := exists_walk_of_locate habove
  obtain ⟨spot, entry, hentry⟩ := walk_entry_of_target hwalk
  have hthere : tree.locate .entry ⟨anchor, names⟩ = .ok (.found spot entry) :=
    hagain tree rfl .entry _ hentry
  have hmade : tree.makeDirectory ⟨anchor, names⟩ = .error ⟨.present, ⟨anchor, names⟩⟩ := by
    rw [makeDirectory, hthere]
  have hdirectory : tree.isDirectory ⟨anchor, names⟩ = true := by
    rw [isDirectory, habove]
  rw [makeDirectories, makeDirectoriesUpTo]
  · rw [hmade, orPresent, hdirectory]
    rfl
  · rw [hmade]
    rintro _ _ hmissing
    cases hmissing

end

end FileTree

end DeviceTags
