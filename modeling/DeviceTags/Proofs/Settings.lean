import DeviceTags.Settings

/-!
# One directory for everything

The command line and the error log take the directory that the environment gives as it stands, so
they are always in one place. Looking for the configuration by itself is there too, except below a
leading tilde: it goes to the home directory, and the others to a directory that is spelled like the
tilde.
-/

namespace DeviceTags

namespace Path

/-- The name that stands for the home directory of a user, of the current one without a name. -/
def tilde (user : String) : String := "~" ++ user

theorem toList_tilde (user : String) : (tilde user).toList = '~' :: user.toList := by
  rw [tilde, String.toList_append]
  rfl

theorem tilde_of_toList {name : String} {user : List Char} (hname : name.toList = '~' :: user) :
    name = tilde (String.ofList user) := by
  apply String.toList_inj.mp
  rw [hname, toList_tilde, String.toList_ofList]

theorem expandHome_tilde (home : String → Option String) (user : String) (rest : List String) :
    expandHome home ⟨.here, tilde user :: rest⟩ = (home user).bind fun directory =>
      if directory.toList.head? = some '~' then none
      else some ((ofString directory).join ⟨.here, rest⟩) := by
  simp only [expandHome, toList_tilde, String.ofList_toList, join_here]
  cases home user <;> rfl

theorem expandHome_of_ne_tilde {home : String → Option String} {path : Path}
    (hplain : ∀ user rest, path ≠ ⟨.here, tilde user :: rest⟩) : expandHome home path = some path := by
  obtain ⟨anchor, names⟩ := path
  rw [expandHome]
  split
  · next first rest hanchor hnames =>
    split
    · next user hfirst =>
      have htilde := hplain (String.ofList user) rest
      rw [← tilde_of_toList hfirst, ← hanchor, ← hnames] at htilde
      exact absurd rfl htilde
    · rfl
  · rfl

/-- A path below a home directory is the one with the tilde only where the home directory is spelled
like the tilde itself. -/
theorem join_eq_tilde_iff (home : Path) (user : String) (rest : List String) :
    home.join ⟨.here, rest⟩ = ⟨.here, tilde user :: rest⟩ ↔ home = ⟨.here, [tilde user]⟩ := by
  obtain ⟨anchor, names⟩ := home
  rw [join_here, ← List.singleton_append, Path.mk.injEq, Path.mk.injEq, List.append_left_inj]

theorem parent_join_single (directory : Path) (name : String) :
    (directory.join ⟨.here, [name]⟩).parent = directory := by
  rw [join_here, parent, List.dropLast_concat]

end Path

namespace Environment

open DeviceTags.Path

variable (environment : Environment)

theorem parent_child_logName (directory : Path) : (directory.child logName).parent = directory := by
  have hname : ofString logName = ⟨.here, [logName]⟩ := by decide +kernel
  rw [child, hname, parent_join_single]

theorem expand_eq_ok_iff {path expanded : Path} :
    environment.expand path = .ok expanded ↔
      path.expandHome environment.homeDirectory = some expanded := by
  rw [expand]
  cases path.expandHome environment.homeDirectory <;> simp

/-- The error log is in the directory in which the command line looks for the configuration. -/
theorem parent_errorLog : environment.errorLog.map parent = environment.commandDirectory none := by
  simp only [errorLog, commandDirectory, configDirectory]
  cases environment.givenDirectory with
  | some directory => exact congrArg Except.ok (parent_child_logName directory)
  | none =>
    cases environment.standardDirectory with
    | error failure => rfl
    | ok directory => exact congrArg Except.ok (parent_child_logName directory)

/-- Expanding leaves a path alone unless there is a tilde at its front, for a home directory that is
not spelled so. -/
theorem expand_eq_self_iff (path : Path) :
    environment.expand path = .ok path ↔ ∀ user rest, path = ⟨.here, tilde user :: rest⟩ →
      ∃ home, environment.homeDirectory user = some home ∧ home.toList.head? ≠ some '~' ∧
        ofString home = ⟨.here, [tilde user]⟩ := by
  rw [expand_eq_ok_iff]
  constructor
  · rintro hexpand user rest rfl
    rw [expandHome_tilde, Option.bind_eq_some_iff] at hexpand
    obtain ⟨home, hhome, hjoin⟩ := hexpand
    split at hjoin
    · cases hjoin
    · next hhead =>
      exact ⟨home, hhome, hhead, (join_eq_tilde_iff _ _ _).mp (Option.some.inj hjoin)⟩
  · intro hspelled
    by_cases htilde : ∃ user rest, path = ⟨.here, tilde user :: rest⟩
    · obtain ⟨user, rest, rfl⟩ := htilde
      obtain ⟨home, hhome, hhead, hname⟩ := hspelled user rest rfl
      rw [expandHome_tilde, hhome, Option.bind_some, if_neg hhead, hname]
      rfl
    · exact expandHome_of_ne_tilde fun user rest hpath => htilde ⟨user, rest, hpath⟩

/-- Where the configuration is looked for, where the command line looks for it and where the error
log is: the last two are one directory, and the first is the same one exactly if the environment gives
no directory below a tilde, or the home directory is spelled like the tilde. -/
theorem directory_is_one :
    environment.errorLog.map parent = environment.commandDirectory none ∧
    (environment.configDirectory = environment.commandDirectory none ↔
      ∀ user rest, environment.givenDirectory = some ⟨.here, tilde user :: rest⟩ →
        ∃ home, environment.homeDirectory user = some home ∧ home.toList.head? ≠ some '~' ∧
          ofString home = ⟨.here, [tilde user]⟩) ∧
    ∀ user rest home, environment.givenDirectory = some ⟨.here, tilde user :: rest⟩ →
      environment.homeDirectory user = some home → home.toList.head? ≠ some '~' →
      environment.commandDirectory none = .ok ⟨.here, tilde user :: rest⟩ ∧
      environment.configDirectory = .ok ((ofString home).join ⟨.here, rest⟩) := by
  refine ⟨environment.parent_errorLog, ?_, ?_⟩
  · simp only [commandDirectory, configDirectory]
    cases environment.givenDirectory with
    | none => simp
    | some directory =>
      simp only [expand_eq_self_iff, Option.some.injEq]
  · intro user rest home hgiven hhome hhead
    simp only [commandDirectory, configDirectory, hgiven, expand_eq_ok_iff, true_and]
    rw [expandHome_tilde, hhome, Option.bind_some, if_neg hhead]

/-- An environment that gives a directory below the home directory of the current user. -/
def belowTilde : Environment where
  directory := some "~/x"
  verbose := none
  home := some "/home/u"
  homeOf := fun _ => none

theorem belowTilde_apart :
    belowTilde.configDirectory = .ok (ofString "/home/u/x") ∧
    belowTilde.commandDirectory none = .ok (ofString "~/x") ∧
    belowTilde.errorLog = .ok (ofString "~/x/blkcache-errors.log") ∧
    belowTilde.configDirectory ≠ belowTilde.commandDirectory none := by
  have hconfig : belowTilde.configDirectory = .ok (ofString "/home/u/x") := by
    change belowTilde.expand (ofString "~/x") = _
    rw [expand_eq_ok_iff]
    decide +kernel
  have hlog : (ofString "~/x").child logName = ofString "~/x/blkcache-errors.log" := by
    decide +kernel
  have hne : ofString "/home/u/x" ≠ ofString "~/x" := by
    decide +kernel
  exact ⟨hconfig, rfl, congrArg Except.ok hlog, hconfig ▸ fun heq => hne (Except.ok.inj heq)⟩

end Environment

end DeviceTags
