/-!
# Terminal control sequences

Text that does not go to a terminal loses its control sequences: an escape character and an opening
bracket, any number of digits, semicolons and question marks, and one ASCII letter that ends it. An
escape that does not complete a sequence stays as it is.
-/

namespace DeviceTags.Text

def isControlParameter (c : Char) : Bool :=
  c = ';' || c = '?' || c.isDigit

/-- What follows a control sequence whose parameters start here, if one is completed. -/
def afterControl : List Char → Option (List Char)
  | [] => none
  | c :: rest =>
    if isControlParameter c then afterControl rest
    else if c.isAlpha then some rest
    else none

theorem length_afterControl {text rest : List Char} (hafter : afterControl text = some rest) :
    rest.length < text.length := by
  induction text with
  | nil => simp [afterControl] at hafter
  | cons c tail ih =>
    rw [afterControl] at hafter
    split at hafter
    · have := ih hafter
      simp
      omega
    · split at hafter
      · simp_all
      · simp at hafter

/-- The characters of a text without its control sequences. -/
def stripControlChars (text : List Char) : List Char :=
  match text with
  | [] => []
  | '\x1b' :: '[' :: parameters =>
    match hafter : afterControl parameters with
    | some rest =>
      have := length_afterControl hafter
      stripControlChars rest
    | none => '\x1b' :: stripControlChars ('[' :: parameters)
  | c :: rest => c :: stripControlChars rest
termination_by text.length
decreasing_by all_goals (simp_wf <;> omega)

/-- The text without its control sequences. -/
def stripControls (text : String) : String :=
  String.ofList (stripControlChars text.toList)

theorem stripControlChars_of_noEscape {text : List Char} (hplain : '\x1b' ∉ text) :
    stripControlChars text = text := by
  induction text with
  | nil => simp [stripControlChars]
  | cons c rest ih =>
    have hc : c ≠ '\x1b' := fun heq => hplain (heq ▸ List.mem_cons_self)
    have hrest := ih fun hmem => hplain (List.mem_cons_of_mem _ hmem)
    rw [stripControlChars.eq_3 _ _ (by rintro _ rfl; exact absurd rfl hc), hrest]

theorem stripControls_of_noEscape {text : String} (hplain : '\x1b' ∉ text.toList) :
    stripControls text = text := by
  rw [stripControls, stripControlChars_of_noEscape hplain, String.ofList_toList]

/-! ## Lines -/

/-- No control sequence goes beyond the end of a line. -/
theorem afterControl_line (line rest : List Char) :
    afterControl (line ++ '\n' :: rest) = (afterControl line).map (· ++ '\n' :: rest) := by
  induction line with
  | nil => rfl
  | cons c line ih =>
    rw [List.cons_append, afterControl, afterControl, ih]
    split
    · rfl
    · split <;> rfl

theorem stripControlChars_of_control {parameters after : List Char}
    (hafter : afterControl parameters = some after) :
    stripControlChars ('\x1b' :: '[' :: parameters) = stripControlChars after := by
  rw [stripControlChars]
  split
  · next hother => rw [Option.some.inj (hafter.symm.trans hother)]
  · next hnone =>
    rw [hafter] at hnone
    cases hnone

theorem stripControlChars_of_open {parameters : List Char}
    (hopen : afterControl parameters = none) :
    stripControlChars ('\x1b' :: '[' :: parameters) =
      '\x1b' :: stripControlChars ('[' :: parameters) := by
  rw [stripControlChars]
  split
  · next hafter =>
    rw [hopen] at hafter
    cases hafter
  · rfl

theorem stripControlChars_line (line rest : List Char) :
    stripControlChars (line ++ '\n' :: rest) =
      stripControlChars line ++ '\n' :: stripControlChars rest := by
  -- Along the cases in which the control sequences of the line are taken out.
  induction line using stripControlChars.induct with
  | case1 =>
    rw [List.nil_append, stripControlChars, stripControlChars, List.nil_append]
    rintro _ ⟨⟩
  | case2 parameters after hafter _ ih =>
    have hlong : afterControl (parameters ++ '\n' :: rest) = some (after ++ '\n' :: rest) := by
      rw [afterControl_line, hafter]
      rfl
    rw [stripControlChars_of_control hafter, ← ih]
    exact stripControlChars_of_control hlong
  | case3 parameters hopen ih =>
    have hlong : afterControl (parameters ++ '\n' :: rest) = none := by
      rw [afterControl_line, hopen]
      rfl
    rw [stripControlChars_of_open hopen]
    exact (stripControlChars_of_open hlong).trans (congrArg ('\x1b' :: ·) ih)
  | case4 c line hplain ih =>
    have hlong : ∀ parameters, c = '\x1b' → line ++ '\n' :: rest = '[' :: parameters → False := by
      intro parameters hc hline
      cases line with
      | nil => cases hline
      | cons d line =>
        obtain ⟨rfl, -⟩ := List.cons.inj hline
        exact hplain line hc rfl
    rw [List.cons_append, stripControlChars.eq_3 _ _ hlong, stripControlChars.eq_3 _ _ hplain, ih,
      List.cons_append]

/-- Control sequences are taken from each line by itself. -/
theorem stripControls_line (line rest : String) :
    stripControls (line ++ "\n" ++ rest) = stripControls line ++ "\n" ++ stripControls rest := by
  apply String.toList_inj.mp
  have hchars := stripControlChars_line line.toList rest.toList
  simpa [stripControls] using hchars

end DeviceTags.Text
