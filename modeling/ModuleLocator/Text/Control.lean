/-!
Terminal control sequences in text.
-/

namespace ModuleLocator.Text

/-- Whether a character is a parameter character of a control sequence. -/
def isParameterChar (c : Char) : Bool := '0' ≤ c && c ≤ '?'

/-- Whether a character is an intermediate character of a control
sequence. -/
def isIntermediateChar (c : Char) : Bool := ' ' ≤ c && c ≤ '/'

/-- Whether a character ends a control sequence. -/
def isFinalChar (c : Char) : Bool := '@' ≤ c && c ≤ '~'

/-- The length of the control sequence whose body starts `cs`, after its
escape and `[`, if a whole sequence is there. -/
def sequenceLength (cs : List Char) : Option Nat :=
  let p := (cs.takeWhile isParameterChar).length
  let i := ((cs.drop p).takeWhile isIntermediateChar).length
  match cs[p + i]? with
  | some c => if isFinalChar c then some (p + i + 1) else none
  | none => none

/-- Characters with every whole control sequence removed, from the left. -/
def dropControls : List Char → List Char
  | '\x1b' :: '[' :: body =>
    match sequenceLength body with
    | some n => dropControls (body.drop n)
    | none => '\x1b' :: dropControls ('[' :: body)
  | c :: rest => c :: dropControls rest
  | [] => []
termination_by cs => cs.length
decreasing_by all_goals simp only [List.length_drop, List.length_cons]; omega

/-- A text with every whole control sequence removed. -/
def withoutControls (s : String) : String := String.ofList (dropControls s.toList)

-- a space is an intermediate character, so `ESC[ n` and `ESC[1 q` are whole sequences
example : withoutControls "kept \x1b[ not \x1b[1 q." = "kept ot ." := by
  simp [withoutControls, dropControls, sequenceLength, isParameterChar, isIntermediateChar, isFinalChar]

theorem dropControls_of_no_escape (cs : List Char) (h : '\x1b' ∉ cs) : dropControls cs = cs := by
  induction cs with
  | nil => simp [dropControls]
  | cons c rest ih =>
    have hc : c ≠ '\x1b' := fun e => h (e ▸ List.mem_cons_self ..)
    have hr : '\x1b' ∉ rest := fun m => h (List.mem_cons_of_mem _ m)
    have step : dropControls (c :: rest) = c :: dropControls rest := by
      rw [dropControls.eq_def]
      split <;> simp_all
    rw [step, ih hr]

theorem withoutControls_of_no_escape (s : String) (h : '\x1b' ∉ s.toList) : withoutControls s = s := by
  unfold withoutControls
  rw [dropControls_of_no_escape _ h, String.ofList_toList]

end ModuleLocator.Text
