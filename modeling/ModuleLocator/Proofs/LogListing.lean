import ModuleLocator.Cli
import ModuleLocator.Proofs.DecodedLines

/-!
Listing the journal. `logs` reads its file line by line and, asked for an
event, shows the lines that are JSON objects naming that event; asked for
none, it shows every line. A line that is no JSON at all is passed over,
but one that is JSON and no object has no member to ask for, and stops the
listing with an error, as do numbers with too many digits and nesting too
deep. A shown line is right-stripped, and its control sequences are
removed on the way out.
-/

namespace ModuleLocator.Cli

/-! ### Running a session step by step -/

section Steps

variable {α β : Type} {st st' : Session}

theorem run_get_bind (f : Session → Run α) : (get >>= f).run.run st = (f st).run.run st := rfl

@[simp] theorem run_modify (f : Session → Session) :
    (modify f : Run PUnit).run.run st = pure (.ok ⟨⟩, f st) := rfl

theorem run_bind_of_ok {x : Run α} {f : α → Run β} {a : α}
    (h : x.run.run st = pure (.ok a, st')) : (x >>= f).run.run st = (f a).run.run st' := by
  simp [ExceptT.run_bind, StateT.run_bind, h]

theorem run_bind_of_error {x : Run α} {f : α → Run β} {e : Halt}
    (h : x.run.run st = pure (.error e, st')) : (x >>= f).run.run st = pure (.error e, st') := by
  simp [ExceptT.run_bind, StateT.run_bind, h]

theorem outcome_of_ok {r : Run Unit} (h : r.run.run st = pure (.ok (), st')) :
    r.outcome st = ⟨0, st'.out, st'.err, none, st'.world⟩ := by
  simp only [Run.outcome, h]
  -- the pair is a `pure` of `Id`, which only unfolding takes apart
  rfl

theorem outcome_of_escape {r : Run Unit} {k : String}
    (h : r.run.run st = pure (.error (.escape k), st')) :
    r.outcome st = ⟨1, st'.out, st'.err, some k, st'.world⟩ := by
  simp only [Run.outcome, h]
  rfl

theorem run_echo {s : String} (h : Text.hasHalf (Text.withoutControls s ++ "\n") = false) :
    (echo s).run.run st =
      pure (.ok (), { st with out := st.out ++ (Text.withoutControls s ++ "\n") }) := by
  simp [echo, echoTo, write, h]

end Steps

/-! ### Which lines are shown -/

/-- Whether a line reads, with `depth` calls in progress, as a JSON object
whose member `event` is the text `e`. -/
def RecordOf (depth : CallDepth) (e : String) (line : String) : Prop :=
  ∃ es, JsonText.readWithin depth line = .ok (.object es) ∧
    JsonText.member? es "event" = some (.text (JsonText.points e))

/-- Whether a line is to be shown: every line when no event is asked for,
else a record of that event. -/
def Selected (depth : CallDepth) (event : Option String) (line : String) : Prop :=
  ∀ e ∈ event, RecordOf depth e line

/-- Whether a line can be judged: every line when no event is asked for,
else a line that is no JSON at all, or a JSON object. -/
def Judged (depth : CallDepth) (event : Option String) (line : String) : Prop :=
  event = none ∨ JsonText.readWithin depth line = .error .malformed ∨
    ∃ es, JsonText.readWithin depth line = .ok (.object es)

theorem wanted_eq_ok_true_iff (depth : CallDepth) (event : Option String) (line : String) :
    wanted depth event line = .ok true ↔ Selected depth event line := by
  cases event with
  | none => simp [Selected, wanted]
  | some e =>
    simp only [Selected, RecordOf, Option.mem_def, Option.some.injEq, forall_eq']
    cases hr : JsonText.readWithin depth line with
    | error f => cases f <;> simp [wanted, hr]
    | ok doc =>
      cases doc with
      | object es =>
        -- the line is shown when its member `event` is the text asked for
        cases hm : JsonText.member? es "event" with
        | none => simp [wanted, hr, hm]
        | some v => cases v <;> simp [wanted, hr, hm]
      | _ => simp [wanted, hr]

instance (depth : CallDepth) (event : Option String) : DecidablePred (Selected depth event) :=
  fun line => decidable_of_iff _ (wanted_eq_ok_true_iff depth event line)

theorem wanted_eq_ok_of_judged {depth : CallDepth} {event : Option String} {line : String}
    (hj : Judged depth event line) : ∃ b, wanted depth event line = .ok b := by
  cases event with
  | none => exact ⟨true, rfl⟩
  | some e =>
    rcases hj with hj | hm | ⟨es, hes⟩
    · cases hj
    · exact ⟨false, by simp [wanted, hm]⟩
    · simp only [wanted, hes]
      exact ⟨_, rfl⟩

theorem wanted_eq_ok_false {depth : CallDepth} {event : Option String} {line : String}
    (hj : Judged depth event line) (hs : ¬ Selected depth event line) :
    wanted depth event line = .ok false := by
  obtain ⟨b, hb⟩ := wanted_eq_ok_of_judged hj
  cases b with
  | false => exact hb
  | true => exact absurd ((wanted_eq_ok_true_iff depth event line).1 hb) hs

theorem wanted_eq_error_of_not_judged {depth : CallDepth} {event : Option String} {line : String}
    (hj : ¬ Judged depth event line) : ∃ k, wanted depth event line = .error k := by
  cases event with
  | none => exact absurd (.inl rfl) hj
  | some e =>
    -- JSON that is no object, or a read that fails for another reason than bad JSON
    simp only [Judged, reduceCtorEq, false_or, not_or, not_exists] at hj
    cases hr : JsonText.readWithin depth line with
    | error f => cases f <;> simp_all [wanted]
    | ok doc => cases doc <;> simp_all [wanted]

/-- What the listing of some lines prints: each selected line, right-stripped,
its control sequences removed, and ended. -/
def listed (depth : CallDepth) (event : Option String) (lines : List String) : String :=
  String.join ((lines.filter (Selected depth event ·)).map
    fun l => Text.withoutControls (Text.stripEnd l) ++ "\n")

theorem listed_nil (depth : CallDepth) (event : Option String) : listed depth event [] = "" := rfl

theorem listed_cons (depth : CallDepth) (event : Option String) (l : String) (ls : List String) :
    listed depth event (l :: ls) =
      (if Selected depth event l then Text.withoutControls (Text.stripEnd l) ++ "\n" else "") ++
        listed depth event ls := by
  unfold listed
  by_cases h : Selected depth event l <;> simp [h]

theorem listed_of_no_escape (depth : CallDepth) (event : Option String) {lines : List String}
    (h : ∀ l ∈ lines, '\x1b' ∉ l.toList) :
    listed depth event lines =
      String.join ((lines.filter (Selected depth event ·)).map (Text.stripEnd · ++ "\n")) := by
  unfold listed
  congr 1
  apply List.map_congr_left
  intro l hl
  rw [Text.withoutControls_of_no_escape]
  -- stripping only drops characters, so it brings no escape in
  intro hmem
  rw [Text.stripEnd, String.toList_ofList, List.mem_reverse] at hmem
  exact h l (List.mem_of_mem_filter hl) (List.mem_reverse.1 ((List.dropWhile_sublist _).subset hmem))

/-! ### One line, then all of them -/

section Listing

variable (depth : CallDepth) (event : Option String) {st : Session}

theorem run_showLine_of_judged {line : String} (hj : Judged depth event line)
    (hw : Text.Whole line.toList) :
    (showLine depth event line).run.run st =
      pure (.ok (), { st with out := st.out ++ listed depth event [line] }) := by
  rw [listed_cons, listed_nil, String.append_empty]
  by_cases hs : Selected depth event line
  · simp only [showLine, (wanted_eq_ok_true_iff depth event line).2 hs, hs]
    exact run_echo hw.shown
  · simp [showLine, wanted_eq_ok_false hj hs, hs]

theorem run_showLine_of_not_judged {line : String} (hj : ¬ Judged depth event line) :
    ∃ k, (showLine depth event line).run.run st = pure (.error (.escape k), st) := by
  obtain ⟨k, hk⟩ := wanted_eq_error_of_not_judged hj
  exact ⟨k, by simp [showLine, hk, escape]⟩

theorem run_forM_showLine (lines : List String) (hj : ∀ l ∈ lines, Judged depth event l)
    (hw : ∀ l ∈ lines, Text.Whole l.toList) :
    (lines.forM (showLine depth event)).run.run st =
      pure (.ok (), { st with out := st.out ++ listed depth event lines }) := by
  induction lines generalizing st with
  | nil => simp [listed_nil]
  | cons l ls ih =>
    rw [List.forM, run_bind_of_ok (run_showLine_of_judged depth event
      (hj l List.mem_cons_self) (hw l List.mem_cons_self))]
    rw [ih (fun x hx => hj x (List.mem_cons_of_mem l hx)) (fun x hx => hw x (List.mem_cons_of_mem l hx))]
    simp [listed_cons, listed_nil, String.append_assoc]

theorem run_forM_showLine_stops (pre post : List String) (line : String)
    (hpre : ∀ l ∈ pre, Judged depth event l) (hw : ∀ l ∈ pre, Text.Whole l.toList)
    (hj : ¬ Judged depth event line) :
    ∃ k, ((pre ++ line :: post).forM (showLine depth event)).run.run st =
      pure (.error (.escape k), { st with out := st.out ++ listed depth event pre }) := by
  induction pre generalizing st with
  | nil =>
    obtain ⟨k, hk⟩ := @run_showLine_of_not_judged depth event st line hj
    exact ⟨k, by simpa [List.forM, listed_nil] using run_bind_of_error hk⟩
  | cons l ls ih =>
    obtain ⟨k, hk⟩ := @ih { st with out := st.out ++ listed depth event [l] }
      (fun x hx => hpre x (List.mem_cons_of_mem l hx)) (fun x hx => hw x (List.mem_cons_of_mem l hx))
    refine ⟨k, ?_⟩
    rw [List.cons_append, List.forM, run_bind_of_ok (run_showLine_of_judged depth event
      (hpre l List.mem_cons_self) (hw l List.mem_cons_self)), hk]
    simp [listed_cons, listed_nil, String.append_assoc]

end Listing

/-! ### The command -/

theorem logFileFor_of_path (s : Settings) {q : Parsed} {path : String}
    (h : q.text? "path" = some path) (hne : path ≠ "") : logFileFor s q = some path := by
  simp [logFileFor, h, String.isEmpty_iff, hne]

theorem run_logs (s : Settings) {q : Parsed} {st : Session} {path : String} {lines : List String}
    (hfile : logFileFor s q = some path) (hex : st.world.pathExists (PosixPath.parse path) = .ok true)
    (hread : st.world.readLines .plain (PosixPath.parse path) = (lines, none)) :
    (logs s q).run.run st = (lines.forM (showLine ((commandDepth st.depth).enter 1)
      ((q.text? "event").filter (!·.isEmpty)))).run.run st := by
  simp only [logs, hfile]
  rw [run_get_bind]
  simp only [hex, hread, pure_bind, Bool.not_true, Bool.false_eq_true, if_false, bind_pure_unit]

/-- `logs --path F --event E` over a file that exists and reads whole as
UTF-8. With no event (or an empty one) every line can be judged; with one,
the lines that are JSON objects or no JSON at all. The listing ends
normally exactly when every line can be judged, and then it has printed
the selected lines, right-stripped and with their control sequences
removed, in order. Otherwise it stops with an error at the first line that
cannot be judged, with the selected lines before it printed. -/
theorem logs_lists_event_records (s : Settings) (q : Parsed) (st : Session) (path : String)
    (lines : List String) (hpath : q.text? "path" = some path) (hne : path ≠ "")
    (hex : st.world.pathExists (PosixPath.parse path) = .ok true)
    (hread : st.world.readLines .plain (PosixPath.parse path) = (lines, none)) :
    let event := (q.text? "event").filter (!·.isEmpty)
    let depth := (commandDepth st.depth).enter 1
    (((logs s q).outcome st).status = 0 ↔ ∀ l ∈ lines, Judged depth event l) ∧
    ((∀ l ∈ lines, Judged depth event l) →
      (logs s q).outcome st = ⟨0, st.out ++ listed depth event lines, st.err, none, st.world⟩) ∧
    (∀ pre line post, lines = pre ++ line :: post → (∀ l ∈ pre, Judged depth event l) →
      ¬ Judged depth event line →
      ∃ k, (logs s q).outcome st = ⟨1, st.out ++ listed depth event pre, st.err, some k, st.world⟩) := by
  intro event depth
  have hrun := run_logs s (logFileFor_of_path s hpath hne) hex hread
  have hwhole := Text.whole_of_readLines hread
  -- every line judged: the whole listing
  have hall : (∀ l ∈ lines, Judged depth event l) →
      (logs s q).outcome st = ⟨0, st.out ++ listed depth event lines, st.err, none, st.world⟩ := by
    intro hj
    exact outcome_of_ok (hrun.trans (run_forM_showLine depth event lines hj hwhole))
  -- a line that cannot be judged: the listing up to it
  have hstop : ∀ pre line post, lines = pre ++ line :: post → (∀ l ∈ pre, Judged depth event l) →
      ¬ Judged depth event line →
      ∃ k, (logs s q).outcome st = ⟨1, st.out ++ listed depth event pre, st.err, some k, st.world⟩ := by
    intro pre line post hlines hpre hj
    subst hlines
    obtain ⟨k, hk⟩ := run_forM_showLine_stops depth event pre post line hpre
      (fun l hl => hwhole l (List.mem_append_left _ hl)) hj
    exact ⟨k, outcome_of_escape (hrun.trans hk)⟩
  refine ⟨⟨fun h0 => ?_, fun hj => by rw [hall hj]⟩, hall, hstop⟩
  -- a status of zero leaves no line that cannot be judged: the first one would stop the listing
  classical
  by_contra hnot
  obtain ⟨l, hl, hj⟩ := not_forall₂.1 hnot
  obtain ⟨line, pre, post, hpre, hline, hlines, -⟩ :=
    @List.exists_of_eraseP _ (fun x => !decide (Judged depth event x)) lines l hl (by simpa using hj)
  obtain ⟨k, hk⟩ := hstop pre line post hlines (fun x hx => by simpa using hpre x hx) (by simpa using hline)
  simp [hk] at h0

/-- A listing of a one-line file asked for an event ends normally exactly
when its line can be judged. -/
theorem logs_of_one_line_file :
    let q : Parsed := ⟨[("path", .text "f"), ("event", .text "x")], []⟩
    let st : Session :=
      { world := { tree := ⟨[(["f"], .file [97, 10])]⟩ }, width := 80, env := [], depth := ⟨0⟩ }
    q.text? "path" = some "f" ∧ "f" ≠ "" ∧ st.world.pathExists (PosixPath.parse "f") = .ok true ∧
      st.world.readLines .plain (PosixPath.parse "f") = (["a"], none) ∧
      (((logs {} q).outcome st).status = 0 ↔
        ∀ l ∈ ["a"], Judged ((commandDepth st.depth).enter 1) (some "x") l) := by
  intro q st
  have hpath : q.text? "path" = some "f" := by cbv
  have hex : st.world.pathExists (PosixPath.parse "f") = .ok true := by cbv
  have hread : st.world.readLines .plain (PosixPath.parse "f") = (["a"], none) := by cbv
  exact ⟨hpath, by decide, hex, hread,
    (logs_lists_event_records {} q st "f" ["a"] hpath (by decide) hex hread).1⟩

end ModuleLocator.Cli
