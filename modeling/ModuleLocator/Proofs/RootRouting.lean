import Mathlib
import ModuleLocator.Journal

/-!
Routing the root logger to a journal. A set-up takes the level first, then
drops the journals installed before, then makes the file's directories and
only then adds the new journal, last. So a set-up that returns leaves the
other handlers as they were, in their order, followed by exactly one
journal, and the level its name gives; one that raises on the level name
changes nothing; and one that raises while making the directories has
already taken the new level and dropped the old journals.
-/

namespace ModuleLocator

namespace Journal

theorem levelOf_eq_ok_iff (name : String) (n : Nat) :
    levelOf name = .ok n ↔
      upperName name ≠ "BASIC_FORMAT" ∧ upperName name ≠ "_STYLES" ∧
        n = (levels.lookup (upperName name)).getD 30 := by
  simp only [levelOf]
  split_ifs with hb hs
  · simp [hb]
  · simp [hs]
  · simp [hb, hs, eq_comm]

theorem levelOf_eq_ok_getD {name : String} {n : Nat} (h : levelOf name = .ok n) :
    n = (levels.lookup (upperName name)).getD 30 :=
  ((levelOf_eq_ok_iff name n).1 h).2.2

end Journal

@[simp] theorem Handler.isJournal_journal (path : PosixPath) :
    (Handler.journal path).isJournal = true := rfl

@[simp] theorem Handler.isJournal_other (name : String) :
    (Handler.other name).isJournal = false := rfl

namespace RootLogger

/-- The handlers of other kinds, in their order. -/
def others (root : RootLogger) : List Handler := root.handlers.filter (!·.isJournal)

/-- The journals among the handlers, in their order. -/
def journals (root : RootLogger) : List Handler := root.handlers.filter (·.isJournal)

@[simp] theorem others_mk (n : Nat) (hs : List Handler) :
    (⟨n, hs⟩ : RootLogger).others = hs.filter (!·.isJournal) := rfl

@[simp] theorem journals_mk (n : Nat) (hs : List Handler) :
    (⟨n, hs⟩ : RootLogger).journals = hs.filter (·.isJournal) := rfl

@[simp] theorem others_filter_others (root : RootLogger) :
    root.others.filter (!·.isJournal) = root.others := by
  simp [others, List.filter_filter]

@[simp] theorem others_filter_journals (root : RootLogger) :
    root.others.filter (·.isJournal) = [] := by
  simp [others, List.filter_filter]

theorem mem_others_other (root : RootLogger) (name : String) :
    Handler.other name ∈ root.others ↔ Handler.other name ∈ root.handlers := by
  simp [others]

section Install

variable (root : RootLogger) (w : World) (path : PosixPath) (level : String)

/-! One equation for each way a set-up can go: the three steps, in their
order, each able to stop it. -/

theorem installJournal_of_levelOf_error {f : Failure} (h : Journal.levelOf level = .error f) :
    root.installJournal w path level = (root, .error f) := by
  simp [installJournal, h]

theorem installJournal_of_mkdirs_error {n : Nat} {e : OsError}
    (hl : Journal.levelOf level = .ok n) (hm : w.mkdirs (World.parentOf path) = .error e) :
    root.installJournal w path level = (⟨n, root.others⟩, .error (.os e)) := by
  simp [installJournal, hl, hm, others]

theorem installJournal_of_mkdirs_ok {n : Nat} {w' : World}
    (hl : Journal.levelOf level = .ok n) (hm : w.mkdirs (World.parentOf path) = .ok w') :
    root.installJournal w path level = (⟨n, root.others ++ [.journal path]⟩, .ok w') := by
  simp [installJournal, hl, hm, others]

theorem installJournal_cases :
    (∃ f, Journal.levelOf level = .error f ∧
        root.installJournal w path level = (root, .error f)) ∨
    (∃ n e, Journal.levelOf level = .ok n ∧ w.mkdirs (World.parentOf path) = .error e ∧
        root.installJournal w path level = (⟨n, root.others⟩, .error (.os e))) ∨
    (∃ n w', Journal.levelOf level = .ok n ∧ w.mkdirs (World.parentOf path) = .ok w' ∧
        root.installJournal w path level = (⟨n, root.others ++ [.journal path]⟩, .ok w')) := by
  cases hl : Journal.levelOf level with
  | error f => exact .inl ⟨f, rfl, installJournal_of_levelOf_error root w path level hl⟩
  | ok n =>
    cases hm : w.mkdirs (World.parentOf path) with
    | error e => exact .inr (.inl ⟨n, e, rfl, rfl, installJournal_of_mkdirs_error root w path level hl hm⟩)
    | ok w' => exact .inr (.inr ⟨n, w', rfl, rfl, installJournal_of_mkdirs_ok root w path level hl hm⟩)

@[simp] theorem others_installJournal :
    (root.installJournal w path level).1.others = root.others := by
  rcases installJournal_cases root w path level with
    ⟨f, -, h⟩ | ⟨n, e, -, -, h⟩ | ⟨n, w', -, -, h⟩ <;> simp [h]

theorem journals_installJournal :
    (root.installJournal w path level).1.journals = root.journals ∨
    (root.installJournal w path level).1.journals = [] ∨
    (root.installJournal w path level).1.journals = [.journal path] := by
  rcases installJournal_cases root w path level with
    ⟨f, -, h⟩ | ⟨n, e, -, -, h⟩ | ⟨n, w', -, -, h⟩
  · exact .inl (by rw [h])
  · exact .inr (.inl (by simp [h]))
  · exact .inr (.inr (by simp [h, List.filter_append]))

/-- What one set-up leaves behind. One that returns leaves the handlers of
other kinds as they were, in their order, then the new journal and nothing
after it, and the level its name gives. One that raises either refused the
level name and changed nothing, or failed to make the file's directories
after it had taken the new level and dropped every journal. -/
theorem installJournal_outcome :
    (∀ w', (root.installJournal w path level).2 = .ok w' →
      (root.installJournal w path level).1.handlers = root.others ++ [.journal path] ∧
      (root.installJournal w path level).1.level =
        (Journal.levels.lookup (Journal.upperName level)).getD 30) ∧
    (∀ f, (root.installJournal w path level).2 = .error f →
      (Journal.levelOf level = .error f ∧ (root.installJournal w path level).1 = root) ∨
      (∃ e, w.mkdirs (World.parentOf path) = .error e ∧ f = .os e ∧
        (root.installJournal w path level).1.level =
          (Journal.levels.lookup (Journal.upperName level)).getD 30 ∧
        (root.installJournal w path level).1.handlers = root.others)) := by
  rcases installJournal_cases root w path level with
    ⟨f, hl, h⟩ | ⟨n, e, hl, hm, h⟩ | ⟨n, w', hl, hm, h⟩
  · -- the level name is refused: nothing else ran
    rw [h]
    refine ⟨by simp, ?_⟩
    rintro f' ⟨⟩
    exact .inl ⟨hl, rfl⟩
  · -- the directories could not be made: the level and the dropped journals stay
    rw [h]
    refine ⟨by simp, ?_⟩
    rintro f' ⟨⟩
    exact .inr ⟨e, hm, rfl, Journal.levelOf_eq_ok_getD hl, rfl⟩
  · rw [h]
    refine ⟨?_, by simp⟩
    rintro w'' -
    exact ⟨rfl, Journal.levelOf_eq_ok_getD hl⟩

/-- A set-up whose directory cannot be made, since a file stands where it
should be, still takes the new level and drops the journal set up before. -/
theorem failed_setup_drops_previous_journal :
    let root : RootLogger := ⟨30, [.other "console", .journal ⟨.relative, ["old.jsonl"]⟩]⟩
    let w : World := { tree := ⟨[(["logs"], .file [])]⟩ }
    root.installJournal w ⟨.relative, ["logs", "new.jsonl"]⟩ "DEBUG" =
      (⟨10, [.other "console"]⟩, .error (.os (.coded 17 ["logs"]))) := by
  intro root w
  have hl : Journal.levelOf "DEBUG" = .ok 10 := by cbv
  have hm : w.mkdirs (World.parentOf ⟨.relative, ["logs", "new.jsonl"]⟩) =
      .error (.coded 17 ["logs"]) := by cbv
  rw [installJournal_of_mkdirs_error root w _ _ hl hm]
  simp [root]

end Install

theorem others_addOther (root : RootLogger) (name : String) :
    (root.addOther name).others =
      if Handler.other name ∈ root.others then root.others
      else root.others ++ [.other name] := by
  unfold addOther
  by_cases h : Handler.other name ∈ root.handlers
  · simp [h, mem_others_other]
  · simp [h, others, List.filter_append]

@[simp] theorem journals_addOther (root : RootLogger) (name : String) :
    (root.addOther name).journals = root.journals := by
  unfold addOther
  split_ifs <;> simp [journals, List.filter_append]

theorem others_addOther_congr {root root' : RootLogger} (h : root.others = root'.others)
    (name : String) : (root.addOther name).others = (root'.addOther name).others := by
  rw [others_addOther, others_addOther, h]

end RootLogger

/-- A change to the root logger: setting up a journal on a file from the
level a text names, or adding a handler of another kind. -/
inductive Change where
  | install (path : PosixPath) (level : String)
  | add (name : String)
  deriving Repr

namespace Change

/-- Make a change. A set-up that raises leaves the world as it was and the
root logger as far as it got. -/
def apply (s : RootLogger × World) : Change → RootLogger × World
  | install path level =>
    let r := s.1.installJournal s.2 path level
    (r.1, r.2.toOption.getD s.2)
  | add name => (s.1.addOther name, s.2)

/-- The handler a change adds, if it is an addition. -/
def added : Change → Option String
  | install _ _ => none
  | add name => some name

end Change

namespace RootLogger

theorem others_run (cs : List Change) (s : RootLogger × World) :
    (cs.foldl Change.apply s).1.others =
      ((cs.filterMap Change.added).foldl addOther s.1).others := by
  -- carry a root logger that has seen only the additions, with the same others
  suffices key : ∀ (root : RootLogger), root.others = s.1.others →
      (cs.foldl Change.apply s).1.others =
        ((cs.filterMap Change.added).foldl addOther root).others from key s.1 rfl
  induction cs generalizing s with
  | nil => intro root h; exact h.symm
  | cons c cs ih =>
    intro root h
    cases c with
    | install path level =>
      exact ih _ root (by simp [Change.apply, h])
    | add name =>
      exact ih _ (root.addOther name) (others_addOther_congr h name)

theorem journals_length_run (cs : List Change) (s : RootLogger × World)
    (h : s.1.journals.length ≤ 1) : (cs.foldl Change.apply s).1.journals.length ≤ 1 := by
  induction cs generalizing s with
  | nil => exact h
  | cons c cs ih =>
    apply ih
    cases c with
    | install path level =>
      rcases journals_installJournal s.1 s.2 path level with h' | h' | h' <;>
        simp [Change.apply, h', h]
    | add name => simpa [Change.apply] using h

end RootLogger

end ModuleLocator
