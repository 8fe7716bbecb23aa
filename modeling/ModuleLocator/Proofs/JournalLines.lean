import ModuleLocator.Proofs.JsonRoundTrip
import ModuleLocator.Proofs.Appending
import ModuleLocator.Journal
/-!
What a journal file holds. A journal writes each record it takes as one
line of compact JSON, appended to its file in UTF-8. A line is fit for one
line of text (`JsonText.LineText`), so the file splits back into the
lines written, and each line reads back as the document of its record:
time, level name, schema, logger, event or null, message, and the path
and error where the entry has them (`LogEntry.doc`). A line with a lone
surrogate half has no UTF-8 form and is lost, while its file is still made.
-/

namespace ModuleLocator

open JsonText

/-! ### The line of a log entry -/

namespace LogEntry

/-- The texts an entry brings to its line besides its logger, in the
line's order: the event where it has one, the message, then the path and
the error where it has them. -/
def texts (e : LogEntry) : List String := e.event.toList ++ e.message :: (e.path.toList ++ e.error.toList)

/-- The document of an entry's journal line at time `now`, as the journal
lays it out: time, level name, schema, logger, event or null and message,
then the path and the error where the entry has them. -/
def doc (e : LogEntry) (now : String) : Doc :=
  let text (s : String) : Doc := .text (points s)
  .object ([(points "ts", text now), (points "lvl", text e.level.name),
      (points "schema", .object [(points "name", text "module-finder.log"), (points "ver", text "1.0.0")]),
      (points "logger", text e.channel.name), (points "event", (e.event.map text).getD .null),
      (points "message", text e.message)] ++
    (e.path.map fun p => (points "path", text p)).toList ++ (e.error.map fun x => (points "error", text x)).toList)

end LogEntry

theorem levelName_severity (l : Level) : Record.levelName l.severity = l.name := by
  cases l <;> rfl

theorem severity_pos (l : Level) : 0 < l.severity := by
  cases l <;> decide

theorem hasHalf_level_name (l : Level) : Text.hasHalf l.name = false := by
  cases l <;> decide

theorem hasHalf_channel_name (c : Channel) : Text.hasHalf c.name = false := by
  cases c <;> decide

namespace Record

variable (e : LogEntry) (now : String)

theorem docOf_line_ofEntry : docOf ((ofEntry e).line now) = e.doc now := by
  obtain ⟨level, channel, message, event, path, error⟩ := e
  cases event <;> cases path <;> cases error <;>
  simp +decide [line, ofEntry, LogEntry.doc, docOf, membersOf, putMember, keyText, levelName_severity]

theorem plain_line (r : Record) (hx : ∀ kv ∈ r.extra, Plain kv.2) : Plain (r.line now) := by
  unfold line
  refine .map fun kv hkv => ?_
  obtain ⟨⟨k, v⟩, hmem, rfl⟩ := List.mem_map.mp hkv
  rcases List.mem_append.mp hmem with hh | hm
  · -- the fields every line has: texts, the schema, and the event or null
    simp only [List.mem_cons, List.not_mem_nil, or_false, Prod.mk.injEq] at hh
    rcases hh with ⟨-, rfl⟩ | ⟨-, rfl⟩ | ⟨-, rfl⟩ | ⟨-, rfl⟩ | ⟨-, rfl⟩ | ⟨-, rfl⟩
    · exact .str _
    · exact .str _
    · refine .map fun kv hkv => ?_
      simp only [List.mem_cons, List.not_mem_nil, or_false] at hkv
      rcases hkv with rfl | rfl <;> exact .str _
    · exact .str _
    · cases hf : r.extra.find? (fun x => decide (x.1 = "event")) with
      | none => exact .null
      | some kv' =>
        obtain ⟨k', v'⟩ := kv'
        exact hx _ (List.mem_of_find?_eq_some hf)
    · exact .str _
  · exact hx _ (List.mem_of_mem_filter hm)

theorem mem_extra_ofEntry {kv : String × Value} (hkv : kv ∈ (ofEntry e).extra) :
    kv.1 ∈ ["event", "path", "error"] ∧ ∃ s, kv.2 = .str s := by
  simp only [ofEntry, List.mem_append, Option.mem_toList, Option.map_eq_some_iff] at hkv
  rcases hkv with (⟨s, -, rfl⟩ | ⟨s, -, rfl⟩) | ⟨s, -, rfl⟩ <;> exact ⟨by simp, s, rfl⟩

theorem plain_extra_ofEntry : ∀ kv ∈ (ofEntry e).extra, Plain kv.2 := by
  intro kv hkv
  obtain ⟨-, s, hs⟩ := mem_extra_ofEntry e hkv
  rw [hs]
  exact .str s

theorem halfIn_line_ofEntry : halfIn ((ofEntry e).line now) = (Text.hasHalf now || e.texts.any Text.hasHalf) := by
  -- the keys and fixed texts of a line are ASCII
  have hfixed : ∀ k ∈ ["ts", "lvl", "schema", "name", "module-finder.log", "ver", "1.0.0", "logger", "event",
      "message", "path", "error"], Text.hasHalf k = false := by decide
  simp only [List.forall_mem_cons] at hfixed
  obtain ⟨level, channel, message, event, path, error⟩ := e
  cases event <;> cases path <;> cases error <;>
  simp +decide [line, ofEntry, LogEntry.texts, halfIn, halfInEntries, keyText, levelName_severity,
    hasHalf_level_name, hasHalf_channel_name, hfixed]

theorem clash_ofEntry : (ofEntry e).clash? = none := by
  have hfree : ∀ k ∈ ["event", "path", "error"], attributes.contains k = false := by
    simp [attributes]
  simp only [clash?, Option.map_eq_none_iff, List.find?_eq_none]
  intro kv hkv
  simpa using hfree kv.1 (mem_extra_ofEntry e hkv).1

end Record

/-! ### The bytes of journal lines -/

namespace Journal

/-- The bytes a journal appends for a record it takes at time `now`:
nothing when the line has no UTF-8 form. -/
def lineBytes (r : Record) (now : String) : List UInt8 :=
  (Text.encodeUtf8 (compact false (r.line now) ++ "\n")).toOption.getD []

/-- The characters of a record's line at time `now`. -/
def lineChars (r : Record) (now : String) : List Char := (write tight 0 (r.line now)).toList

theorem ofList_lineChars (r : Record) (now : String) : String.ofList (lineChars r now) = compact false (r.line now) :=
  String.ofList_toList

theorem line_text (r : Record) (now : String) :
    compact false (r.line now) ++ "\n" = String.ofList (lineChars r now ++ ['\n']) := by
  rw [String.ofList_append, lineChars, String.ofList_toList]
  rfl

theorem lineBytes_spell (now : String) :
    ∀ (rs : List Record), (∀ r ∈ rs, Plain (r.line now)) →
      ∃ ns, Text.Spells ns ((rs.filter fun r => !halfIn (r.line now)).flatMap fun r => lineChars r now ++ ['\n']) ∧
        (∀ n ∈ ns, Text.isHalf n = false) ∧ rs.flatMap (lineBytes · now) = ns.flatMap Text.pointBytes
  | [], _ => ⟨[], Text.Spells.nil, fun _ h => absurd h List.not_mem_nil, rfl⟩
  | r :: rs, hp => by
    obtain ⟨ns, hns, hhalf, hbytes⟩ := lineBytes_spell now rs fun r' hr' => hp r' (List.mem_cons_of_mem _ hr')
    obtain ⟨⟨ms, hms, hany⟩, -⟩ := LineText.write (hp r List.mem_cons_self) 0
    have hline : Text.Spells (ms ++ [10]) (lineChars r now ++ ['\n']) := hms.append (Text.Spells.char (by decide))
    cases hh : halfIn (r.line now)
    · -- a line without a half is written as the bytes of its code points and a line break
      rw [hh] at hany
      have hms_half : ∀ n ∈ ms ++ [10], Text.isHalf n = false := by
        intro n hn
        rcases List.mem_append.mp hn with hn | hn
        · simpa using List.any_eq_false.mp hany n hn
        · rw [List.mem_singleton.mp hn]
          rfl
      have henc := (hline.encode_decode hms_half).1
      refine ⟨(ms ++ [10]) ++ ns, ?_, ?_, ?_⟩
      · simpa [List.filter_cons, hh] using hline.append hns
      · intro n hn
        rcases List.mem_append.mp hn with hn | hn
        · exact hms_half n hn
        · exact hhalf n hn
      · rw [List.flatMap_cons, hbytes, lineBytes, line_text, henc]
        simp [Except.toOption]
    · -- a line with a half has no UTF-8 form, and adds nothing
      rw [hh] at hany
      have hlost : lineBytes r now = [] := by
        cases henc : Text.encodeUtf8 (compact false (r.line now) ++ "\n") with
        | error err => simp [lineBytes, henc, Except.toOption]
        | ok bs =>
          rw [line_text] at henc
          have hfree := ((Text.encodeUtf8_eq_ok_iff _ _).mp henc).1
          rw [Text.hasHalf, hline.points_ofList, List.any_append, hany] at hfree
          cases hfree
      refine ⟨ns, ?_, hhalf, ?_⟩
      · simpa [List.filter_cons, hh] using hns
      · rw [List.flatMap_cons, hlost, List.nil_append, hbytes]

/-! ### Logging records one after another -/

variable {j : Journal} {w₁ : World} {F : PosixPath} {L : List String}

theorem log_of_not_takes (w : World) {r : Record} (ht : j.takes r = false) : j.log w r = .ok w := by
  simp [log, ht]

theorem log_of_takes (hj : j.path = F) (hs : World.Slot w₁ F L) {w : World} (hw : World.Extends w₁ w)
    {r : Record} (ht : j.takes r = true) (hc : r.clash? = none) {c : Option (List UInt8)}
    (hL : w.tree.get? L = c.map .file) :
    j.log w r = .ok { w with tree := w.tree.put L (.file (c.getD [] ++ lineBytes r w.now)) } := by
  unfold log
  rw [ht, hc, hj]
  dsimp only [Bool.not_true, Bool.false_eq_true, if_false]
  cases c with
  | none => rw [hs.appendFile_of_none hw hL]; rfl
  | some bs => rw [hs.appendFile_of_file hw hL]; rfl

theorem logAll_slot (hj : j.path = F) (hs : World.Slot w₁ F L) :
    ∀ (rs : List Record) (w : World) (c : Option (List UInt8)), World.Extends w₁ w → w.now = w₁.now →
      w.faults = w₁.faults → (∀ r ∈ rs, r.clash? = none) → w.tree.get? L = c.map .file →
      (j.logAll w rs).2 = rs.map (fun _ => none) ∧ World.Extends w₁ (j.logAll w rs).1 ∧
        (j.logAll w rs).1.now = w₁.now ∧ (j.logAll w rs).1.faults = w₁.faults ∧
        (j.logAll w rs).1.tree.get? L =
          (if rs.any j.takes then some (c.getD [] ++ (rs.filter j.takes).flatMap (lineBytes · w₁.now))
            else c).map .file
  | [], w, c, hw, hn, hf, _, hL => by
    simp [logAll, hw, hn, hf, hL]
  | r :: rs, w, c, hw, hn, hf, hc, hL => by
    have hcs : ∀ r' ∈ rs, r'.clash? = none := fun r' h' => hc r' (List.mem_cons_of_mem _ h')
    cases ht : j.takes r
    · -- a record the journal does not take changes nothing
      obtain ⟨h2, hw', hn', hf', hL'⟩ := logAll_slot hj hs rs w c hw hn hf hcs hL
      simp only [logAll, log_of_not_takes w ht]
      exact ⟨by simp [h2], hw', hn', hf', by simpa [List.filter_cons, ht] using hL'⟩
    · -- a record taken puts its bytes at the slot; the rest follow them
      have hput := hw.put hs.empty (.file (c.getD [] ++ lineBytes r w.now))
      have hL₁ : (w.tree.put L (.file (c.getD [] ++ lineBytes r w.now))).get? L =
          (some (c.getD [] ++ lineBytes r w₁.now)).map .file := by
        rw [FileTree.get?_put_self _ hs.ne_nil, hn]
        rfl
      obtain ⟨h2, hw', hn', hf', hL'⟩ :=
        logAll_slot hj hs rs _ (some (c.getD [] ++ lineBytes r w₁.now)) hput hn hf hcs hL₁
      simp only [logAll, log_of_takes hj hs hw ht (hc r List.mem_cons_self) hL]
      refine ⟨by simp [h2], hw', hn', hf', ?_⟩
      rw [hL']
      by_cases hany : rs.any j.takes = true
      · simp [hany, ht]
      · have hnone : rs.filter j.takes = [] := by
          rw [List.filter_eq_nil_iff]
          intro a ha hta
          exact hany (List.any_eq_true.mpr ⟨a, ha, hta⟩)
        simp [hany, ht, hnone]

end Journal

/-! ### Text split into lines -/

theorem unifyLineEnds_of_not_mem : ∀ {cs : List Char}, '\r' ∉ cs → Text.unifyLineEnds cs = cs
  | [], _ => rfl
  | c :: cs, h => by
    have hc : c ≠ '\r' := fun he => h (he ▸ List.mem_cons_self)
    have ih := unifyLineEnds_of_not_mem fun hm => h (List.mem_cons_of_mem c hm)
    simp [Text.unifyLineEnds, hc, ih]

theorem splitOn_lines : ∀ (ls : List (List Char)), (∀ l ∈ ls, '\n' ∉ l) →
    (ls.flatMap (· ++ ['\n'])).splitOn '\n' = ls ++ [[]]
  | [], _ => rfl
  | l :: ls, h => by
    rw [List.flatMap_cons, List.append_assoc, List.singleton_append,
      List.splitOn_append_cons_self_of_not_mem (h l List.mem_cons_self),
      splitOn_lines ls fun l' hl' => h l' (List.mem_cons_of_mem l hl')]
    rfl

theorem World.readLines_of_lines {w : World} {site : OpenSite} {p : PosixPath} {bs : List UInt8}
    {ls : List (List Char)} (hb : w.readBytes site p = .ok bs)
    (hd : Text.decodeUtf8 bs = .ok (String.ofList (ls.flatMap (· ++ ['\n']))))
    (hl : ∀ l ∈ ls, '\n' ∉ l ∧ '\r' ∉ l) : w.readLines site p = (ls.map String.ofList, none) := by
  have hcr : '\r' ∉ ls.flatMap (· ++ ['\n']) := by
    simp only [List.mem_flatMap, List.mem_append, List.mem_singleton, not_exists, not_and, not_or]
    exact fun l hl' => ⟨(hl l hl').2, by decide⟩
  unfold readLines
  rw [hb]
  dsimp only
  rw [hd]
  dsimp only
  rw [String.toList_ofList, unifyLineEnds_of_not_mem hcr, splitOn_lines ls fun l hl' => (hl l hl').1,
    List.map_append, List.getLast?_append]
  simp

/-! ### What a journal file holds -/

namespace Journal

theorem setUp_ok {w w₁ : World} {F : PosixPath} {level : String} {j : Journal}
    (hset : setUp w F level = .ok (w₁, j)) : j.path = F ∧ ∃ P, w₁.stat (World.parentOf F) = .ok (P, .dir) := by
  unfold setUp at hset
  cases hl : levelOf level with
  | error e =>
    rw [hl] at hset
    cases hset
  | ok t =>
    cases hm : w.mkdirs (World.parentOf F) with
    | error e =>
      simp [hl, hm, bind, Except.bind, Except.mapError] at hset
    | ok w' =>
      simp only [hl, hm, bind, Except.bind, Except.mapError, pure, Except.pure, Except.ok.injEq,
        Prod.mk.injEq] at hset
      obtain ⟨rfl, rfl⟩ := hset
      exact ⟨rfl, World.mkdirs_stat hm⟩

theorem takes_ofEntry (j : Journal) (e : LogEntry) :
    j.takes (Record.ofEntry e) = decide (j.threshold ≤ e.level.severity) := by
  simp [takes, Record.ofEntry, severity_pos]

theorem filter_takes_ofEntry (j : Journal) (es : List LogEntry) :
    (es.map Record.ofEntry).filter j.takes =
      (es.filter fun e => decide (j.threshold ≤ e.level.severity)).map Record.ofEntry := by
  rw [List.filter_map]
  congr 1
  apply List.filter_congr
  intro e _
  simp [takes_ofEntry]

theorem any_takes_ofEntry (j : Journal) (es : List LogEntry) :
    (es.map Record.ofEntry).any j.takes = decide (∃ e ∈ es, j.threshold ≤ e.level.severity) := by
  rw [Bool.eq_iff_iff]
  simp [takes_ofEntry, List.any_eq_true]

theorem filter_halfIn_ofEntry (now : String) (es : List LogEntry) :
    (es.map Record.ofEntry).filter (fun r => !halfIn (r.line now)) =
      (es.filter fun e => !(now :: e.texts).any Text.hasHalf).map Record.ofEntry := by
  rw [List.filter_map]
  congr 1
  apply List.filter_congr
  intro e _
  simp [Record.halfIn_line_ofEntry]

theorem lineChars_no_break {r : Record} {now : String} (hp : Plain (r.line now)) :
    '\n' ∉ lineChars r now ∧ '\r' ∉ lineChars r now := by
  have hfit := (LineText.write hp 0).no_control
  exact ⟨fun hc => absurd (hfit _ hc) (by decide), fun hc => absurd (hfit _ hc) (by decide)⟩

theorem readLines_lineBytes {w : World} {F : PosixPath} {now : String} {rs : List Record}
    (hp : ∀ r ∈ rs, Plain (r.line now)) (hb : w.readBytes .plain F = .ok (rs.flatMap (lineBytes · now))) :
    w.readLines .plain F =
      ((rs.filter fun r => !halfIn (r.line now)).map fun r => compact false (r.line now), none) := by
  obtain ⟨ns, hns, hhalf, hbytes⟩ := lineBytes_spell now rs hp
  let ls := (rs.filter fun r => !halfIn (r.line now)).map fun r => lineChars r now
  have hls : ls.flatMap (· ++ ['\n']) =
      (rs.filter fun r => !halfIn (r.line now)).flatMap fun r => lineChars r now ++ ['\n'] := by
    simp [ls, List.flatMap_map]
  have hdecode := (hns.encode_decode hhalf).2
  rw [← hbytes, ← hls] at hdecode
  have hlines : ∀ l ∈ ls, '\n' ∉ l ∧ '\r' ∉ l := by
    intro l hl
    obtain ⟨r, hr, rfl⟩ := List.mem_map.mp hl
    exact lineChars_no_break (hp r (List.mem_of_mem_filter hr))
  rw [World.readLines_of_lines hb (by simpa using hdecode) hlines]
  simp [ls, ofList_lineChars]

end Journal

/-- The journal file holds one line for each entry logged at or above the
journal's level whose texts, and the time, hold no lone half, in the order
logged; each line reads back as the entry's document.

Set up a journal on a path `F` the calls take, where nothing stands once
its parent is made and from which no failure is injected. Log any entries
through it. No record is refused. The lines of `F` read back exactly as the
documents of the entries kept, in order: an entry below the level is left
out, and so is one whose line holds a lone surrogate half, which has no
UTF-8 form. Once any entry is at or above the level, `F` exists and reads
without error. -/
theorem journal_lines_read_back {w w₁ : World} {F : PosixPath} {level : String} {j : Journal}
    (hset : Journal.setUp w F level = .ok (w₁, j)) (hr : World.refusal? F = none)
    (hfresh : w₁.lstat F = .error Errno.noEntry) (hfault : w₁.faultAt .plain F = none)
    (es : List LogEntry) :
    let after := j.logAll w₁ (es.map Record.ofEntry)
    let kept := es.filter fun e => decide (j.threshold ≤ e.level.severity) && !(w₁.now :: e.texts).any Text.hasHalf
    after.2 = es.map (fun _ => none) ∧
      (after.1.readLines .plain F).1.map JsonText.read = kept.map (fun e => .ok (e.doc w₁.now)) ∧
      ((∃ e ∈ es, j.threshold ≤ e.level.severity) → (after.1.readLines .plain F).2 = none) := by
  intro after kept
  obtain ⟨hj, P, hpar⟩ := Journal.setUp_ok hset
  obtain ⟨L, hs⟩ := World.slot_of_missing hr hpar hfresh
  obtain ⟨h2, hw, -, hf, hL⟩ := Journal.logAll_slot hj hs (es.map Record.ofEntry) w₁ none
    (World.Extends.refl w₁) rfl rfl (by simp [Record.clash_ofEntry]) (by rw [hs.empty]; rfl)
  refine ⟨by rw [h2, List.map_map]; rfl, ?_⟩
  -- the entries taken are those at or above the level
  let taken := es.filter fun e => decide (j.threshold ≤ e.level.severity)
  by_cases hsome : ∃ e ∈ es, j.threshold ≤ e.level.severity
  · -- the file holds the bytes of the lines taken
    rw [Journal.any_takes_ofEntry, decide_eq_true hsome, if_pos rfl, Journal.filter_takes_ofEntry] at hL
    have hfault' : after.1.faultAt .plain F = none := by
      have hsame : after.1.faults = w₁.faults := hf
      unfold World.faultAt at hfault ⊢
      rw [hsame]
      exact hfault
    have hread := hs.readBytes_of_file hw (by simpa using hL) hfault'
    have hplain : ∀ r ∈ taken.map Record.ofEntry, Plain (r.line w₁.now) := by
      intro r hr'
      obtain ⟨e, -, rfl⟩ := List.mem_map.mp hr'
      exact Record.plain_line _ _ (Record.plain_extra_ofEntry e)
    -- of those, the lines without a half are the lines of the entries kept
    have hkept : taken.filter (fun e => !(w₁.now :: e.texts).any Text.hasHalf) = kept := by
      simp only [taken, kept, List.filter_filter]
      apply List.filter_congr
      intro e _
      exact Bool.and_comm _ _
    rw [Journal.readLines_lineBytes hplain hread, Journal.filter_halfIn_ofEntry, hkept]
    refine ⟨?_, fun _ => rfl⟩
    simp only [List.map_map]
    apply List.map_congr_left
    intro e _
    simp only [Function.comp]
    rw [read_compact (Record.plain_line _ _ (Record.plain_extra_ofEntry e)), Record.docOf_line_ofEntry]
  · -- nothing is taken, the file is never made, and no entry is kept
    rw [Journal.any_takes_ofEntry, decide_eq_false hsome] at hL
    obtain ⟨err, herr⟩ := hs.readBytes_of_none hw (by simpa using hL)
    have hunread : after.1.readBytes .plain F = .error err := herr
    have hnone : kept = [] := by
      rw [List.filter_eq_nil_iff]
      intro e he
      simp only [not_exists, not_and, Nat.not_le] at hsome
      simp [Nat.not_le.mpr (hsome e he)]
    refine ⟨?_, fun h => absurd h hsome⟩
    simp [World.readLines, hunread, hnone]

/-- A journal at the debug level over a fresh file, given a warning and a
warning whose message is one lone low half: both calls return with no error,
and the file holds the first line only. -/
theorem journal_drops_entry_with_lone_half :
    let F : PosixPath := ⟨.relative, ["journal"]⟩
    let j : Journal := ⟨F, 10⟩
    let es := [LogEntry.warning .finder "cannot probe", LogEntry.warning .finder (Text.ofPoints [0xDC80])]
    let after := j.logAll {} (es.map Record.ofEntry)
    Journal.setUp {} F "DEBUG" = .ok ({}, j) ∧ World.refusal? F = none ∧
      ({} : World).lstat F = .error Errno.noEntry ∧ ({} : World).faultAt .plain F = none ∧
      after.2 = [none, none] ∧
      (after.1.readLines .plain F).1.map JsonText.read =
        [.ok ((LogEntry.warning .finder "cannot probe").doc ({} : World).now)] ∧
      (after.1.readLines .plain F).2 = none := by
  intro F j es after
  have hset : Journal.setUp {} F "DEBUG" = .ok ({}, j) := by cbv
  have hr : World.refusal? F = none := by cbv
  have hfresh : ({} : World).lstat F = .error Errno.noEntry := by cbv
  have hfault : ({} : World).faultAt .plain F = none := by cbv
  obtain ⟨h2, hread, hnone⟩ := journal_lines_read_back hset hr hfresh hfault es
  -- the first message has no half and is kept; the second is a lone low half
  have hkept : es.filter (fun e => decide (j.threshold ≤ e.level.severity) &&
      !(({} : World).now :: e.texts).any Text.hasHalf) = [LogEntry.warning .finder "cannot probe"] := by
    cbv
  refine ⟨hset, hr, hfresh, hfault, h2, ?_, hnone ⟨_, List.mem_cons_self .., by decide⟩⟩
  rw [hread, hkept]
  rfl

end ModuleLocator
