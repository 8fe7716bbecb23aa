import ModuleLocator.Proofs.SpecRoundTrip
import ModuleLocator.Settings
/-!
Where the finder's settings come from.
-/

namespace ModuleLocator

/-! ### Looking up a field in mapping entries -/

namespace Value

theorem sameKey_str_right (a : Value) (s : String) : sameKey a (.str s) = true ↔ a = .str s := by
  cases a with
  | str t => simp [sameKey]
  | _ => simp [sameKey, numeric?]

end Value

theorem lookupField_nil (name : String) : lookupField [] name = none := rfl

theorem lookupField_cons (k v : Value) (es : List (Value × Value)) (name : String) :
    lookupField ((k, v) :: es) name = if Value.sameKey k (.str name) then some v else lookupField es name := by
  cases k with
  | str t => by_cases h : t = name <;> simp [lookupField, Value.sameKey, h]
  | _ => simp [lookupField, Value.sameKey, Value.numeric?]

theorem lookupField_append (xs ys : List (Value × Value)) (name : String) :
    lookupField (xs ++ ys) name = (lookupField xs name).or (lookupField ys name) := by
  induction xs with
  | nil => rfl
  | cons e xs ih =>
    rw [List.cons_append, lookupField_cons, lookupField_cons, ih]
    split <;> rfl

theorem lookupField_eq_none_iff (es : List (Value × Value)) (name : String) :
    lookupField es name = none ↔ ∀ e ∈ es, Value.sameKey e.1 (.str name) = false := by
  induction es with
  | nil => simp [lookupField_nil]
  | cons e es ih =>
    rw [lookupField_cons, List.forall_mem_cons, ← ih]
    split <;> simp_all

theorem lookupField_map_put (es : List (Value × Value)) (k v : Value) (name : String) :
    lookupField (es.map fun e => if Value.sameKey e.1 k then (e.1, v) else e) name =
      if Value.sameKey k (.str name) then (lookupField es name).map fun _ => v
      else lookupField es name := by
  induction es with
  | nil => split <;> rfl
  | cons e es ih =>
    obtain ⟨k', v'⟩ := e
    rw [List.map_cons]
    dsimp only
    by_cases hk' : Value.sameKey k' (.str name) = true
    · -- the entry named: it takes `v` exactly when `k` names the field too
      obtain rfl := (Value.sameKey_str_right _ _).1 hk'
      have hsame : Value.sameKey (.str name) k = Value.sameKey k (.str name) := by
        cases k <;> simp [Value.sameKey, Value.numeric?, eq_comm]
      by_cases hk : Value.sameKey k (.str name) = true
      · rw [hsame, if_pos hk, if_pos hk, lookupField_cons, lookupField_cons, if_pos hk', if_pos hk']
        rfl
      · rw [hsame, if_neg hk, if_neg hk, lookupField_cons, lookupField_cons, if_pos hk', if_pos hk']
    · have hhead : ∀ (x : Value) (rest : List (Value × Value)),
          lookupField ((k', x) :: rest) name = lookupField rest name :=
        fun x rest => by rw [lookupField_cons, if_neg hk']
      rw [hhead v' es, ← ih]
      split <;> exact hhead _ _

theorem lookupField_putEntry (es : List (Value × Value)) (k v : Value) (name : String) :
    lookupField (Value.putEntry es k v) name =
      if Value.sameKey k (.str name) then some v else lookupField es name := by
  unfold Value.putEntry
  split
  · rename_i hany
    rw [lookupField_map_put]
    split
    · -- an entry with the key is there, so the field has a value to replace
      rename_i hk
      rw [(Value.sameKey_str_right _ _).1 hk] at hany
      obtain ⟨e, he, hsame⟩ := List.any_eq_true.1 hany
      have hsome : lookupField es name ≠ none := by
        rw [ne_eq, lookupField_eq_none_iff]
        intro h
        simp [h e he] at hsame
      obtain ⟨x, hx⟩ := Option.ne_none_iff_exists'.1 hsome
      rw [hx]
      rfl
    · rfl
  · rename_i hany
    rw [lookupField_append, lookupField_cons, lookupField_nil]
    split
    · rename_i hk
      rw [(Value.sameKey_str_right _ _).1 hk] at hany
      have hnone : lookupField es name = none := by
        rw [lookupField_eq_none_iff]
        intro e he
        simpa using fun h => hany (List.any_eq_true.2 ⟨e, he, h⟩)
      rw [hnone]
      rfl
    · exact Option.or_none

theorem lookupField_foldl_putEntry (xs acc : List (Value × Value)) (name : String) :
    lookupField (xs.foldl (fun acc e => Value.putEntry acc e.1 e.2) acc) name =
      (lookupField xs.reverse name).or (lookupField acc name) := by
  induction xs generalizing acc with
  | nil => rfl
  | cons e xs ih =>
    obtain ⟨k, v⟩ := e
    rw [List.foldl_cons, ih, lookupField_putEntry, List.reverse_cons, lookupField_append,
      lookupField_cons, lookupField_nil, Option.or_assoc]
    split <;> rfl

theorem Except.bind_eq_ok_iff {ε α β : Type} (x : Except ε α) (f : α → Except ε β) (b : β) :
    (x >>= f) = .ok b ↔ ∃ a, x = .ok a ∧ f a = .ok b := by
  cases x <;> simp


/-! ### Bytes that do not decode -/

theorem Text.chunkBytes_le_chunkSize (ratio : Float) (want : Nat) :
    Text.chunkBytes ≤ Text.chunkSize ratio want := by
  unfold Text.chunkSize
  exact Nat.le_max_left _ _

/-- Bytes that fit in one chunk and do not decode, other than by a character
cut off at their end, hand out no block: the first read fails. -/
theorem Text.readBlocks_of_first_chunk_error {bs : List UInt8} {e : Text.DecodeError}
    (hlen : bs.length ≤ Text.chunkBytes) (hdec : Text.decodeUtf8 bs = .error e)
    (hend : e.fault ≠ .unexpectedEnd) {n : Nat} (hn : 0 < n) : Text.readBlocks bs n = ([], some e) := by
  -- the first chunk read is the whole of the bytes, and it does not decode
  have hfirst : ({ rest := bs } : Text.TextReader).fill n = .error e := by
    have htake : bs.take (Text.chunkSize 0.0 n) = bs :=
      List.take_of_length_le (hlen.trans (Text.chunkBytes_le_chunkSize _ _))
    simp [Text.TextReader.fill, htake, Text.decodeChunk, hdec, hend]
  simp [Text.readBlocks, Text.TextReader.blocksFrom, Text.TextReader.read, Text.TextReader.gather, hn.ne', hfirst]

/-- A stream that fails before its first block raises its failure before
anything is scanned. -/
theorem Yaml.loadBlocks_of_no_blocks (d : CallDepth) (e : Text.DecodeError) :
    Yaml.loadBlocks d [] (some e) = .error (.raised "UnicodeDecodeError" e.message) := by
  simp [Yaml.loadBlocks, Yaml.loadSource, Yaml.Document.ofSource, Yaml.Parser.ofSource, Yaml.start,
    Yaml.repeatWhile, Yaml.receive, Yaml.budget, Yaml.Source.ofBlocks]

namespace Settings

/-! ### The merge of the sources -/

/-- The value the environment gives a settings field: the non-empty parts
of the search path, the log level and the log file, each when its variable
is set and not empty. -/
def envField (env : List (String × String)) (name : String) : Option Value :=
  if name = "module_path" then (envValue env modulePathVar).map fun t => .list ((pathSegments t).map .str)
  else if name = "log_level" then (envValue env logLevelVar).map .str
  else if name = "log_path" then (envValue env logPathVar).map .str
  else none

/-- The value the sources give a settings field, the highest first: the
environment, then the project's file, where a later entry replaces an
earlier one, then the user's file. -/
def supplied (user project : List (Value × Value)) (env : List (String × String)) (name : String) :
    Option Value :=
  ((envField env name).or (lookupField project.reverse name)).or (lookupField user name)

theorem lookupField_option_entry {α : Type} (o : Option α) (key : String) (f : α → Value) (name : String) :
    lookupField (o.map fun t => (Value.str key, f t)).toList name = if key = name then o.map f else none := by
  cases o with
  | none => split <;> rfl
  | some t =>
    by_cases h : key = name
    · simp [lookupField_cons, Value.sameKey, h]
    · simp [lookupField_cons, Value.sameKey, h, lookupField_nil]

theorem lookupField_environmentEntries_reverse (env : List (String × String)) (name : String) :
    lookupField (environmentEntries env).reverse name = envField env name := by
  simp only [environmentEntries, List.reverse_append, lookupField_append]
  -- each variable gives at most one entry, so reversing its entries changes nothing
  have hone : ∀ {α : Type} (o : Option α) (x : α → Value × Value),
      (o.map x).toList.reverse = (o.map x).toList := fun o x => by cases o <;> rfl
  rw [hone, hone, hone, lookupField_option_entry, lookupField_option_entry, lookupField_option_entry]
  unfold envField
  by_cases h1 : name = "module_path"
  · subst h1; simp
  · by_cases h2 : name = "log_level"
    · subst h2; simp
    · by_cases h3 : name = "log_path"
      · subst h3; simp
      · simp [h1, h2, h3, Ne.symm h1, Ne.symm h2, Ne.symm h3]

theorem lookupField_merged (user project : List (Value × Value)) (env : List (String × String))
    (name : String) : lookupField (merged user project env) name = supplied user project env name := by
  rw [merged, lookupField_foldl_putEntry, List.reverse_append, lookupField_append,
    lookupField_environmentEntries_reverse, supplied]

/-! ### Reading the fields -/

/-- Settings `s` take each field from `given`: the value given for the
field, read as the field's type, or the field's default when none is. -/
def TakesFields (given : String → Option Value) (s : Settings) : Prop :=
  readField (given "module_path") [] (readTexts "module_path") = .ok s.modulePath ∧
  readField (given "layers") true (readBool "layers") = .ok s.layers ∧
  readField (given "includes") [] (readTexts "includes") = .ok s.includes ∧
  readField (given "excludes") [] (readTexts "excludes") = .ok s.excludes ∧
  readField (given "log_level") "WARNING" (readText "log_level") = .ok s.logLevel ∧
  readField (given "log_path") none readLogPath = .ok s.logPath

theorem ofEntries_eq_ok_iff (es : List (Value × Value)) (s : Settings) :
    ofEntries es = .ok s ↔ TakesFields (lookupField es) s := by
  obtain ⟨mp, ly, inc, exc, lvl, lp⟩ := s
  simp only [ofEntries, TakesFields, Except.bind_eq_ok_iff, exceptPure, Except.ok.injEq, Settings.mk.injEq]
  constructor
  · rintro ⟨a1, h1, a2, h2, a3, h3, a4, h4, a5, h5, a6, h6, rfl, rfl, rfl, rfl, rfl, rfl⟩
    exact ⟨h1, h2, h3, h4, h5, h6⟩
  · rintro ⟨h1, h2, h3, h4, h5, h6⟩
    exact ⟨_, h1, _, h2, _, h3, _, h4, _, h5, _, h6, rfl, rfl, rfl, rfl, rfl, rfl⟩

theorem TakesFields.unique {given : String → Option Value} {s s' : Settings}
    (h : TakesFields given s) (h' : TakesFields given s') : s = s' := by
  obtain ⟨h1, h2, h3, h4, h5, h6⟩ := h
  obtain ⟨h1', h2', h3', h4', h5', h6'⟩ := h'
  obtain ⟨mp, ly, inc, exc, lvl, lp⟩ := s
  obtain ⟨mp', ly', inc', exc', lvl', lp'⟩ := s'
  simp only [h1, h2, h3, h4, h5, h6, Except.ok.injEq] at h1' h2' h3' h4' h5' h6'
  simp [h1', h2', h3', h4', h5', h6']

theorem ofSources_eq_of_takes {user project : List (Value × Value)} {env : List (String × String)}
    {s : Settings} (h : TakesFields (supplied user project env) s) : ofSources user project env = (s, []) := by
  have hread : ofEntries (merged user project env) = .ok s := by
    rw [ofEntries_eq_ok_iff, funext (lookupField_merged user project env)]
    exact h
  simp only [ofSources, hread]

theorem ofSources_eq_of_not_takes {user project : List (Value × Value)} {env : List (String × String)}
    (h : ∀ s, ¬ TakesFields (supplied user project env) s) :
    ofSources user project env = ({}, [LogEntry.warning .settings "Invalid settings, using defaults"]) := by
  cases hread : ofEntries (merged user project env) with
  | ok s =>
    rw [ofEntries_eq_ok_iff, funext (lookupField_merged user project env)] at hread
    exact absurd hread (h s)
  | error is => simp only [ofSources, hread]

theorem ofSources_of_takes {user project : List (Value × Value)} {env : List (String × String)}
    {s : Settings} (h : TakesFields (supplied user project env) s) : (ofSources user project env).1 = s := by
  rw [ofSources_eq_of_takes h]

theorem ofSources_of_not_takes {user project : List (Value × Value)} {env : List (String × String)}
    (h : ∀ s, ¬ TakesFields (supplied user project env) s) : (ofSources user project env).1 = {} := by
  rw [ofSources_eq_of_not_takes h]

theorem readTexts_strs (field : String) (xs : List String) : readTexts field (.list (xs.map .str)) = .ok xs := by
  simp only [readTexts, Issue.at, looseList, exceptPure, exceptMapError_ok, exceptOk_bind]
  exact ModuleSpec.readAll_map_eq_ok fun _ _ _ => rfl

theorem supplied_of_envField {user project : List (Value × Value)} {env : List (String × String)}
    {name : String} {v : Value} (h : envField env name = some v) : supplied user project env name = some v := by
  rw [supplied, h]
  rfl

/-! ### Reading a settings file -/

/-- How reading a settings file fails a whole load: its existence check
fails in the operating system, or loading its text raises an error of its
own, which a text that is not UTF-8 does when the reading reaches the bytes
that do not decode. -/
inductive FileFault (depth : CallDepth) (w : World) (q : PosixPath) : Failure → Prop
  | unchecked (e : OsError) : w.pathExists q = .error e → FileFault depth w q (.os e)
  | raises (blocks : List (List Char)) (fail : Option Text.DecodeError) (k m : String) :
      w.pathExists q = .ok true → w.readBlocks .plain q Yaml.blockSize = .ok (blocks, fail) →
      Yaml.loadBlocks (depth.enter 1) blocks fail = .error (.raised k m) → FileFault depth w q (.raised k m)

/-- A settings file that counts as empty: absent, unreadable, not well
formed YAML, or holding a document that is not a mapping. -/
inductive Ignored (depth : CallDepth) (w : World) (q : PosixPath) : Prop
  | absent : w.pathExists q = .ok false → Ignored depth w q
  | unreadable (e : OsError) : w.pathExists q = .ok true →
      w.readBlocks .plain q Yaml.blockSize = .error e → Ignored depth w q
  | malformed (blocks : List (List Char)) (fail : Option Text.DecodeError) (pr : Yaml.Problem) :
      w.pathExists q = .ok true → w.readBlocks .plain q Yaml.blockSize = .ok (blocks, fail) →
      Yaml.loadBlocks (depth.enter 1) blocks fail = .error (.malformed pr) → Ignored depth w q
  | notMapping (blocks : List (List Char)) (fail : Option Text.DecodeError) (v : Value) :
      w.pathExists q = .ok true → w.readBlocks .plain q Yaml.blockSize = .ok (blocks, fail) →
      Yaml.loadBlocks (depth.enter 1) blocks fail = .ok v → (∀ es, v ≠ .map es) → Ignored depth w q

section ReadFile

variable (d : CallDepth) (w : World) (q : PosixPath)

theorem readFile_eq_error_iff (f : Failure) : (readFile d w q).1 = .error f ↔ FileFault d w q f := by
  constructor
  · intro h
    cases he : w.pathExists q with
    | error e =>
      simp only [readFile, he, Except.error.injEq] at h
      exact h ▸ .unchecked e he
    | ok b =>
      cases b with
      | false => simp [readFile, he] at h
      | true =>
        cases hb : w.readBlocks .plain q Yaml.blockSize with
        | error e => simp [readFile, he, hb] at h
        | ok bf =>
          obtain ⟨blocks, fail⟩ := bf
          cases hl : Yaml.loadBlocks (d.enter 1) blocks fail with
          | error yf =>
            cases yf with
            | malformed pr => simp [readFile, he, hb, hl] at h
            | raised k m =>
              simp only [readFile, he, hb, hl, Except.error.injEq] at h
              exact h ▸ .raises blocks fail k m he hb hl
          | ok v => cases v <;> simp [readFile, he, hb, hl] at h
  · rintro (⟨e, he⟩ | ⟨blocks, fail, k, m, he, hb, hl⟩)
    · simp [readFile, he]
    · simp [readFile, he, hb, hl]

theorem readFile_of_ignored (h : Ignored d w q) : (readFile d w q).1 = .ok [] := by
  cases h with
  | absent he => simp [readFile, he]
  | unreadable e he hb => simp [readFile, he, hb]
  | malformed blocks fail pr he hb hl => simp [readFile, he, hb, hl]
  | notMapping blocks fail v he hb hl hv =>
    cases v with
    | map es => exact absurd rfl (hv es)
    | _ => simp [readFile, he, hb, hl]

/-- A settings file whose bytes fit in one chunk and are not UTF-8, other
than by a character cut off at their end, faults with the decoding error. -/
theorem fileFault_of_undecodable {bs : List UInt8} {e : Text.DecodeError} (hexists : w.pathExists q = .ok true)
    (hbytes : w.readBytes .plain q = .ok bs) (hlen : bs.length ≤ Text.chunkBytes)
    (hdec : Text.decodeUtf8 bs = .error e) (hend : e.fault ≠ .unexpectedEnd) :
    FileFault d w q (.raised "UnicodeDecodeError" e.message) := by
  have hblocks : w.readBlocks .plain q Yaml.blockSize = .ok ([], some e) := by
    simp only [World.readBlocks, hbytes, Except.map,
      Text.readBlocks_of_first_chunk_error hlen hdec hend (by decide : 0 < Yaml.blockSize)]
  exact .raises [] (some e) _ _ hexists hblocks (Yaml.loadBlocks_of_no_blocks _ e)

end ReadFile

theorem load_fst (d : CallDepth) (w : World) (u p : PosixPath) (env : List (String × String)) :
    (load d w u p env).1 = (readFile (d.enter 1) w (fileIn u)).1.bind fun ue =>
      (readFile (d.enter 1) w (fileIn p)).1.map fun pe => (ofSources ue pe env).1 := by
  unfold load
  obtain ⟨ru, lu⟩ := readFile (d.enter 1) w (fileIn u)
  obtain ⟨rp, lp⟩ := readFile (d.enter 1) w (fileIn p)
  cases ru with
  | error f => rfl
  | ok ue =>
    cases rp with
    | error f => rfl
    | ok pe => rfl

/-! ### Loading -/

section Load

variable (d : CallDepth) (w : World) (u p : PosixPath) (env : List (String × String))

/-- Loading gives settings exactly when neither settings file faults; a load
that fails, fails with the fault of one of them; a file that counts as empty
contributes nothing to the merge; and a file whose bytes are not UTF-8 (at
most a chunk of them, not only cut off at their end) faults with the
decoding error. -/
theorem load_settles_unless_a_file_faults :
    ((∃ s, (load d w u p env).1 = .ok s) ↔
      ∀ q ∈ [fileIn u, fileIn p], ∀ f, ¬ FileFault (d.enter 1) w q f) ∧
    (∀ f, (load d w u p env).1 = .error f → ∃ q ∈ [fileIn u, fileIn p], FileFault (d.enter 1) w q f) ∧
    (Ignored (d.enter 1) w (fileIn u) →
      (load d w u p env).1 = (readFile (d.enter 1) w (fileIn p)).1.map fun pe => (ofSources [] pe env).1) ∧
    (Ignored (d.enter 1) w (fileIn p) →
      (load d w u p env).1 = (readFile (d.enter 1) w (fileIn u)).1.map fun ue => (ofSources ue [] env).1) ∧
    (∀ q ∈ [fileIn u, fileIn p], ∀ bs e, w.pathExists q = .ok true → w.readBytes .plain q = .ok bs →
      bs.length ≤ Text.chunkBytes → Text.decodeUtf8 bs = .error e → e.fault ≠ .unexpectedEnd →
      FileFault (d.enter 1) w q (.raised "UnicodeDecodeError" e.message)) := by
  have hload := load_fst d w u p env
  -- a failed load fails with the fault of the first file that has one
  have herr : ∀ f, (load d w u p env).1 = .error f →
      ∃ q ∈ [fileIn u, fileIn p], FileFault (d.enter 1) w q f := by
    intro f hf
    rw [hload] at hf
    cases hu : (readFile (d.enter 1) w (fileIn u)).1 with
    | error f' =>
      rw [hu] at hf
      cases hf
      exact ⟨_, by simp, (readFile_eq_error_iff _ _ _ _).1 hu⟩
    | ok ue =>
      cases hp : (readFile (d.enter 1) w (fileIn p)).1 with
      | error f' =>
        rw [hu, hp] at hf
        cases hf
        exact ⟨_, by simp, (readFile_eq_error_iff _ _ _ _).1 hp⟩
      | ok pe =>
        rw [hu, hp] at hf
        cases hf
  refine ⟨⟨?_, fun hfree => ?_⟩, herr, ?_, ?_,
    fun q _ _ _ hexists hbytes hlen hdec hend => fileFault_of_undecodable _ w q hexists hbytes hlen hdec hend⟩
  · -- a fault of either file is a failure of the load
    rintro ⟨s, hs⟩ q hq f hf
    rw [← readFile_eq_error_iff] at hf
    simp only [List.mem_cons, List.not_mem_nil, or_false] at hq
    rcases hq with rfl | rfl
    · rw [hload, hf] at hs
      cases hs
    · cases hu : (readFile (d.enter 1) w (fileIn u)).1 <;> rw [hload, hu] at hs <;> rw [hf] at hs <;>
        cases hs
  · -- with no fault there is no failure
    cases hl : (load d w u p env).1 with
    | ok s => exact ⟨s, rfl⟩
    | error f =>
      obtain ⟨q, hq, hf⟩ := herr f hl
      exact absurd hf (hfree q hq f)
  · intro hign
    rw [hload, readFile_of_ignored _ _ _ hign]
    rfl
  · intro hign
    rw [hload, readFile_of_ignored _ _ _ hign]
    cases (readFile (d.enter 1) w (fileIn u)).1 <;> rfl

/-- A user settings file holding the one byte 0xff: its first byte starts no
character, the file faults with that decoding error, and loading gives no
settings. -/
theorem undecodable_user_file_fails_load :
    let w : World := { tree := ⟨[(["h"], .dir), (["h", "settings.yaml"], .file [0xff])]⟩ }
    let u : PosixPath := ⟨.relative, ["h"]⟩
    let p : PosixPath := ⟨.relative, ["p"]⟩
    Text.decodeUtf8 [0xff] = .error ⟨0, 1, 0xff, .invalidStart⟩ ∧
      FileFault (CallDepth.enter ⟨0⟩ 1) w (fileIn u)
        (.raised "UnicodeDecodeError" (Text.DecodeError.message ⟨0, 1, 0xff, .invalidStart⟩)) ∧
      ¬ ∃ s, (load ⟨0⟩ w u p []).1 = .ok s := by
  intro w u p
  have hdec : Text.decodeUtf8 [0xff] = .error ⟨0, 1, 0xff, .invalidStart⟩ := by cbv
  obtain ⟨hsettles, -, -, -, hbytes⟩ := load_settles_unless_a_file_faults ⟨0⟩ w u p []
  have hfault := hbytes (fileIn u) (by simp) [0xff] _ (by cbv) (by cbv) (by decide) hdec (by decide)
  exact ⟨hdec, hfault, fun hs => hsettles.1 hs (fileIn u) (by simp) _ hfault⟩

theorem load_snd_of_reads {ue pe : List (Value × Value)}
    (hu : (readFile (d.enter 1) w (fileIn u)).1 = .ok ue)
    (hp : (readFile (d.enter 1) w (fileIn p)).1 = .ok pe) :
    (load d w u p env).2 = (readFile (d.enter 1) w (fileIn u)).2 ++
      (readFile (d.enter 1) w (fileIn p)).2 ++ (ofSources ue pe env).2 := by
  unfold load
  revert hu hp
  obtain ⟨ru, lu⟩ := readFile (d.enter 1) w (fileIn u)
  obtain ⟨rp, lp⟩ := readFile (d.enter 1) w (fileIn p)
  rintro (rfl : ru = .ok ue) (rfl : rp = .ok pe)
  rfl

/-- With the entries read from both settings files: when every field reads
from the value of the highest source that gives one, loading gives those
settings with no warning of its own, and the environment's search path, log
level and log file stand in them; when some field does not read, loading
gives the defaults, the environment's values included, and warns that the
settings are invalid. A field the environment does not set comes from the
project's file, else from the user's. -/
theorem load_takes_fields_by_precedence (ue pe : List (Value × Value))
    (hu : (readFile (d.enter 1) w (fileIn u)).1 = .ok ue)
    (hp : (readFile (d.enter 1) w (fileIn p)).1 = .ok pe) :
    (∀ s, TakesFields (supplied ue pe env) s →
      (load d w u p env).1 = .ok s ∧
      (load d w u p env).2 = (readFile (d.enter 1) w (fileIn u)).2 ++ (readFile (d.enter 1) w (fileIn p)).2 ∧
      (∀ t, envValue env modulePathVar = some t → s.modulePath = pathSegments t) ∧
      (∀ t, envValue env logLevelVar = some t → s.logLevel = t) ∧
      (∀ t, envValue env logPathVar = some t → s.logPath = some t)) ∧
    ((∀ s, ¬ TakesFields (supplied ue pe env) s) →
      (load d w u p env).1 = .ok {} ∧
      (load d w u p env).2 = (readFile (d.enter 1) w (fileIn u)).2 ++ (readFile (d.enter 1) w (fileIn p)).2 ++
        [LogEntry.warning .settings "Invalid settings, using defaults"]) ∧
    (∀ name, envField env name = none →
      supplied ue pe env name = (lookupField pe.reverse name).or (lookupField ue name)) := by
  have hload : (load d w u p env).1 = .ok (ofSources ue pe env).1 := by
    rw [load_fst, hu, hp]
    rfl
  have hlogs := load_snd_of_reads d w u p env hu hp
  refine ⟨fun s hs => ⟨?_, ?_, ?_, ?_, ?_⟩, fun hnone => ⟨?_, ?_⟩, fun name hname => ?_⟩
  · rw [hload, ofSources_of_takes hs]
  · rw [hlogs, ofSources_eq_of_takes hs, List.append_nil]
  · -- the search path is the list of the variable's parts, read as texts
    intro t ht
    have hv : supplied ue pe env "module_path" = some (.list ((pathSegments t).map .str)) :=
      supplied_of_envField (by simp [envField, ht])
    have h1 := hs.1
    rw [hv, readField, readTexts_strs, Except.ok.injEq] at h1
    exact h1.symm
  · intro t ht
    have hv : supplied ue pe env "log_level" = some (.str t) := supplied_of_envField (by simp [envField, ht])
    have h5 := hs.2.2.2.2.1
    rw [hv] at h5
    simpa [readField, readText, Issue.at, looseText] using h5.symm
  · intro t ht
    have hv : supplied ue pe env "log_path" = some (.str t) := supplied_of_envField (by simp [envField, ht])
    have h6 := hs.2.2.2.2.2
    rw [hv] at h6
    simpa [readField, readLogPath, readText, Issue.at, looseText] using h6.symm
  · rw [hload, ofSources_of_not_takes hnone]
  · rw [hlogs, ofSources_eq_of_not_takes hnone]
  · rw [supplied, hname]
    rfl

end Load

/-- Both settings files absent, and an environment that names a search
path with an empty part and a log level: the settings take the search
path's non-empty parts and the level, and every other field its default. -/
theorem environment_over_absent_settings_files :
    let u : PosixPath := ⟨.relative, ["s"]⟩
    let env := [("MODULE_PATH", "/a::/b"), ("MODULE_FINDER_LOG_LEVEL", "DEBUG")]
    (readFile (CallDepth.enter ⟨0⟩ 1) {} (fileIn u)).1 = .ok [] ∧
      (load ⟨0⟩ {} u u env).1 = .ok { modulePath := ["/a", "/b"], logLevel := "DEBUG" } := by
  intro u env
  have habsent : ({} : World).pathExists (fileIn u) = .ok false := by cbv
  have hread := readFile_of_ignored (CallDepth.enter ⟨0⟩ 1) _ _ (.absent habsent)
  have htakes : TakesFields (supplied [] [] env) { modulePath := ["/a", "/b"], logLevel := "DEBUG" } := by
    refine ⟨?_, ?_, ?_, ?_, ?_, ?_⟩ <;> cbv
  exact ⟨hread, ((load_takes_fields_by_precedence ⟨0⟩ {} u u env [] [] hread hread).1 _ htakes).1⟩

/-- A project file whose `layers` is 2, which is no truth value, takes the
environment's search path down with it: every field falls back to its
default, the search path included. -/
theorem invalid_field_drops_environment_search_path :
    envValue [("MODULE_PATH", "/x")] modulePathVar = some "/x" ∧ pathSegments "/x" = ["/x"] ∧
      (ofSources [] [(.str "layers", .int 2)] [("MODULE_PATH", "/x")]).1 = {} := by
  refine ⟨by cbv, by cbv, ofSources_of_not_takes ?_⟩
  rintro s ⟨-, hlayers, -⟩
  cbv at hlayers
  cases hlayers

end Settings

end ModuleLocator
