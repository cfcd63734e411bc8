import AndroidTether.Config
import AndroidTether.Lib.Pieces

namespace AndroidTether

open WhileLoop LastWrite Pieces

/-!
# The lines of a configuration file

The format is defined on lines; `config_load_file` reads pieces of at most 255 characters, and
takes each of them for a line.  A character stands for one byte of the file.

* `readLine`, `referenceLoad` — what a line says, and a file;
* `fileAssignments_eq`, `loadEnd_eq` — the code reads the pieces of the lines, each up to its
  first NUL, as the reference reads lines;
* `configLoadFile_lines_iff` — it reads the lines exactly when each line that is too long for
  the buffer says in pieces what it says as a whole.
-/

/-! ### The reference -/

/-- What a line says in a section: the section from then on, and the setting it makes, if any. -/
def readLine (sect : CStr) (line : List Char) : CStr × List Setting :=
  let text := strip line
  if text = [] ∨ text.head? = some '#' ∨ text.head? = some ';' then (sect, [])
  else if text.head? = some '[' then
    (if ']' ∈ text then text.tail.takeWhile (· ≠ ']') else sect, [])
  else if '=' ∈ text then
    (sect, (keySetting sect (strip (text.takeWhile (· ≠ '='))) (strip (afterEq text))).toList)
  else (sect, [])

/-- What some lines say, one after the other. -/
def readLines (sect : CStr) : List (List Char) → CStr × List Setting
  | [] => (sect, [])
  | line :: lines =>
    let said := readLine sect line
    let rest := readLines said.1 lines
    (rest.1, said.2 ++ rest.2)

/-- The assignments that some lines make, each with all of the text behind its `=`. -/
def readAssignments (sect : CStr) : List (List Char) → List Assignment
  | [] => []
  | line :: lines =>
    let said := readLine sect line
    said.2.map (fun setting => ⟨setting, strip (afterEq (strip line))⟩) ++
      readAssignments said.1 lines

/-- The reference step: the section and the configuration after a line. -/
def referenceStep (st : CStr × TetherConfig) (line : List Char) : CStr × TetherConfig :=
  let said := readLine st.1 line
  (said.1, said.2.foldl TetherConfig.set st.2)

/-- The reference: one step for each of the lines of the file. -/
def referenceLoad (contents : List Char) (cfg : TetherConfig) : TetherConfig :=
  ((contents.splitOn '\n').foldl referenceStep ([], cfg)).2

/-- The same keys are recognised in both sections. -/
def SameKeys (sect sect' : CStr) : Prop :=
  ∀ key val, keySetting sect key val = keySetting sect' key val

/-- The reference reads the lines and applies their assignments one by one. -/
theorem referenceStep_foldl (lines : List (List Char)) (sect : CStr) (cfg : TetherConfig) :
    lines.foldl referenceStep (sect, cfg) =
      ((readLines sect lines).1, (readLines sect lines).2.foldl TetherConfig.set cfg) := by
  induction lines generalizing sect cfg with
  | nil => rfl
  | cons line lines ih => rw [List.foldl_cons, referenceStep, ih, readLines, List.foldl_append]

/-- Lines are read one after the other, with the section that was reached. -/
theorem readLines_append (sect : CStr) (lines lines' : List (List Char)) :
    readLines sect (lines ++ lines') =
      ((readLines (readLines sect lines).1 lines').1,
        (readLines sect lines).2 ++ (readLines (readLines sect lines).1 lines').2) := by
  induction lines generalizing sect with
  | nil => rfl
  | cons line lines ih =>
    rw [List.cons_append, readLines, ih, readLines]
    simp only [List.append_assoc]

@[simp] theorem readLines_singleton (sect : CStr) (line : List Char) :
    readLines sect [line] = readLine sect line := by
  simp [readLines]

/-- They are the assignments of the settings made. -/
theorem map_setting_readAssignments (sect : CStr) (lines : List (List Char)) :
    (readAssignments sect lines).map Assignment.setting = (readLines sect lines).2 := by
  induction lines generalizing sect with
  | nil => rfl
  | cons line lines ih =>
    rw [readAssignments, List.map_append, ih, List.map_map, readLines]
    exact congrArg (· ++ _) (List.map_id _)

/-- Lines are read one after the other. -/
theorem readAssignments_append (sect : CStr) (lines lines' : List (List Char)) :
    readAssignments sect (lines ++ lines') =
      readAssignments sect lines ++ readAssignments (readLines sect lines).1 lines' := by
  induction lines generalizing sect with
  | nil => rfl
  | cons line lines ih =>
    rw [List.cons_append, readAssignments, ih, readAssignments, readLines]
    simp only [List.append_assoc]

/-- The beginning of a file, up to the end of its `n`-th line. -/
def firstLines (n : Nat) (contents : List Char) : List Char :=
  ['\n'].intercalate ((contents.splitOn '\n').take n)

/-- Cut into pieces for the buffer, the line makes the same settings as a whole, and it leaves
    the same keys to be recognised. -/
def SaysInPieces (sect : CStr) (line : List Char) : Prop :=
  (readLines sect (chunks 255 line)).2 = (readLine sect line).2 ∧
    SameKeys (readLines sect (chunks 255 line)).1 (readLine sect line).1

/-! ### White space and sections -/

/-- A newline at the end is stripped. -/
theorem strip_append_newline (s : List Char) : strip (s ++ ['\n']) = strip s := by
  have hspace : isspace '\n' = true := by decide
  rw [strip, strip, List.dropWhile_append]
  cases hs : s.dropWhile isspace with
  | nil => simp [hspace]
  | cons c cs => exact List.rdropWhile_concat_pos _ _ _ hspace

/-- So a line says the same with and without it. -/
theorem readLine_append_newline (sect : CStr) (line : List Char) :
    readLine sect (line ++ ['\n']) = readLine sect line := by
  rw [readLine, readLine, strip_append_newline]

/-- Up to its first NUL, a piece says the same with the newline and without. -/
theorem cString_append_newline (s : List Char) :
    cString (s ++ ['\n']) = cString s ∨ cString (s ++ ['\n']) = cString s ++ ['\n'] := by
  by_cases hnul : ∀ c ∈ s, decide (c ≠ '\x00') = true
  · have hs : cString s = s := List.takeWhile_eq_self_iff.mpr hnul
    rw [hs]
    exact .inr (List.takeWhile_append_of_pos hnul)
  · refine .inl ?_
    rw [cString, List.takeWhile_append, if_neg]
    · rfl
    · intro hlen
      exact hnul (List.takeWhile_eq_self_iff.mp ((List.takeWhile_prefix _).eq_of_length hlen))

theorem SameKeys.symm {sect sect' : CStr} (h : SameKeys sect sect') : SameKeys sect' sect :=
  fun key val => (h key val).symm

theorem SameKeys.trans {sect sect' sect'' : CStr} (h : SameKeys sect sect')
    (h' : SameKeys sect' sect'') : SameKeys sect sect'' :=
  fun key val => (h key val).trans (h' key val)

/-- Sections with the same keys read a line alike. -/
theorem SameKeys.readLine {sect sect' : CStr} (h : SameKeys sect sect') (line : List Char) :
    (readLine sect line).2 = (AndroidTether.readLine sect' line).2 ∧
      SameKeys (AndroidTether.readLine sect line).1 (AndroidTether.readLine sect' line).1 := by
  unfold AndroidTether.readLine
  dsimp only
  split_ifs
  · exact ⟨rfl, h⟩
  · exact ⟨rfl, fun _ _ => rfl⟩
  · exact ⟨rfl, h⟩
  · exact ⟨by rw [h], h⟩
  · exact ⟨rfl, h⟩

/-- They read any lines alike. -/
theorem SameKeys.readLines {sect sect' : CStr} (h : SameKeys sect sect')
    (lines : List (List Char)) :
    (readLines sect lines).2 = (AndroidTether.readLines sect' lines).2 ∧
      SameKeys (AndroidTether.readLines sect lines).1 (AndroidTether.readLines sect' lines).1 := by
  induction lines generalizing sect sect' with
  | nil => exact ⟨rfl, h⟩
  | cons line lines ih =>
    obtain ⟨hsettings, hsect⟩ := h.readLine line
    obtain ⟨hrest, hlast⟩ := ih hsect
    exact ⟨congrArg₂ (· ++ ·) hsettings hrest, hlast⟩

/-- Only short names are recognised. -/
theorem sameKeys_strlcpy (sect : CStr) : SameKeys (strlcpy sect 32) sect := by
  have hshort : ∀ name : CStr, name.length < 31 → (strlcpy sect 32 = name ↔ sect = name) := by
    intro name hlen
    constructor
    · intro h
      have hlength := congrArg List.length h
      rw [strlcpy, List.length_take] at hlength
      rw [← h, strlcpy, List.take_of_length_le (by omega)]
    · rintro rfl
      exact List.take_of_length_le (by omega)
  intro key val
  unfold keySetting
  simp only [hshort _ (by decide : "network".toList.length < 31),
    hshort _ (by decide : "logging".toList.length < 31),
    hshort _ (by decide : "protocol".toList.length < 31)]

/-! ### The code -/

/-- `fgets` returns a piece up to the newline. -/
theorem lineOf_eq (n : Nat) (stream : List Char) : lineOf n stream = readTo '\n' n stream := by
  induction n generalizing stream with
  | zero => rfl
  | succ n ih =>
    cases stream with
    | nil => rfl
    | cons c cs => rw [lineOf, readTo, ih]

/-- The loop state of `config_load_file` at the end of a file, with the assignments made. -/
def loadEnd (contents : List Char) : LoadState (List Assignment) :=
  (iterate (loadBody fun as a => as ++ [a]) (contents.length + 1) ⟨contents, [], []⟩).value

/-- The loop state says what the reference says. -/
structure Says (st : LoadState (List Assignment)) (said : CStr × List Setting) : Prop where
  settings : st.cfg.map Assignment.setting = said.2
  sect : SameKeys st.sect said.1

/-- The assignments made so far, and a section with the keys that are recognised now. -/
structure LoadRead (st : LoadState (List Assignment)) (sect : CStr) (as : List Assignment) : Prop where
  assigned : st.cfg = as
  sect : SameKeys st.sect sect

/-- **One round** of the loop reads its piece, up to the first NUL, as the reference reads a
    line. -/
theorem loadBody_reads {st : LoadState (List Assignment)} {sect : CStr} {line rest : List Char}
    {as : List Assignment} (h : LoadRead st sect as)
    (hfgets : fgets 256 st.stream = some (line, rest)) :
    ∃ st', loadBody (fun as a => as ++ [a]) st = .yield st' ∧ st'.stream = rest ∧
      LoadRead st' (readLine sect (cString line)).1
        (as ++ readAssignments sect [cString line]) := by
  obtain ⟨rfl, hsect⟩ := h
  simp only [loadBody, hfgets, readAssignments, List.append_nil]
  generalize cString line = line
  unfold readLine
  dsimp only
  by_cases hcomment : strip line = [] ∨ (strip line).head? = some '#' ∨
      (strip line).head? = some ';'
  · rw [if_pos hcomment, if_pos hcomment, List.map_nil, List.append_nil]
    exact ⟨_, rfl, rfl, rfl, hsect⟩
  rw [if_neg hcomment, if_neg hcomment]
  refine ⟨_, rfl, ?_⟩
  unfold loadLine
  -- a section header
  by_cases hheader : (strip line).head? = some '['
  · rw [if_pos hheader, if_pos hheader, List.map_nil, List.append_nil]
    by_cases hend : ']' ∈ strip line
    · -- the name is cut, but not to one that is recognised
      rw [if_pos hend, if_pos hend]
      exact ⟨rfl, rfl, sameKeys_strlcpy _⟩
    · rw [if_neg hend, if_neg hend]
      exact ⟨rfl, rfl, hsect⟩
  rw [if_neg hheader, if_neg hheader]
  -- a key and its value
  by_cases heq : '=' ∈ strip line
  · have hkey := hsect (strip ((strip line).takeWhile (· ≠ '='))) (strip (afterEq (strip line)))
    rw [if_pos heq, if_pos heq]
    dsimp only at hkey ⊢
    rw [hkey]
    cases keySetting sect (strip ((strip line).takeWhile (· ≠ '=')))
        (strip (afterEq (strip line))) with
    | none => exact ⟨rfl, by simp, hsect⟩
    | some setting => exact ⟨rfl, by simp, hsect⟩
  · rw [if_neg heq, if_neg heq, List.map_nil, List.append_nil]
    exact ⟨rfl, rfl, hsect⟩

/-- The newline at the end of a piece does not matter. -/
theorem readAssignments_piece (sect : CStr) (body : List Char) {ending : List Char}
    (h : ending = [] ∨ ending = ['\n']) :
    readLine sect (cString (body ++ ending)) = readLine sect (cString body) ∧
      readAssignments sect [cString (body ++ ending)] = readAssignments sect [cString body] := by
  rcases h with rfl | rfl
  · rw [List.append_nil]
    exact ⟨rfl, rfl⟩
  · rcases cString_append_newline body with heq | heq
    · rw [heq]
      exact ⟨rfl, rfl⟩
    · rw [heq]
      simp only [readAssignments, readLine_append_newline, strip_append_newline, and_self]

/-- **The loop** reads the pieces of the rest of the file. -/
theorem iterate_reads {n : Nat} {st : LoadState (List Assignment)} {sect : CStr}
    {as : List Assignment} (h : LoadRead st sect as) (hlen : st.stream.length < n) :
    LoadRead (iterate (loadBody fun as a => as ++ [a]) n st).value
      (readLines sect ((pieces '\n' 255 st.stream).map cString)).1
      (as ++ readAssignments sect ((pieces '\n' 255 st.stream).map cString)) := by
  induction n generalizing st sect as with
  | zero => exact absurd hlen (Nat.not_lt_zero _)
  | succ n ih =>
    rcases eq_or_ne st.stream [] with hnil | hne
    · -- the end of the file
      have hdone : loadBody (fun as a => as ++ [a]) st = .done st := by
        simp [loadBody, hnil, fgets]
      rw [iterate_succ_done n hdone, hnil, pieces_nil, List.map_nil, readLines, readAssignments,
        List.append_nil]
      exact h
    · have hfgets : fgets 256 st.stream = some (readTo '\n' 255 st.stream,
          st.stream.drop (readTo '\n' 255 st.stream).length) := by
        rw [← lineOf_eq]
        cases hs : st.stream with
        | nil => exact absurd hs hne
        | cons c cs => rfl
      obtain ⟨body, ending, hread, hending, hbody, hpieces⟩ :=
        exists_piece (d := '\n') (by decide : 0 < 255) hne
      obtain ⟨st', hbodyEq, hstream, hreads⟩ := loadBody_reads h hfgets
      have hshort : st'.stream.length < n := by
        have hlt := fgets_length hfgets
        rw [hstream]
        omega
      -- an empty piece says nothing
      have hsaid : (readLines sect ((chunks 255 body).map cString)).1 =
            (readLine sect (cString (readTo '\n' 255 st.stream))).1 ∧
          readAssignments sect ((chunks 255 body).map cString) =
            readAssignments sect [cString (readTo '\n' 255 st.stream)] := by
        obtain ⟨hline, hassign⟩ := readAssignments_piece sect body hending
        rw [hread, hline, hassign]
        rcases hbody with rfl | hone
        · rw [chunks_nil]
          exact ⟨rfl, rfl⟩
        · rw [hone, List.map_singleton, readLines_singleton]
          exact ⟨rfl, rfl⟩
      have hrun := ih hreads hshort
      rw [iterate_succ_yield n hbodyEq, hpieces, List.map_append, readLines_append,
        readAssignments_append, hsaid.1, hsaid.2, ← hstream]
      rwa [List.append_assoc] at hrun

/-- The loop of `config_load_file` reads the pieces that `fgets` returns. -/
theorem loadEnd_reads (contents : List Char) :
    LoadRead (loadEnd contents) (readLines [] ((pieces '\n' 255 contents).map cString)).1
      (readAssignments [] ((pieces '\n' 255 contents).map cString)) := by
  have hstart : LoadRead ⟨contents, [], []⟩ [] [] := ⟨rfl, fun _ _ => rfl⟩
  exact iterate_reads hstart (Nat.lt_succ_self _)

/-- **The assignments of a file** are those of its pieces. -/
theorem fileAssignments_eq (contents : List Char) :
    fileAssignments contents = readAssignments [] ((pieces '\n' 255 contents).map cString) :=
  (loadEnd_reads contents).assigned

/-- **The file.**  The loop reads the pieces of its lines. -/
theorem loadEnd_eq {contents : List Char} (hnul : '\x00' ∉ contents) :
    Says (loadEnd contents) (readLines [] (pieces '\n' 255 contents)) := by
  have hcString : (pieces '\n' 255 contents).map cString = pieces '\n' 255 contents := by
    refine (List.map_congr_left fun piece hpiece => ?_).trans (List.map_id _)
    show cString piece = piece
    rw [cString, List.takeWhile_eq_self_iff]
    intro c hc
    exact decide_eq_true fun heq => hnul (subset_of_mem_pieces hpiece (heq ▸ hc))
  obtain ⟨hassigned, hsect⟩ := loadEnd_reads contents
  rw [hcString] at hassigned hsect
  exact ⟨by rw [hassigned, map_setting_readAssignments], hsect⟩

/-! ### Lines and pieces -/

section Lines

variable {contents : List Char}

/-- The result is the reference's, and at the end of every line so are the settings made and the
    keys recognised. -/
structure ReadsLines (contents : List Char) : Prop where
  result : ∀ (fs : FileSystem) (path : CStr) (cfg : TetherConfig), fs path = some contents →
    configLoadFile fs cfg path = some (referenceLoad contents cfg)
  lineEnd : ∀ n, Says (loadEnd (firstLines n contents))
    (readLines [] ((contents.splitOn '\n').take n))

/-- A line that fits into the buffer is read as it is. -/
theorem saysInPieces_of_length_le {sect : CStr} {line : List Char} (h : line.length ≤ 255) :
    SaysInPieces sect line := by
  rcases eq_or_ne line [] with rfl | hne
  · rw [SaysInPieces, chunks_nil]
    exact ⟨rfl, fun _ _ => rfl⟩
  · rw [SaysInPieces, chunks_of_length_le h hne, readLines_singleton]
    exact ⟨rfl, fun _ _ => rfl⟩

/-- What the code has read at the end of a line. -/
theorem loadEnd_firstLines (hnul : '\x00' ∉ contents) (n : Nat) :
    Says (loadEnd (firstLines n contents))
      (readLines [] (((contents.splitOn '\n').take n).flatMap (chunks 255))) := by
  have hline : ∀ l ∈ (contents.splitOn '\n').take n, '\n' ∉ l := fun l hl =>
    not_mem_of_mem_splitOn (List.mem_of_mem_take hl)
  have hpre : firstLines n contents <+: contents := by
    have hpre := intercalate_take_isPrefix ['\n'] (contents.splitOn '\n') n
    rwa [List.intercalate_splitOn] at hpre
  have hsays := loadEnd_eq fun hmem => hnul (hpre.subset hmem)
  rwa [firstLines, pieces_intercalate hline] at hsays

/-- The same settings are made by two readings of some lines. -/
theorem says_iff {st : LoadState (List Assignment)} {said said' : CStr × List Setting}
    (h : Says st said) : Says st said' ↔ said.2 = said'.2 ∧ SameKeys said.1 said'.1 := by
  constructor
  · rintro ⟨hsettings, hsect⟩
    exact ⟨h.settings.symm.trans hsettings, h.sect.symm.trans hsect⟩
  · rintro ⟨hsettings, hsect⟩
    exact ⟨h.settings.trans hsettings, h.sect.trans hsect⟩

/-- Where the pieces say what the lines say, the file is loaded as it is written. -/
theorem configLoadFile_of_says {cfg : TetherConfig} {fs : FileSystem} {path : CStr}
    (hfile : fs path = some contents)
    (h : Says (loadEnd contents) (readLines [] (contents.splitOn '\n'))) :
    configLoadFile fs cfg path = some (referenceLoad contents cfg) := by
  rw [configLoadFile_eq, hfile, Option.map_some, referenceLoad, referenceStep_foldl, ← h.settings,
    List.foldl_map]
  rfl

/-- **One line.**  If code and reference agree before a line, they agree behind it exactly when
    the line says in pieces what it says. -/
theorem step_iff {p q : CStr × List Setting} (h : p.2 = q.2 ∧ SameKeys p.1 q.1)
    (line : List Char) :
    (p.2 ++ (readLines p.1 (chunks 255 line)).2 = q.2 ++ (readLine q.1 line).2 ∧
        SameKeys (readLines p.1 (chunks 255 line)).1 (readLine q.1 line).1) ↔
      SaysInPieces q.1 line := by
  obtain ⟨hsettings, hsect⟩ := h.2.readLines (chunks 255 line)
  rw [h.1, hsettings, List.append_cancel_left_eq, SaysInPieces]
  refine and_congr_right fun _ => ?_
  exact ⟨fun hs => hsect.symm.trans hs, fun hs => hsect.trans hs⟩

/-- **Line by line.**  For every file without NUL, `config_load_file` leaves what the reference
    leaves, and has made the same settings at the end of every line, exactly when every line that
    is longer than 255 characters says in pieces of 255 characters what it says as a whole. -/
theorem configLoadFile_lines_iff (contents : List Char) (hnul : '\x00' ∉ contents) :
    ReadsLines contents ↔
      ∀ n line, (contents.splitOn '\n')[n]? = some line → 255 < line.length →
        SaysInPieces (readLines [] ((contents.splitOn '\n').take n)).1 line := by
  have hend : ∀ n, Says (loadEnd (firstLines n contents))
        (readLines [] ((contents.splitOn '\n').take n)) ↔
      (readLines [] (((contents.splitOn '\n').take n).flatMap (chunks 255))).2 =
          (readLines [] ((contents.splitOn '\n').take n)).2 ∧
        SameKeys (readLines [] (((contents.splitOn '\n').take n).flatMap (chunks 255))).1
          (readLines [] ((contents.splitOn '\n').take n)).1 :=
    fun n => says_iff (loadEnd_firstLines hnul n)
  -- one more line
  have hsucc : ∀ n line, (contents.splitOn '\n')[n]? = some line →
      (contents.splitOn '\n').take (n + 1) = (contents.splitOn '\n').take n ++ [line] := by
    intro n line hline
    rw [List.take_add_one, hline]
    rfl
  constructor
  · rintro ⟨-, hlines⟩ n line hline -
    have hbefore := (hend n).mp (hlines n)
    have hbehind := (hend (n + 1)).mp (hlines (n + 1))
    rw [hsucc n line hline, List.flatMap_append, List.flatMap_singleton, readLines_append,
      readLines_append, readLines_singleton] at hbehind
    exact (step_iff hbefore line).mp hbehind
  · intro hlong
    have hlines : ∀ n, Says (loadEnd (firstLines n contents))
        (readLines [] ((contents.splitOn '\n').take n)) := by
      intro n
      rw [hend n]
      induction n with
      | zero => exact ⟨rfl, fun _ _ => rfl⟩
      | succ n ih =>
        cases hline : (contents.splitOn '\n')[n]? with
        | none =>
          rw [List.take_add_one, hline, Option.toList_none, List.append_nil]
          exact ih
        | some line =>
          rw [hsucc n line hline, List.flatMap_append, List.flatMap_singleton, readLines_append,
            readLines_append, readLines_singleton]
          apply (step_iff ih line).mpr
          rcases Nat.lt_or_ge 255 line.length with hlt | hle
          · exact hlong n line hline hlt
          · exact saysInPieces_of_length_le hle
    refine ⟨fun fs path cfg hfile => configLoadFile_of_says hfile ?_, hlines⟩
    have hall := hlines (contents.splitOn '\n').length
    rwa [firstLines, List.take_length, List.intercalate_splitOn] at hall

end Lines

/-- A long line of one comment. -/
theorem configLoadFile_lines_comment : ReadsLines (List.replicate 300 '#') := by
  have hline : '\n' ∉ List.replicate 300 '#' := by decide +kernel
  apply (configLoadFile_lines_iff (List.replicate 300 '#') (by decide +kernel)).mpr
  rw [List.splitOn_eq_singleton hline]
  intro n line hn _
  cases n with
  | succ n => cases hn
  | zero =>
    cases hn
    have hpieces : chunks 255 (List.replicate 300 '#') =
        [List.replicate 255 '#', List.replicate 45 '#'] := by
      rw [chunks_eq (by decide) (by decide), List.take_replicate, List.drop_replicate,
        chunks_of_length_le (by decide) (by decide)]
      rfl
    have hsaid : readLines [] [List.replicate 255 '#', List.replicate 45 '#'] = ([], []) := by
      decide +kernel
    have hwhole : readLine [] (List.replicate 300 '#') = ([], []) := by decide +kernel
    rw [List.take_zero, readLines, SaysInPieces, hpieces, hsaid, hwhole]
    exact ⟨rfl, fun _ _ => rfl⟩

/-- A comment whose second piece looks like a setting. -/
def commentedRoute : List Char :=
  "[network]\n".toList ++ List.replicate 255 '#' ++ "no_route=1".toList

/-- The setting in the comment is made. -/
theorem not_configLoadFile_lines :
    ¬ ∀ contents : List Char, '\x00' ∉ contents →
      ∀ (fs : FileSystem) (path : CStr) (cfg : TetherConfig), fs path = some contents →
        configLoadFile fs cfg path = some (referenceLoad contents cfg) := by
  intro h
  have hload := h commentedRoute (by decide +kernel) (fun _ => some commentedRoute) []
    configInitDefaults rfl
  exact absurd hload (by decide +kernel)

end AndroidTether
