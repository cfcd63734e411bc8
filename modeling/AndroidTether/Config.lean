import AndroidTether.DhcpOptions
import AndroidTether.Lib.LastWrite
import AndroidTether.Lib.Loop
import Mathlib.Data.List.DropRight

namespace AndroidTether

open WhileLoop LastWrite

/-!
# Configuration

`config.c`: defaults, the INI file and the command line.  Files and options assign to the
fields of `tether_config_t`, and which assignments a file makes does not depend on the
fields, so an assignment is a value here and a file or a command line a list of them.

A `Char` stands for one byte of a file or of an argument, so that a list of 255 of them is what
fits into the buffer of `fgets`.

* `fileAssignments` — what `config_load_file` assigns; `loadLoop_eq`, `configLoadFile_eq`.
-/

/-! ### Fields -/

/-- `log_level_t` -/
inductive LogLevel where
  | debug
  | info
  | warn
  | error
  deriving DecidableEq, Repr

/-- `tether_config_t` -/
structure TetherConfig where
  noRoute : Bool
  noDns : Bool
  staticIp : CStr
  gateway : CStr
  netmask : CStr
  logLevel : LogLevel
  verbose : Bool
  protocol : CStr
  uiPid : Int
  watchMode : Bool
  deriving DecidableEq, Repr

/-- The fields of `tether_config_t`. -/
inductive Field where
  | noRoute
  | noDns
  | staticIp
  | gateway
  | netmask
  | logLevel
  | verbose
  | protocol
  | uiPid
  | watchMode
  deriving DecidableEq, Repr

/-- A field and a value for it. -/
inductive Setting where
  | noRoute (b : Bool)
  | noDns (b : Bool)
  | staticIp (s : CStr)
  | gateway (s : CStr)
  | netmask (s : CStr)
  | logLevel (l : LogLevel)
  | verbose (b : Bool)
  | protocol (s : CStr)
  | uiPid (n : Int)
  | watchMode (b : Bool)
  deriving DecidableEq, Repr

/-- The field of a setting. -/
def Setting.field : Setting → Field
  | noRoute _ => .noRoute
  | noDns _ => .noDns
  | staticIp _ => .staticIp
  | gateway _ => .gateway
  | netmask _ => .netmask
  | logLevel _ => .logLevel
  | verbose _ => .verbose
  | protocol _ => .protocol
  | uiPid _ => .uiPid
  | watchMode _ => .watchMode

namespace TetherConfig

/-- `cfg->field = value` -/
def set (cfg : TetherConfig) : Setting → TetherConfig
  | .noRoute b => { cfg with noRoute := b }
  | .noDns b => { cfg with noDns := b }
  | .staticIp s => { cfg with staticIp := s }
  | .gateway s => { cfg with gateway := s }
  | .netmask s => { cfg with netmask := s }
  | .logLevel l => { cfg with logLevel := l }
  | .verbose b => { cfg with verbose := b }
  | .protocol s => { cfg with protocol := s }
  | .uiPid n => { cfg with uiPid := n }
  | .watchMode b => { cfg with watchMode := b }

/-- The value of a field. -/
def get (cfg : TetherConfig) : Field → Setting
  | .noRoute => .noRoute cfg.noRoute
  | .noDns => .noDns cfg.noDns
  | .staticIp => .staticIp cfg.staticIp
  | .gateway => .gateway cfg.gateway
  | .netmask => .netmask cfg.netmask
  | .logLevel => .logLevel cfg.logLevel
  | .verbose => .verbose cfg.verbose
  | .protocol => .protocol cfg.protocol
  | .uiPid => .uiPid cfg.uiPid
  | .watchMode => .watchMode cfg.watchMode

/-- Setting a field changes that field alone. -/
theorem get_set (cfg : TetherConfig) (s : Setting) (f : Field) :
    (cfg.set s).get f = if s.field = f then s else cfg.get f := by
  cases s <;> cases f <;> rfl

end TetherConfig

/-- `config_init_defaults`: the rest is zero. -/
def configInitDefaults : TetherConfig where
  noRoute := false
  noDns := false
  staticIp := []
  gateway := []
  netmask := strlcpy defaultNetmask 16
  logLevel := .info
  verbose := false
  protocol := strlcpy "rndis".toList 16
  uiPid := 0
  watchMode := false

/-- A setting and the text of its value: the argument of an option, or in a file what stands
    behind the `=`, without the white space around it. -/
structure Assignment where
  setting : Setting
  value : CStr
  deriving DecidableEq, Repr

/-- The field assigned to. -/
def Assignment.field (a : Assignment) : Field := a.setting.field

/-! ### The C library -/

/-- `isspace` in the C locale. -/
def isspace (c : Char) : Bool :=
  c = ' ' ∨ c = '\t' ∨ c = '\n' ∨ c = '\x0b' ∨ c = '\x0c' ∨ c = '\r'

/-- `strcasecmp(s, t) == 0` -/
def strcaseeq (s t : CStr) : Bool := s.map Char.toLower = t.map Char.toLower

/-- The C string in an array of characters: up to the first NUL. -/
def cString (chars : List Char) : CStr := chars.takeWhile (· ≠ '\x00')

/-- At most `n` characters, up to and with a newline. -/
def lineOf : Nat → List Char → List Char
  | 0, _ => []
  | _ + 1, [] => []
  | n + 1, c :: cs => if c = '\n' then [c] else c :: lineOf n cs

/-- `fgets(line, size, f)`: the characters read and the rest of the file, `none` at its
    end. -/
def fgets (size : Nat) (stream : List Char) : Option (List Char × List Char) :=
  match stream with
  | [] => none
  | c :: cs =>
    let line := lineOf (size - 1) (c :: cs)
    some (line, (c :: cs).drop line.length)

/-- `strtol(s, &endp, 10)`: the number and the text at `endp`, `none` when nothing was
    converted. -/
def strtol (s : CStr) : Option (Int × CStr) :=
  let (negative, digits) := match s.dropWhile isspace with
    | '-' :: rest => (true, rest)
    | '+' :: rest => (false, rest)
    | rest => (false, rest)
  let number := digits.takeWhile Char.isDigit
  if number = [] then none
  else
    let n : Int := Nat.ofDigitChars 10 number 0
    let n := if negative then max (-n) (-2 ^ 63) else min n (2 ^ 63 - 1)
    some (n, digits.drop number.length)

/-! ### The file -/

/-- `strip` -/
def strip (s : CStr) : CStr := (s.dropWhile isspace).rdropWhile isspace

/-- `parse_bool` -/
def parseBool (val : CStr) : Bool :=
  strcaseeq val "true".toList || strcaseeq val "yes".toList || strcaseeq val "1".toList ||
    strcaseeq val "on".toList

/-- `parse_log_level` -/
def parseLogLevel (val : CStr) : LogLevel :=
  if strcaseeq val "debug".toList then .debug
  else if strcaseeq val "info".toList then .info
  else if strcaseeq val "warn".toList || strcaseeq val "warning".toList then .warn
  else if strcaseeq val "error".toList then .error
  else .info

/-- The assignment that `config_load_file` makes for a key of a section. -/
def keySetting (sect key val : CStr) : Option Setting :=
  if sect = "network".toList then
    if key = "no_route".toList then some (.noRoute (parseBool val))
    else if key = "no_dns".toList then some (.noDns (parseBool val))
    else if key = "static_ip".toList ∧ val ≠ [] then some (.staticIp (strlcpy val 16))
    else if key = "gateway".toList ∧ val ≠ [] then some (.gateway (strlcpy val 16))
    else if key = "netmask".toList ∧ val ≠ [] then some (.netmask (strlcpy val 16))
    else none
  else if sect = "logging".toList then
    if key = "level".toList then some (.logLevel (parseLogLevel val)) else none
  else if sect = "protocol".toList then
    if key = "driver".toList ∧ val ≠ [] then some (.protocol (strlcpy val 16)) else none
  else none

/-- The text behind the first `=`. -/
def afterEq (s : List Char) : List Char := (s.dropWhile (· ≠ '=')).tail

/-- The variables of the loop of `config_load_file`; `cfg` is whatever assignments go to. -/
structure LoadState (σ : Type) where
  stream : List Char
  sect : CStr
  cfg : σ

variable {σ : Type}

/-- The body of the loop, for a line that is neither empty nor a comment. -/
def loadLine (assign : σ → Assignment → σ) (rest : List Char) (s sect : CStr) (cfg : σ) :
    LoadState σ :=
  if s.head? = some '[' then
    if ']' ∈ s then ⟨rest, strlcpy (s.tail.takeWhile (· ≠ ']')) 32, cfg⟩ else ⟨rest, sect, cfg⟩
  else if '=' ∈ s then
    let key := strip (s.takeWhile (· ≠ '='))
    let val := strip (afterEq s)
    match keySetting sect key val with
    | some setting => ⟨rest, sect, assign cfg ⟨setting, val⟩⟩
    | none => ⟨rest, sect, cfg⟩
  else ⟨rest, sect, cfg⟩

/-- One round of the loop. -/
def loadBody (assign : σ → Assignment → σ) (st : LoadState σ) : ForInStep (LoadState σ) :=
  match fgets 256 st.stream with
  | none => .done st
  | some (line, rest) =>
    let s := strip (cString line)
    if s = [] ∨ s.head? = some '#' ∨ s.head? = some ';' then .yield { st with stream := rest }
    else .yield (loadLine assign rest s st.sect st.cfg)

/-- The loop of `config_load_file` over a file's contents. -/
def loadLoop (assign : σ → Assignment → σ) (contents : List Char) (cfg : σ) : σ :=
  (iterate (loadBody assign) (contents.length + 1) ⟨contents, [], cfg⟩).value.cfg

/-- The files that `fopen` finds, and what is in them. -/
abbrev FileSystem := CStr → Option (List Char)

/-- `config_load_file`, `none` when it returns -1. -/
def configLoadFile (fs : FileSystem) (cfg : TetherConfig) (path : CStr) : Option TetherConfig :=
  (fs path).map fun contents => loadLoop (fun cfg a => cfg.set a.setting) contents cfg

/-- `config_default_path`, given the home directory if there is one. -/
def configDefaultPath (home : Option CStr) : Option CStr :=
  home.map fun home => (home ++ "/.config/android-tether/config".toList).take 511

/-- `config_load_default`; `main` ignores whether it fails. -/
def configLoadDefault (fs : FileSystem) (home : Option CStr) (cfg : TetherConfig) : TetherConfig :=
  match configDefaultPath home with
  | none => cfg
  | some path => (configLoadFile fs cfg path).getD cfg

/-! ### The command line -/

/-- An option as `getopt_long` delivers it, `unknown` for `?`. -/
inductive CliOption where
  | noRoute
  | noDns
  | static (optarg : CStr)
  | gateway (optarg : CStr)
  | netmask (optarg : CStr)
  | verbose
  | uiPid (optarg : CStr)
  | config (optarg : CStr)
  | version
  | watch
  | help
  | unknown
  deriving DecidableEq, Repr

/-- The value of `--ui-pid`, if it is accepted. -/
def parseUiPid (optarg : CStr) : Option Int :=
  match strtol optarg with
  | some (val, []) => if val ≤ 0 then none else some (toInt val.toNat)
  | _ => none

/-- How `config_apply_cli` ends: it returns, or the process exits. -/
inductive CliResult where
  | ret (r : Int) (cfg : TetherConfig)
  | exit
  deriving DecidableEq, Repr

/-- `config_apply_cli` -/
def configApplyCli (fs : FileSystem) : TetherConfig → List CliOption → CliResult
  | cfg, [] => .ret 0 cfg
  | cfg, opt :: opts =>
    match opt with
    | .noRoute => configApplyCli fs (cfg.set (.noRoute true)) opts
    | .noDns => configApplyCli fs (cfg.set (.noDns true)) opts
    | .static optarg => configApplyCli fs (cfg.set (.staticIp (strlcpy optarg 16))) opts
    | .gateway optarg => configApplyCli fs (cfg.set (.gateway (strlcpy optarg 16))) opts
    | .netmask optarg => configApplyCli fs (cfg.set (.netmask (strlcpy optarg 16))) opts
    | .verbose => configApplyCli fs ((cfg.set (.verbose true)).set (.logLevel .debug)) opts
    | .uiPid optarg =>
      match parseUiPid optarg with
      | none => .ret (-1) cfg
      | some pid => configApplyCli fs (cfg.set (.uiPid pid)) opts
    | .config optarg =>
      match configLoadFile fs cfg optarg with
      | none => .ret (-1) cfg
      | some cfg => configApplyCli fs cfg opts
    | .version => .exit
    | .watch => configApplyCli fs (cfg.set (.watchMode true)) opts
    | .help => .ret 1 cfg
    | .unknown => .ret (-1) cfg

/-- The first lines of `main`. -/
def mainConfig (fs : FileSystem) (home : Option CStr) (opts : List CliOption) : CliResult :=
  configApplyCli fs (configLoadDefault fs home configInitDefaults) opts

/-! ### Files as lists of assignments -/

/-- What a file assigns, in order. -/
def fileAssignments (contents : List Char) : List Assignment :=
  loadLoop (fun as a => as ++ [a]) contents []

/-- A line that was read was not empty. -/
theorem fgets_length {stream line rest : List Char} (h : fgets 256 stream = some (line, rest)) :
    rest.length < stream.length := by
  cases stream with
  | nil => cases h
  | cons c cs =>
    simp only [fgets, Option.some.injEq, Prod.mk.injEq] at h
    obtain ⟨rfl, rfl⟩ := h
    have hpos : 0 < (lineOf (256 - 1) (c :: cs)).length := by
      simp only [lineOf]
      split <;> simp
    simp only [List.length_drop, List.length_cons]
    omega

/-- The loop reads the file to its end: one round a character is enough. -/
theorem loadLoop_done (assign : σ → Assignment → σ) {n : Nat} {st : LoadState σ}
    (h : st.stream.length < n) : ∃ t, iterate (loadBody assign) n st = .done t := by
  induction n generalizing st with
  | zero => exact absurd h (Nat.not_lt_zero _)
  | succ n ih =>
    cases hline : fgets 256 st.stream with
    | none => exact ⟨st, iterate_succ_done n (by simp [loadBody, hline])⟩
    | some p =>
      obtain ⟨line, rest⟩ := p
      have hlt := fgets_length hline
      -- whatever the line says, the round ends with what `fgets` has left
      obtain ⟨st', hst', hrest⟩ : ∃ st', loadBody assign st = .yield st' ∧ st'.stream = rest := by
        simp only [loadBody, hline]
        split
        · exact ⟨_, rfl, rfl⟩
        · refine ⟨_, rfl, ?_⟩
          unfold loadLine
          split
          · split <;> rfl
          · split
            · dsimp only
              split <;> rfl
            · rfl
      rw [iterate_succ_yield n hst']
      exact ih (by rw [hrest]; omega)

/-- A file does the assignments of `fileAssignments` to whatever they go to. -/
theorem loadLoop_eq (assign : σ → Assignment → σ) (contents : List Char) (cfg : σ) :
    loadLoop assign contents cfg = (fileAssignments contents).foldl assign cfg := by
  -- the loop that collects assignments simulates the one that makes them
  let run : LoadState (List Assignment) → LoadState σ := fun st =>
    ⟨st.stream, st.sect, st.cfg.foldl assign cfg⟩
  have hstep : ∀ st, loadBody assign (run st) =
      mapStep run (loadBody (fun as a => as ++ [a]) st) := by
    intro st
    simp only [loadBody, run]
    cases fgets 256 st.stream with
    | none => rfl
    | some p =>
      dsimp only
      split
      · rfl
      · simp only [mapStep_yield, ForInStep.yield.injEq, loadLine]
        split
        · split <;> rfl
        · split
          · split
            · simp only [List.foldl_append, List.foldl_cons, List.foldl_nil]
            · rfl
          · rfl
  have hrun := iterate_map hstep (contents.length + 1) ⟨contents, [], []⟩
  exact congrArg (fun r => r.value.cfg) hrun |>.trans (by rw [mapStep_value])

/-- `tether_config_t` as a record of fields. -/
def configStore : LastWrite.Store TetherConfig Setting Assignment.field where
  read := TetherConfig.get
  write cfg a := cfg.set a.setting
  val := Assignment.setting
  read_write cfg a f := cfg.get_set a.setting f

/-- `config_load_file` makes the assignments of the file. -/
theorem configLoadFile_eq (fs : FileSystem) (cfg : TetherConfig) (path : CStr) :
    configLoadFile fs cfg path =
      (fs path).map fun contents => configStore.writeAll cfg (fileAssignments contents) := by
  simp only [configLoadFile, loadLoop_eq]
  rfl

end AndroidTether
