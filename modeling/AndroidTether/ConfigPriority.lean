import AndroidTether.Config

namespace AndroidTether

open LastWrite

/-!
# Command line and configuration files

Which of the assignments made by the files and by the options end up in the configuration.

* `mainConfig_eq` — the configuration is the defaults with all assignments made in the order
  in which files are loaded and options delivered;
* `commandLineWins_iff` — the command line wins over the files exactly when no file named by
  a later `-c` says otherwise.
-/

/-- What an option itself assigns. -/
def cliAssignments : CliOption → List Assignment
  | .noRoute => [⟨.noRoute true, []⟩]
  | .noDns => [⟨.noDns true, []⟩]
  | .static optarg => [⟨.staticIp (strlcpy optarg 16), optarg⟩]
  | .gateway optarg => [⟨.gateway (strlcpy optarg 16), optarg⟩]
  | .netmask optarg => [⟨.netmask (strlcpy optarg 16), optarg⟩]
  | .verbose => [⟨.verbose true, []⟩, ⟨.logLevel .debug, []⟩]
  | .uiPid optarg => (parseUiPid optarg).toList.map fun pid => ⟨.uiPid pid, optarg⟩
  | .watch => [⟨.watchMode true, []⟩]
  | .config _ | .version | .help | .unknown => []

/-- What a file that may be missing assigns. -/
def pathAssignments (fs : FileSystem) (path : CStr) : List Assignment :=
  (fs path).elim [] fileAssignments

/-- What the file named by a `-c` assigns. -/
def configAssignments (fs : FileSystem) : CliOption → List Assignment
  | .config path => pathAssignments fs path
  | _ => []

/-- What the default configuration file assigns. -/
def defaultAssignments (fs : FileSystem) (home : Option CStr) : List Assignment :=
  (configDefaultPath home).elim [] (pathAssignments fs)

/-- All assignments of a run of `main`, in order. -/
def allAssignments (fs : FileSystem) (home : Option CStr) (opts : List CliOption) :
    List Assignment :=
  interleave cliAssignments (configAssignments fs) (defaultAssignments fs home) opts

/-- The first default file that can be opened is applied. -/
theorem configLoadDefault_eq (fs : FileSystem) (home : Option CStr) (cfg : TetherConfig) :
    configLoadDefault fs home cfg = configStore.writeAll cfg (defaultAssignments fs home) := by
  unfold configLoadDefault defaultAssignments
  cases configDefaultPath home with
  | none => rfl
  | some path =>
    simp only [configLoadFile_eq, Option.elim_some, pathAssignments]
    cases fs path <;> rfl

/-- One option that does not end the loop of `config_apply_cli`. -/
theorem configApplyCli_cons {fs : FileSystem} {cfg cfg' : TetherConfig} {opt : CliOption}
    {opts : List CliOption} (h : configApplyCli fs cfg (opt :: opts) = .ret 0 cfg') :
    configApplyCli fs
      (configStore.writeAll cfg (cliAssignments opt ++ configAssignments fs opt)) opts =
        .ret 0 cfg' := by
  unfold configApplyCli at h
  cases opt with
  | uiPid optarg =>
    dsimp only at h
    cases hpid : parseUiPid optarg with
    | none => simp [hpid] at h
    | some pid =>
      rw [hpid] at h
      simp only [cliAssignments, configAssignments, hpid]
      exact h
  | config path =>
    dsimp only at h
    rw [configLoadFile_eq] at h
    cases hfs : fs path with
    | none => simp [hfs] at h
    | some contents =>
      rw [hfs] at h
      simpa [cliAssignments, configAssignments, pathAssignments, hfs] using h
  | version => cases h
  | help => simp at h
  | unknown => simp at h
  | _ => exact h

/-- The options that `config_apply_cli` accepted have all been applied. -/
theorem configApplyCli_ret {fs : FileSystem} {cfg cfg' : TetherConfig} {opts : List CliOption}
    (h : configApplyCli fs cfg opts = .ret 0 cfg') :
    cfg' = configStore.writeAll cfg
      (opts.flatMap fun opt => cliAssignments opt ++ configAssignments fs opt) := by
  induction opts generalizing cfg with
  | nil =>
    simp only [configApplyCli, CliResult.ret.injEq, true_and] at h
    exact h.symm
  | cons opt opts ih =>
    rw [ih (configApplyCli_cons h), List.flatMap_cons, ← configStore.writeAll_append]

/-- **Configuration.**  What `main` starts with when the command line was accepted. -/
theorem mainConfig_eq {fs : FileSystem} {home : Option CStr} {opts : List CliOption}
    {cfg : TetherConfig} (h : mainConfig fs home opts = .ret 0 cfg) :
    cfg = configStore.writeAll configInitDefaults (allAssignments fs home opts) := by
  rw [mainConfig, configLoadDefault_eq] at h
  rw [configApplyCli_ret h, allAssignments, interleave, configStore.writeAll_append]

/-! ### Priority -/

/-- Every field that an option assigns to has the value the last such option gives it; any
    other field has the value of the last assignment in a file, or else its default. -/
def CommandLineWins (fs : FileSystem) (home : Option CStr) (opts : List CliOption)
    (cfg : TetherConfig) : Prop :=
  ∀ f, cfg.get f =
    match last Assignment.field (opts.flatMap cliAssignments) f with
    | some a => a.setting
    | none =>
      match last Assignment.field
        (defaultAssignments fs home ++ opts.flatMap (configAssignments fs)) f with
      | some a => a.setting
      | none => configInitDefaults.get f

/-- Whenever a file named by a `-c` behind the last option for a field assigns to the field
    too, the last such assignment gives it the option's value. -/
def LaterFilesAgree (fs : FileSystem) (opts : List CliOption) : Prop :=
  ∀ f pre opt post a, opts = pre ++ opt :: post →
    last Assignment.field (cliAssignments opt) f = some a →
    last Assignment.field (post.flatMap cliAssignments) f = none →
    ∀ b, last Assignment.field (post.flatMap (configAssignments fs)) f = some b →
      b.setting = a.setting

/-- An option that assigns to a field does not name a file. -/
theorem configAssignments_eq_nil {fs : FileSystem} {opt : CliOption} {f : Field} {a : Assignment}
    (h : last Assignment.field (cliAssignments opt) f = some a) :
    configAssignments fs opt = [] := by
  cases opt with
  | config path => cases h
  | _ => rfl

/-- **Priority.**  For a command line that was accepted, the command line wins over the files
    if and only if the files named by later `-c` options agree with it. -/
theorem commandLineWins_iff (fs : FileSystem) (home : Option CStr) (opts : List CliOption)
    (cfg : TetherConfig) (h : mainConfig fs home opts = .ret 0 cfg) :
    CommandLineWins fs home opts cfg ↔ LaterFilesAgree fs opts := by
  have hpreferred : ∀ f, ((preferred Assignment.field cliAssignments (configAssignments fs)
      (defaultAssignments fs home) opts f).map configStore.val).getD
        (configStore.read configInitDefaults f) =
      match last Assignment.field (opts.flatMap cliAssignments) f with
      | some a => a.setting
      | none =>
        match last Assignment.field
          (defaultAssignments fs home ++ opts.flatMap (configAssignments fs)) f with
        | some a => a.setting
        | none => configInitDefaults.get f := by
    intro f
    unfold preferred
    cases last Assignment.field (opts.flatMap cliAssignments) f with
    | some a => rfl
    | none =>
      rw [Option.none_or]
      cases last Assignment.field
        (defaultAssignments fs home ++ opts.flatMap (configAssignments fs)) f <;> rfl
  have hpriority := configStore.priority_iff cliAssignments (configAssignments fs)
    (defaultAssignments fs home) configInitDefaults opts
  simp only [hpreferred] at hpriority
  rw [mainConfig_eq h, CommandLineWins]
  apply hpriority.trans
  -- the option's own step has no file in it
  constructor
  · intro hall f pre opt post a hopts ha hnone b hb
    apply hall f pre opt post a hopts ha hnone b
    rw [configAssignments_eq_nil ha, List.nil_append, hb]
  · intro hall f pre opt post a hopts ha hnone b hb
    rw [configAssignments_eq_nil ha, List.nil_append] at hb
    exact hall f pre opt post a hopts ha hnone b hb

/-- A file that turns routing on again. -/
def routeFile : List Char := "[network]\nno_route = false\n".toList

/-- The one file there is. -/
def oneFile : FileSystem := fun path => if path = "f".toList then some routeFile else none

/-- With `-c` before it the option wins. -/
theorem commandLineWins_iff_routeFirst :
    CommandLineWins oneFile none [.config "f".toList, .noRoute]
      (configInitDefaults.set (.noRoute true)) := by
  refine (commandLineWins_iff oneFile none [.config "f".toList, .noRoute]
    (configInitDefaults.set (.noRoute true)) (by decide)).mpr ?_
  intro f pre opt post a hopts ha _ b hb
  match pre with
  | [] =>
    obtain ⟨rfl, rfl⟩ := List.cons.inj hopts
    cases ha
  | [_] =>
    obtain ⟨rfl, rfl⟩ := List.cons.inj (List.cons.inj hopts).2
    cases hb
  | _ :: _ :: _ => simp at hopts

/-- `-n -c f`, where the file `f` says `no_route = false`: the file wins. -/
theorem not_commandLineWins :
    ¬ ∀ (fs : FileSystem) (home : Option CStr) (opts : List CliOption) (cfg : TetherConfig),
      mainConfig fs home opts = .ret 0 cfg → CommandLineWins fs home opts cfg := by
  intro h
  have hwins := h oneFile none [.noRoute, .config "f".toList] configInitDefaults (by decide)
    .noRoute
  exact absurd hwins (by decide)

end AndroidTether
