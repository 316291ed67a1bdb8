import ContextVisualizer.Python.Builtins

/-!
# The compression benchmark package

`WrpCompressBench` (`jarvis_iowarp/wrp_compress_bench/pkg.py`) is the jarvis package that runs the
CTE compression benchmark. jarvis fills `self.config` from the package's menu, taking each
entry's default where the user gives no value, and then calls `_configure`, `start` and `clean`.

`_configure` rejects a negative `compute_time`, then non-positive `iterations`, `nprocs` and
`ppn`, with a `ValueError` naming the first rejected field; nothing else it reads can make it
fail (`configure_outcome`), and a failure changes nothing but the log (`configure_error_state`).
Unknown pattern names only draw a warning, and only in parts that hold a `:`. The menu's
defaults pass (`configure_menuDefaults`). After a successful `_configure`, `start` runs the
benchmark on exactly `nprocs` processes, and with the configured `ppn` only when there is more
than one (`start_after_configure`).

The parts of jarvis the package calls are not in the repository. Here `self.log` appends a line,
`self.setenv` sets a variable, and `Exec` is the command line and process counts it is given.
-/

namespace ContextVisualizer

namespace WrpCompressBench

variable (py : Runtime)

/-! ### The menu and the configuration -/

/-- A menu entry's `type` with its `default`. -/
inductive Default where
  | str (s : String)
  | int (n : Int)
  | bool (b : Bool)
  deriving DecidableEq, Repr

/-- An entry of `_configure_menu`: the `name`, `default` and `choices` jarvis reads. The `msg`
and `help` texts are only shown to the user. -/
structure MenuEntry where
  name : String
  default : Default
  choices : List String
  deriving DecidableEq, Repr

/-- Lines 43-127. -/
def configureMenu : List MenuEntry := [
  ⟨"io_size", .str "1MB", []⟩,
  ⟨"transfer_size", .str "64KB", []⟩,
  ⟨"compute_time", .int 100, []⟩,
  ⟨"iterations", .int 10, []⟩,
  ⟨"pattern", .str "grayscott:100", []⟩,
  ⟨"compress", .str "dynamic", ["none", "dynamic", "zstd", "lz4", "brotli", "bzip2", "blosc2",
    "fpzip", "lzma", "snappy", "sz3", "zfp", "zlib"]⟩,
  ⟨"nprocs", .int 1, []⟩,
  ⟨"ppn", .int 1, []⟩,
  ⟨"output_file", .str "", []⟩,
  ⟨"trace", .bool false, []⟩]

/-- The values of `self.config` the package reads, with the types its menu gives them. -/
structure Config where
  ioSize : String
  transferSize : String
  computeTime : Int
  iterations : Int
  pattern : String
  compress : String
  nprocs : Int
  ppn : Int
  outputFile : String
  trace : Bool
  deriving DecidableEq, Repr

/-- The default of the menu entry `name`. -/
def defaultOf (menu : List MenuEntry) (name : String) : Option Default :=
  (menu.find? (·.name == name)).map MenuEntry.default

def Default.str? : Default → Option String
  | .str s => some s
  | _ => none

def Default.int? : Default → Option Int
  | .int n => some n
  | _ => none

def Default.bool? : Default → Option Bool
  | .bool b => some b
  | _ => none

/-- The configuration jarvis builds from the menu when the user gives no value. -/
def menuDefaults (menu : List MenuEntry) : Option Config :=
  let str (name : String) := (defaultOf menu name).bind Default.str?
  let int (name : String) := (defaultOf menu name).bind Default.int?
  Config.mk <$> str "io_size" <*> str "transfer_size" <*> int "compute_time" <*>
    int "iterations" <*> str "pattern" <*> str "compress" <*> int "nprocs" <*> int "ppn" <*>
    str "output_file" <*> (defaultOf menu "trace").bind Default.bool?

/-! ### The checks of `_configure` -/

/-- The text of the `ValueError` for a rejected field. -/
def invalid (name : String) (value : Int) (must : String) : String :=
  "Invalid " ++ name ++ ": " ++ toString value ++ ". Must be " ++ must

/-- `if self.config[name] <= 0: raise ValueError(...)`, the check of the three counts. -/
def checkPositive (name : String) (value : Int) : Except String Unit :=
  if value ≤ 0 then .error (invalid name value "> 0") else .ok ()

/-- Lines 140-143. Unlike the counts, `compute_time` may be zero. -/
def checkComputeTime (value : Int) : Except String Unit :=
  if value < 0 then .error (invalid "compute_time" value ">= 0") else .ok ()

/-- Lines 145-147. -/
def checkIterations (value : Int) : Except String Unit := checkPositive "iterations" value

/-- Lines 149-151. -/
def checkNprocs (value : Int) : Except String Unit := checkPositive "nprocs" value

/-- Lines 153-155. -/
def checkPpn (value : Int) : Except String Unit := checkPositive "ppn" value

/-- Lines 140-155, in order: the first rejected field raises. -/
def validate (cfg : Config) : Except String Unit := do
  checkComputeTime cfg.computeTime
  checkIterations cfg.iterations
  checkNprocs cfg.nprocs
  checkPpn cfg.ppn

@[simp] lemma checkPositive_eq_ok_iff {name : String} {value : Int} :
    checkPositive name value = .ok () ↔ 0 < value := by
  unfold checkPositive
  split <;> simp <;> omega

@[simp] lemma checkPositive_eq_error_iff {name m : String} {value : Int} :
    checkPositive name value = .error m ↔ value ≤ 0 ∧ m = invalid name value "> 0" := by
  unfold checkPositive
  split <;> simp [eq_comm, *]

@[simp] lemma checkComputeTime_eq_ok_iff {value : Int} :
    checkComputeTime value = .ok () ↔ 0 ≤ value := by
  unfold checkComputeTime
  split <;> simp <;> omega

@[simp] lemma checkComputeTime_eq_error_iff {m : String} {value : Int} :
    checkComputeTime value = .error m ↔
      value < 0 ∧ m = invalid "compute_time" value ">= 0" := by
  unfold checkComputeTime
  split <;> simp [eq_comm, *]

lemma validate_eq_ok_iff (cfg : Config) : validate cfg = .ok () ↔
    0 ≤ cfg.computeTime ∧ 0 < cfg.iterations ∧ 0 < cfg.nprocs ∧ 0 < cfg.ppn := by
  simp [validate, bind_unit_eq_ok, checkIterations, checkNprocs, checkPpn]

/-- The error names the first rejected field, with its value and its bound. -/
lemma validate_eq_error_iff (cfg : Config) (m : String) : validate cfg = .error m ↔
    (cfg.computeTime < 0 ∧ m = invalid "compute_time" cfg.computeTime ">= 0") ∨
    (0 ≤ cfg.computeTime ∧ cfg.iterations ≤ 0 ∧
      m = invalid "iterations" cfg.iterations "> 0") ∨
    (0 ≤ cfg.computeTime ∧ 0 < cfg.iterations ∧ cfg.nprocs ≤ 0 ∧
      m = invalid "nprocs" cfg.nprocs "> 0") ∨
    (0 ≤ cfg.computeTime ∧ 0 < cfg.iterations ∧ 0 < cfg.nprocs ∧ cfg.ppn ≤ 0 ∧
      m = invalid "ppn" cfg.ppn "> 0") := by
  simp only [validate, bind_unit_eq_error, checkIterations, checkNprocs, checkPpn,
    checkComputeTime_eq_error_iff, checkComputeTime_eq_ok_iff, checkPositive_eq_error_iff,
    checkPositive_eq_ok_iff, and_or_left, and_assoc, or_assoc]

/-! ### Pattern warnings -/

/-- The characters `str.strip()` removes: the ASCII whitespace of `str.isspace`, and beyond
ASCII what the runtime's Unicode table says. -/
def isStripSpace (c : Char) : Bool :=
  if c.toNat < 128 then
    decide (9 ≤ c.toNat ∧ c.toNat ≤ 13 ∨ 28 ≤ c.toNat ∧ c.toNat ≤ 32)
  else py.isSpace c

/-- `s.strip()`. -/
def pyStrip (s : List Char) : List Char :=
  ((s.dropWhile (isStripSpace py)).reverse.dropWhile (isStripSpace py)).reverse

/-- `s.split(c)` for a one-character separator: the pieces between the separators, never none. -/
def splitChar (c : Char) : List Char → List (List Char)
  | [] => [[]]
  | d :: s =>
    if d = c then [] :: splitChar c s
    else match splitChar c s with
      | p :: ps => (d :: p) :: ps
      | [] => [[d]]

/-- Lines 158-159. -/
def validPatterns : List String :=
  ["uniform", "gaussian", "constant", "gradient", "sinusoidal", "repeating", "grayscott",
    "bimodal", "exponential"]

/-- `str(valid_patterns)`. -/
def validPatternsText : String :=
  "[" ++ ", ".intercalate (validPatterns.map fun p => "'" ++ p ++ "'") ++ "]"

/-- Line 164. -/
def unknownPattern (pname : String) : String :=
  "Warning: Unknown pattern '" ++ pname ++ "'. Valid patterns: " ++ validPatternsText

/-- Lines 157-164: the warnings for unknown pattern names, in order. A part without a `:` is
not looked at. -/
def patternWarnings (pattern : String) : List String :=
  (splitChar ',' pattern.data).filterMap fun part =>
    if ':' ∈ part then
      let pname : String := ⟨pyStrip py ((splitChar ':' part).headD [])⟩
      if pname ∈ validPatterns then none else some (unknownPattern pname)
    else none

/-! ### `_init`, `_configure`, `start` and `clean` -/

/-- What the package's methods change: `self.output_file`, the variables set with `setenv`, and
the lines logged so far. -/
structure State where
  outputFile : Option String
  env : List (String × String)
  log : List String
  deriving DecidableEq, Repr

/-- `self.log` on each line in turn. -/
def State.logs (st : State) (lines : List String) : State := { st with log := st.log ++ lines }

/-- `self.benchmark_executable`, set by `_init`. -/
def benchmarkExecutable : String := "synthetic_workload_exec"

/-- Lines 34-41: `_init`. -/
def init (st : State) : State := { st with outputFile := none }

/-- `os.path.join(a, b)` on POSIX: an absolute `b` replaces `a`. -/
def pathJoin (a b : String) : String :=
  if b.data.head? = some '/' then b
  else if a = "" ∨ a.data.getLast? = some '/' then a ++ b
  else a ++ "/" ++ b

/-- The summary line of lines 180-185. -/
def configurationLine (cfg : Config) : String :=
  "Configuration: io_size=" ++ cfg.ioSize ++ ", transfer_size=" ++ cfg.transferSize ++
    ", compute_time=" ++ toString cfg.computeTime ++ "ms, iterations=" ++
    toString cfg.iterations ++ ", pattern=" ++ cfg.pattern ++ ", compress=" ++ cfg.compress

/-- The first line `_configure` logs, before any check. -/
def configuringLine : String := "Configuring CTE compression benchmark application..."

/-- Lines 129-186, against the run's `shared_dir`: the state afterwards and the `ValueError`
raised, if any. What was logged before the raise stays logged. -/
def configure (sharedDir : String) (cfg : Config) (st : State) : State × Except String Unit :=
  let st := st.logs [configuringLine]
  match validate cfg with
  | .error m => (st, .error m)
  | .ok () =>
    let st := st.logs (patternWarnings py cfg.pattern)
    let st := if cfg.outputFile ≠ "" then
        let f := pathJoin sharedDir cfg.outputFile
        { st.logs ["Benchmark results will be saved to: " ++ f] with outputFile := some f }
      else { st.logs ["Benchmark results will be printed to stdout"] with outputFile := none }
    let st := if cfg.trace then
        { st.logs ["Compression tracing enabled"] with
          env := dictSet "WRP_CTE_COMPRESS_TRACE" "on" st.env }
      else st
    (st.logs [configurationLine cfg,
      "CTE compression benchmark configuration completed successfully"], .ok ())

/-- The process counts `start` hands to `PsshExecInfo`. -/
structure ExecInfo where
  nprocs : Int
  ppn : Int
  deriving DecidableEq, Repr

/-- Lines 194-206: the benchmark's arguments. -/
def commandWords (cfg : Config) : List String :=
  [benchmarkExecutable, "--io-size " ++ cfg.ioSize, "--transfer-size " ++ cfg.transferSize,
    "--compute-time " ++ toString cfg.computeTime, "--iterations " ++ toString cfg.iterations,
    "--pattern " ++ cfg.pattern, "--compress " ++ cfg.compress] ++
  if cfg.trace then ["--trace"] else []

/-- Lines 187-243: the command line `start` runs and its process counts. The output goes to
`self.output_file` when that is set and not empty. -/
def start (cfg : Config) (st : State) : String × ExecInfo :=
  let cmdStr := " ".intercalate (commandWords cfg)
  (match st.outputFile with
    | some f => if f ≠ "" then cmdStr ++ " > " ++ f ++ " 2>&1" else cmdStr
    | none => cmdStr,
    if cfg.nprocs > 1 then ⟨cfg.nprocs, cfg.ppn⟩ else ⟨1, 1⟩)

/-- Lines 255-270: the file `clean` removes, given which paths exist. -/
def clean (pathExists : String → Bool) (st : State) : Option String :=
  match st.outputFile with
  | some f => if f ≠ "" ∧ pathExists f then some f else none
  | none => none

/-! ### What the methods guarantee -/

lemma configure_snd (sharedDir : String) (cfg : Config) (st : State) :
    (configure py sharedDir cfg st).2 = validate cfg := by
  unfold configure
  split <;> simp_all

/-- A failed `_configure` changes nothing but the log, which holds its first line. -/
lemma configure_error_state {sharedDir : String} {cfg : Config} {st : State} {m : String}
    (h : (configure py sharedDir cfg st).2 = .error m) :
    (configure py sharedDir cfg st).1 = st.logs [configuringLine] := by
  rw [configure_snd] at h
  simp [configure, h]

/-- `_configure` succeeds exactly when the four counts are in range, whatever the sizes, the
pattern, the compressor, the output file and the trace flag are. When it fails, its error names
the first field out of range, with its value and its bound. -/
lemma configure_outcome (sharedDir : String) (cfg : Config) (st : State) :
    ((configure py sharedDir cfg st).2 = .ok () ↔
      0 ≤ cfg.computeTime ∧ 0 < cfg.iterations ∧ 0 < cfg.nprocs ∧ 0 < cfg.ppn) ∧
    ∀ m, (configure py sharedDir cfg st).2 = .error m ↔
      (cfg.computeTime < 0 ∧ m = invalid "compute_time" cfg.computeTime ">= 0") ∨
      (0 ≤ cfg.computeTime ∧ cfg.iterations ≤ 0 ∧
        m = invalid "iterations" cfg.iterations "> 0") ∨
      (0 ≤ cfg.computeTime ∧ 0 < cfg.iterations ∧ cfg.nprocs ≤ 0 ∧
        m = invalid "nprocs" cfg.nprocs "> 0") ∨
      (0 ≤ cfg.computeTime ∧ 0 < cfg.iterations ∧ 0 < cfg.nprocs ∧ cfg.ppn ≤ 0 ∧
        m = invalid "ppn" cfg.ppn "> 0") := by
  rw [configure_snd]
  exact ⟨validate_eq_ok_iff cfg, validate_eq_error_iff cfg⟩

/-- The menu's defaults pass `_configure`: no error, no warning, results on stdout, no variable
set. The default compressor is one of its menu choices. -/
lemma configure_menuDefaults (sharedDir : String) (st : State) :
    ∃ cfg, menuDefaults configureMenu = some cfg ∧
      configure py sharedDir cfg st = (st.logs [configuringLine,
        "Benchmark results will be printed to stdout", configurationLine cfg,
        "CTE compression benchmark configuration completed successfully"] |> fun s =>
          { s with outputFile := none }, .ok ()) ∧
      patternWarnings py cfg.pattern = [] ∧
      ∃ e ∈ configureMenu, e.name = "compress" ∧ e.default = .str cfg.compress ∧
        cfg.compress ∈ e.choices := by
  refine ⟨_, rfl, ?_, rfl, ⟨_, .tail _ (.tail _ (.tail _ (.tail _ (.tail _ (.head _))))),
    rfl, rfl, by decide⟩⟩
  simp [configure, validate, checkComputeTime, checkIterations, checkNprocs, checkPpn,
    checkPositive, State.logs, show patternWarnings py "grayscott:100" = [] from rfl]

lemma pathJoin_ne_empty (a : String) {b : String} (hb : b ≠ "") : pathJoin a b ≠ "" := by
  unfold pathJoin
  split
  · exact hb
  · split <;> simp_all [String.ext_iff]

/-- After a successful `_configure`, `start` runs the benchmark on exactly `nprocs` processes.
The configured `ppn` is used only when there is more than one process; otherwise it is `1`.
The output goes to `output_file` joined to `shared_dir` when that is not empty. -/
lemma start_after_configure {sharedDir : String} {cfg : Config} {st : State}
    (h : (configure py sharedDir cfg st).2 = .ok ()) :
    (start cfg (configure py sharedDir cfg st).1).2 =
        ⟨cfg.nprocs, if cfg.nprocs = 1 then 1 else cfg.ppn⟩ ∧
    (start cfg (configure py sharedDir cfg st).1).1 =
      if cfg.outputFile = "" then " ".intercalate (commandWords cfg)
      else " ".intercalate (commandWords cfg) ++ " > " ++ pathJoin sharedDir cfg.outputFile ++
        " 2>&1" := by
  have hv := h
  rw [configure_snd, validate_eq_ok_iff] at hv
  have hn : cfg.nprocs > 1 ∨ cfg.nprocs = 1 := by omega
  constructor
  · rcases hn with hn | hn
    · simp [start, hn, show cfg.nprocs ≠ 1 by omega]
    · simp [start, hn]
  · rw [configure_snd] at h
    unfold configure
    simp only [h]
    by_cases ho : cfg.outputFile = ""
    · cases cfg.trace <;> simp [start, ho, State.logs]
    · cases cfg.trace <;> simp [start, ho, State.logs, pathJoin_ne_empty sharedDir ho]

/-! ### Runs of `_configure` -/

/-- `_configure` sets the trace variable to `on` exactly when it succeeds with tracing asked for,
and leaves it alone otherwise. -/
lemma configure_trace_lookup (sharedDir : String) (cfg : Config) (st : State) :
    (configure py sharedDir cfg st).1.env.lookup "WRP_CTE_COMPRESS_TRACE" =
      if (validate cfg).isOk && cfg.trace then some "on"
      else st.env.lookup "WRP_CTE_COMPRESS_TRACE" := by
  unfold configure
  split
  · next h => simp [h, State.logs, Except.isOk, Except.toBool]
  · next h => by_cases ho : cfg.outputFile = "" <;> cases cfg.trace <;>
      simp [h, ho, State.logs, Except.isOk, Except.toBool]

/-- `_configure` touches no other variable. -/
lemma configure_env_of_ne (sharedDir : String) (cfg : Config) (st : State) {k : String}
    (hk : k ≠ "WRP_CTE_COMPRESS_TRACE") :
    (configure py sharedDir cfg st).1.env.lookup k = st.env.lookup k := by
  unfold configure
  split
  · rfl
  · by_cases ho : cfg.outputFile = "" <;> cases cfg.trace <;>
      simp [ho, State.logs, lookup_dictSet_of_ne _ _ hk]

/-- `_configure` called on one package state, once for each configuration in turn. -/
def configureRun (sharedDir : String) : List Config → State → State
  | [], st => st
  | cfg :: cfgs, st => configureRun sharedDir cfgs (configure py sharedDir cfg st).1

/-- Over any run of `_configure`, tracing once turned on stays on: the trace variable is `on` at
the end exactly when it was before, or some successful call of the run asked for tracing. A later
call with tracing off does not unset it. No other variable is touched. -/
theorem configureRun_trace (sharedDir : String) : ∀ (cfgs : List Config) (st : State),
    ((configureRun py sharedDir cfgs st).env.lookup "WRP_CTE_COMPRESS_TRACE" = some "on" ↔
      st.env.lookup "WRP_CTE_COMPRESS_TRACE" = some "on" ∨
        ∃ cfg ∈ cfgs, validate cfg = .ok () ∧ cfg.trace) ∧
    ∀ k, k ≠ "WRP_CTE_COMPRESS_TRACE" →
      (configureRun py sharedDir cfgs st).env.lookup k = st.env.lookup k
  | [], st => by simp [configureRun]
  | cfg :: cfgs, st => by
    obtain ⟨ih, ihk⟩ := configureRun_trace sharedDir cfgs (configure py sharedDir cfg st).1
    refine ⟨?_, fun k hk => (ihk k hk).trans (configure_env_of_ne py sharedDir cfg st hk)⟩
    rw [configureRun, ih, configure_trace_lookup]
    have hstep : ((validate cfg).isOk && cfg.trace) = true ↔
        validate cfg = .ok () ∧ cfg.trace := by
      rw [Bool.and_eq_true, isOk_iff_eq_ok]
    split
    · next h => simp [hstep.1 h]
    · next h =>
      simp only [List.mem_cons, exists_eq_or_imp, ← hstep, h, Bool.false_eq_true, false_or]

/-- One process with four per node asked for, results to a relative file, tracing on, and an
unknown pattern name. -/
def benchConfig : Config :=
  ⟨"4MB", "64KB", 0, 3, "grayscott:70, bogus :30", "zstd", 1, 4, "results.txt", true⟩

example : start benchConfig (configure sampleRuntime "/shared" benchConfig ⟨none, [], []⟩).1 =
    ("synthetic_workload_exec --io-size 4MB --transfer-size 64KB --compute-time 0 " ++
      "--iterations 3 --pattern grayscott:70, bogus :30 --compress zstd --trace " ++
      "> /shared/results.txt 2>&1", ⟨1, 1⟩) := rfl

example : patternWarnings sampleRuntime benchConfig.pattern = [unknownPattern "bogus"] := rfl

end WrpCompressBench

end ContextVisualizer
