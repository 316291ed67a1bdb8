import ContextVisualizer.Python.Value

/-!
# The wheel build

`CMakeBuild` (`setup.py`) builds the C++ core for the Python package: `run` checks for CMake, has
`build_iowarp_core` fetch the sources, configure, build and install them, and then copies the
installed binaries into the package when bundling is asked for. Its work is modelled as the list
of steps it takes (`Action`), each subprocess call with its arguments and working directory.

Both `run` and `build_iowarp_core` read `IOWARP_BUNDLE_BINARIES`, with different defaults: unset,
it means `OFF` to `run` and `ON` to `build_iowarp_core`. So an unset variable builds for bundling,
installing into the staging directory with the tests off, but nothing is copied into the package
(`run_bundling`). Once the variable is set, the two readings agree.

Departures from the source:
* paths are strings, and `Path(p) / name` is `p` and `name` joined by one `/`, as for the absolute
  normalised paths the script builds;
* `str.upper` and `str.lower` are taken on ASCII letters only;
* the `print` calls, the `mkdir` calls and the exceptions of the subprocess calls are not
  modelled: the steps are those taken when every call succeeds.
-/

namespace ContextVisualizer

namespace CMakeBuild

/-- What `CMakeBuild` reads of its surroundings. -/
structure Host where
  /-- `os.environ.get`. -/
  env : String → Option String
  /-- `sys.platform`. -/
  platform : String
  /-- `Path(sys.prefix).absolute()`. -/
  sysPrefix : String
  /-- `str(Path.home())`. -/
  home : String
  /-- `multiprocessing.cpu_count()`. -/
  cpuCount : Nat
  /-- Whether `build_temp / "iowarp-core"` exists. -/
  sourceExists : Bool
  /-- Whether the package root holds `CMakeLists.txt`. -/
  rootCMakeExists : Bool

/-- One step of the build. -/
inductive Action where
  /-- `subprocess.check_call(args, cwd=cwd)`, or `check_output` for the CMake check. -/
  | call (args : List String) (cwd : Option String)
  /-- Lines 77-92: the C++ sources copied from the package root. -/
  | copySources
  /-- `copy_binaries_to_package`. -/
  | copyBinaries
  deriving DecidableEq, Repr

/-- `CMakeBuild.REPO_URL`. -/
def repoUrl : String := "https://github.com/iowarp/core"

/-- `str.upper` on ASCII letters. -/
def pyUpper (s : String) : String := ⟨s.data.map Char.toUpper⟩

/-- `str.lower` on ASCII letters. -/
def pyLower (s : String) : String := ⟨s.data.map Char.toLower⟩

/-- `str(p / name)` for a normalised absolute path `p`. -/
def childPath (p name : String) : String := if p = "/" then "/" ++ name else p ++ "/" ++ name

/-! ### The bundling switch -/

/-- `os.environ.get("IOWARP_BUNDLE_BINARIES", default).upper() == "ON"`. -/
def bundleWith (default : String) (h : Host) : Bool :=
  pyUpper ((h.env "IOWARP_BUNDLE_BINARIES").getD default) == "ON"

/-- Line 50, in `run`: off unless asked for. -/
def bundleInRun (h : Host) : Bool := bundleWith "OFF" h

/-- Line 64, in `build_iowarp_core`: on unless turned off. -/
def bundleInBuild (h : Host) : Bool := bundleWith "ON" h

/-- The two readings of the switch disagree exactly when it is unset. -/
lemma bundleInRun_ne_bundleInBuild_iff (h : Host) :
    bundleInRun h ≠ bundleInBuild h ↔ h.env "IOWARP_BUNDLE_BINARIES" = none := by
  unfold bundleInRun bundleInBuild bundleWith
  cases h.env "IOWARP_BUNDLE_BINARIES" <;> simp [pyUpper]

/-! ### `build_iowarp_core` -/

/-- Lines 65-70. -/
def installPrefix (h : Host) (buildTemp : String) : String :=
  if bundleInBuild h then childPath buildTemp "install" else h.sysPrefix

/-- `os.environ.get("CONDA_PREFIX")` when it is set and not empty. -/
def condaPrefix (h : Host) : Option String := (h.env "CONDA_PREFIX").filter (· ≠ "")

/-- Whether `sys.platform.startswith("linux")`. -/
def onLinux (h : Host) : Bool := "linux".data.isPrefixOf h.platform.data

/-- Lines 125-143: the run paths of bundled binaries. -/
def rpathArgs (h : Host) : List String :=
  let conda := ((condaPrefix h).map (· ++ "/lib")).toList
  let rpaths : List String :=
    if onLinux h then "$ORIGIN/../lib" :: conda
    else if h.platform = "darwin" then "@loader_path/../lib" :: conda
    else []
  if rpaths = [] then []
  else ["-DCMAKE_INSTALL_RPATH=" ++ (if onLinux h then ":" else ";").intercalate rpaths,
    "-DCMAKE_INSTALL_RPATH_USE_LINK_PATH=TRUE", "-DCMAKE_BUILD_WITH_INSTALL_RPATH=TRUE"]

/-- Lines 145-157: conda's HDF5, when a conda prefix is set. -/
def condaArgs (h : Host) : List String :=
  match condaPrefix h with
  | none => []
  | some c => ["-DHDF5_ROOT=" ++ c, "-DHDF5_C_LIBRARY=" ++ c ++ "/lib/libhdf5.so",
    "-DHDF5_INCLUDE_DIR=" ++ c ++ "/include", "-DCMAKE_PREFIX_PATH=" ++ c,
    "-DCMAKE_IGNORE_PATH=/usr/lib/x86_64-linux-gnu/hdf5;" ++ h.home ++ "/hdf5-install;" ++
      h.home ++ "/hdf5;/opt/hdf5",
    "-DCMAKE_FIND_USE_SYSTEM_ENVIRONMENT_PATH=FALSE"]

/-- Lines 112-157: the arguments of the second configure step. -/
def additionalArgs (h : Host) (buildTemp : String) : List String :=
  ("-DCMAKE_INSTALL_PREFIX=" ++ installPrefix h buildTemp) ::
    ((if bundleInBuild h then "-DWRP_CORE_ENABLE_TESTS=OFF" :: rpathArgs h else []) ++
      condaArgs h)

/-- Lines 103-110: the preset, from `IOWARP_BUILD_TYPE`. -/
def presetArgs (h : Host) : List String :=
  ["cmake", "--preset=" ++ pyLower ((h.env "IOWARP_BUILD_TYPE").getD "release")]

/-- Lines 72-98: the sources, copied from the package root or cloned, unless already there. -/
def fetchSource (h : Host) (sourceDir : String) : List Action :=
  if h.sourceExists then []
  else if h.rootCMakeExists then [.copySources]
  else [.call ["git", "clone", "--recursive", repoUrl, sourceDir] none]

/-- Lines 171-180: `self.parallel` when set and not zero, else every core. -/
def buildArgs (h : Host) (parallel : Option Nat) : List String :=
  let jobs := match parallel with
    | some n => if n ≠ 0 then n else h.cpuCount
    | none => h.cpuCount
  ["cmake", "--build", "build", "--parallel", toString jobs]

/-- Lines 53-187. -/
def buildIowarpCore (h : Host) (buildTemp : String) (parallel : Option Nat) : List Action :=
  let sourceDir := childPath buildTemp "iowarp-core"
  let args := additionalArgs h buildTemp
  let configure : List Action :=
    if args ≠ [] then
      [.call (presetArgs h) sourceDir, .call (["cmake", "build"] ++ args) sourceDir]
    else [.call (presetArgs h) sourceDir]
  fetchSource h sourceDir ++ configure ++
    [.call (buildArgs h parallel) sourceDir,
     .call ["cmake", "--install", "build", "--prefix", installPrefix h buildTemp] sourceDir]

/-- Lines 32-51: `run`, for the absolute build directory `buildTemp`. -/
def run (h : Host) (buildTemp : String) (parallel : Option Nat) : List Action :=
  .call ["cmake", "--version"] none :: buildIowarpCore h buildTemp parallel ++
    if bundleInRun h then [.copyBinaries] else []

/-! ### What the build does -/

lemma copyBinaries_not_mem_fetchSource (h : Host) (sourceDir : String) :
    Action.copyBinaries ∉ fetchSource h sourceDir := by
  unfold fetchSource
  split
  · simp
  · split <;> simp

/-- The configure step always runs twice: the extra arguments always hold the install prefix, so
the branch that configures with the preset alone (line 168) never runs. The install step uses the
prefix the configure step was given. -/
lemma buildIowarpCore_eq (h : Host) (buildTemp : String) (parallel : Option Nat) :
    buildIowarpCore h buildTemp parallel =
      fetchSource h (childPath buildTemp "iowarp-core") ++
        [.call (presetArgs h) (childPath buildTemp "iowarp-core"),
         .call (["cmake", "build"] ++ additionalArgs h buildTemp)
           (childPath buildTemp "iowarp-core"),
         .call (buildArgs h parallel) (childPath buildTemp "iowarp-core"),
         .call ["cmake", "--install", "build", "--prefix", installPrefix h buildTemp]
           (childPath buildTemp "iowarp-core")] := by
  simp [buildIowarpCore, additionalArgs]

/-- `run` copies the binaries exactly when its own reading of the switch says so. Left unset,
the switch builds for bundling, with the tests off and the install into the staging directory
`build_temp/install`, but `run` copies nothing into the package. Set, the two readings agree. -/
lemma run_bundling (h : Host) (buildTemp : String) (parallel : Option Nat) :
    (Action.copyBinaries ∈ run h buildTemp parallel ↔ bundleInRun h) ∧
    (h.env "IOWARP_BUNDLE_BINARIES" = none →
      installPrefix h buildTemp = childPath buildTemp "install" ∧
      "-DWRP_CORE_ENABLE_TESTS=OFF" ∈ additionalArgs h buildTemp ∧
      Action.copyBinaries ∉ run h buildTemp parallel) ∧
    (h.env "IOWARP_BUNDLE_BINARIES" ≠ none → bundleInRun h = bundleInBuild h) := by
  have hcopy : Action.copyBinaries ∈ run h buildTemp parallel ↔ bundleInRun h := by
    cases hr : bundleInRun h <;>
      simp [run, hr, buildIowarpCore_eq, copyBinaries_not_mem_fetchSource]
  refine ⟨hcopy, fun hu => ?_, fun hs => ?_⟩
  · have hb : bundleInBuild h = true := by simp [bundleInBuild, bundleWith, hu, pyUpper]
    have hr : bundleInRun h = false := by simp [bundleInRun, bundleWith, hu, pyUpper]
    simp [installPrefix, additionalArgs, hb, hcopy, hr]
  · by_contra hne
    exact hs ((bundleInRun_ne_bundleInBuild_iff h).1 hne)

/-- A Linux host with the switch unset and a conda prefix. -/
def condaHost : Host where
  env k := if k = "CONDA_PREFIX" then some "/opt/conda" else none
  platform := "linux"
  sysPrefix := "/usr"
  home := "/home/u"
  cpuCount := 8
  sourceExists := false
  rootCMakeExists := true

example : run condaHost "/tmp/b" none = [
    .call ["cmake", "--version"] none,
    .copySources,
    .call ["cmake", "--preset=release"] "/tmp/b/iowarp-core",
    .call ["cmake", "build", "-DCMAKE_INSTALL_PREFIX=/tmp/b/install",
      "-DWRP_CORE_ENABLE_TESTS=OFF", "-DCMAKE_INSTALL_RPATH=$ORIGIN/../lib:/opt/conda/lib",
      "-DCMAKE_INSTALL_RPATH_USE_LINK_PATH=TRUE", "-DCMAKE_BUILD_WITH_INSTALL_RPATH=TRUE",
      "-DHDF5_ROOT=/opt/conda", "-DHDF5_C_LIBRARY=/opt/conda/lib/libhdf5.so",
      "-DHDF5_INCLUDE_DIR=/opt/conda/include", "-DCMAKE_PREFIX_PATH=/opt/conda",
      "-DCMAKE_IGNORE_PATH=/usr/lib/x86_64-linux-gnu/hdf5;/home/u/hdf5-install;/home/u/hdf5;" ++
        "/opt/hdf5",
      "-DCMAKE_FIND_USE_SYSTEM_ENVIRONMENT_PATH=FALSE"] "/tmp/b/iowarp-core",
    .call ["cmake", "--build", "build", "--parallel", "8"] "/tmp/b/iowarp-core",
    .call ["cmake", "--install", "build", "--prefix", "/tmp/b/install"] "/tmp/b/iowarp-core"] :=
  by decide

end CMakeBuild

end ContextVisualizer
