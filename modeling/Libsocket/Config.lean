import Libsocket.Ini

/-
  The name of the configuration file. The file's default name
  is built from the directory's once and then kept, so that a
  directory that is set later has no effect on it.

  Main declarations:
    * `Config`, `ConfigCall`, `configExec`
    * `Wanted`, `ConfigRight`
    * `ConfigFine`
    * `configRun_iff`
-/

namespace Libsocket

------------------------------------------------------------
-- Strings
------------------------------------------------------------

/- `getenv` of the two variables. -/
structure ConfigDirs where
  lsck : Option Bytes
  libsocket : Option Bytes

/- Every backslash as a slash. -/
def slashed (name : Bytes) : Bytes :=
  name.map fun c => if c = 92 then 47 else c

/- A pointer to a file name: `blank` is new memory. -/
inductive NamePtr
  | null
  | blank
  | text (name : Bytes)
deriving DecidableEq, Repr

def NamePtr.ofOption : Option Bytes → NamePtr
| none => .null
| some name => .text name

theorem slashed_slashed (name : Bytes) :
    slashed (slashed name) = slashed name := by
  unfold slashed
  rw [List.map_map]
  apply List.map_congr_left
  intro c _
  by_cases hSlash : c = 92
  · simp [hSlash]
  · simp [hSlash]

------------------------------------------------------------
-- The Four Functions
------------------------------------------------------------

/- The static variables of `config.c`. -/
structure Config where
  configdir : Option Bytes
  configdirset : Bool
  configfile : NamePtr
  configfileset : Bool
deriving DecidableEq, Repr

def Config.initial : Config :=
  ⟨none, false, .null, false⟩

/- `__lsck_config_getdir` -/
def configGetdir
    (env : ConfigDirs)
    (s : Config) : Option Bytes × Config :=
  let s :=
    if s.configdirset then
      s
    else
      match env.lsck.or env.libsocket with
      | none => { s with configdir := none }
      | some dir =>
          { s with configdir := some dir, configdirset := true }
  let s := { s with configdir := s.configdir.map slashed }
  (s.configdir, s)

/-
  `__lsck_config_setdir`. Without memory for the copy it goes
  through NULL.
-/
def configSetdir
    (newdir : Bytes)
    (memory : Bool)
    (s : Config) : Option (NamePtr × Config) :=
  if memory then
    some (.ofOption s.configdir,
      { s with
        configdir := some (slashed newdir)
        configdirset := true })
  else
    none

/- `LSCK_CONFIG_FILE`, with the slash in front of it -/
def lsckConfigFile : Bytes := bytes "/lsck.cfg"

/-
  `__lsck_config_getfile`, with `pathMax` for `PATH_MAX`. A
  name that does not fit overruns the memory for it.
-/
def configGetfile
    (env : ConfigDirs)
    (pathMax : Nat)
    (memory : Bool)
    (s : Config) : Option (NamePtr × Config) :=
  if s.configfileset then
    some (s.configfile, s)
  else if memory = false then
    some (.null, { s with configfile := .null })
  else
    let first :=
      configGetdir env { s with configfile := .blank }
    match first.1 with
    | none => some (.null, first.2)
    | some _ =>
        let second := configGetdir env first.2
        let name := second.1.getD [] ++ lsckConfigFile
        if name.length < pathMax then
          some (.text name,
            { second.2 with
              configfile := .text name
              configfileset := true })
        else
          none

/- `__lsck_config_setfile` -/
def configSetfile
    (newfile : NamePtr)
    (s : Config) : NamePtr × Config :=
  (s.configfile,
    { s with configfile := newfile, configfileset := true })

/- A call, with whether memory is granted to it. -/
inductive ConfigCall
  | getdir
  | setdir (newdir : Bytes) (memory : Bool)
  | getfile (memory : Bool)
  | setfile (newfile : NamePtr)

/- What a call returns, and none for an invalid access. -/
def configExec
    (env : ConfigDirs)
    (pathMax : Nat) :
    ConfigCall → Config → Option (NamePtr × Config)
| .getdir, s =>
    let r := configGetdir env s
    some (.ofOption r.1, r.2)
| .setdir newdir memory, s => configSetdir newdir memory s
| .getfile memory, s => configGetfile env pathMax memory s
| .setfile newfile, s => some (configSetfile newfile s)

------------------------------------------------------------
-- What Is Wanted
------------------------------------------------------------

/-
  What calls so far have set, and the directory whose file
  name has been built while no file was set.
-/
structure Wanted where
  dir : Option Bytes
  file : Option NamePtr
  built : Option Bytes

def Wanted.initial : Wanted := ⟨none, none, none⟩

/- The last directory set, or that of the environment. -/
def Wanted.current
    (env : ConfigDirs)
    (w : Wanted) : Option Bytes :=
  (w.dir.or (env.lsck.or env.libsocket)).map slashed

/- The last file set, or the one in the directory. -/
def Wanted.name
    (env : ConfigDirs)
    (w : Wanted) : NamePtr :=
  w.file.getD (.ofOption ((w.current env).map fun dir =>
    dir ++ lsckConfigFile))

def Wanted.after
    (env : ConfigDirs)
    (w : Wanted) : ConfigCall → Wanted
| .getdir => w
| .setdir newdir _ => { w with dir := some newdir }
| .getfile memory =>
    if memory = true ∧ w.file = none ∧ w.built = none then
      { w with built := w.current env }
    else
      w
| .setfile newfile => { w with file := some newfile }

/- What a call must return. -/
def Wanted.Returns
    (env : ConfigDirs)
    (w : Wanted)
    (r : NamePtr) : ConfigCall → Prop
| .getdir => r = .ofOption (w.current env)
| .getfile _ => r = w.name env
| _ => True

/- Every call of a run returns, and what it must return. -/
def ConfigRight
    (env : ConfigDirs)
    (pathMax : Nat) :
    Config → Wanted → List ConfigCall → Prop
| _, _, [] => True
| s, w, call :: calls =>
    ∃ r s', configExec env pathMax call s = some (r, s') ∧
      w.Returns env r call ∧
      ConfigRight env pathMax s' (w.after env call) calls

/-
  The directory is set with memory for its copy. The file is
  asked for after it was set; or the name built before is for
  the directory of now; or there is none; or the name is
  built now, with memory, and fits.
-/
def Wanted.Fine
    (env : ConfigDirs)
    (pathMax : Nat)
    (w : Wanted) : ConfigCall → Prop
| .setdir _ memory => memory = true
| .getfile memory =>
    w.file = none → ∀ dir, w.current env = some dir →
      w.built = some dir ∨
        w.built = none ∧ memory = true ∧
          dir.length + lsckConfigFile.length < pathMax
| _ => True

def ConfigFine
    (env : ConfigDirs)
    (pathMax : Nat) : Wanted → List ConfigCall → Prop
| _, [] => True
| w, call :: calls =>
    w.Fine env pathMax call ∧
      ConfigFine env pathMax (w.after env call) calls

------------------------------------------------------------
-- Steps
------------------------------------------------------------

/- How the static variables stand to what was set. -/
structure Config.Agrees
    (env : ConfigDirs)
    (s : Config)
    (w : Wanted) : Prop where
  set : s.configdirset = true →
    ∃ dir, s.configdir = some dir ∧
      w.current env = some (slashed dir)
  unset : s.configdirset = false →
    s.configdir = none ∧ w.dir = none
  built : w.file = none → ∀ dir, w.built = some dir →
    s.configfileset = true ∧
      s.configfile = .text (dir ++ lsckConfigFile) ∧
      w.current env ≠ Option.none
  file : ∀ f, w.file = some f →
    s.configfileset = true ∧ s.configfile = f
  none : w.file = none → w.built = none →
    s.configfileset = false

theorem Config.agrees_initial (env : ConfigDirs) :
    Config.initial.Agrees env Wanted.initial := by
  refine ⟨?_, fun _ => ⟨rfl, rfl⟩, ?_, ?_, fun _ _ => rfl⟩
  · intro hSet
    cases hSet
  · intro _ dir hBuilt
    cases hBuilt
  · intro f hFile
    cases hFile

/- The directory is right, and nothing else changes. -/
theorem configGetdir_spec
    {env : ConfigDirs}
    {s : Config}
    {w : Wanted}
    (hAgrees : s.Agrees env w) :
    ∃ s', configGetdir env s = (w.current env, s') ∧
      s'.Agrees env w ∧ s'.configfile = s.configfile ∧
      s'.configfileset = s.configfileset := by
  cases hSet : s.configdirset with
  | true =>
      rcases hAgrees.set hSet with ⟨dir, hDir, hCurrent⟩
      refine ⟨{ s with configdir := some (slashed dir) }, ?_,
        ⟨fun _ => ⟨slashed dir, rfl, ?_⟩, ?_, hAgrees.built,
          hAgrees.file, hAgrees.none⟩, rfl, rfl⟩
      · simp [configGetdir, hSet, hDir, hCurrent]
      · rw [slashed_slashed, hCurrent]
      · intro hUnset
        rw [hSet] at hUnset
        cases hUnset
  | false =>
      rcases hAgrees.unset hSet with ⟨hNull, hNone⟩
      cases hEnv : env.lsck.or env.libsocket with
      | none =>
          have hCurrent : w.current env = none := by
            simp [Wanted.current, hNone, hEnv]
          refine ⟨s, ?_, hAgrees, rfl, rfl⟩
          rcases s with ⟨dir, dirset, file, fileset⟩
          cases hNull
          cases hSet
          simp [configGetdir, hEnv, hCurrent]
      | some dir =>
          have hCurrent :
              w.current env = some (slashed dir) := by
            simp [Wanted.current, hNone, hEnv]
          refine ⟨{ s with
              configdir := some (slashed dir)
              configdirset := true }, ?_,
            ⟨fun _ => ⟨slashed dir, rfl, ?_⟩, ?_,
              hAgrees.built, hAgrees.file, hAgrees.none⟩,
            rfl, rfl⟩
          · simp [configGetdir, hSet, hEnv, hCurrent]
          · rw [slashed_slashed, hCurrent]
          · intro hUnset
            cases hUnset

/- No file has been set, and there is a directory. -/
theorem Wanted.name_built
    {env : ConfigDirs}
    {w : Wanted}
    {dir : Bytes}
    (hFile : w.file = none)
    (hCurrent : w.current env = some dir) :
    w.name env = .text (dir ++ lsckConfigFile) := by
  simp [Wanted.name, hFile, hCurrent, NamePtr.ofOption]

/- A file name that is kept is returned as it is. -/
theorem configGetfile_kept
    {env : ConfigDirs}
    {pathMax : Nat}
    {memory : Bool}
    {s : Config}
    {w : Wanted}
    (hAgrees : s.Agrees env w)
    (hSet : s.configfileset = true) :
    configGetfile env pathMax memory s =
        some (s.configfile, s) ∧
      w.after env (.getfile memory) = w ∧
      (s.configfile = w.name env ↔
        w.Fine env pathMax (.getfile memory)) := by
  have hRun : configGetfile env pathMax memory s =
      some (s.configfile, s) := by
    rw [configGetfile, if_pos hSet]
  refine ⟨hRun, ?_⟩
  cases hFile : w.file with
  | some f =>
      refine ⟨by simp [Wanted.after, hFile],
        iff_of_true ?_ ?_⟩
      · rw [(hAgrees.file f hFile).2]
        simp [Wanted.name, hFile]
      · intro hNone
        rw [hFile] at hNone
        cases hNone
  | none =>
      cases hBuilt : w.built with
      | none =>
          rw [hAgrees.none hFile hBuilt] at hSet
          cases hSet
      | some dir =>
          refine ⟨by simp [Wanted.after, hBuilt], ?_⟩
          rcases hAgrees.built hFile dir hBuilt with
            ⟨-, hText, hSome⟩
          rcases Option.ne_none_iff_exists'.mp hSome with
            ⟨now, hCurrent⟩
          rw [hText, Wanted.name_built hFile hCurrent]
          simp only [Wanted.Fine, hFile, hCurrent, hBuilt,
            Option.some.injEq, forall_eq', true_imp_iff,
            reduceCtorEq, false_and, or_false,
            NamePtr.text.injEq, List.append_cancel_right_eq]

/- If none is kept, then none was set and none built. -/
theorem Config.Agrees.fresh
    {env : ConfigDirs}
    {s : Config}
    {w : Wanted}
    (hAgrees : s.Agrees env w)
    (hOff : s.configfileset = false) :
    w.file = .none ∧ w.built = .none := by
  constructor
  · by_contra hSome
    rcases Option.ne_none_iff_exists'.mp hSome with ⟨f, hFile⟩
    rw [(hAgrees.file f hFile).1] at hOff
    cases hOff
  · by_contra hSome
    rcases Option.ne_none_iff_exists'.mp hSome with
      ⟨dir, hDir⟩
    cases hFile : w.file with
    | none =>
        rw [(hAgrees.built hFile dir hDir).1] at hOff
        cases hOff
    | some f =>
        rw [(hAgrees.file f hFile).1] at hOff
        cases hOff

/- The name that is not kept may then be anything. -/
theorem Config.Agrees.setName
    {env : ConfigDirs}
    {s : Config}
    {w : Wanted}
    (hAgrees : s.Agrees env w)
    (hOff : s.configfileset = false)
    (f : NamePtr) :
    Config.Agrees env { s with configfile := f } w := by
  rcases hAgrees.fresh hOff with ⟨hFile, hBuilt⟩
  refine ⟨hAgrees.set, hAgrees.unset, ?_, ?_, fun _ _ => hOff⟩
  · intro _ dir hDir
    rw [hBuilt] at hDir
    cases hDir
  · intro f hF
    rw [hFile] at hF
    cases hF

/- A name is kept for the directory that it was built for. -/
theorem Config.Agrees.keepName
    {env : ConfigDirs}
    {s : Config}
    {w : Wanted}
    {dir : Bytes}
    (hAgrees : s.Agrees env w)
    (hFile : w.file = .none)
    (hCurrent : w.current env = some dir) :
    Config.Agrees env
      { s with
        configfile := .text (dir ++ lsckConfigFile)
        configfileset := true }
      { w with built := some dir } := by
  refine ⟨hAgrees.set, hAgrees.unset, ?_, ?_, ?_⟩
  · intro _ built hSame
    cases hSame
    refine ⟨rfl, rfl, ?_⟩
    intro hNone
    exact absurd (hCurrent.symm.trans hNone)
      (Option.some_ne_none dir)
  · intro f hF
    exact absurd (hFile.symm.trans hF)
      (Option.some_ne_none f).symm
  · intro _ hNone
    cases hNone

/- With memory it looks up the directory, and again for it. -/
theorem configGetfile_builds
    {env : ConfigDirs}
    {pathMax : Nat}
    {s : Config}
    {w : Wanted}
    (hAgrees : s.Agrees env w)
    (hOff : s.configfileset = false) :
    (configGetfile env pathMax true s = none ∧
        ¬ w.Fine env pathMax (.getfile true)) ∨
      ∃ r s', configGetfile env pathMax true s =
          some (r, s') ∧
        s'.Agrees env (w.after env (.getfile true)) ∧
        (r = w.name env ↔
          w.Fine env pathMax (.getfile true)) := by
  rcases hAgrees.fresh hOff with ⟨hFile, hBuilt⟩
  have hUnset : ¬ s.configfileset = true := by simp [hOff]
  have hBlank := hAgrees.setName hOff .blank
  rcases configGetdir_spec hBlank with
    ⟨t, hFirst, hAgreesT, -, -⟩
  cases hCurrent : w.current env with
  | none =>
      have hAfter : w.after env (.getfile true) = w := by
        rcases w with ⟨dir, file, built⟩
        cases hBuilt
        simp [Wanted.after, hCurrent]
      refine .inr ⟨.null, t, ?_, ?_, ?_⟩
      · rw [configGetfile, if_neg hUnset,
          if_neg Bool.false_ne_true.symm]
        simp only [hFirst, hCurrent]
      · rwa [hAfter]
      · simp [Wanted.Fine, Wanted.name, hFile, hCurrent,
          NamePtr.ofOption]
  | some dir =>
      rcases configGetdir_spec hAgreesT with
        ⟨u, hSecond, hAgreesU, -, -⟩
      have hFine : w.Fine env pathMax (.getfile true) ↔
          (dir ++ lsckConfigFile).length < pathMax := by
        simp [Wanted.Fine, hFile, hCurrent, hBuilt]
      rw [hFine, Wanted.name_built hFile hCurrent]
      by_cases hFits :
          (dir ++ lsckConfigFile).length < pathMax
      · refine .inr ⟨.text (dir ++ lsckConfigFile),
          { u with
            configfile := .text (dir ++ lsckConfigFile)
            configfileset := true }, ?_, ?_,
          iff_of_true rfl hFits⟩
        · rw [configGetfile, if_neg hUnset,
            if_neg Bool.false_ne_true.symm]
          simp only [hFirst, hCurrent, hSecond,
            Option.getD_some, if_pos hFits]
        · have hAfter : w.after env (.getfile true) =
              { w with built := some dir } := by
            simp [Wanted.after, hFile, hBuilt, hCurrent]
          rw [hAfter]
          exact hAgreesU.keepName hFile hCurrent
      · refine .inl ⟨?_, hFits⟩
        rw [configGetfile, if_neg hUnset,
          if_neg Bool.false_ne_true.symm]
        simp only [hFirst, hCurrent, hSecond,
          Option.getD_some, if_neg hFits]

/-
  `__lsck_config_getfile` at any time: an invalid access or a
  result, and whether it is the right one.
-/
theorem configGetfile_spec
    {env : ConfigDirs}
    {pathMax : Nat}
    {memory : Bool}
    {s : Config}
    {w : Wanted}
    (hAgrees : s.Agrees env w) :
    (configGetfile env pathMax memory s = none ∧
        ¬ w.Fine env pathMax (.getfile memory)) ∨
      ∃ r s', configGetfile env pathMax memory s =
          some (r, s') ∧
        s'.Agrees env (w.after env (.getfile memory)) ∧
        (r = w.name env ↔
          w.Fine env pathMax (.getfile memory)) := by
  cases hSet : s.configfileset with
  | true =>
      rcases @configGetfile_kept env pathMax memory s w hAgrees
        hSet with ⟨hRun, hAfter, hIff⟩
      refine .inr ⟨s.configfile, s, hRun, ?_, hIff⟩
      rw [hAfter]
      exact hAgrees
  | false =>
      cases memory with
      | true => exact configGetfile_builds hAgrees hSet
      | false =>
          rcases hAgrees.fresh hSet with ⟨hFile, hBuilt⟩
          have hUnset : ¬ s.configfileset = true := by
            simp [hSet]
          refine .inr ⟨.null, { s with configfile := .null },
            ?_, ?_, ?_⟩
          · rw [configGetfile, if_neg hUnset, if_pos rfl]
          · have hAfter :
                w.after env (.getfile false) = w := by
              simp [Wanted.after]
            rw [hAfter]
            exact hAgrees.setName hSet .null
          · simp only [Wanted.Fine, Wanted.name, hFile, hBuilt,
              true_imp_iff, reduceCtorEq, Bool.false_eq_true,
              false_and, and_false, or_self, imp_false,
              Option.getD_none]
            cases w.current env <;>
              simp [NamePtr.ofOption]

/- Every call keeps the agreement, or is an invalid access. -/
theorem configExec_spec
    {env : ConfigDirs}
    {pathMax : Nat}
    {s : Config}
    {w : Wanted}
    (hAgrees : s.Agrees env w)
    (call : ConfigCall) :
    (configExec env pathMax call s = none ∧
        ¬ w.Fine env pathMax call) ∨
      ∃ r s', configExec env pathMax call s =
          some (r, s') ∧
        s'.Agrees env (w.after env call) ∧
        (w.Returns env r call ↔ w.Fine env pathMax call) := by
  cases call with
  | getdir =>
      rcases configGetdir_spec hAgrees with
        ⟨s', hRun, hAgrees', -, -⟩
      refine .inr ⟨.ofOption (w.current env), s', ?_, hAgrees',
        iff_of_true rfl trivial⟩
      simp only [configExec, hRun]
  | setdir newdir memory =>
      cases memory with
      | false =>
          exact .inl ⟨rfl, Bool.false_ne_true⟩
      | true =>
          refine .inr ⟨_, _, rfl, ?_, iff_of_true trivial rfl⟩
          refine ⟨fun _ => ⟨slashed newdir, rfl, ?_⟩, ?_, ?_,
            hAgrees.file, hAgrees.none⟩
          · rw [slashed_slashed]
            rfl
          · intro hUnset
            cases hUnset
          · intro hFile dir hBuilt
            rcases hAgrees.built hFile dir hBuilt with
              ⟨hSet, hText, -⟩
            exact ⟨hSet, hText, Option.some_ne_none _⟩
  | getfile memory => exact configGetfile_spec hAgrees
  | setfile newfile =>
      refine .inr ⟨_, _, rfl, ?_, iff_of_true trivial trivial⟩
      refine ⟨hAgrees.set, hAgrees.unset, ?_, ?_, ?_⟩
      · intro hFile
        cases hFile
      · intro f hFile
        exact ⟨rfl, Option.some.inj hFile⟩
      · intro hFile
        cases hFile

------------------------------------------------------------
-- Runs
------------------------------------------------------------

/- A run is right if and only if each of its steps is fine. -/
theorem configRight_iff
    {env : ConfigDirs}
    {pathMax : Nat}
    {s : Config}
    {w : Wanted}
    (hAgrees : s.Agrees env w)
    (calls : List ConfigCall) :
    ConfigRight env pathMax s w calls ↔
      ConfigFine env pathMax w calls := by
  induction calls generalizing s w with
  | nil => exact Iff.rfl
  | cons call calls ih =>
      rcases @configExec_spec env pathMax s w hAgrees call with
        ⟨hRun, hNot⟩ | ⟨r, s', hRun, hAgrees', hIff⟩
      · refine iff_of_false ?_ fun hFine => hNot hFine.1
        rintro ⟨r, s', hSome, -⟩
        rw [hRun] at hSome
        cases hSome
      · constructor
        · rintro ⟨r', t, hSome, hReturns, hRest⟩
          rw [hRun] at hSome
          cases hSome
          exact ⟨hIff.mp hReturns, (ih hAgrees').mp hRest⟩
        · rintro ⟨hFine, hRest⟩
          exact ⟨r, s', hRun, hIff.mpr hFine,
            (ih hAgrees').mpr hRest⟩

/-
  From the start, whatever the environment: the two names are
  right in a whole run if and only if every call is fine.
-/
theorem configRun_iff
    (env : ConfigDirs)
    (pathMax : Nat)
    (calls : List ConfigCall) :
    ConfigRight env pathMax .initial .initial calls ↔
      ConfigFine env pathMax .initial calls :=
  configRight_iff (Config.agrees_initial env) calls

/- A directory that is set later is not looked at. -/
theorem later_directory_ignored :
    ¬ ∀ (env : ConfigDirs) (calls : List ConfigCall),
      ConfigRight env 512 .initial .initial calls := by
  intro hAlways
  have hFine := (configRight_iff (Config.agrees_initial _)
    _).mp (hAlways ⟨some (bytes "c:/a"), none⟩
      [.getfile true, .setdir (bytes "c:/b") true,
        .getfile true])
  have hBuilt := hFine.2.2.1 rfl (bytes "c:/b") (by decide)
  exact absurd hBuilt (by decide)

end Libsocket
