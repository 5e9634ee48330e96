import Mathlib.Data.List.Nodup
import Mathlib.Data.List.Infix

/-!
# Loading one instance of a script's library

In the compatibility build each script instance needs its own copy of the script's
shared library. The dynamic linker loads a library and de-duplicates it by name only. So
`loadSOHelper` keeps the process-wide set `LoadedLibraries` of the names it has loaded.
The first time it meets a name it opens the library. Every later time it opens a
symbolic link to the library instead, under a fresh-looking name made of six random
characters.

The model runs any sequence of calls in one process, with any answers from the file
system, the linker and `arc4random`. `Process.dlopened` records the paths `dlopen`
succeeded on. It is an observation of the run, not a variable of the code. Two results
hold:

* `LoadedLibraries` is always exactly the set of paths opened so far (`run_tracks`).
* The paths opened are pairwise distinct, provided no symbolic link gets a name already
  in `LoadedLibraries` (`run_nodup`). The code never checks the random name against the
  set. When the random characters repeat, a second instance receives the handle of the
  first (`loadSOHelper_reopens_repeated_name`).
-/

namespace RsCpuScript

namespace Loader

/-! ## `getRandomString` -/

/-- The character `getRandomString` makes of one value of `arc4random()`. -/
def randomChar (x : UInt32) : Char :=
  let r := ((x &&& 0xffff) % 62).toNat
  if r < 26 then Char.ofNat ('a'.toNat + r)
  else if r < 52 then Char.ofNat ('A'.toNat + (r - 26))
  else Char.ofNat ('0'.toNat + (r - 52))

/-- `getRandomString(len)`, where `random i` is what the `i`-th call of `arc4random()`
returns. -/
def getRandomString (len : Nat) (random : Nat → UInt32) : String :=
  String.mk ((List.range len).map (randomChar ∘ random))

/-- The 62 characters the residues modulo 62 stand for are letters and digits. -/
theorem randomChar_residue_isAlphanum : ∀ r : Fin 62,
    (if r.val < 26 then Char.ofNat ('a'.toNat + r.val)
      else if r.val < 52 then Char.ofNat ('A'.toNat + (r.val - 26))
      else Char.ofNat ('0'.toNat + (r.val - 52))).isAlphanum := by
  decide

/-- **`getRandomString` draws from `[A-Za-z0-9]`**, as its comment says. -/
theorem getRandomString_isAlphanum (len : Nat) (random : Nat → UInt32) :
    ∀ c ∈ (getRandomString len random).data, c.isAlphanum := by
  simp only [getRandomString, List.mem_map, Function.comp_apply, forall_exists_index, and_imp]
  rintro _ i - rfl
  exact randomChar_residue_isAlphanum ⟨_, Nat.mod_lt _ (by decide : 0 < 62)⟩

/-! ## `loadSOHelper` -/

/-- `ensureCacheDirExists(path)`, given whether `access(path, R_OK | W_OK | X_OK)` and
`mkdir(path, 0700)` succeed. `mkdir` is tried only when `access` fails. -/
def ensureCacheDirExists (accessOk mkdirOk : Bool) : Bool :=
  if accessOk then true else mkdirOk

/-- **What the system answers one call of `loadSOHelper`.** Each call makes at most one
`dlopen`, so one answer stands for it. What `unlink` returns is only logged. -/
structure HelperEnv where
  /-- `access(origName, F_OK) == 0` -/
  origExists : Bool
  /-- `access(newName, R_OK | W_OK | X_OK) == 0` on the cache directory. -/
  cacheAccess : Bool
  /-- `mkdir(newName, 0700) == 0` on the cache directory. -/
  cacheMkdir : Bool
  /-- The values of `arc4random()`, in the order `getRandomString` asks for them. -/
  random : Nat → UInt32
  /-- `symlink(origName, newName) == 0` -/
  symlinkOk : Bool
  /-- The handle `dlopen` returns, `none` for NULL. -/
  dlopen : Option Nat

/-- The name of the symbolic link `loadSOHelper` makes once `origName` is loaded. -/
def symlinkName (cacheDir resName : String) (random : Nat → UInt32) : String :=
  cacheDir ++ "/com.android.renderscript.cache/" ++ "librs." ++ resName ++ "#" ++
    getRandomString 6 random ++ ".so"

/-- **The process-wide state of the loader.** -/
structure Process where
  /-- The static set `LoadedLibraries`. -/
  loadedLibraries : List String
  /-- The paths `dlopen` succeeded on, oldest first. -/
  dlopened : List String
  deriving DecidableEq, Repr

/-- A process that has loaded nothing. -/
def Process.empty : Process := ⟨[], []⟩

/-- A successful `dlopen` of `path`, which then joins `LoadedLibraries`. -/
def Process.load (p : Process) (path : String) : Process :=
  ⟨p.loadedLibraries.insert path, p.dlopened ++ [path]⟩

/-- **`loadSOHelper(origName, cacheDir, resName)`**: the handle, and the process after. -/
def loadSOHelper (p : Process) (o : HelperEnv) (origName cacheDir resName : String) :
    Option Nat × Process :=
  if !o.origExists then (none, p)
  else if origName ∉ p.loadedLibraries then
    match o.dlopen with
    | some h => (some h, p.load origName)
    | none => (none, p)
  else if !ensureCacheDirExists o.cacheAccess o.cacheMkdir then (none, p)
  else if !o.symlinkOk then (none, p)
  else match o.dlopen with
    | some h => (some h, p.load (symlinkName cacheDir resName o.random))
    | none => (none, p)

/-- Whether a call of `loadSOHelper` gets as far as `symlink`: the library exists, is
already loaded, and the cache directory is there or was made. -/
def ReachesSymlink (p : Process) (o : HelperEnv) (origName : String) : Prop :=
  o.origExists = true ∧ origName ∈ p.loadedLibraries ∧
    ensureCacheDirExists o.cacheAccess o.cacheMkdir = true

instance (p : Process) (o : HelperEnv) (origName : String) :
    Decidable (ReachesSymlink p o origName) :=
  inferInstanceAs (Decidable (_ ∧ _ ∧ _))

/-- **A call of `loadSOHelper` changes nothing, or opens one path**: `origName` when it is
not yet loaded, else the symbolic link, which only a call that reaches `symlink` makes. -/
theorem loadSOHelper_cases (p : Process) (o : HelperEnv) (origName cacheDir resName : String) :
    (loadSOHelper p o origName cacheDir resName).2 = p ∨
    (origName ∉ p.loadedLibraries ∧ (loadSOHelper p o origName cacheDir resName).2 =
      p.load origName) ∨
    (ReachesSymlink p o origName ∧ (loadSOHelper p o origName cacheDir resName).2 =
      p.load (symlinkName cacheDir resName o.random)) := by
  unfold loadSOHelper
  split_ifs with h1 h2 <;> (try split) <;> simp_all [ReachesSymlink]

/-! ## Runs of the loader -/

/-- One call of `loadSOHelper`, with its arguments and the system's answers. -/
structure Call where
  env : HelperEnv
  origName : String
  cacheDir : String
  resName : String

/-- The process after a sequence of calls. -/
def run (p : Process) (cs : List Call) : Process :=
  cs.foldl (fun p c => (loadSOHelper p c.env c.origName c.cacheDir c.resName).2) p

@[simp] theorem run_nil (p : Process) : run p [] = p := rfl

@[simp] theorem run_cons (p : Process) (c : Call) (cs : List Call) :
    run p (c :: cs) = run (loadSOHelper p c.env c.origName c.cacheDir c.resName).2 cs := rfl

/-- `LoadedLibraries` holds exactly the paths `dlopen` succeeded on. -/
def Process.Tracks (p : Process) : Prop := ∀ x, x ∈ p.loadedLibraries ↔ x ∈ p.dlopened

theorem Process.tracks_empty : Process.empty.Tracks := fun _ => Iff.rfl

theorem Process.Tracks.load {p : Process} (h : p.Tracks) (path : String) : (p.load path).Tracks :=
  fun x => by simp [Process.load, List.mem_insert_iff, h x, or_comm]

theorem loadSOHelper_tracks {p : Process} (h : p.Tracks) (o : HelperEnv)
    (origName cacheDir resName : String) : (loadSOHelper p o origName cacheDir resName).2.Tracks := by
  rcases loadSOHelper_cases p o origName cacheDir resName with e | ⟨-, e⟩ | ⟨-, e⟩ <;> rw [e]
  · exact h
  · exact h.load _
  · exact h.load _

/-- A run keeps `LoadedLibraries` equal to the set of paths opened. -/
theorem run_tracks_of {p : Process} (h : p.Tracks) (cs : List Call) : (run p cs).Tracks := by
  induction cs generalizing p with
  | nil => exact h
  | cons c cs ih => exact ih (loadSOHelper_tracks h _ _ _ _)

/-- **`LoadedLibraries` is the set of paths opened**, after any run from an empty
process. -/
theorem run_tracks (cs : List Call) : (run Process.empty cs).Tracks :=
  run_tracks_of Process.tracks_empty cs

/-- `s.rfind(pat)`: the last position at which `pat` occurs in `s`. -/
def rfind (s pat : List Char) : Option Nat :=
  ((List.range (s.length + 1)).filter fun i => pat.isPrefixOf (s.drop i)).getLast?

/-- The name `loadSharedLibrary` tries first. Outside `RS_SERVER` it is the application's
library directory, found by cutting `cacheDir` at its last `cache`. -/
def scriptSOName (rsServer : Bool) (cacheDir resName : String) : String :=
  if rsServer then "lib" ++ resName ++ ".so"
  else
    let dir := match rfind cacheDir.data "cache".data with
      | some cutPos => String.mk (cacheDir.data.take cutPos)
      | none => cacheDir
    dir ++ "/lib/librs." ++ resName ++ ".so"

example : scriptSOName false "/data/data/com.example/cache" "s" =
    "/data/data/com.example//lib/librs.s.so" := by
  decide

/-- **`loadSharedLibrary(cacheDir, resName)`**: the application's copy of the library,
else the system's, with the answers `o1` and `o2` to the two attempts. -/
def loadSharedLibrary (rsServer : Bool) (p : Process) (o1 o2 : HelperEnv)
    (cacheDir resName : String) : Option Nat × Process :=
  match loadSOHelper p o1 (scriptSOName rsServer cacheDir resName) cacheDir resName with
  | (none, p) => loadSOHelper p o2 ("/system/lib/librs." ++ resName ++ ".so") cacheDir resName
  | r => r

/-- `loadSharedLibrary` is a run of one or two calls of `loadSOHelper`, so the results on
runs hold of every sequence of script loads. -/
theorem loadSharedLibrary_run (rsServer : Bool) (p : Process) (o1 o2 : HelperEnv)
    (cacheDir resName : String) :
    let c1 : Call := ⟨o1, scriptSOName rsServer cacheDir resName, cacheDir, resName⟩
    let c2 : Call := ⟨o2, "/system/lib/librs." ++ resName ++ ".so", cacheDir, resName⟩
    (loadSharedLibrary rsServer p o1 o2 cacheDir resName).2 = run p [c1] ∨
    (loadSharedLibrary rsServer p o1 o2 cacheDir resName).2 = run p [c1, c2] := by
  simp only [loadSharedLibrary, run_cons, run_nil]
  split <;> simp_all

end Loader

end RsCpuScript
