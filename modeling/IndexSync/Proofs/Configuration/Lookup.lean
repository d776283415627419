import IndexSync.Cli.Basic
import IndexSync.Proofs.Storage.Probing
import IndexSync.Proofs.Trouble

/-!
# The nearest configuration file

The search for a configuration file goes up from a directory and ends where a file is, or where it
cannot be told whether one is. A store is made for the file that was found, or for a new one in the
directory itself.

* `Config.Reached` — a directory is reached, no one before it having a file;
* `Config.Nearest`, `Config.Blocked` — the file that a search comes to, and the failure that ends
  it;
* `ConfigStore.nearest_eq_ok`, `ConfigStore.nearest_eq_error` — the search from a directory;
* `ConfigStore.nearest_contained` — the search from the working directory, and what it means for the
  commands of the program.
-/

namespace IndexSync

namespace Config

variable {h : Host} {dir start file : FsPath} {dirs : List FsPath} {P : FsPath → Prop} {e : Failure}

/-- `P` holds of a directory, and those before it have no configuration file. -/
def Reached (h : Host) (dirs : List FsPath) (P : FsPath → Prop) : Prop :=
  ∃ before dir after, dirs = before ++ dir :: after ∧
    (∀ nearer ∈ before, h.exists? (fileIn nearer) = .ok false) ∧ P dir

/-- The first directory is reached, and those behind it if it has no file. -/
theorem reached_cons : Reached h (dir :: dirs) P ↔
    P dir ∨ h.exists? (fileIn dir) = .ok false ∧ Reached h dirs P :=
  exists_split_cons

theorem not_reached_nil : ¬Reached h [] P := by
  rintro ⟨before, dir, after, hsplit, -⟩
  exact List.append_ne_nil_of_right_ne_nil before (List.cons_ne_nil dir after) hsplit.symm

/-- The search goes on behind a directory that has no file. -/
theorem firstExisting_cons (h : Host) (dir : FsPath) (dirs : List FsPath) :
    firstExisting h ((dir :: dirs).map fileIn) =
      match h.exists? (fileIn dir) with
      | .ok true => .ok (some (fileIn dir))
      | .ok false => firstExisting h (dirs.map fileIn)
      | .error e => .error e := by
  rw [List.map_cons, firstExisting]
  rcases h.exists? (fileIn dir) with e | _ | _ <;> rfl

/-- The search finds the file of the first directory that has one. -/
theorem firstExisting_eq_some : firstExisting h (dirs.map fileIn) = .ok (some file) ↔
    Reached h dirs fun dir => h.exists? (fileIn dir) = .ok true ∧ file = fileIn dir := by
  induction dirs with
  | nil => exact iff_of_false nofun not_reached_nil
  | cons dir dirs ih =>
    rw [firstExisting_cons, reached_cons, ← ih]
    rcases h.exists? (fileIn dir) with e | _ | _
    · simp
    · simp
    · simp [eq_comm]

/-- The search finds nothing exactly if no directory has a file. -/
theorem firstExisting_eq_none : firstExisting h (dirs.map fileIn) = .ok none ↔
    ∀ dir ∈ dirs, h.exists? (fileIn dir) = .ok false := by
  induction dirs with
  | nil => exact iff_of_true rfl nofun
  | cons dir dirs ih =>
    rw [firstExisting_cons, List.forall_mem_cons, ← ih]
    rcases h.exists? (fileIn dir) with e | _ | _ <;> simp

/-- The search fails where it cannot be told whether a directory has a file. -/
theorem firstExisting_eq_error : firstExisting h (dirs.map fileIn) = .error e ↔
    Reached h dirs fun dir => h.exists? (fileIn dir) = .error e := by
  induction dirs with
  | nil => exact iff_of_false nofun not_reached_nil
  | cons dir dirs ih =>
    rw [firstExisting_cons, reached_cons, ← ih]
    rcases h.exists? (fileIn dir) with e' | _ | _ <;> simp

/-- The configuration file of a directory: that of the nearest directory on the way up which has
one, or a new one in the directory itself. -/
inductive Nearest (h : Host) (start : FsPath) : FsPath → Prop where
  /-- The nearest directory that has a file. -/
  | found {file : FsPath}
    (hfound : Reached h start.chain fun dir =>
      h.exists? (fileIn dir) = .ok true ∧ file = fileIn dir) : Nearest h start file
  /-- No directory has a file. -/
  | fresh (hnone : ∀ dir ∈ start.chain, h.exists? (fileIn dir) = .ok false) :
    Nearest h start (fileIn start)

/-- On the way up there is a directory of which it cannot be told whether it has a configuration
file, and no nearer one has a file. -/
def Blocked (h : Host) (start : FsPath) (e : Failure) : Prop :=
  Reached h start.chain fun dir =>
    ∃ errno, h.Obscured (fileIn dir) errno ∧ e = .system errno (some (fileIn dir).text)

theorem findFrom_eq_error : findFrom h start = .error e ↔ Blocked h start e := by
  rw [findFrom, firstExisting_eq_error, Blocked]
  simp only [Host.exists?_eq_error]

/-- A working directory that was deleted has no configuration file. -/
theorem find_none_of_deleted (hcwd : h.cwd = none) : find h none = .ok none := by
  rw [find, Host.workingDirectory, hcwd]

/-- Without a directory, the search starts in the working directory. -/
theorem find_none {text : String} (hcwd : h.cwd = some text) :
    find h none = findFrom h (FsPath.parse text) := by
  rw [find, Host.workingDirectory, hcwd]

end Config

namespace ConfigStore

open Config (Nearest Blocked findFrom)

variable {h : Host} {start : FsPath} {store : ConfigStore} {e : Failure}

/-- A store is made for the file that the search comes to. -/
theorem nearest_eq_ok : nearest h (some start) = .ok store ↔
    store.current = none ∧ Nearest h start store.file := by
  -- The store is made for what is found, or else for the place in the directory itself.
  have hnearest : nearest h (some start) = (findFrom h start).map fun found =>
      ⟨found.getD (Config.fileIn start), none⟩ := by
    rw [nearest, Config.find]
    rcases findFrom h start with e | _ | file <;> rfl
  rw [hnearest]
  obtain ⟨file, current⟩ := store
  constructor
  · intro hok
    cases hfind : findFrom h start with
    | error e =>
      rw [hfind] at hok
      cases hok
    | ok found =>
      rw [hfind] at hok
      cases hok
      refine ⟨rfl, ?_⟩
      cases found with
      | none => exact .fresh (Config.firstExisting_eq_none.1 hfind)
      | some file => exact .found (Config.firstExisting_eq_some.1 hfind)
  · rintro ⟨rfl, hfile⟩
    cases hfile with
    | found hfound =>
      have hfind : findFrom h start = .ok (some file) := Config.firstExisting_eq_some.2 hfound
      rw [hfind]
      rfl
    | fresh hnone =>
      have hfind : findFrom h start = .ok none := Config.firstExisting_eq_none.2 hnone
      rw [hfind]
      rfl

/-- No store is made if the search is blocked. -/
theorem nearest_eq_error : nearest h (some start) = .error e ↔ Blocked h start e := by
  rw [← Config.findFrom_eq_error, nearest, Config.find]
  rcases findFrom h start with e' | _ | file
  · exact ⟨fun heq => congrArg Except.error (Except.error.inj heq),
      fun heq => congrArg Except.error (Except.error.inj heq)⟩
  · exact iff_of_false nofun nofun
  · exact iff_of_false nofun nofun

/-- A store for the working directory needs that directory twice: to search, and for a new file. -/
theorem nearest_of_deleted (hcwd : h.cwd = none) :
    nearest h none = .error (.system Errno.noEntry none) := by
  rw [nearest, Config.find_none_of_deleted hcwd]
  dsimp only [bind, Except.bind]
  rw [Host.workingDirectory, hcwd]

theorem nearest_of_cwd {text : String} (hcwd : h.cwd = some text) :
    nearest h none = nearest h (some (FsPath.parse text)) := by
  rw [nearest, nearest, Config.find_none hcwd, Config.find]
  rcases findFrom h (FsPath.parse text) with e | _ | file
  · rfl
  · dsimp only [bind, Except.bind]
    rw [Host.workingDirectory, hcwd]
    rfl
  · rfl

end ConfigStore

namespace Cli

/-- A command line calls a command with some words, and names no configuration file. -/
structure Calls (args : List String) (c : Command) (r : Reading) (words : List String) : Prop where
  front : readFront args = .ok r
  command : ∃ name, r.words = name :: words ∧ Command.ofName? name = some c
  unnamed : r.value? .config = none ∨ r.value? .config = some ""

variable {args words : List String} {c : Command} {r : Reading}

/-- There is a command line to speak of. -/
theorem Calls.ne_nil (hcalls : Calls args c r words) : args ≠ [] := by
  rintro rfl
  have hfront : readFront [] = .ok {} := rfl
  obtain ⟨name, hwords, -⟩ := hcalls.command
  obtain rfl := Except.ok.inj (hfront.symm.trans hcalls.front)
  cases hwords

/-- A command that is called without a configuration file uses the nearest one, and is not begun
without a store. -/
theorem run_of_calls (hcalls : Calls args c r words) (h : Host) (remote : Remote) :
    run h remote args = match ConfigStore.nearest h none with
      | .ok store => runCommand c h remote (r.has .verbose) store.file words
      | .error e => .failed e := by
  obtain ⟨name, hwords, hname⟩ := hcalls.command
  have hchoose : chooseFile h (r.value? .config) =
      (ConfigStore.nearest h none).map ConfigStore.file := by
    rcases hcalls.unnamed with hnone | hempty
    · rw [hnone]
      rfl
    · rw [hempty]
      rfl
  rw [run, if_neg hcalls.ne_nil, hcalls.front]
  dsimp only
  rw [hwords]
  dsimp only
  rw [hname]
  dsimp only
  rw [hchoose]
  cases ConfigStore.nearest h none with
  | ok store => rfl
  | error e => rfl

end Cli

namespace ConfigStore

open Config (Nearest Blocked)

/-- How the search from the working directory ends, and what it means for the commands. -/
structure Discovers (h : Host) : Prop where
  /-- It comes to the nearest configuration file, or to a new one. -/
  finds_iff : ∀ store, nearest h none = .ok store ↔ store.current = none ∧
    ∃ text, h.cwd = some text ∧ Nearest h (FsPath.parse text) store.file
  /-- It fails exactly if the working directory was deleted or the way up is blocked. -/
  fails_iff : ∀ e, nearest h none = .error e ↔
    (h.cwd = none ∧ e = .system Errno.noEntry none) ∨
      ∃ text, h.cwd = some text ∧ Blocked h (FsPath.parse text) e
  /-- A command that is to use what is found goes on to load it, unless the search fails. -/
  commands : ∀ args c r words remote, Cli.Calls args c r words →
    (∀ store, nearest h none = .ok store →
      Cli.run h remote args = Cli.runCommand c h remote (r.has .verbose) store.file words) ∧
    ∀ e, nearest h none = .error e → Cli.run h remote args = .failed e

/-- The search from the working directory fails if that was deleted, or if a directory on the way up
cannot be probed; otherwise every command goes on with the nearest configuration file. -/
theorem nearest_contained (h : Host) : Discovers h where
  finds_iff store := by
    cases hcwd : h.cwd with
    | none =>
      rw [nearest_of_deleted hcwd]
      exact iff_of_false nofun fun ⟨_, _, hsome, _⟩ => nomatch hsome
    | some text => simp [nearest_of_cwd hcwd, nearest_eq_ok]
  fails_iff e := by
    cases hcwd : h.cwd with
    | none =>
      rw [nearest_of_deleted hcwd]
      simp [eq_comm]
    | some text => simp [nearest_of_cwd hcwd, nearest_eq_error]
  commands args c r words remote hcalls := by
    refine ⟨fun store hok => ?_, fun e herror => ?_⟩
    · rw [Cli.run_of_calls hcalls, hok]
    · rw [Cli.run_of_calls hcalls, herror]

end ConfigStore

end IndexSync
