import IndexSync.Proofs.Configuration.Loading
import IndexSync.Proofs.Storage.Probing

/-!
# Configurations that cannot be loaded

Whatever is wrong with a configuration file that is there, from its bytes to its last setting, is
reported as a load fault of that file. Two failures are none: before the file is opened, that it
cannot be told whether it is there, and without a file, that the defaults need a home directory
which is unknown. After a failure of either kind, the store is as it was.

* `Config.load_of_present` — a file that is there is loaded, or has a load fault;
* `Config.default_eq_error` — the defaults only lack a home directory;
* `ConfigStore.Escapes` — the failures that are no load fault;
* `ConfigStore.load_contained` — how loading ends, and what the store then holds.
-/

namespace IndexSync

namespace Config

variable {h : Host} {file : FsPath} {e : Failure}

/-- A file that is there is loaded, unless it has a load fault. -/
theorem load_of_present (hexists : h.exists? file = .ok true) :
    (∃ c, (load h file).outcome = .ok c) ∨
      ∃ fault, (load h file).outcome = .error (.loadFailed file.text fault) := by
  cases hread : h.readFile file with
  | ok data =>
    rw [load_of_readFile hexists hread]
    cases parse h.home? data with
    | ok c => exact Or.inl ⟨c, rfl⟩
    | error fault => exact Or.inr ⟨fault, rfl⟩
  | error e =>
    -- The path of a file that is there can be passed to the system.
    obtain ⟨errno, path, rfl⟩ := Host.isSystem_of_guarded (Host.nullFree_of_probe hexists) hread
    unfold load
    rw [hexists, hread]
    exact Or.inr ⟨_, rfl⟩

/-- The defaults are valid, so that only a home directory can be missing. -/
theorem default_eq_error {home : Option FsPath} :
    default home = .error e ↔ home = none ∧ e = .homeUnknown := by
  cases home with
  | none =>
    rw [show default none = .error .homeUnknown from rfl, Except.error.injEq]
    exact ⟨fun heq => ⟨rfl, heq.symm⟩, fun heq => heq.2.symm⟩
  | some dir => exact iff_of_false nofun nofun

end Config

namespace ConfigStore

/-- The failures of loading a file that are no load fault. -/
inductive Escapes (h : Host) (file : FsPath) : Failure → Prop where
  /-- It cannot be told whether the file is there. -/
  | obscured {errno : Errno} (hobscured : h.Obscured file errno) :
    Escapes h file (.system errno (some file.text))
  /-- The file is not there, and the home directory is unknown. -/
  | homeless (habsent : h.exists? file = .ok false) (hhome : h.home? = none) :
    Escapes h file .homeUnknown

/-- How loading ends, and what the store then holds. -/
structure Contained (store : ConfigStore) (h : Host) (r : Traced Config × ConfigStore) : Prop where
  /-- What is loaded is what the file says, or else the defaults. -/
  loads_iff : ∀ c, r.1.outcome = .ok c ↔ Config.Given h store.file c
  /-- A configuration that is loaded was made of checked data, and is remembered. -/
  loaded : ∀ c, r.1.outcome = .ok c → (∃ data, Config.ofEntries h.home? data = .ok c) ∧
    c.polling.Valid ∧ c.project.Valid ∧ r.2 = { store with current := some c }
  /-- A failure leaves the store as it was. -/
  refused : ∀ e, r.1.outcome = .error e → r.2 = store
  /-- A failure is a load fault of the file, unless it is one of those that escape. -/
  escapes_iff : ∀ e, r.1.outcome = .error e ∧ (∀ fault, e ≠ .loadFailed store.file.text fault) ↔
    Escapes h store.file e

variable {store : ConfigStore} {h : Host} {e : Failure}

/-- Loading through a store ends as loading the file does, and the store keeps its configuration
after a failure. -/
theorem load_outcome (store : ConfigStore) (h : Host) :
    (store.load h).1 = Config.load h store.file := by
  rw [load]
  split
  · rfl
  · rfl

theorem load_of_error (hload : (Config.load h store.file).outcome = .error e) :
    (store.load h).2 = store := by
  rw [load, hload]

theorem load_of_ok {c : Config} (hload : (Config.load h store.file).outcome = .ok c) :
    (store.load h).2 = { store with current := some c } := by
  rw [load, hload]

/-- Failures that escape are no load faults. -/
theorem Escapes.ne_loadFailed {file : FsPath} (hescapes : Escapes h file e) (text : String)
    (fault : LoadFault) : e ≠ .loadFailed text fault := by
  cases hescapes with
  | obscured => nofun
  | homeless => nofun

/-- Loading fails with these failures, and with no others but load faults. -/
theorem load_fails_iff {file : FsPath} : (Config.load h file).outcome = .error e ∧
    (∀ fault, e ≠ .loadFailed file.text fault) ↔ Escapes h file e := by
  cases hexists : h.exists? file with
  -- The probe itself fails, and nothing else is tried.
  | error e' =>
    rw [Config.load_of_error hexists, Except.error.injEq]
    constructor
    · rintro ⟨rfl, -⟩
      obtain ⟨errno, hobscured, rfl⟩ := Host.exists?_eq_error.1 hexists
      exact .obscured hobscured
    · intro hescapes
      refine ⟨?_, hescapes.ne_loadFailed _⟩
      cases hescapes with
      | obscured hobscured =>
        have hother := Host.exists?_eq_error.2 ⟨_, hobscured, rfl⟩
        exact Except.error.inj (hexists.symm.trans hother)
      | homeless habsent => cases hexists.symm.trans habsent
  | ok there =>
    have hprobed : ∀ errno, ¬h.Obscured file errno := fun errno hobscured => by
      cases hexists.symm.trans (Host.exists?_eq_error.2 ⟨errno, hobscured, rfl⟩)
    cases there with
    -- With a file, every failure is a load fault of the file.
    | true =>
      refine iff_of_false ?_ ?_
      · rintro ⟨hfailed, hother⟩
        rcases Config.load_of_present hexists with ⟨c, hloaded⟩ | ⟨fault, hfault⟩
        · cases hfailed.symm.trans hloaded
        · exact hother fault (Except.error.inj (hfailed.symm.trans hfault))
      · intro hescapes
        cases hescapes with
        | obscured hobscured => exact hprobed _ hobscured
        | homeless habsent => cases hexists.symm.trans habsent
    -- Without a file, the defaults fail exactly if there is no home.
    | false =>
      rw [Config.load_of_absent hexists, Config.default_eq_error]
      constructor
      · rintro ⟨⟨hhome, rfl⟩, -⟩
        exact .homeless hexists hhome
      · intro hescapes
        refine ⟨?_, hescapes.ne_loadFailed _⟩
        cases hescapes with
        | obscured hobscured => exact absurd hobscured (hprobed _)
        | homeless _ hhome => exact ⟨hhome, rfl⟩

/-- Loading a configuration comes to an end for every host, and a store that could not load one has
not changed. -/
theorem load_contained (store : ConfigStore) (h : Host) : Contained store h (store.load h) where
  loads_iff c := by
    rw [load_outcome]
    exact Config.load_eq_ok
  loaded c hloaded := by
    rw [load_outcome] at hloaded
    obtain ⟨hpolling, hproject⟩ := Config.load_valid hloaded
    exact ⟨Config.exists_of_load hloaded, hpolling, hproject, load_of_ok hloaded⟩
  refused e hfailed := by
    rw [load_outcome] at hfailed
    exact load_of_error hfailed
  escapes_iff e := by
    rw [load_outcome]
    exact load_fails_iff

end ConfigStore

end IndexSync
