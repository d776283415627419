import IndexSync.Proofs.Configuration.Settled

/-!
# Loaded configurations

Whatever is in a configuration file, and also if there is none, a configuration that is loaded was
made of checked data, so that the program can work with it.

* `Config.load_eq_ok` — what is loaded is what the file says, or the defaults without a file;
* `Config.exists_of_load` — a configuration that is loaded was made of data;
* `Config.load_valid` — its budgets allow an attempt, its intervals are positive, and it has
  patterns to recognise projects by.
-/

namespace IndexSync

namespace Config

/-- The patterns that projects can be recognised by. -/
structure Discovery.Valid (d : Discovery) : Prop where
  /-- There is one. -/
  exists_pattern : d.patterns ≠ []
  /-- They have no blanks around them. -/
  stripped : ∀ s ∈ d.patterns, Text.strip s = s
  /-- They do not consist of blanks. -/
  nonblank : ∀ s ∈ d.patterns, Text.strip s ≠ ""

/-- Checked settings of project recognition are valid. -/
theorem checkDiscovery_valid {data : Entries} {d : Discovery} (h : checkDiscovery data = .ok d) :
    d.Valid := by
  obtain ⟨hsome, huseful⟩ := checkDiscovery_useful h
  refine ⟨hsome, fun s hs => (huseful s hs).1, fun s hs => ?_⟩
  obtain ⟨hstrip, hne⟩ := huseful s hs
  rwa [hstrip]

/-- A configuration in the bytes of a file was made of the data of a document. -/
theorem exists_of_parse {home : Option FsPath} {bytes : List UInt8} {c : Config}
    (h : parse home bytes = .ok c) : ∃ data, ofEntries home data = .ok c := by
  obtain ⟨text, -, h⟩ := exists_of_bind_eq_ok h
  split at h
  · obtain ⟨data, -, hdata⟩ := exists_of_ofDocument h
    exact ⟨data, hdata⟩
  · cases h

/-- A configuration without a file was made of no data. -/
theorem ofEntries_of_default {home : Option FsPath} {c : Config} (h : default home = .ok c) :
    ofEntries home [] = .ok c := by
  unfold default at h
  cases hdata : ofEntries home [] with
  | ok c' =>
    rw [hdata] at h
    exact congrArg Except.ok (Except.ok.inj h)
  | error refusal =>
    rw [hdata] at h
    cases h

variable {h : Host} {file : FsPath} {c : Config} {e : Failure}

/-- Before a file is opened, it has to be told whether it is there. -/
theorem load_of_error (hexists : h.exists? file = .error e) : (load h file).outcome = .error e := by
  unfold load
  rw [hexists]
  rfl

/-- Without a file, the outcome is that of the defaults. -/
theorem load_of_absent (hexists : h.exists? file = .ok false) :
    (load h file).outcome = default h.home? := by
  unfold load
  rw [hexists]
  rfl

/-- A file that is there and can be read is parsed. -/
theorem load_of_readFile (hexists : h.exists? file = .ok true) {data : List UInt8}
    (hread : h.readFile file = .ok data) :
    (load h file).outcome = (parse h.home? data).mapError (.loadFailed file.text) := by
  unfold load
  rw [hexists, hread]
  dsimp only
  cases hparse : parse h.home? data with
  | ok c => rfl
  | error fault => rfl

/-- A file that is there and cannot be read is not loaded. -/
theorem load_of_readFile_error (hexists : h.exists? file = .ok true)
    (hread : h.readFile file = .error e) : ∃ e', (load h file).outcome = .error e' := by
  unfold load
  rw [hexists, hread]
  cases e <;> exact ⟨_, rfl⟩

/-- A host gives a configuration by a file: by the bytes of the file, or else by the defaults. -/
inductive Given (h : Host) (file : FsPath) (c : Config) : Prop where
  /-- The file is there and describes the configuration. -/
  | written {data : List UInt8} (hexists : h.exists? file = .ok true)
    (hread : h.readFile file = .ok data) (hparse : parse h.home? data = .ok c) : Given h file c
  /-- The file is not there, and the configuration is the default one. -/
  | standard (hexists : h.exists? file = .ok false) (hdefault : default h.home? = .ok c) :
    Given h file c

/-- The configuration that is loaded is the given one. -/
theorem load_eq_ok : (load h file).outcome = .ok c ↔ Given h file c := by
  constructor
  · intro hload
    -- The stages of loading in order; each one that fails ends in a failure.
    cases hexists : h.exists? file with
    | error e => cases (load_of_error hexists).symm.trans hload
    | ok there =>
      cases there with
      | false => exact .standard hexists ((load_of_absent hexists).symm.trans hload)
      | true =>
        cases hread : h.readFile file with
        | error e =>
          obtain ⟨e', hfailed⟩ := load_of_readFile_error hexists hread
          cases hfailed.symm.trans hload
        | ok data =>
          rw [load_of_readFile hexists hread] at hload
          cases hparse : parse h.home? data with
          | error fault =>
            rw [hparse] at hload
            cases hload
          | ok c' =>
            rw [hparse] at hload
            obtain rfl : c' = c := Except.ok.inj hload
            exact .written hexists hread hparse
  · rintro (⟨hexists, hread, hparse⟩ | ⟨hexists, hdefault⟩)
    · rw [load_of_readFile hexists hread, hparse]
      rfl
    · exact (load_of_absent hexists).trans hdefault

/-- A configuration that is loaded was made of data: that of the file, or none without a file. -/
theorem exists_of_load (hload : (load h file).outcome = .ok c) :
    ∃ data, ofEntries h.home? data = .ok c := by
  cases load_eq_ok.1 hload with
  | written _ _ hparse => exact exists_of_parse hparse
  | standard _ hdefault => exact ⟨[], ofEntries_of_default hdefault⟩

/-- A configuration that is loaded has settings of polling that can be worked with, and patterns to
recognise projects by. -/
theorem load_valid (hload : (load h file).outcome = .ok c) : c.polling.Valid ∧ c.project.Valid := by
  obtain ⟨data, hdata⟩ := exists_of_load hload
  obtain ⟨hpolling, -, hproject, -⟩ := sections_of_ofEntries hdata
  exact ⟨checkPolling_valid hpolling, checkDiscovery_valid hproject⟩

end Config

end IndexSync
