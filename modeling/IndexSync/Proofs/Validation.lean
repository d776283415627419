import IndexSync.Activation.Basic
import IndexSync.Config.Check

/-!
# Checked configurations

What a configuration that was made of data is sure to fulfil: budgets allow at least one attempt,
and intervals are positive.
-/

namespace IndexSync

/-- A sequence that succeeds has parts that succeed. -/
theorem exists_of_bind_eq_ok {ε α β : Type} {a : Except ε α} {f : α → Except ε β} {y : β}
    (h : a >>= f = .ok y) : ∃ x, a = .ok x ∧ f x = .ok y := by
  cases a with
  | error e => cases h
  | ok x => exact ⟨x, rfl, h⟩

namespace Config

/-- The budgets and intervals that polling can work with. -/
structure Polling.Valid (p : Polling) : Prop where
  maxAttempts : 1 ≤ p.maxAttempts
  warmup : 0 < p.warmup
  pingInterval : 0 < p.pingInterval
  discoveryInterval : 0 < p.discoveryInterval
  registryAttempts : 1 ≤ p.registryAttempts
  registryInterval : 0 < p.registryInterval

/-- Both checks succeed if each does. -/
theorem Checked.both_eq_ok {α β : Type} {a : Checked α} {b : Checked β} {x : α} {y : β} :
    a.both b = .ok (x, y) ↔ a = .ok x ∧ b = .ok y := by
  cases a <;> cases b <;> simp [Checked.both]

/-- A checked integer breaks no rule. -/
theorem rule_of_checkInteger {rule : Int → Option Rule} {place : List Step} {given : Value}
    {n : Int}
    (h : checkInteger rule place given = .ok n) : rule n = none := by
  simp only [checkInteger] at h
  split at h
  · cases h
  · split at h
    · cases h
    · next hrule =>
      obtain rfl := Except.ok.inj h
      exact hrule

/-- A setting breaks no rule if its default breaks none. -/
theorem rule_of_setting {rule : Int → Option Rule} {entries : Entries} {place : List Step}
    {name : String} {default n : Int} (hdefault : rule default = none)
    (h : setting entries place name default (checkInteger rule) = .ok n) : rule n = none := by
  simp only [setting] at h
  split at h
  · exact rule_of_checkInteger h
  · obtain rfl := Except.ok.inj h
    exact hdefault

theorem attemptsRule_eq_none {n : Int} (h : attemptsRule n = none) : 1 ≤ n := by
  simp only [attemptsRule] at h
  split at h
  · cases h
  · omega

theorem intervalRule_eq_none {n : Int} (h : intervalRule n = none) : 0 < n := by
  simp only [intervalRule] at h
  split at h
  · cases h
  · omega

/-- Checked settings of polling are valid. -/
theorem checkPolling_valid {data : Entries} {p : Polling} (h : checkPolling data = .ok p) :
    p.Valid := by
  obtain ⟨entries, -, h⟩ := exists_of_bind_eq_ok h
  obtain ⟨⟨maxAttempts, warmup, pingInterval, discoveryInterval, registryAttempts,
    registryInterval⟩, hchecked, h⟩ := exists_of_bind_eq_ok h
  obtain rfl := Except.ok.inj h
  simp only [Checked.both_eq_ok] at hchecked
  obtain ⟨h₁, h₂, h₃, h₄, h₅, h₆⟩ := hchecked
  exact ⟨attemptsRule_eq_none (rule_of_setting rfl h₁),
    intervalRule_eq_none (rule_of_setting rfl h₂),
    intervalRule_eq_none (rule_of_setting rfl h₃), intervalRule_eq_none (rule_of_setting rfl h₄),
    attemptsRule_eq_none (rule_of_setting rfl h₅), intervalRule_eq_none (rule_of_setting rfl h₆)⟩

/-- A configuration that was made of data consists of the sections that were checked. -/
theorem sections_of_ofEntries {home : Option FsPath} {data : Entries} {c : Config}
    (h : ofEntries home data = .ok c) :
    checkPolling data = .ok c.polling ∧ checkIndex home data = .ok (.ok c.index) ∧
      checkDiscovery data = .ok c.project ∧ checkService data = .ok c.service := by
  obtain ⟨index, hindex, h⟩ := exists_of_bind_eq_ok h
  dsimp only at h
  split at h
  · next polling index project service hall =>
    obtain rfl := Except.ok.inj h
    simp only [Checked.both_eq_ok] at hall
    obtain ⟨hpolling, rfl, hproject, hservice⟩ := hall
    exact ⟨hpolling, hindex, hproject, hservice⟩
  · cases h

/-- The settings of polling in a configuration that was made of data are valid. -/
theorem ofEntries_valid {home : Option FsPath} {data : Entries} {c : Config}
    (h : ofEntries home data = .ok c) : c.polling.Valid :=
  checkPolling_valid (sections_of_ofEntries h).1

/-- The configuration that has all defaults, for a user whose home is the root. -/
def standard : Config where
  polling := {}
  index := { dir := defaultIndexDir ⟨.root, []⟩ }
  project := {}
  service := {}

/-- Without data, a configuration has all defaults. -/
theorem ofEntries_nil : ofEntries (some ⟨.root, []⟩) [] = .ok standard := rfl

/-- Data that sets nothing but the delay before the first probe. -/
def warmupData (n : Int) : Entries := [(.str "polling", .map [(.str "warmup_ms", .int n)])]

/-- Every positive delay is accepted. -/
theorem ofEntries_warmup {n : Int} (h : 0 < n) :
    ofEntries (some ⟨.root, []⟩) (warmupData n) =
      .ok { standard with polling := { warmup := n } } := by
  have hrule : intervalRule n = none := by rw [intervalRule, if_neg (by omega)]
  have hpolling : checkPolling (warmupData n) = .ok { warmup := n } := by
    unfold checkPolling
    simp [warmupData, sectionOf, setting, checkInteger, integerOf, Value.lookup?, hrule,
      Checked.both, bind, Except.bind, pure, Except.pure]
  unfold ofEntries
  rw [hpolling]
  rfl

end Config

/-- The activations of a host with all defaults, on a file system where letter case counts. -/
def Setup.standard : Setup := { config := .standard, caseRule := .sensitive, pid := 1 }

/-- A host with nothing on its disk. -/
def Host.bare : Host :=
  { disk := .empty
    faults := []
    cwd := some "/"
    env := []
    uid := 0
    platform := "linux"
    pid := 1 }

end IndexSync
