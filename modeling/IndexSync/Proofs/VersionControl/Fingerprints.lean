import IndexSync.Proofs.Configuration.Settled
import IndexSync.Proofs.Evidence
import Mathlib.Data.List.TakeWhile

/-!
# When there is a fingerprint

The fingerprint of a project is what the version control program prints, without the blanks around
it. A program that cannot be started, does not end well or prints nothing means that there is none;
some errors of the start are passed on instead.

* `Text.trimList_eq_iff` — what is left of a list without the characters of a class at its ends;
* `Git.fingerprint_tells` — what the lookup of a fingerprint comes to.
-/

namespace IndexSync

namespace Text

variable {cls : Char → Bool} {cs ds : List Char}

/-- A list that neither starts nor ends with a character of a class. -/
structure Bared (cls : Char → Bool) (ds : List Char) : Prop where
  start : ∀ c, ds.head? = some c → cls c = false
  last : ∀ c, ds.getLast? = some c → cls c = false

/-- What is trimmed off stands at the ends. -/
theorem exists_trimList (cls : Char → Bool) (cs : List Char) :
    ∃ before after, cs = before ++ trimList cls cs ++ after ∧ (∀ c ∈ before, cls c = true) ∧
      ∀ c ∈ after, cls c = true := by
  refine ⟨cs.takeWhile cls, ((cs.dropWhile cls).reverse.takeWhile cls).reverse, ?_,
    fun c hc => List.mem_takeWhile_imp hc,
    fun c hc => List.mem_takeWhile_imp (List.mem_reverse.1 hc)⟩
  rw [trimList, List.append_assoc, ← List.reverse_append, List.takeWhile_append_dropWhile,
    List.reverse_reverse, List.takeWhile_append_dropWhile]

theorem trimList_bared (cls : Char → Bool) (cs : List Char) : Bared cls (trimList cls cs) where
  start c hc := by
    rw [← dropWhile_trimList] at hc
    exact head?_dropWhile_eq_false hc
  last c hc := by
    rw [trimList, List.getLast?_reverse] at hc
    exact head?_dropWhile_eq_false hc

/-- What is left of a list is what stands between characters of the class at both ends. -/
theorem trimList_eq_iff : trimList cls cs = ds ↔ Bared cls ds ∧
    ∃ before after, cs = before ++ ds ++ after ∧ (∀ c ∈ before, cls c = true) ∧
      ∀ c ∈ after, cls c = true := by
  constructor
  · rintro rfl
    exact ⟨trimList_bared cls cs, exists_trimList cls cs⟩
  · rintro ⟨hbared, before, after, rfl, hbefore, hafter⟩
    -- Trimming stops at the first character of what is left, and seen from behind at its last.
    have hlast : ∀ c, ds.reverse.head? = some c → cls c = false := by
      rw [List.head?_reverse]
      exact hbared.last
    rw [trimList, List.append_assoc, List.dropWhile_append_of_pos hbefore]
    cases ds with
    | nil =>
      rw [List.nil_append, ← List.append_nil after, List.dropWhile_append_of_pos hafter]
      rfl
    | cons c ds =>
      rw [List.cons_append, List.dropWhile_cons_of_neg (by simp [hbared.start c rfl]),
        ← List.cons_append, List.reverse_append,
        List.dropWhile_append_of_pos fun c hc => hafter c (List.mem_reverse.1 hc),
        dropWhile_eq_self hlast, List.reverse_reverse]

/-- What is left of a text without the blanks around it. -/
theorem strip_eq_iff {s text : String} : strip s = text ↔ Bared isBlank text.toList ∧
    ∃ before after, s.toList = before ++ text.toList ++ after ∧
      (∀ c ∈ before, isBlank c = true) ∧ ∀ c ∈ after, isBlank c = true := by
  rw [strip, trim, ← String.toList_inj, String.toList_ofList, trimList_eq_iff]

theorem strip_eq_empty_iff {s : String} : strip s = "" ↔ ∀ c ∈ s.toList, isBlank c = true := by
  rw [strip_eq_iff]
  constructor
  · rintro ⟨-, before, after, hs, hbefore, hafter⟩
    rw [hs]
    simpa [or_imp, forall_and] using ⟨hbefore, hafter⟩
  · intro hall
    exact ⟨⟨nofun, nofun⟩, s.toList, [], by simp, hall, nofun⟩

end Text

namespace Git

variable {h : Host} {root : FsPath}

/-- The errors of a start after which there is no fingerprint: the program or the project is
missing, or may not be used. -/
def missingErrors : List Errno :=
  [Errno.notPermitted, Errno.noEntry, Errno.accessDenied, Errno.notDirectory]

theorem isUnavailable_iff {errno : Errno} : isUnavailable errno = true ↔ errno ∈ missingErrors := by
  simp only [isUnavailable, Errno.isDenial, missingErrors, Bool.or_eq_true, beq_iff_eq,
    List.mem_cons, List.not_mem_nil]
  tauto

/-- What a version control program that names no commit has come to. -/
def NamesNoCommit : CommandOutcome → Prop
  | .refused errno _ => errno ∈ missingErrors
  | .timedOut => True
  | .failed _ => True
  | .printed output => ∀ c ∈ output.toList, Text.isBlank c = true

/-- What the lookup of a fingerprint comes to. -/
structure FingerprintTold (h : Host) (root : FsPath) : Prop where
  /-- There is a fingerprint exactly if the program ended well and printed it, neither empty nor
  with a blank at its ends, with nothing but blanks around it. -/
  some_iff : ∀ text, (fingerprint h root).outcome = .ok (some text) ↔
    text ≠ "" ∧ Text.Bared Text.isBlank text.toList ∧
      ∃ output before after, h.git = .printed output ∧
        output.toList = before ++ text.toList ++ after ∧
        (∀ c ∈ before, Text.isBlank c = true) ∧ ∀ c ∈ after, Text.isBlank c = true
  /-- That is so exactly if it ended well and did not print blanks alone. -/
  found_iff : (∃ text, (fingerprint h root).outcome = .ok (some text)) ↔
    ∃ output, h.git = .printed output ∧ ∃ c ∈ output.toList, Text.isBlank c = false
  /-- There is none exactly if the program names no commit. -/
  none_iff : (fingerprint h root).outcome = .ok none ↔ NamesNoCommit h.git
  /-- The lookup fails exactly if the program could not be started and is not just missing. The
  failure is that of the start. -/
  fails_iff : ∀ e, (fingerprint h root).outcome = .error e ↔
    ∃ errno file, h.git = .refused errno file ∧ errno ∉ missingErrors ∧
      e = .system errno (some file)

theorem fingerprintOf_eq_none {output : String} : fingerprintOf output = none ↔
    ∀ c ∈ output.toList, Text.isBlank c = true := by
  rw [← Text.strip_eq_empty_iff, fingerprintOf]
  split
  · next hempty => exact iff_of_true rfl hempty
  · next hsome => exact iff_of_false nofun hsome

/-- The ways in which a lookup ends, by the outcome of the program. -/
theorem outcome_fingerprint (h : Host) (root : FsPath) : (fingerprint h root).outcome =
    match h.git with
    | .refused errno file =>
      if errno ∈ missingErrors then .ok none else .error (.system errno (some file))
    | .timedOut => .ok none
    | .failed _ => .ok none
    | .printed output => .ok (fingerprintOf output) := by
  have hinterpret : (fingerprint h root).outcome = (interpret root h.git).outcome := rfl
  rw [hinterpret]
  cases h.git with
  | refused errno file =>
    simp only [interpret, isUnavailable_iff]
    split
    · rfl
    · rfl
  | timedOut => rfl
  | failed code => rfl
  | printed output => rfl

/-- A fingerprint is found in what is printed, and nowhere else. -/
theorem fingerprint_eq_some {text : String} : (fingerprint h root).outcome = .ok (some text) ↔
    ∃ output, h.git = .printed output ∧ fingerprintOf output = some text := by
  rw [outcome_fingerprint]
  cases h.git with
  | refused errno file =>
    dsimp only
    split
    · simp
    · simp
  | timedOut => simp
  | failed code => simp
  | printed output => simp

/-- What the lookup of a fingerprint comes to: it fails only if the program cannot be started for a
reason other than that it or the project is missing or may not be used. -/
theorem fingerprint_tells (h : Host) (root : FsPath) : FingerprintTold h root where
  some_iff text := by
    rw [fingerprint_eq_some]
    simp only [fingerprintOf_eq_some, Text.strip_eq_iff]
    constructor
    · rintro ⟨output, hgit, ⟨hbared, before, after, hparts⟩, hne⟩
      exact ⟨hne, hbared, output, before, after, hgit, hparts⟩
    · rintro ⟨hne, hbared, output, before, after, hgit, hparts⟩
      exact ⟨output, hgit, ⟨hbared, before, after, hparts⟩, hne⟩
  found_iff := by
    simp only [fingerprint_eq_some]
    rw [exists_comm]
    refine exists_congr fun output => ?_
    rw [exists_and_left, ← Option.ne_none_iff_exists', Ne, fingerprintOf_eq_none]
    simp
  none_iff := by
    rw [outcome_fingerprint]
    cases h.git with
    | refused errno file => simp [NamesNoCommit]
    | timedOut => simp [NamesNoCommit]
    | failed code => simp [NamesNoCommit]
    | printed output => simp [NamesNoCommit, fingerprintOf_eq_none]
  fails_iff e := by
    rw [outcome_fingerprint]
    cases h.git with
    | refused errno file =>
      -- A program that is missing or barred counts as no commit.
      by_cases hmissing : errno ∈ missingErrors
      · simp [hmissing]
      · simp [hmissing, eq_comm]
    | timedOut => simp
    | failed code => simp
    | printed output => simp

example : (interpret ⟨.root, ["w"]⟩ (.refused 8 "git")).outcome = .error (.system 8 (some "git")) :=
  rfl

end Git

end IndexSync
