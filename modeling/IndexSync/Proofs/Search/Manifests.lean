import IndexSync.Proofs.Search.Selection
import IndexSync.Proofs.Trouble
import Mathlib.Data.String.Basic
import Mathlib.Data.List.Lex

/-!
# The manifests of a directory

Which manifest a directory shows, and when it shows none though it has some: one failed call hides
all manifests of the directory, those of other patterns included. An exhausted stack hides nothing,
it ends the search.

* `Project.Matches` — the regular files that a pattern matches;
* `Project.Fails` — when the search for these files fails;
* `Project.Overruns`, `Project.Exceeds` — when a pattern, or one of several, exhausts the stack;
* `Project.manifestIn_eq_none_iff`, `Project.manifestIn_eq_some_iff` — the manifest of a directory;
* `Project.firstOf_eq_none_iff`, `Project.firstOf_eq_some_iff` — the first directory with a
  manifest.
-/

namespace IndexSync

/-! ### The least of several paths -/

namespace FsPath

/-- Paths are ordered as the lists of their parts. -/
theorem lessParts_eq (as bs : List String) : lessParts as bs = decide (as < bs) := by
  induction as generalizing bs with
  | nil => cases bs <;> simp [lessParts]
  | cons a as ih =>
    cases bs with
    | nil => simp [lessParts]
    | cons b bs =>
      rw [lessParts, ih]
      by_cases hab : a = b
      · simp [hab]
      · simp [hab, List.cons_lt_cons_iff]

theorem less_eq_false {p q : FsPath} : p.less q = false ↔ q.parts ≤ p.parts := by
  rw [less, lessParts_eq, decide_eq_false_iff_not, not_lt]

/-- The path that is kept while the least one is looked for. -/
theorem foldl_less (ps : List FsPath) (p : FsPath) :
    (ps.foldl (fun best q => if q.less best then q else best) p) ∈ p :: ps ∧
      ∀ q ∈ p :: ps,
        q.less (ps.foldl (fun best q => if q.less best then q else best) p) = false := by
  induction ps generalizing p with
  | nil =>
    refine ⟨List.mem_cons_self, fun q hq => ?_⟩
    rw [List.mem_singleton.1 hq]
    exact less_eq_false.2 le_rfl
  | cons next ps ih =>
    rw [List.foldl_cons]
    -- The search goes on with the lesser of the first two.
    set kept := if next.less p = true then next else p with hkept
    obtain ⟨hmem, hleast⟩ := ih kept
    -- Neither of the first two is less than the one that is kept of them.
    have hfirst : p.less kept = false ∧ next.less kept = false := by
      rw [hkept]
      split
      · next hless =>
        rw [less, lessParts_eq, decide_eq_true_iff] at hless
        exact ⟨less_eq_false.2 hless.le, less_eq_false.2 le_rfl⟩
      · next hless => exact ⟨less_eq_false.2 le_rfl, Bool.eq_false_iff.2 hless⟩
    have hbelow := less_eq_false.1 (hleast kept List.mem_cons_self)
    refine ⟨?_, fun q hq => ?_⟩
    · rcases List.mem_cons.1 hmem with heq | hmem
      · rw [heq, hkept]
        split
        · exact List.mem_cons_of_mem _ List.mem_cons_self
        · exact List.mem_cons_self
      · exact List.mem_cons_of_mem _ (List.mem_cons_of_mem _ hmem)
    · rcases List.mem_cons.1 hq with rfl | hq
      · exact less_eq_false.2 (hbelow.trans (less_eq_false.1 hfirst.1))
      · rcases List.mem_cons.1 hq with rfl | hq
        · exact less_eq_false.2 (hbelow.trans (less_eq_false.1 hfirst.2))
        · exact hleast q (List.mem_cons_of_mem _ hq)

theorem least?_eq_none {ps : List FsPath} : least? ps = none ↔ ps = [] := by
  cases ps with
  | nil => exact iff_of_true rfl rfl
  | cons p ps => exact iff_of_false nofun nofun

/-- Paths with the same anchor are told apart by their parts. -/
theorem eq_of_parts {p q : FsPath} (hanchor : p.anchor = q.anchor) (hparts : p.parts = q.parts) :
    p = q := by
  obtain ⟨anchor, names⟩ := p
  obtain ⟨anchor', names'⟩ := q
  obtain rfl : anchor = anchor' := hanchor
  cases anchor with
  | relative => exact congrArg _ hparts
  | root => exact congrArg _ (List.cons.inj hparts).2
  | doubleRoot => exact congrArg _ (List.cons.inj hparts).2

/-- Among paths with the same anchor there is one least path. -/
theorem least?_eq_some {ps : List FsPath} {anchor : Anchor} (hanchor : ∀ p ∈ ps, p.anchor = anchor)
    {least : FsPath} : least? ps = some least ↔
      least ∈ ps ∧ ∀ p ∈ ps, p.less least = false := by
  cases ps with
  | nil => exact iff_of_false nofun fun hmem => by cases hmem.1
  | cons p ps =>
    obtain ⟨hmem, hleast⟩ := foldl_less ps p
    constructor
    · intro heq
      rw [← Option.some.inj heq]
      exact ⟨hmem, hleast⟩
    · rintro ⟨hmem', hleast'⟩
      -- Two paths of which neither is less have the same parts, and here also the same anchor.
      refine congrArg some (eq_of_parts ((hanchor _ hmem).trans (hanchor _ hmem').symm) ?_)
      exact le_antisymm (less_eq_false.1 (hleast _ hmem')) (less_eq_false.1 (hleast' _ hmem))

end FsPath

/-! ### Where selected paths are -/

namespace Host

variable {h : Host} {directory : Bool} {segments : List Segment} {p q : FsPath}

theorem Nested.exists_names (hnested : h.Nested p q) :
    ∃ names, q = { p with names := p.names ++ names } := by
  induction hnested with
  | here => exact ⟨[], by rw [List.append_nil]⟩
  | @within p q name mode entries _ _ _ ih =>
    obtain ⟨names, rfl⟩ := ih
    exact ⟨name :: names, by rw [FsPath.child, List.append_assoc, List.singleton_append]⟩

/-- What is selected below a path has the names of the path before its own. -/
theorem Selects.exists_names (hselects : h.Selects directory segments p q) :
    ∃ names, q = { p with names := p.names ++ names } := by
  induction hselects with
  | done => exact ⟨[], by rw [List.append_nil]⟩
  | @exact name _ p q _ _ _ _ ih =>
    obtain ⟨names, rfl⟩ := ih
    exact ⟨name :: names, by rw [FsPath.child, List.append_assoc, List.singleton_append]⟩
  | @wild _ name _ p q _ _ _ _ _ _ _ ih =>
    obtain ⟨names, rfl⟩ := ih
    exact ⟨name :: names, by rw [FsPath.child, List.append_assoc, List.singleton_append]⟩
  | recursive hnested _ ih =>
    obtain ⟨names, rfl⟩ := hnested.exists_names
    obtain ⟨names', rfl⟩ := ih
    exact ⟨names ++ names', by rw [List.append_assoc]⟩

/-- What one name or one name pattern selects is in the directory itself. -/
theorem Selects.parent_eq {segment : Segment} (hsegment : segment ≠ .recursive)
    (hselects : h.Selects directory [segment] p q) : q.parent = p := by
  have hchild : ∀ name, (p.child name).parent = p := fun name => by
    rw [FsPath.parent, FsPath.child, List.dropLast_concat]
  cases hselects with
  | exact _ _ hrest =>
    cases hrest
    exact hchild _
  | wild _ _ _ _ hrest =>
    cases hrest
    exact hchild _
  | recursive => exact absurd rfl hsegment

end Host

namespace Project

variable {h : Host} {pattern : Pattern} {patterns : List String} {dir file : FsPath} {e : Failure}

/-! ### The files of one pattern -/

/-- A regular file that a pattern matches below a directory. -/
structure Matches (h : Host) (pattern : Pattern) (dir file : FsPath) : Prop where
  /-- The directory is one. -/
  isDir : ∃ n, h.stat dir = .ok n ∧ n.isDir = true
  /-- The file is selected. -/
  selected : h.Selects pattern.directory pattern.segments dir file
  /-- The file is a regular one. -/
  isFile : ∃ n, h.stat file = .ok n ∧ n.isFile = true

/-- The search for the files of a pattern fails: at the directory, while paths are selected, or at
one that was selected. -/
def Fails (h : Host) (pattern : Pattern) (dir : FsPath) : Prop :=
  (∃ e, h.stat dir = .error e ∧ e.meansAbsent = false) ∨
    (∃ n, h.stat dir = .ok n ∧ n.isDir = true) ∧
      (h.Disrupted pattern.directory pattern.segments dir ∨
        ∃ file e, h.Selects pattern.directory pattern.segments dir file ∧
          h.stat file = .error e ∧ e.meansAbsent = false)

theorem regularFiles_eq_error_iff {ps : List FsPath} :
    (∃ e, regularFiles h ps = .error e) ↔ ∃ p ∈ ps, ∃ e, h.isFile p = .error e := by
  induction ps with
  | nil => simp [regularFiles]
  | cons p ps ih =>
    simp only [List.mem_cons, exists_eq_or_imp, ← ih]
    rw [regularFiles]
    cases h.isFile p with
    | error e => simp [bind, Except.bind]
    | ok keep =>
      cases regularFiles h ps with
      | error e => simp [bind, Except.bind]
      | ok rest => simp [bind, Except.bind, pure, Except.pure]

theorem mem_regularFiles {ps files : List FsPath} (hfiles : regularFiles h ps = .ok files) :
    file ∈ files ↔ file ∈ ps ∧ h.isFile file = .ok true := by
  induction ps generalizing files with
  | nil =>
    obtain rfl := Except.ok.inj hfiles
    simp
  | cons p ps ih =>
    rw [regularFiles] at hfiles
    cases hkeep : h.isFile p with
    | error e => simp [hkeep, bind, Except.bind] at hfiles
    | ok keep =>
      cases hrest : regularFiles h ps with
      | error e => simp [hkeep, hrest, bind, Except.bind] at hfiles
      | ok rest =>
        simp only [hkeep, hrest, bind, Except.bind, pure, Except.pure, Except.ok.injEq] at hfiles
        rw [← hfiles]
        have hrest' := ih hrest
        cases keep with
        | true => grind
        | false => grind

variable {stack : Stack} {levels : Option Nat}

/-- The stack is exhausted by the search for the files of a pattern in a directory: the pattern
cannot be read with it, or too many directories lie inside one another. -/
def Overruns (stack : Stack) (h : Host) (pattern : Pattern) (dir : FsPath) : Prop :=
  stack.reads pattern = false ∨
    (∃ n, h.stat dir = .ok n ∧ n.isDir = true) ∧ h.Overreaches stack.levels pattern.segments dir

theorem not_overruns_ample : ¬Overruns .ample h pattern dir := by
  rintro (hreads | ⟨-, before, rest, q, -, -, limit, hlimit, -⟩)
  · cases hreads
  · cases hlimit

section Glob

variable (hdisk : h.disk.Sound)

include hdisk

theorem glob_stopped : (h.glob levels pattern dir).stopped.isSome ↔
    (∃ e, h.isDir dir = .error e) ∨ h.isDir dir = .ok true ∧
      (h.Disrupted pattern.directory pattern.segments dir ∨
        h.Overreaches levels pattern.segments dir) := by
  have htells := Host.select_tells hdisk levels pattern.directory pattern.segments dir
  unfold Host.glob
  rcases h.isDir dir with e | _ | _
  · simp [Selection.guarded, Selection.stop]
  · simp [Selection.guarded, Selection.none]
  · simpa [Selection.guarded] using htells.stopped_iff

/-- What ends a selection is a failed call, or that the stack is exhausted. -/
theorem glob_stopped_by (hstop : (h.glob levels pattern dir).stopped = some e) :
    (e ≠ .exhausted ∧ ((∃ e, h.isDir dir = .error e) ∨
        h.isDir dir = .ok true ∧ h.Disrupted pattern.directory pattern.segments dir)) ∨
      (e = .exhausted ∧ h.isDir dir = .ok true ∧ h.Overreaches levels pattern.segments dir) := by
  have htells := Host.select_tells hdisk levels pattern.directory pattern.segments dir
  unfold Host.glob at hstop
  rcases htest : h.isDir dir with e' | _ | _
  · rw [htest] at hstop
    obtain rfl : e' = e := Option.some.inj hstop
    exact Or.inl ⟨Host.ne_exhausted_of_guarded (Host.probe_eq_error.1 htest).1, Or.inl ⟨_, rfl⟩⟩
  · rw [htest] at hstop
    cases hstop
  · rw [htest] at hstop
    by_cases he : e = .exhausted
    · exact Or.inr ⟨he, rfl, htells.exhausted (he ▸ hstop)⟩
    · exact Or.inl ⟨he, Or.inr ⟨rfl, (htells.failed e hstop he).1⟩⟩

/-- A pattern selects nothing where there is no directory. -/
theorem selects_of_mem_glob (hfile : file ∈ (h.glob levels pattern dir).found) :
    h.isDir dir = .ok true ∧ h.Selects pattern.directory pattern.segments dir file := by
  have htells := Host.select_tells hdisk levels pattern.directory pattern.segments dir
  unfold Host.glob at hfile
  rcases htest : h.isDir dir with e | _ | _
  · rw [htest] at hfile
    cases hfile
  · rw [htest] at hfile
    cases hfile
  · rw [htest] at hfile
    exact ⟨rfl, htells.sound file hfile⟩

theorem mem_glob (hgo : (h.glob levels pattern dir).stopped = none) :
    file ∈ (h.glob levels pattern dir).found ↔
      h.isDir dir = .ok true ∧ h.Selects pattern.directory pattern.segments dir file := by
  refine ⟨selects_of_mem_glob hdisk, fun ⟨htest, hselects⟩ => ?_⟩
  have htells := Host.select_tells hdisk levels pattern.directory pattern.segments dir
  unfold Host.glob at hgo ⊢
  rw [htest] at hgo ⊢
  exact htells.found hgo file hselects

end Glob

/-- The search for the files of a pattern fails by a failed call, or exhausts the stack. -/
theorem filesMatching_failed (hdisk : h.disk.Sound)
    (hfails : filesMatching stack h pattern dir = .error e) :
    (e ≠ .exhausted ∧ Fails h pattern dir) ∨ (e = .exhausted ∧ Overruns stack h pattern dir) := by
  have hdir : h.isDir dir = .ok true ↔ ∃ n, h.stat dir = .ok n ∧ n.isDir = true :=
    Host.probe_eq_true
  cases hreads : stack.reads pattern with
  | false =>
    rw [filesMatching, hreads] at hfails
    exact Or.inr ⟨(Except.error.inj hfails).symm, Or.inl hreads⟩
  | true =>
    rcases (filesMatching_eq_error hreads).1 hfails with hfiles | ⟨-, hstop⟩
    · obtain ⟨file, hfound, e', hfile⟩ := regularFiles_eq_error_iff.1 ⟨e, hfiles⟩
      obtain ⟨hisDir, hselects⟩ := selects_of_mem_glob hdisk hfound
      exact Or.inl ⟨ne_exhausted_of_regularFiles hfiles, Or.inr ⟨hdir.1 hisDir,
        Or.inr ⟨file, e', hselects, Host.probe_eq_error.1 hfile⟩⟩⟩
    · rcases glob_stopped_by hdisk hstop with
        ⟨he, ⟨e', hlook⟩ | ⟨hisDir, hdisrupted⟩⟩ | ⟨he, hisDir, hover⟩
      · exact Or.inl ⟨he, Or.inl ⟨e', Host.probe_eq_error.1 hlook⟩⟩
      · exact Or.inl ⟨he, Or.inr ⟨hdir.1 hisDir, Or.inl hdisrupted⟩⟩
      · exact Or.inr ⟨he, Or.inr ⟨hdir.1 hisDir, hover⟩⟩

theorem filesMatching_fails_iff (hdisk : h.disk.Sound) :
    (∃ e, filesMatching stack h pattern dir = .error e) ↔
      Fails h pattern dir ∨ Overruns stack h pattern dir := by
  refine ⟨fun ⟨e, hfails⟩ => (filesMatching_failed hdisk hfails).imp And.right And.right, ?_⟩
  have hdir : (∃ n, h.stat dir = .ok n ∧ n.isDir = true) ↔ h.isDir dir = .ok true :=
    Host.probe_eq_true.symm
  rw [Fails, Overruns, hdir]
  -- Files are found only if nothing has ended the selection, and all of them could be looked at.
  intro hfails
  cases hfiles : filesMatching stack h pattern dir with
  | error e => exact ⟨e, rfl⟩
  | ok files =>
    obtain ⟨hreads, hstop, hregular⟩ := filesMatching_eq_ok.1 hfiles
    have hgo := mt (glob_stopped hdisk).2
      (Option.not_isSome_iff_eq_none.2 hstop)
    rw [not_or, not_and, not_or] at hgo
    rcases hfails with (⟨e, hlook⟩ | ⟨hisDir, hdisrupted | ⟨file, e, hselects, herror⟩⟩) |
      hunread | ⟨hisDir, hover⟩
    · exact absurd ⟨e, Host.probe_eq_error.2 hlook⟩ hgo.1
    · exact absurd hdisrupted (hgo.2 hisDir).1
    · have hfile := (mem_glob hdisk hstop).2 ⟨hisDir, hselects⟩
      obtain ⟨e', herror'⟩ :=
        regularFiles_eq_error_iff.2 ⟨file, hfile, e, Host.probe_eq_error.2 herror⟩
      cases hregular.symm.trans herror'
    · cases hreads.symm.trans hunread
    · exact absurd hover (hgo.2 hisDir).2

theorem mem_filesMatching (hdisk : h.disk.Sound) {files : List FsPath}
    (hfiles : filesMatching stack h pattern dir = .ok files) :
    file ∈ files ↔ Matches h pattern dir file := by
  obtain ⟨-, hnone, hregular⟩ := filesMatching_eq_ok.1 hfiles
  rw [mem_regularFiles hregular, mem_glob hdisk hnone]
  constructor
  · rintro ⟨⟨hisDir, hselects⟩, hisFile⟩
    exact ⟨Host.probe_eq_true.1 hisDir, hselects, Host.probe_eq_true.1 hisFile⟩
  · intro hmatches
    exact ⟨⟨Host.probe_eq_true.2 hmatches.isDir, hmatches.selected⟩,
      Host.probe_eq_true.2 hmatches.isFile⟩

/-! ### The files of all patterns -/

/-- A regular file that one of several patterns matches below a directory. -/
def Matched (h : Host) (patterns : List String) (dir file : FsPath) : Prop :=
  ∃ text ∈ patterns, ∃ pattern, Pattern.parse text = .ok pattern ∧ Matches h pattern dir file

/-- A failed search for the files of one pattern hides all manifests of a directory. -/
def Hidden (h : Host) (patterns : List String) (dir : FsPath) : Prop :=
  ∃ text ∈ patterns, ∃ pattern, Pattern.parse text = .ok pattern ∧ Fails h pattern dir

/-- All patterns can be used. -/
def Accepted (patterns : List String) : Prop :=
  ∀ text ∈ patterns, ∃ pattern, Pattern.parse text = .ok pattern

/-- The stack is exhausted by one of the patterns. -/
def Exceeds (stack : Stack) (h : Host) (patterns : List String) (dir : FsPath) : Prop :=
  ∃ text ∈ patterns, ∃ pattern, Pattern.parse text = .ok pattern ∧ Overruns stack h pattern dir

theorem not_exceeds_ample : ¬Exceeds .ample h patterns dir := fun ⟨_, _, _, _, hoverruns⟩ =>
  not_overruns_ample hoverruns

/-- What holds for one of the patterns holds for the first or for one of the others. -/
theorem exists_pattern_cons {P : Pattern → Prop} {text : String}
    (hparse : Pattern.parse text = .ok pattern) :
    (∃ other ∈ text :: patterns, ∃ pattern, Pattern.parse other = .ok pattern ∧ P pattern) ↔
      P pattern ∨ ∃ other ∈ patterns, ∃ pattern, Pattern.parse other = .ok pattern ∧ P pattern := by
  simp only [List.mem_cons, exists_eq_or_imp, hparse, Except.ok.injEq, exists_eq_left']

/-- How the search for the manifests of a directory goes on behind the first pattern. -/
theorem manifestsIn_cons {text : String} (hparse : Pattern.parse text = .ok pattern) :
    (∃ files, filesMatching stack h pattern dir = .ok files ∧
        manifestsIn stack h dir (text :: patterns) =
          (manifestsIn stack h dir patterns).map (Option.map (files ++ ·))) ∨
      (filesMatching stack h pattern dir = .error .exhausted ∧
        manifestsIn stack h dir (text :: patterns) = .error .exhausted) ∨
      (∃ e, e ≠ .exhausted ∧ filesMatching stack h pattern dir = .error e ∧
        manifestsIn stack h dir (text :: patterns) = .ok none) := by
  rw [manifestsIn, hparse]
  cases hfiles : filesMatching stack h pattern dir with
  | ok files =>
    refine Or.inl ⟨files, rfl, ?_⟩
    cases hrest : manifestsIn stack h dir patterns with
    | error e => simp [Except.mapError, bind, Except.bind, hfiles, Except.map]
    | ok found => simp [Except.mapError, bind, Except.bind, hfiles, Except.map, pure, Except.pure]
  | error e =>
    refine Or.inr ?_
    by_cases he : e = .exhausted
    · subst he
      exact Or.inl ⟨rfl, by simp [Except.mapError, bind, Except.bind, hfiles, throw, throwThe,
        MonadExceptOf.throw]⟩
    · refine Or.inr ⟨e, he, rfl, ?_⟩
      cases e with
      | exhausted => exact absurd rfl he
      | _ => simp [Except.mapError, bind, Except.bind, hfiles, pure, Except.pure]

theorem manifestsIn_of_fault {text : String} {fault : PatternFault}
    (hparse : Pattern.parse text = .error fault) :
    manifestsIn stack h dir (text :: patterns) = .error (.pattern fault) := by
  rw [manifestsIn, hparse]
  rfl

section Told

variable (hdisk : h.disk.Sound)

include hdisk

/-- The search for manifests in a directory is broken off only if it exhausts the stack. -/
theorem exceeds_of_manifestsIn (hpatterns : Accepted patterns)
    (hfails : manifestsIn stack h dir patterns = .error e) :
    e = .exhausted ∧ Exceeds stack h patterns dir := by
  induction patterns with
  | nil => cases hfails
  | cons text patterns ih =>
    obtain ⟨⟨pattern, hparse⟩, hrest⟩ := List.forall_mem_cons.1 hpatterns
    rw [Exceeds, exists_pattern_cons hparse]
    rcases manifestsIn_cons hparse with ⟨files, -, heq⟩ | ⟨hfiles, heq⟩ | ⟨e', -, -, heq⟩
    · rw [heq] at hfails
      cases htail : manifestsIn stack h dir patterns with
      | ok found =>
        rw [htail] at hfails
        cases hfails
      | error e' =>
        rw [htail] at hfails
        obtain rfl : e' = e := Except.error.inj hfails
        exact (ih hrest htail).imp_right Or.inr
    · rw [heq] at hfails
      obtain rfl := Except.error.inj hfails
      obtain ⟨hne, -⟩ | ⟨-, hoverruns⟩ := filesMatching_failed hdisk hfiles
      · exact absurd rfl hne
      · exact ⟨rfl, Or.inl hoverruns⟩
    · rw [heq] at hfails
      cases hfails

/-- Manifests are hidden by a failed call. -/
theorem hidden_of_manifestsIn (hnone : manifestsIn stack h dir patterns = .ok none) :
    Hidden h patterns dir := by
  induction patterns with
  | nil => cases Except.ok.inj hnone
  | cons text patterns ih =>
    cases hparse : Pattern.parse text with
    | error fault => cases (manifestsIn_of_fault hparse).symm.trans hnone
    | ok pattern =>
      rw [Hidden, exists_pattern_cons hparse]
      rcases manifestsIn_cons hparse with ⟨files, -, heq⟩ | ⟨-, heq⟩ | ⟨e, he, hfiles, -⟩
      · rw [heq] at hnone
        rcases htail : manifestsIn stack h dir patterns with e | _ | found
        · rw [htail] at hnone
          cases hnone
        · exact Or.inr (ih htail)
        · rw [htail] at hnone
          cases Except.ok.inj hnone
      · rw [heq] at hnone
        cases hnone
      · obtain ⟨-, hfails⟩ | ⟨hexhausted, -⟩ := filesMatching_failed hdisk hfiles
        · exact Or.inl hfails
        · exact absurd hexhausted he

/-- Manifests are told only where nothing hides them and the stack takes all patterns. -/
theorem shown_of_manifestsIn {files : List FsPath}
    (hsome : manifestsIn stack h dir patterns = .ok (some files)) :
    ¬Hidden h patterns dir ∧ ¬Exceeds stack h patterns dir ∧
      ∀ file, file ∈ files ↔ Matched h patterns dir file := by
  induction patterns generalizing files with
  | nil =>
    obtain rfl := Option.some.inj (Except.ok.inj hsome)
    have hnot : ∀ {P : String → Prop}, ¬∃ text ∈ [], P text := by simp
    exact ⟨hnot, hnot, fun file => iff_of_false nofun hnot⟩
  | cons text patterns ih =>
    cases hparse : Pattern.parse text with
    | error fault => cases (manifestsIn_of_fault hparse).symm.trans hsome
    | ok pattern =>
      rcases manifestsIn_cons hparse with ⟨first, hfirst, heq⟩ | ⟨-, heq⟩ | ⟨e, he, -, heq⟩
      · rw [heq] at hsome
        rcases htail : manifestsIn stack h dir patterns with e | _ | found
        · rw [htail] at hsome
          cases hsome
        · rw [htail] at hsome
          cases Except.ok.inj hsome
        · rw [htail] at hsome
          obtain rfl : first ++ found = files := Option.some.inj (Except.ok.inj hsome)
          obtain ⟨hshown, hroom, hfound⟩ := ih htail
          -- The files of the first pattern were found, so that nothing is wrong with it.
          have hfine : ¬(Fails h pattern dir ∨ Overruns stack h pattern dir) := fun hwrong =>
            have ⟨e, hfails⟩ := (filesMatching_fails_iff hdisk).2 hwrong
            nomatch hfirst.symm.trans hfails
          rw [not_or] at hfine
          refine ⟨?_, ?_, fun file => ?_⟩
          · rw [Hidden, exists_pattern_cons hparse]
            exact not_or.2 ⟨hfine.1, hshown⟩
          · rw [Exceeds, exists_pattern_cons hparse]
            exact not_or.2 ⟨hfine.2, hroom⟩
          · rw [Matched, exists_pattern_cons hparse, List.mem_append, hfound file,
              mem_filesMatching hdisk hfirst]
            exact Iff.rfl
      · rw [heq] at hsome
        cases hsome
      · rw [heq] at hsome
        cases Except.ok.inj hsome

end Told

theorem Matched.anchor (hmatched : Matched h patterns dir file) : file.anchor = dir.anchor := by
  obtain ⟨text, -, pattern, -, hmatches⟩ := hmatched
  obtain ⟨names, rfl⟩ := hmatches.selected.exists_names
  rfl

/-- The least of the files that patterns match in a directory. -/
structure Least (h : Host) (patterns : List String) (dir file : FsPath) : Prop where
  matched : Matched h patterns dir file
  least : ∀ other, Matched h patterns dir other → other.less file = false

theorem Least.unique {other : FsPath} (hfile : Least h patterns dir file)
    (hother : Least h patterns dir other) : file = other :=
  -- Both are below the directory, so that no two of them have the same parts.
  FsPath.eq_of_parts (hfile.matched.anchor.trans hother.matched.anchor.symm)
    (le_antisymm (FsPath.less_eq_false.1 (hfile.least _ hother.matched))
      (FsPath.less_eq_false.1 (hother.least _ hfile.matched)))

/-- A directory shows no manifest: its manifests are hidden, or it has none. -/
def Bare (h : Host) (patterns : List String) (dir : FsPath) : Prop :=
  Hidden h patterns dir ∨ ∀ file, ¬Matched h patterns dir file

section Shown

variable (hdisk : h.disk.Sound)

include hdisk

theorem exceeds_of_manifestIn (hpatterns : Accepted patterns)
    (hfails : manifestIn stack h patterns dir = .error e) :
    e = .exhausted ∧ Exceeds stack h patterns dir := by
  rw [manifestIn] at hfails
  cases hfound : manifestsIn stack h dir patterns with
  | ok found =>
    rw [hfound] at hfails
    cases hfails
  | error e' =>
    rw [hfound] at hfails
    obtain rfl : e' = e := Except.error.inj hfails
    exact exceeds_of_manifestsIn hdisk hpatterns hfound

theorem bare_of_manifestIn (hnone : manifestIn stack h patterns dir = .ok none) :
    Bare h patterns dir := by
  rw [manifestIn] at hnone
  rcases hfound : manifestsIn stack h dir patterns with e | _ | files
  · rw [hfound] at hnone
    cases hnone
  · exact Or.inl (hidden_of_manifestsIn hdisk hfound)
  · rw [hfound] at hnone
    have hleast : FsPath.least? files = none := Except.ok.inj hnone
    obtain rfl := FsPath.least?_eq_none.1 hleast
    have hmem := (shown_of_manifestsIn hdisk hfound).2.2
    exact Or.inr fun file hmatched => List.not_mem_nil ((hmem file).2 hmatched)

theorem least_of_manifestIn (hsome : manifestIn stack h patterns dir = .ok (some file)) :
    ¬Hidden h patterns dir ∧ ¬Exceeds stack h patterns dir ∧ Least h patterns dir file := by
  rw [manifestIn] at hsome
  rcases hfound : manifestsIn stack h dir patterns with e | _ | files
  · rw [hfound] at hsome
    cases hsome
  · rw [hfound] at hsome
    cases Except.ok.inj hsome
  · rw [hfound] at hsome
    have hleast : FsPath.least? files = some file := Except.ok.inj hsome
    obtain ⟨hshown, hroom, hmem⟩ := shown_of_manifestsIn hdisk hfound
    -- All files are below the directory, so that no two of them have the same parts.
    rw [FsPath.least?_eq_some fun p hp => ((hmem p).1 hp).anchor] at hleast
    simp only [hmem] at hleast
    exact ⟨hshown, hroom, hleast.1, hleast.2⟩

/-- Where nothing hides the manifests of a directory, a pattern that the stack does not take breaks
the search off. -/
theorem manifestIn_eq_error (hpatterns : Accepted patterns) (hshown : ¬Hidden h patterns dir)
    (hexceeds : Exceeds stack h patterns dir) :
    manifestIn stack h patterns dir = .error .exhausted := by
  rcases hfound : manifestsIn stack h dir patterns with e | _ | files
  · obtain ⟨rfl, -⟩ := exceeds_of_manifestsIn hdisk hpatterns hfound
    rw [manifestIn, hfound]
    rfl
  · exact absurd (hidden_of_manifestsIn hdisk hfound) hshown
  · exact absurd hexceeds (shown_of_manifestsIn hdisk hfound).2.1

variable (hpatterns : Accepted patterns) (hroom : ¬Exceeds stack h patterns dir)

include hpatterns hroom

theorem exists_manifestIn : ∃ found, manifestIn stack h patterns dir = .ok found := by
  cases hfound : manifestIn stack h patterns dir with
  | ok found => exact ⟨found, rfl⟩
  | error e => exact absurd (exceeds_of_manifestIn hdisk hpatterns hfound).2 hroom

theorem manifestIn_eq_none_iff : manifestIn stack h patterns dir = .ok none ↔
    Bare h patterns dir := by
  refine ⟨bare_of_manifestIn hdisk, fun hbare => ?_⟩
  obtain ⟨found, hfound⟩ := exists_manifestIn hdisk hpatterns hroom
  cases found with
  | none => exact hfound
  | some file =>
    obtain ⟨hshown, -, hleast⟩ := least_of_manifestIn hdisk hfound
    exact absurd hleast.matched ((hbare.resolve_left hshown) file)

theorem manifestIn_eq_some_iff : manifestIn stack h patterns dir = .ok (some file) ↔
    ¬Hidden h patterns dir ∧ Least h patterns dir file := by
  refine ⟨fun hsome => (least_of_manifestIn hdisk hsome).imp_right And.right, ?_⟩
  rintro ⟨hshown, hleast⟩
  obtain ⟨found, hfound⟩ := exists_manifestIn hdisk hpatterns hroom
  cases found with
  | none =>
    exact absurd hleast.matched
      ((bare_of_manifestIn hdisk hfound).resolve_left hshown file)
  | some other =>
    obtain ⟨-, -, hother⟩ := least_of_manifestIn hdisk hfound
    rw [hfound, hother.unique hleast]

end Shown

/-! ### The first directory with a manifest -/

variable {dirs : List FsPath} {project : Project}

theorem firstOf_eq_none_iff : firstOf stack h patterns dirs = .ok none ↔
    ∀ dir ∈ dirs, manifestIn stack h patterns dir = .ok none := by
  induction dirs with
  | nil => simp [firstOf]
  | cons dir dirs ih =>
    rw [List.forall_mem_cons, ← ih, firstOf]
    rcases manifestIn stack h patterns dir with e | _ | manifest
    · simp [bind, Except.bind]
    · simp [bind, Except.bind]
    · simp [bind, Except.bind, pure, Except.pure]

theorem firstOf_eq_some_iff : firstOf stack h patterns dirs = .ok (some project) ↔
    ∃ before dir after, dirs = before ++ dir :: after ∧
      (∀ nearer ∈ before, manifestIn stack h patterns nearer = .ok none) ∧
      ∃ manifest, manifestIn stack h patterns dir = .ok (some manifest) ∧
        ofManifest manifest = project := by
  induction dirs with
  | nil =>
    refine iff_of_false (by simp [firstOf]) ?_
    rintro ⟨before, dir, after, hnil, -⟩
    exact absurd hnil (by simp)
  | cons dir dirs ih =>
    rw [exists_split_cons, ← ih, firstOf]
    rcases manifestIn stack h patterns dir with e | _ | manifest
    · simp [bind, Except.bind]
    · simp [bind, Except.bind]
    · simp [bind, Except.bind, pure, Except.pure]

/-- The way up is broken off at the first directory whose search is, unless one before it has a
manifest. -/
theorem firstOf_eq_stop_iff : firstOf stack h patterns dirs = .error e ↔
    ∃ before dir after, dirs = before ++ dir :: after ∧
      (∀ nearer ∈ before, manifestIn stack h patterns nearer = .ok none) ∧
      manifestIn stack h patterns dir = .error e := by
  induction dirs with
  | nil =>
    refine iff_of_false (by simp [firstOf]) ?_
    rintro ⟨before, dir, after, hnil, -⟩
    exact absurd hnil (by simp)
  | cons dir dirs ih =>
    rw [exists_split_cons, ← ih, firstOf]
    rcases manifestIn stack h patterns dir with e' | _ | manifest
    · simp [bind, Except.bind]
    · simp [bind, Except.bind]
    · simp [bind, Except.bind, pure, Except.pure]

theorem search_eq_ok {start real : FsPath} (hresolve : h.resolve start = .ok real)
    {found : Option Project} : (search h patterns start).outcome = .ok found ↔
      firstOf .ample h patterns real.chain = .ok found := by
  rw [search_eq hresolve]

/-- Where all patterns can be used, the search comes to an end. -/
theorem exists_firstOf (h : Host) (dirs : List FsPath) (hpatterns : Accepted patterns) :
    ∃ found, firstOf .ample h patterns dirs = .ok found := by
  cases hfound : firstOf .ample h patterns dirs with
  | ok found => exact ⟨found, rfl⟩
  | error e =>
    obtain ⟨_, _, _, -, -, _, ⟨before, text, after, rfl, -, herror⟩, -⟩ :=
      firstOf_eq_error_iff.1 hfound
    obtain ⟨pattern, hparse⟩ := hpatterns text (List.mem_append_right _ List.mem_cons_self)
    cases hparse.symm.trans herror

end Project

end IndexSync
