import IndexSync.Proofs.Activation.Failing
import IndexSync.Proofs.Delay
import IndexSync.Proofs.Evidence
import IndexSync.Proofs.Search.Selection

/-!
# Trouble

The questions of an activation that a world fails to answer. Most of what can go wrong on a disk is
no failure: a directory that cannot be resolved has no project, and neither has one that cannot be
listed; an index that cannot be looked at is incomplete; a project whose commit cannot be told has
none. The module says exactly what is left.

* `Project.search_fails_iff` — the directories whose search fails;
* `World.locate_fails_iff` — when the project of the user cannot be searched for;
* `World.assess_fails_iff` — when the index and the commit of a project cannot be judged;
* `World.Answers.fails_iff` — a question of an activation is answered by a failure exactly if the
  world is in trouble with it.
-/

namespace IndexSync

/-- What the first element of a list that `P` holds of looks like, where `Q` holds of all before
it: it comes first, or `Q` holds of the one that does. -/
theorem exists_split_cons {α : Type} {P Q : α → Prop} {a : α} {l : List α} :
    (∃ before b after, a :: l = before ++ b :: after ∧ (∀ c ∈ before, Q c) ∧ P b) ↔
      P a ∨ Q a ∧ ∃ before b after, l = before ++ b :: after ∧ (∀ c ∈ before, Q c) ∧ P b := by
  constructor
  · rintro ⟨before, b, after, hsplit, hbefore, hb⟩
    rcases List.cons_eq_append_iff.1 hsplit with ⟨rfl, hhead⟩ | ⟨rest, rfl, rfl⟩
    · obtain ⟨rfl, -⟩ := List.cons.inj hhead
      exact Or.inl hb
    · rw [List.forall_mem_cons] at hbefore
      exact Or.inr ⟨hbefore.1, rest, b, after, rfl, hbefore.2, hb⟩
  · rintro (ha | ⟨ha, before, b, after, rfl, hbefore, hb⟩)
    · exact ⟨[], a, l, rfl, fun c hc => (by cases hc), ha⟩
    · exact ⟨a :: before, b, after, rfl, List.forall_mem_cons.2 ⟨ha, hbefore⟩, hb⟩

namespace Project

variable {h : Host} {patterns : List String} {pattern : Pattern} {dir start : FsPath}
  {fault : PatternFault} {e : Failure} {stack : Stack}

/-- No stack is exhausted by looking at files. -/
theorem ne_exhausted_of_regularFiles {ps : List FsPath} (hfails : regularFiles h ps = .error e) :
    e ≠ .exhausted := by
  induction ps with
  | nil => cases hfails
  | cons p ps ih =>
    rw [regularFiles] at hfails
    rcases hkeep : h.isFile p with e' | keep
    · rw [hkeep] at hfails
      rw [← Except.error.inj hfails]
      exact Host.ne_exhausted_of_guarded (Host.probe_eq_error.1 hkeep).1
    · rw [hkeep] at hfails
      rcases hrest : regularFiles h ps with e' | rest
      · rw [hrest] at hfails
        exact ih (hrest.trans hfails)
      · rw [hrest] at hfails
        cases hfails

theorem filesMatching_eq_error (hreads : stack.reads pattern = true) :
    filesMatching stack h pattern dir = .error e ↔
      regularFiles h (h.glob stack.levels pattern dir).found = .error e ∨
        (∃ files, regularFiles h (h.glob stack.levels pattern dir).found = .ok files) ∧
          (h.glob stack.levels pattern dir).stopped = some e := by
  rw [filesMatching, if_pos hreads]
  cases h.glob stack.levels pattern dir with
  | mk found stopped =>
    dsimp only
    cases regularFiles h found with
    | error e => simp
    | ok files => cases stopped <;> simp

theorem filesMatching_eq_ok {files : List FsPath} :
    filesMatching stack h pattern dir = .ok files ↔ stack.reads pattern = true ∧
      (h.glob stack.levels pattern dir).stopped = none ∧
      regularFiles h (h.glob stack.levels pattern dir).found = .ok files := by
  unfold filesMatching
  cases stack.reads pattern with
  | false => simp
  | true =>
    cases h.glob stack.levels pattern dir with
    | mk found stopped =>
      dsimp only
      cases regularFiles h found with
      | error e => simp
      | ok files => cases stopped <;> simp

/-- A stack that takes everything is not exhausted by the search for the files of a pattern. -/
theorem filesMatching_ample_ne_exhausted (h : Host) (pattern : Pattern) (dir : FsPath) :
    filesMatching .ample h pattern dir ≠ .error .exhausted := by
  have hall : h.Confines (fun _ => True) (· ≠ .exhausted) :=
    { look := fun _ _ _ => trivial
      fails := fun _ _ hstat _ => Host.ne_exhausted_of_guarded hstat
      child := fun _ _ _ _ _ => trivial
      list := fun _ _ _ hlist => Host.ne_exhausted_of_guarded hlist
      judge := fun _ _ _ => Host.ne_exhausted_of_entryIsDir }
  have honly : (h.glob none pattern dir).Only (fun _ => True) (· ≠ .exhausted) := by
    refine hall.glob ?_ pattern dir
    exact nofun
  intro hfails
  rcases (filesMatching_eq_error rfl).1 hfails with hfiles | ⟨-, hstop⟩
  · exact ne_exhausted_of_regularFiles hfiles rfl
  · exact honly.stopped _ hstop rfl

/-- The manifests of a directory cannot be told: a pattern comes up that cannot be used. Patterns
after one whose matching fails do not come up. -/
def Balks (h : Host) (dir : FsPath) (patterns : List String) (fault : PatternFault) : Prop :=
  ∃ before text after, patterns = before ++ text :: after ∧
    (∀ earlier ∈ before, ∃ pattern files, Pattern.parse earlier = .ok pattern ∧
      filesMatching .ample h pattern dir = .ok files) ∧
    Pattern.parse text = .error fault

theorem manifestsIn_eq_error_iff : manifestsIn .ample h dir patterns = .error e ↔
    ∃ fault, Balks h dir patterns fault ∧ e = .pattern fault := by
  induction patterns with
  | nil =>
    refine ⟨fun herror => (by cases herror), ?_⟩
    rintro ⟨fault, ⟨before, text, after, hnil, -⟩, -⟩
    exact absurd hnil (by simp)
  | cons text patterns ih =>
    have hcons : ∀ fault, Balks h dir (text :: patterns) fault ↔
        Pattern.parse text = .error fault ∨
          (∃ pattern files, Pattern.parse text = .ok pattern ∧
            filesMatching .ample h pattern dir = .ok files) ∧ Balks h dir patterns fault :=
      fun fault => exists_split_cons
    simp only [hcons]
    rw [manifestsIn]
    cases hparse : Pattern.parse text with
    | error fault => simp [bind, Except.bind, Except.mapError, eq_comm]
    | ok pattern =>
      -- A pattern that can be used is matched; if that fails, no further pattern comes up.
      cases hfiles : filesMatching .ample h pattern dir with
      | error e' =>
        have hlasts : e' ≠ .exhausted := fun he =>
          filesMatching_ample_ne_exhausted h pattern dir (he ▸ hfiles)
        cases e' with
        | exhausted => exact absurd rfl hlasts
        | _ => simp [bind, Except.bind, Except.mapError, hfiles, pure, Except.pure]
      | ok files =>
        cases hrest : manifestsIn .ample h dir patterns with
        | error e' => simp [bind, Except.bind, Except.mapError, hfiles, ← ih, hrest]
        | ok found =>
          simp [bind, Except.bind, Except.mapError, hfiles, pure, Except.pure, ← ih, hrest]

theorem manifestIn_eq_error_iff : manifestIn .ample h patterns dir = .error e ↔
    ∃ fault, Balks h dir patterns fault ∧ e = .pattern fault := by
  rw [← manifestsIn_eq_error_iff, manifestIn]
  cases manifestsIn .ample h dir patterns <;> simp [Except.map]

/-- A search that goes from directory to directory fails at the first one that balks, unless one
before it has a manifest. -/
theorem firstOf_eq_error_iff {dirs : List FsPath} : firstOf .ample h patterns dirs = .error e ↔
    ∃ before dir after, dirs = before ++ dir :: after ∧
      (∀ earlier ∈ before, manifestIn .ample h patterns earlier = .ok none) ∧
      ∃ fault, Balks h dir patterns fault ∧ e = .pattern fault := by
  induction dirs with
  | nil =>
    refine ⟨fun herror => (by cases herror), ?_⟩
    rintro ⟨before, dir, after, hnil, -⟩
    exact absurd hnil (by simp)
  | cons dir dirs ih =>
    rw [exists_split_cons, ← ih, ← manifestIn_eq_error_iff, firstOf]
    -- The first directory balks, or it has no manifest and the search goes on, or it has one.
    rcases manifestIn .ample h patterns dir with e | _ | manifest
    · simp [bind, Except.bind]
    · simp [bind, Except.bind]
    · simp [bind, Except.bind, pure, Except.pure]

/-- A directory cannot be searched for a project: its path cannot be passed to the system, or a
manifest pattern that cannot be used comes up at it or, unless there is a project before, above it.
-/
def Unsearchable (h : Host) (patterns : List String) (start : FsPath) : Prop :=
  h.resolve start = .error .nullByte ∨
    ∃ real fault before dir after, h.resolve start = .ok real ∧
      real.chain = before ++ dir :: after ∧
      (∀ earlier ∈ before, manifestIn .ample h patterns earlier = .ok none) ∧
      Balks h dir patterns fault

/-- The search of a directory that can be resolved goes up from it. -/
theorem find_eq {start real : FsPath} (hresolve : h.resolveWithin stack.links start = .ok real) :
    (find stack h patterns start).outcome = firstOf stack h patterns real.chain := by
  rw [find, hresolve]
  rfl

theorem search_eq {start real : FsPath} (hresolve : h.resolve start = .ok real) :
    (search h patterns start).outcome = firstOf .ample h patterns real.chain :=
  find_eq hresolve

theorem search_fails_iff : (∃ e, (search h patterns start).outcome = .error e) ↔
    Unsearchable h patterns start := by
  have hfirst : ∀ real : FsPath, (∃ e, firstOf .ample h patterns real.chain = .error e) ↔
      ∃ fault before dir after, real.chain = before ++ dir :: after ∧
        (∀ earlier ∈ before, manifestIn .ample h patterns earlier = .ok none) ∧
        Balks h dir patterns fault := by
    intro real
    simp only [firstOf_eq_error_iff]
    constructor
    · rintro ⟨_, before, dir, after, hchain, hbefore, fault, hbalks, -⟩
      exact ⟨fault, before, dir, after, hchain, hbefore, hbalks⟩
    · rintro ⟨fault, before, dir, after, hchain, hbefore, hbalks⟩
      exact ⟨_, before, dir, after, hchain, hbefore, fault, hbalks, rfl⟩
  rw [Unsearchable]
  -- Of all failures to resolve a directory, only the one of a null character is passed on.
  cases hresolve : h.resolve start with
  | ok real =>
    rw [search_eq hresolve]
    simp [hfirst]
  | error e =>
    have hwithin : h.resolveWithin Stack.ample.links start = .error e := hresolve
    rw [search, find, hwithin]
    cases e <;> simp [Traced.fail]

/-- The user of a host cannot be placed: the working directory was deleted, or it cannot be
searched, or it has no project and the directory of the active document cannot be searched. -/
def Lost (h : Host) (patterns : List String) (document : Option FsPath) : Prop :=
  h.cwd = none ∨ ∃ dir, h.cwd = some dir ∧
    (Unsearchable h patterns (FsPath.parse dir) ∨
      (search h patterns (FsPath.parse dir)).outcome = .ok none ∧
        ∃ doc, document.or (Whereabouts.documentOf h.env) = some doc ∧
          Unsearchable h patterns doc.parent)

end Project

namespace Staleness

variable {h : Host} {root file : FsPath} {minSize : Int} {stored : Option String}

/-- Whether an index is complete can always be told. -/
theorem exists_indexComplete (h : Host) (file : FsPath) (minSize : Int) :
    ∃ valid, (indexComplete h file minSize).outcome = .ok valid := by
  unfold indexComplete
  cases hstat : h.stat file with
  | ok node =>
    rw [fileSize?_of_stat hstat]
    split
    · exact ⟨_, rfl⟩
    · exact ⟨_, rfl⟩
    · next hsize => cases hsize
    · next hsize => cases hsize
  | error e =>
    rcases Host.eq_of_guarded hstat with rfl | ⟨errno, rfl⟩
    · -- A path that no call accepts leads to no file.
      have hprobe : h.isFile file = .ok false := by rw [Host.isFile, Host.probe, hstat]
      have hnone : fileSize? h file = .ok none := by
        simp [fileSize?, hprobe, bind, Except.bind, pure, Except.pure]
      rw [hnone]
      exact ⟨_, rfl⟩
    · rcases fileSize?_of_error hstat with hnone | herror
      · rw [hnone]
        exact ⟨_, rfl⟩
      · rw [herror]
        exact ⟨_, rfl⟩

/-- A project whose commit is asked of the version control program cannot be judged exactly if the
program cannot be started for a reason other than that it or the project is not there. -/
theorem assess_git_fails_iff :
    (∃ e, (assess .git h minSize root file stored).outcome = .error e) ↔
      ∃ errno path, h.git = .refused errno path ∧ Git.isUnavailable errno = false := by
  obtain ⟨valid, hvalid⟩ := exists_indexComplete h file minSize
  have hinterpret : (Git.fingerprint h root).outcome = (Git.interpret root h.git).outcome := rfl
  change (∃ e, ((indexComplete h file minSize).andThen fun valid =>
    (Git.fingerprint h root).andThen fun current =>
      .done (Staleness.mk valid current stored)).outcome = .error e) ↔ _
  simp only [Traced.andThen, hvalid, hinterpret]
  -- A program that was started tells the commit, or else there is none.
  cases h.git with
  | refused errno path =>
    cases hunavailable : Git.isUnavailable errno <;>
      simp [Git.interpret, hunavailable, Git.unknown, Traced.fail, Traced.done]
  | timedOut => simp [Git.interpret, Git.unknown, Traced.done]
  | failed code => simp [Git.interpret, Git.unknown, Traced.done]
  | printed text => simp [Git.interpret, Traced.done]

end Staleness

namespace World

variable {w : World} {document : Option FsPath}

/-- How a sequence ends is told by how its parts end. -/
theorem bind_fst {α β : Type} (a : Act α) (f : α → Act β) (w : World) :
    ((a >>= f) w).1 = (a w).1 >>= fun x => (f x (a w).2).1 := by
  change (ExceptT.bindCont f (a w).1 (a w).2).1 = _
  cases (a w).1 with
  | ok x => rfl
  | error e => rfl

/-- Where the user is as the process says, the project is searched for as the host shows it. -/
theorem locate_fst (hw : w.whereabouts = .ofProcess document) :
    (World.locate w).1 = Project.locate w.host.workingDirectory
      (.ok (document.or (Whereabouts.documentOf w.host.env)))
      fun start => (Project.search w.host w.patterns start).outcome := by
  have hcwd : World.workingDirectory w = (w.host.workingDirectory, w) := by
    unfold World.workingDirectory World.step Whereabouts.workingDirectory
    simp only [hw]
    rw [← hw]
  unfold World.locate Project.locate
  rw [bind_fst, hcwd]
  refine congrArg _ (funext fun dir => ?_)
  rw [bind_fst]
  refine congrArg _ (funext fun found => ?_)
  cases found with
  | some project => rfl
  | none =>
    -- The search has left events, which no later part looks at.
    simp only [traced, step, afterAll_eq]
    rw [bind_fst]
    simp only [World.document, step, Whereabouts.document, hw]
    cases document.or (Whereabouts.documentOf w.host.env) with
    | none => rfl
    | some doc => rfl

theorem locate_fails_iff (hw : w.whereabouts = .ofProcess document) :
    (∃ e, (World.locate w).1 = .error e) ↔ Project.Lost w.host w.patterns document := by
  rw [locate_fst hw, Project.locate, Host.workingDirectory, Project.Lost]
  cases w.host.cwd with
  | none => simp [bind, Except.bind]
  | some dir =>
    simp only [bind, Except.bind, reduceCtorEq, Option.some.injEq, exists_eq_left', false_or]
    rw [← Project.search_fails_iff]
    cases (Project.search w.host w.patterns (FsPath.parse dir)).outcome with
    | error e => simp
    | ok found =>
      cases found with
      | some project => simp [pure, Except.pure]
      | none =>
        cases document.or (Whereabouts.documentOf w.host.env) with
        | none => simp [pure, Except.pure]
        | some doc => simp [← Project.search_fails_iff]

theorem assess_fails_iff (hw : w.fingerprints = .git) (root file : FsPath)
    (stored : Option String) :
    (∃ e, (World.assess root file stored w).1 = .error e) ↔
      ∃ errno path, w.host.git = .refused errno path ∧ Git.isUnavailable errno = false := by
  have hassess : (World.assess root file stored w).1 =
      (Staleness.assess .git w.host w.minSize root file stored).outcome := by
    rw [← hw]
    rfl
  rw [hassess, Staleness.assess_git_fails_iff]

/-- The activations of a setup take place in a process of their own: the user is where the process
is, and commits are asked of the version control program. -/
structure OfProcess (s : Setup) (w : World) : Prop where
  whereabouts : ∃ document, w.whereabouts = .ofProcess document
  patterns : w.patterns = s.config.project.patterns
  fingerprints : w.fingerprints = .git

/-- A question was answered as a world answers it. The service may respond to a request in any way,
but there is a response. -/
def Answers (w : World) : Answer → Prop
  | ⟨.wait ms, reply⟩ => (World.wait ms w).1 = reply
  | ⟨.locate, reply⟩ => (World.locate w).1 = reply
  | ⟨.assess root file stored, reply⟩ => (World.assess root file stored w).1 = reply
  | ⟨.request _ _, reply⟩ => ∃ response, reply = .ok response
  | _ => True

/-- A world cannot answer a question of an activation: a wait is beyond all doubles, the user cannot
be placed, or the version control program cannot be started for a reason that does not mean that
there is no commit. -/
def Trouble (s : Setup) (w : World) : Ask → Prop
  -- The bound is half way between the greatest double and what would be the next one.
  | .wait ms => w.scheduling = .own ∧ 2 ^ 1024 - 2 ^ 970 ≤ ms.natAbs
  | .locate => ∃ document, w.whereabouts = .ofProcess document ∧
      Project.Lost w.host s.config.project.patterns document
  -- Whatever is wrong with the index does not matter here.
  | .assess _ _ _ =>
    ∃ errno path, w.host.git = .refused errno path ∧ Git.isUnavailable errno = false
  | _ => False

theorem Answers.fails_iff {s : Setup} {b : Answer} (h : w.Answers b) (hw : w.OfProcess s)
    (hown : b.op.isOfActivation = true) (hpermits : b.op.Permits b.reply) :
    (∃ e, b.failure? = some e) ↔ w.Trouble s b.op := by
  obtain ⟨op, reply⟩ := b
  simp only [Answer.failure?, failureOf_eq_some]
  -- Questions that are answered on the spot, and requests, are not answered by a failure.
  have hnone : (∃ a, reply = .ok a) → ((∃ e, reply = .error e) ↔ False) := by
    rintro ⟨a, rfl⟩
    simp
  cases op with
  | emit e => exact hnone (hpermits rfl)
  | enter key => exact hnone (hpermits rfl)
  | leave key => exact hnone (hpermits rfl)
  | spawn name job => exact hnone (hpermits rfl)
  | request name params => exact hnone h
  | wait ms =>
    obtain rfl : (World.wait ms w).1 = reply := h
    exact wait_fails_iff w ms
  | locate =>
    obtain rfl : (World.locate w).1 = reply := h
    obtain ⟨document, hdocument⟩ := hw.whereabouts
    refine (locate_fails_iff hdocument).trans ?_
    rw [hw.patterns]
    constructor
    · exact fun hlost => ⟨document, hdocument, hlost⟩
    · rintro ⟨document', hdocument', hlost⟩
      rw [hdocument, Whereabouts.ofProcess.injEq] at hdocument'
      rw [hdocument']
      exact hlost
  | assess root file stored =>
    obtain rfl : (World.assess root file stored w).1 = reply := h
    exact assess_fails_iff hw.fingerprints root file stored
  | _ => cases hown

end World

end IndexSync
