import IndexSync.Proofs.Search.Manifests
import IndexSync.Proofs.Search.Reordering

/-!
# The nearest manifest

The search goes from a directory up to the root and takes the least manifest of the first directory
that has one. Which one that is depends on the files and the patterns alone, and not on the order in
which directories list their entries or in which the patterns are given. A directory of the way that
has to be listed and cannot be is passed over.

* `Project.Inquires` — the inquiries that the search for the files of a pattern makes;
* `Project.Unlisted` — a directory that has to be listed and cannot be;
* `Project.Holds` — the manifests of a directory that is not passed over;
* `Project.Nearest` — what the search of a directory comes to;
* `Project.nearest_manifest` — it comes to that, if no other call fails.
-/

namespace IndexSync.Project

variable {h h' : Host} {pattern : Pattern} {patterns patterns' : List String}
  {dir file start real : FsPath} {inquiry : Inquiry}

/-! ### Inquiries about a directory -/

/-- An inquiry that the search for the files of a pattern in a directory makes. -/
inductive Inquires (h : Host) (pattern : Pattern) (dir : FsPath) : Inquiry → Prop where
  /-- The directory is looked at. -/
  | directory : Inquires h pattern dir (.look dir)
  /-- Paths are selected in it, if it is one. -/
  | selecting {inquiry : Inquiry} (hdir : ∃ n, h.stat dir = .ok n ∧ n.isDir = true)
    (hasks : h.Asks pattern.directory pattern.segments dir inquiry) : Inquires h pattern dir inquiry
  /-- The selected paths are looked at. -/
  | selected {file : FsPath} (hdir : ∃ n, h.stat dir = .ok n ∧ n.isDir = true)
    (hselects : h.Selects pattern.directory pattern.segments dir file) :
    Inquires h pattern dir (.look file)

/-- A directory that a pattern demands to be listed, but that is absent when it is. -/
def Unlisted (h : Host) (patterns : List String) (dir : FsPath) : Prop :=
  (∃ e, h.scandir dir = .error e ∧ e.meansAbsent = true) ∧
    ∃ text ∈ patterns, ∃ pattern, Pattern.parse text = .ok pattern ∧
      Inquires h pattern dir (.list dir)

/-- No inquiry about a directory fails but for the absence of what is looked for, and listings do
not fail at all. -/
def Quiet (h : Host) (patterns : List String) (dir : FsPath) : Prop :=
  ∀ text ∈ patterns, ∀ pattern, Pattern.parse text = .ok pattern →
    ∀ inquiry e, Inquires h pattern dir inquiry → h.Fails inquiry e →
      e.meansAbsent = true ∧ ∀ p, inquiry ≠ .list p

/-- A regular file that a pattern matches, in a directory that is not passed over. -/
def Holds (h : Host) (patterns : List String) (dir file : FsPath) : Prop :=
  ¬Unlisted h patterns dir ∧ Matched h patterns dir file

theorem not_isDenial_of_meansAbsent {e : Failure} (habsent : e.meansAbsent = true) :
    e.isDenial = false := by
  cases e with
  | system errno file =>
    rw [Failure.meansAbsent] at habsent
    rw [Failure.isDenial]
    grind [Errno.isAbsence, Errno.isDenial, Errno.noEntry, Errno.notDirectory,
      Errno.badDescriptor, Errno.linkLoop, Errno.notPermitted, Errno.accessDenied]
  | nullByte => rfl
  | _ => cases habsent

/-- Manifests of an unlisted directory are hidden. -/
theorem Unlisted.hidden (hunlisted : Unlisted h patterns dir) : Hidden h patterns dir := by
  obtain ⟨⟨e, hlist, habsent⟩, text, htext, pattern, hparse, hinquires⟩ := hunlisted
  refine ⟨text, htext, pattern, hparse, Or.inr ?_⟩
  cases hinquires with
  | selecting hdir hasks =>
    exact ⟨hdir, Or.inl ⟨_, hasks, e, hlist, not_isDenial_of_meansAbsent habsent⟩⟩

/-- Nothing is hidden where all is quiet. -/
theorem Quiet.not_hidden (hquiet : Quiet h patterns dir) : ¬Hidden h patterns dir := by
  rintro ⟨text, htext, pattern, hparse, hfails⟩
  have hcall := hquiet text htext pattern hparse
  -- Wherever the search could fail, the inquiry that fails is a quiet one.
  rcases hfails with ⟨e, hstat, hpresent⟩ | ⟨hdir, ⟨inquiry, hasks, e, hfails, hended⟩ |
    ⟨file, e, hselects, hstat, hpresent⟩⟩
  · have habsent := (hcall _ e .directory hstat).1
    exact Bool.noConfusion (habsent.symm.trans hpresent)
  · obtain ⟨habsent, hother⟩ := hcall inquiry e (.selecting hdir hasks) hfails
    cases inquiry with
    | look p => exact Bool.noConfusion (habsent.symm.trans hended.2)
    | list p => exact hother p rfl
    | follow p => exact Bool.noConfusion (habsent.symm.trans hended.2)
  · have habsent := (hcall _ e (.selected hdir hselects) hstat).1
    exact Bool.noConfusion (habsent.symm.trans hpresent)

/-- An unlisted directory and a quiet one show the manifests that they hold. -/
theorem bare_iff (hcalls : Unlisted h patterns dir ∨ Quiet h patterns dir) :
    Bare h patterns dir ↔ ∀ file, ¬Holds h patterns dir file := by
  by_cases hunlisted : Unlisted h patterns dir
  · exact iff_of_true (Or.inl hunlisted.hidden) fun file hholds => hholds.1 hunlisted
  · have hshown := (hcalls.resolve_left hunlisted).not_hidden
    rw [Bare, or_iff_right hshown]
    exact forall_congr' fun file => not_congr (and_iff_right hunlisted).symm

/-- The least of the files that a directory holds. -/
structure LeastHeld (h : Host) (patterns : List String) (dir file : FsPath) : Prop where
  /-- The directory holds the file. -/
  holds : Holds h patterns dir file
  /-- It holds no lesser one. -/
  least : ∀ other, Holds h patterns dir other → other.less file = false

theorem shown_iff (hcalls : Unlisted h patterns dir ∨ Quiet h patterns dir) :
    ¬Hidden h patterns dir ∧ Least h patterns dir file ↔ LeastHeld h patterns dir file := by
  by_cases hunlisted : Unlisted h patterns dir
  · refine iff_of_false (fun hshown => hshown.1 hunlisted.hidden) fun hheld => ?_
    exact hheld.holds.1 hunlisted
  · rw [and_iff_right (hcalls.resolve_left hunlisted).not_hidden]
    constructor
    · exact fun hleast => ⟨⟨hunlisted, hleast.matched⟩, fun other hother =>
        hleast.least other hother.2⟩
    · exact fun hheld => ⟨hheld.holds.2, fun other hother => hheld.least other ⟨hunlisted, hother⟩⟩

/-! ### The way up -/

/-- No directory before this one holds a manifest. -/
def ReachedIn (h : Host) (patterns : List String) (dirs : List FsPath) (dir : FsPath) : Prop :=
  ∃ before after, dirs = before ++ dir :: after ∧
    ∀ nearer ∈ before, ∀ file, ¬Holds h patterns nearer file

variable {dirs : List FsPath}

/-- The directories that are reached behind a first one that holds no manifest. -/
theorem reachedIn_cons : ReachedIn h patterns (dir :: dirs) real ↔
    real = dir ∨ (∀ file, ¬Holds h patterns dir file) ∧ ReachedIn h patterns dirs real := by
  have hsplit := exists_split_cons (P := fun b => b = real)
    (Q := fun nearer => ∀ file, ¬Holds h patterns nearer file) (a := dir) (l := dirs)
  constructor
  · rintro ⟨before, after, hdirs, hbefore⟩
    refine (hsplit.1 ⟨before, real, after, hdirs, hbefore, rfl⟩).imp Eq.symm ?_
    rintro ⟨hdir, before, _, after, hrest, hbefore, rfl⟩
    exact ⟨hdir, before, after, hrest, hbefore⟩
  · rintro (rfl | ⟨hdir, before, after, rfl, hbefore⟩)
    · exact ⟨[], dirs, rfl, nofun⟩
    · exact ⟨dir :: before, after, rfl, List.forall_mem_cons.2 ⟨hdir, hbefore⟩⟩

/-- The way up ends without a project exactly if no directory of it holds a manifest, and else at
the first that does. -/
theorem firstOf_nearest (hdisk : h.disk.Sound) (hpatterns : Accepted patterns)
    (hcalls : ∀ dir, ReachedIn h patterns dirs dir →
      Unlisted h patterns dir ∨ Quiet h patterns dir) :
    (firstOf .ample h patterns dirs = .ok none ↔ ∀ dir ∈ dirs, ∀ file, ¬Holds h patterns dir file) ∧
      ∀ project, firstOf .ample h patterns dirs = .ok (some project) ↔
        ∃ dir, ReachedIn h patterns dirs dir ∧ LeastHeld h patterns dir project.manifest ∧
          ofManifest project.manifest = project := by
  induction dirs with
  | nil =>
    refine ⟨by simp [firstOf], fun project => iff_of_false (by simp [firstOf]) ?_⟩
    rintro ⟨dir, ⟨before, after, hnil, -⟩, -⟩
    exact absurd hnil (by simp)
  | cons dir dirs ih =>
    -- The first directory is reached in any case, the others only if it holds no manifest.
    have hhere := hcalls dir (reachedIn_cons.2 (Or.inl rfl))
    have hnone : manifestIn .ample h patterns dir = .ok none ↔ ∀ file, ¬Holds h patterns dir file :=
      (manifestIn_eq_none_iff hdisk hpatterns not_exceeds_ample).trans (bare_iff hhere)
    have hsome : ∀ file, manifestIn .ample h patterns dir = .ok (some file) ↔
        LeastHeld h patterns dir file :=
      fun file => (manifestIn_eq_some_iff hdisk hpatterns not_exceeds_ample).trans (shown_iff hhere)
    rw [List.forall_mem_cons, firstOf]
    simp only [reachedIn_cons]
    cases hfound : manifestIn .ample h patterns dir with
    | error fault =>
      exact absurd (exceeds_of_manifestIn hdisk hpatterns hfound).2 not_exceeds_ample
    | ok found =>
      cases found with
      | none =>
        have hempty := hnone.1 hfound
        obtain ⟨ihNone, ihSome⟩ := ih fun other hother =>
          hcalls other (reachedIn_cons.2 (Or.inr ⟨hempty, hother⟩))
        refine ⟨ihNone.trans (and_iff_right hempty).symm, fun project => (ihSome project).trans ?_⟩
        refine exists_congr fun other => and_congr_left fun hleast => ?_
        constructor
        · exact fun hreached => Or.inr ⟨hempty, hreached⟩
        · rintro (rfl | ⟨-, hreached⟩)
          · exact absurd hleast.1.holds (hempty _)
          · exact hreached
      | some manifest =>
        have hheld := (hsome manifest).1 hfound
        refine ⟨iff_of_false (fun heq => by cases heq) fun hempty => ?_, fun project => ?_⟩
        · exact hempty.1 manifest hheld.holds
        constructor
        · intro heq
          obtain rfl := Option.some.inj (Except.ok.inj heq)
          exact ⟨dir, Or.inl rfl, hheld, rfl⟩
        · rintro ⟨other, rfl | ⟨hempty, -⟩, hleast, hproject⟩
          · have hsame := hfound.symm.trans ((hsome _).2 hleast)
            rw [← hproject, ← Option.some.inj (Except.ok.inj hsame)]
            rfl
          · exact absurd hheld.holds (hempty _)

/-! ### Names alone -/

/-- The segments of a pattern are those of the names of its text. -/
theorem mapM_of_parse {text : String} (hparse : Pattern.parse text = .ok pattern) :
    (FsPath.parse text).names ≠ [] ∧
      (FsPath.parse text).names.mapM Segment.parse = .ok pattern.segments := by
  unfold Pattern.parse at hparse
  split at hparse
  · cases hparse
  dsimp only at hparse
  split at hparse
  · cases hparse
  split at hparse
  · cases hparse
  next hsome =>
  refine ⟨hsome, ?_⟩
  cases hsegments : (FsPath.parse text).names.mapM Segment.parse with
  | error fault =>
    rw [hsegments] at hparse
    cases hparse
  | ok segments =>
    rw [hsegments] at hparse
    rw [← Except.ok.inj hparse]

/-- Only two stars make a recursive segment. -/
theorem ne_recursive_of_parse {text : String} {segment : Segment}
    (hparse : Segment.parse text = .ok segment) (hstars : ¬['*', '*'] <:+: text.toList) :
    segment ≠ .recursive := by
  rw [Segment.parse] at hparse
  split at hparse
  · next htext => exact absurd (htext ▸ List.infix_refl _) hstars
  · split at hparse
    · cases hparse
    · split at hparse
      · obtain rfl := Except.ok.inj hparse
        nofun
      · obtain rfl := Except.ok.inj hparse
        nofun

/-- A pattern without a slash has one segment, and without two stars side by side that is no
recursive one. -/
theorem segments_of_parse {text : String} (hparse : Pattern.parse text = .ok pattern)
    (hslash : '/' ∉ text.toList) (hstars : ¬['*', '*'] <:+: text.toList) :
    ∃ segment, pattern.segments = [segment] ∧ segment ≠ .recursive := by
  obtain ⟨hsome, hsegments⟩ := mapM_of_parse hparse
  have hnames : (FsPath.parse text).names = [text] := by
    rw [FsPath.parse, FsPath.namesOf, Text.fields_of_not_mem hslash] at hsome ⊢
    cases hname : FsPath.isName text.toList with
    | false => exact absurd (by simp [hname]) hsome
    | true => simp [hname]
  rw [hnames, List.mapM_cons, List.mapM_nil] at hsegments
  cases hsegment : Segment.parse text with
  | error fault =>
    rw [hsegment] at hsegments
    cases hsegments
  | ok segment =>
    rw [hsegment] at hsegments
    exact ⟨segment, (Except.ok.inj hsegments).symm, ne_recursive_of_parse hsegment hstars⟩

/-- What is asked for a name alone: to look at the directory, to list it, and to look at the name or
at the entries. -/
theorem Inquires.of_name {segment : Segment} (hsegment : segment ≠ .recursive)
    (hinquires : Inquires h ⟨[segment], false⟩ dir inquiry) :
    inquiry = .look dir ∨ inquiry = .list dir ∨ ∃ name, inquiry = .look (dir.child name) ∧
      (segment = .exact name ∨ ∃ entries n, h.scandir dir = .ok entries ∧ (name, n) ∈ entries) := by
  cases hinquires with
  | directory => exact Or.inl rfl
  | selecting _ hasks =>
    refine Or.inr ?_
    -- Behind the only segment nothing is asked.
    cases hasks with
    | look => exact Or.inr ⟨_, rfl, Or.inl rfl⟩
    | behindName _ _ hrest => cases hrest
    | list => exact Or.inl rfl
    | judge _ _ hdemand => exact absurd hdemand (by simp)
    | behindEntry _ _ _ _ hrest => cases hrest
    | listNested => exact absurd rfl hsegment
    | judgeNested => exact absurd rfl hsegment
    | behindNested => exact absurd rfl hsegment
  | selected _ hselects =>
    refine Or.inr (Or.inr ?_)
    cases hselects with
    | exact _ _ hrest =>
      cases hrest
      exact ⟨_, rfl, Or.inl rfl⟩
    | wild hlist hentry _ _ hrest =>
      cases hrest
      exact ⟨_, rfl, Or.inr ⟨_, _, hlist, hentry⟩⟩
    | recursive => exact absurd rfl hsegment

/-- Looking at a path succeeds, or fails because nothing is there. -/
def settles (h : Host) (p : FsPath) : Bool :=
  match h.stat p with
  | .ok _ => true
  | .error e => e.meansAbsent

theorem settles_iff {p : FsPath} :
    settles h p = true ↔ ∀ e, h.stat p = .error e → e.meansAbsent = true := by
  unfold settles
  cases h.stat p with
  | ok n => simp
  | error e => simp

/-- With patterns for names alone, a directory that can be looked at can disturb the search only
when it is listed, if looking at the given names and at the entries is settled. -/
theorem fails_of_names
    (hnames : ∀ text ∈ patterns, ∃ segment, segment ≠ .recursive ∧
      Pattern.parse text = .ok ⟨[segment], false⟩)
    {n : Node} (hdir : h.stat dir = .ok n)
    (hgiven : ∀ name, (∃ text ∈ patterns, Pattern.parse text = .ok ⟨[.exact name], false⟩) →
      settles h (dir.child name) = true)
    (hlisted : ∀ entries, h.scandir dir = .ok entries → ∀ entry ∈ entries,
      settles h (dir.child entry.1) = true)
    {text : String} (htext : text ∈ patterns) (hparse : Pattern.parse text = .ok pattern)
    {e : Failure} (hinquires : Inquires h pattern dir inquiry) (hfails : h.Fails inquiry e)
    (hlist : inquiry ≠ .list dir) : e.meansAbsent = true ∧ ∀ p, inquiry ≠ .list p := by
  obtain ⟨segment, hsegment, hparse'⟩ := hnames text htext
  obtain rfl := Except.ok.inj (hparse'.symm.trans hparse)
  rcases hinquires.of_name hsegment with rfl | rfl | ⟨name, rfl, rfl | ⟨entries, n', hok, hentry⟩⟩
  · cases hdir.symm.trans hfails
  · exact absurd rfl hlist
  · exact ⟨settles_iff.1 (hgiven name ⟨text, htext, hparse⟩) e hfails, nofun⟩
  · exact ⟨settles_iff.1 (hlisted entries hok _ hentry) e hfails, nofun⟩

/-- A name and a pattern that matches it. -/
def namePatterns : List String := ["b.uproject", "*.uproject"]

theorem namePatterns_parse : ∀ text ∈ namePatterns, ∃ segment, segment ≠ .recursive ∧
    Pattern.parse text = .ok ⟨[segment], false⟩ :=
  List.forall_mem_cons.2 ⟨⟨.exact "b.uproject", nofun, rfl⟩,
    List.forall_mem_singleton.2 ⟨.wild (glyphs "*.uproject"), nofun, rfl⟩⟩

theorem namePatterns_accepted : Accepted namePatterns := fun text htext =>
  (namePatterns_parse text htext).elim fun _ hsegment => ⟨_, hsegment.2⟩

theorem eq_of_namePatterns {name : String} (hgiven : ∃ text ∈ namePatterns,
    Pattern.parse text = .ok ⟨[.exact name], false⟩) : name = "b.uproject" := by
  have hname : Pattern.parse "b.uproject" = .ok ⟨[.exact "b.uproject"], false⟩ := rfl
  have hwild : Pattern.parse "*.uproject" = .ok ⟨[.wild (glyphs "*.uproject")], false⟩ := rfl
  obtain ⟨text, htext, hexact⟩ := hgiven
  rcases List.mem_cons.1 htext with rfl | htext
  · have hsame := Except.ok.inj (hexact.symm.trans hname)
    exact Segment.exact.inj (List.cons.inj (Pattern.mk.inj hsame).1).1
  · rw [List.mem_singleton.1 htext] at hexact
    cases hexact.symm.trans hwild

/-! ### Independence -/

section Reordered

variable (hr : h.Reordered h') (hdisk : h.disk.Sound)

include hr hdisk

theorem Inquires.reordered (hinquires : Inquires h pattern dir inquiry) :
    Inquires h' pattern dir inquiry := by
  have hdir' : (∃ n, h.stat dir = .ok n ∧ n.isDir = true) →
      ∃ n, h'.stat dir = .ok n ∧ n.isDir = true := by rw [hr.stat_eq hdisk]; exact id
  cases hinquires with
  | directory => exact .directory
  | selecting hdir hasks => exact .selecting (hdir' hdir) (hr.asks hdisk hasks)
  | selected hdir hselects => exact .selected (hdir' hdir) (hr.selects hdisk hselects)

theorem Unlisted.reordered (htexts : ∀ text ∈ patterns, text ∈ patterns')
    (hunlisted : Unlisted h patterns dir) : Unlisted h' patterns' dir := by
  obtain ⟨⟨e, hlist, habsent⟩, text, htext, pattern, hparse, hinquires⟩ := hunlisted
  exact ⟨⟨e, hr.scandir_error hdisk hlist, habsent⟩, text, htexts text htext, pattern, hparse,
    hinquires.reordered hr hdisk⟩

theorem Quiet.reordered (htexts : ∀ text ∈ patterns', text ∈ patterns)
    (hquiet : Quiet h patterns dir) : Quiet h' patterns' dir := by
  intro text htext pattern hparse inquiry e hinquires hfails
  have hdisk' := hr.disk_sound hdisk
  exact hquiet text (htexts text htext) pattern hparse inquiry e
    (hinquires.reordered hr.symm hdisk') (hr.symm.fails hdisk' hfails)

theorem Matched.reordered (htexts : ∀ text ∈ patterns, text ∈ patterns')
    (hmatched : Matched h patterns dir file) : Matched h' patterns' dir file := by
  obtain ⟨text, htext, pattern, hparse, hdir, hselects, hfile⟩ := hmatched
  refine ⟨text, htexts text htext, pattern, hparse, ?_, hr.selects hdisk hselects, ?_⟩
  · rwa [hr.stat_eq hdisk]
  · rwa [hr.stat_eq hdisk]

/-- Neither the order of listings nor that of the patterns decides what a directory holds. -/
theorem holds_reordered (htexts : ∀ text, text ∈ patterns' ↔ text ∈ patterns) :
    Holds h' patterns' dir file ↔ Holds h patterns dir file := by
  have hdisk' := hr.disk_sound hdisk
  refine and_congr (not_congr ⟨?_, ?_⟩) ⟨?_, ?_⟩
  · exact Unlisted.reordered hr.symm hdisk' fun text => (htexts text).1
  · exact Unlisted.reordered hr hdisk fun text => (htexts text).2
  · exact Matched.reordered hr.symm hdisk' fun text => (htexts text).1
  · exact Matched.reordered hr hdisk fun text => (htexts text).2

end Reordered

/-! ### What a search comes to -/

/-- No directory on the way up from a real path to this one holds a manifest. -/
def Reaches (h : Host) (patterns : List String) (real dir : FsPath) : Prop :=
  ReachedIn h patterns real.chain dir

/-- The nearest manifest wins, and nothing else decides. -/
structure Nearest (h : Host) (patterns : List String) (start real : FsPath) : Prop where
  /-- The search comes to an end. -/
  ends : ∃ found, (search h patterns start).outcome = .ok found
  /-- There is no project if no directory on the way up holds a manifest. -/
  none_iff : (search h patterns start).outcome = .ok none ↔
    ∀ dir ∈ real.chain, ∀ file, ¬Holds h patterns dir file
  /-- Else the first one that does holds the manifest, none of its others is less, and the root of
  the project is the parent of the manifest. -/
  some_iff : ∀ project : Project, (search h patterns start).outcome = .ok (some project) ↔
    ∃ dir, Reaches h patterns real dir ∧ LeastHeld h patterns dir project.manifest ∧
      project.root = project.manifest.parent
  /-- A manifest is a regular file and no directory. -/
  file : ∀ project : Project, (search h patterns start).outcome = .ok (some project) →
    ∃ n, h.stat project.manifest = .ok n ∧ n.isFile = true ∧ n.isDir = false
  /-- With patterns for names alone, the root is the directory that holds the manifest. -/
  direct : (∀ text ∈ patterns, '/' ∉ text.toList ∧ ¬['*', '*'] <:+: text.toList) →
    ∀ project : Project, (search h patterns start).outcome = .ok (some project) →
      Reaches h patterns real project.root ∧
        LeastHeld h patterns project.root project.manifest
  /-- The order of listings, the order of the patterns and repeated patterns do not matter. -/
  indifferent : ∀ h' patterns', h.Reordered h' → (∀ text, text ∈ patterns' ↔ text ∈ patterns) →
    (search h' patterns' start).outcome = (search h patterns start).outcome

section Search

variable (hdisk : h.disk.Sound) (hresolve : h.resolve start = .ok real)
  (hpatterns : Accepted patterns)
  (hcalls : ∀ dir, Reaches h patterns real dir → Unlisted h patterns dir ∨ Quiet h patterns dir)

include hdisk hresolve hpatterns hcalls

theorem search_eq_none_iff : (search h patterns start).outcome = .ok none ↔
    ∀ dir ∈ real.chain, ∀ file, ¬Holds h patterns dir file :=
  (search_eq_ok hresolve).trans (firstOf_nearest hdisk hpatterns hcalls).1

theorem search_eq_some_iff (project : Project) :
    (search h patterns start).outcome = .ok (some project) ↔
      ∃ dir, Reaches h patterns real dir ∧ LeastHeld h patterns dir project.manifest ∧
        project.root = project.manifest.parent := by
  rw [search_eq_ok hresolve, (firstOf_nearest hdisk hpatterns hcalls).2 project]
  refine exists_congr fun dir => and_congr_right fun _ => and_congr_right fun _ => ?_
  obtain ⟨root, manifest⟩ := project
  rw [ofManifest, Project.mk.injEq, eq_self_iff_true, and_true, eq_comm]

/-- On a host that lists in another order, and with the same patterns in another order, the search
comes to the same. -/
theorem search_reordered (hr : h.Reordered h')
    (htexts : ∀ text, text ∈ patterns' ↔ text ∈ patterns) :
    (search h' patterns' start).outcome = (search h patterns start).outcome := by
  -- Both searches come to what the directories hold, and these hold the same.
  have hholds : Holds h' patterns' = Holds h patterns :=
    funext fun dir => funext fun file => propext (holds_reordered hr hdisk htexts)
  have hreaches : Reaches h' patterns' = Reaches h patterns := by
    unfold Reaches ReachedIn
    rw [hholds]
  have hheld : ∀ dir file, LeastHeld h' patterns' dir file ↔ LeastHeld h patterns dir file := by
    intro dir file
    constructor
    · exact fun ⟨hfile, hall⟩ => ⟨hholds ▸ hfile, hholds ▸ hall⟩
    · exact fun ⟨hfile, hall⟩ => ⟨hholds ▸ hfile, hholds ▸ hall⟩
  have hresolve' : h'.resolve start = .ok real := (hr.resolve_eq hdisk start).trans hresolve
  have hpatterns' : Accepted patterns' := fun text htext => hpatterns text ((htexts text).1 htext)
  have hcalls' : ∀ dir, Reaches h' patterns' real dir →
      Unlisted h' patterns' dir ∨ Quiet h' patterns' dir := by
    intro dir hreached
    rw [hreaches] at hreached
    refine (hcalls dir hreached).imp ?_ ?_
    · exact Unlisted.reordered hr hdisk fun text => (htexts text).2
    · exact Quiet.reordered hr hdisk fun text => (htexts text).1
  -- One of the two comes to an end, and the other one then has to end alike.
  obtain ⟨found, hfound⟩ := exists_firstOf h real.chain hpatterns
  have houtcome := (search_eq_ok hresolve).2 hfound
  rw [houtcome]
  cases found with
  | none =>
    rw [search_eq_none_iff (hr.disk_sound hdisk) hresolve' hpatterns' hcalls', hholds]
    exact (search_eq_none_iff hdisk hresolve hpatterns hcalls).1 houtcome
  | some project =>
    rw [search_eq_some_iff (hr.disk_sound hdisk) hresolve' hpatterns' hcalls', hreaches]
    simp only [hheld]
    exact (search_eq_some_iff hdisk hresolve hpatterns hcalls project).1 houtcome

end Search

/-- A host with a directory behind a link that holds two manifests and a directory named like one,
and with a manifest above it. -/
def crowded : Host where
  disk := ⟨[(["o.uproject"], .file (.bytes []) 0o644), (["l"], .link "/w"), (["w"], .dir 0o755),
    (["w", "b.uproject"], .file (.bytes []) 0o644), (["w", "0.uproject"], .dir 0o755),
    (["w", "a.uproject"], .file (.bytes []) 0o644)]⟩
  faults := []
  cwd := some "/l"
  env := []
  uid := 0
  platform := "linux"
  pid := 1

/-- A host whose working directory can be looked at with all that is in it, and is absent when it is
to be listed. -/
def absentee : Host where
  disk := ⟨[(["w"], .dir 0o755), (["w", "b.uproject"], .file (.bytes []) 0o644)]⟩
  faults := [⟨.scandir, "/w", Errno.noEntry⟩]
  cwd := some "/w"
  env := []
  uid := 0
  platform := "linux"
  pid := 1

end IndexSync.Project
