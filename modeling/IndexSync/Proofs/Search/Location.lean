import IndexSync.Proofs.Search.Manifests

/-!
# Where projects are found

Where the project that a search comes to lies, seen from the directories that the search passes. A
failed call in a directory can make the search come to a project further out, and a pattern with
several segments to one further in.

* `FsPath.mem_chain`, `FsPath.mem_ancestors` — the directories from a path up to its anchor;
* `Project.Misses` — a search comes to no project, or to one outside of a directory;
* `Project.misses_iff` — which failures make it miss a directory with a manifest;
* `Project.search_root` — the root of a project, and when the search starts inside of it.
-/

namespace IndexSync

namespace FsPath

variable {p q : FsPath}

theorem mem_ancestors : q ∈ p.ancestors ↔
    q.anchor = p.anchor ∧ q.names <+: p.names ∧ q.names.length < p.names.length := by
  unfold ancestors properPrefixes
  rw [List.map_map, List.mem_map]
  simp only [List.mem_reverse, List.mem_range, Function.comp_apply]
  constructor
  · rintro ⟨n, hn, rfl⟩
    refine ⟨rfl, List.take_prefix n p.names, ?_⟩
    rw [List.length_take]
    omega
  · rintro ⟨hanchor, hprefix, hlength⟩
    refine ⟨q.names.length, hlength, ?_⟩
    rw [← List.prefix_iff_eq_take.1 hprefix, ← hanchor]

/-- The directories from a path up are those that its names begin with. -/
theorem mem_chain : q ∈ p.chain ↔ q.anchor = p.anchor ∧ q.names <+: p.names := by
  rw [chain, List.mem_cons, mem_ancestors]
  constructor
  · rintro (rfl | ⟨hanchor, hprefix, -⟩)
    · exact ⟨rfl, List.prefix_refl _⟩
    · exact ⟨hanchor, hprefix⟩
  · rintro ⟨hanchor, hprefix⟩
    rcases hprefix.length_le.eq_or_lt with hlength | hlength
    · refine Or.inl ?_
      obtain ⟨anchor, names⟩ := q
      obtain rfl : anchor = p.anchor := hanchor
      obtain rfl : names = p.names := hprefix.eq_of_length hlength
      rfl
    · exact Or.inr ⟨hanchor, hprefix, hlength⟩

/-- Names get fewer on the way up. -/
theorem chain_pairwise (p : FsPath) :
    p.chain.Pairwise fun q r => r.names.length < q.names.length := by
  rw [chain, List.pairwise_cons]
  refine ⟨fun q hq => (mem_ancestors.1 hq).2.2, ?_⟩
  unfold ancestors properPrefixes
  rw [List.map_map, List.pairwise_map, List.pairwise_reverse]
  refine List.pairwise_lt_range.imp_of_mem fun {m n} hm hn hless => ?_
  rw [List.mem_range] at hm hn
  simp only [Function.comp_apply, List.length_take]
  omega

variable {before after : List FsPath} {dir other : FsPath}

/-- What comes before a directory on the way up is further in. -/
theorem length_lt_of_chain (hchain : p.chain = before ++ dir :: after) (hother : other ∈ before) :
    dir.names.length < other.names.length := by
  have hpairwise := chain_pairwise p
  rw [hchain, List.pairwise_append] at hpairwise
  exact hpairwise.2.2 other hother dir List.mem_cons_self

/-- What comes after a directory on the way up are its ancestors. -/
theorem mem_after_of_chain (hchain : p.chain = before ++ dir :: after) :
    other ∈ after ↔ other ∈ p.chain ∧ other ∈ dir.ancestors := by
  -- The paths of the way up get shorter, and each is the start of those before it.
  have hpairwise := chain_pairwise p
  rw [hchain, List.pairwise_append, List.pairwise_cons] at hpairwise
  have hafter := hpairwise.2.1.1
  have hdir : dir ∈ p.chain := hchain ▸ List.mem_append_right _ List.mem_cons_self
  constructor
  · intro hother
    have hmem : other ∈ p.chain :=
      hchain ▸ List.mem_append_right _ (List.mem_cons_of_mem _ hother)
    obtain ⟨hanchor, hprefix⟩ := mem_chain.1 hmem
    obtain ⟨hanchor', hprefix'⟩ := mem_chain.1 hdir
    have hless := hafter other hother
    exact ⟨hmem, mem_ancestors.2 ⟨hanchor.trans hanchor'.symm,
      List.prefix_of_prefix_length_le hprefix hprefix' hless.le, hless⟩⟩
  · rintro ⟨hmem, hancestor⟩
    have hless := (mem_ancestors.1 hancestor).2.2
    rw [hchain, List.mem_append, List.mem_cons] at hmem
    rcases hmem with hmem | rfl | hmem
    · have hmore := length_lt_of_chain hchain hmem
      omega
    · omega
    · exact hmem

end FsPath

namespace Project

variable {h : Host} {patterns : List String} {start real dir file : FsPath} {pattern : Pattern}
  {project : Project}

/-- What a directory shows is a file that a pattern matches. -/
theorem matched_of_manifestIn (hdisk : h.disk.Sound)
    (hfound : manifestIn .ample h patterns dir = .ok (some file)) : Matched h patterns dir file :=
  (least_of_manifestIn hdisk hfound).2.2.matched

/-- Below a directory, its own path and all nested directories are selected by `**`, so that it
matches no files. -/
theorem Matches.ne_recursive (hdisk : h.disk.Sound) (hmatches : Matches h pattern dir file) :
    pattern.segments ≠ [.recursive] := by
  intro hsegments
  obtain ⟨⟨n, hdir, hisDir⟩, hselects, ⟨m, hfile, hisFile⟩⟩ := hmatches
  rw [hsegments, Host.selects_recursive] at hselects
  obtain ⟨_, hnested, hrest⟩ := hselects
  cases hrest with
  | done =>
    have hm := hnested.isDir hdisk (fun n' hn' => by
      rwa [← Except.ok.inj (hdir.symm.trans hn')]) hfile
    cases m with
    | dir mode => cases hisFile
    | _ => cases hm

/-- A matched file is below the directory, and in the directory itself if the pattern has one
segment. -/
theorem Matches.parent_eq (hdisk : h.disk.Sound) (hmatches : Matches h pattern dir file) :
    ∃ below, file.parent = { dir with names := dir.names ++ below } ∧
      ∀ segment, pattern.segments = [segment] → below = [] := by
  obtain ⟨names, hnames⟩ := hmatches.selected.exists_names
  -- The directory itself may be selected, but is no file.
  have hsome : names ≠ [] := by
    rintro rfl
    rw [List.append_nil] at hnames
    obtain ⟨n, hdir, hisDir⟩ := hmatches.isDir
    obtain ⟨m, hfile, hisFile⟩ := hmatches.isFile
    rw [hnames] at hfile
    obtain rfl := Except.ok.inj (hdir.symm.trans hfile)
    cases n with
    | dir mode => cases hisFile
    | _ => cases hisDir
  have hparent : file.parent = { dir with names := dir.names ++ names.dropLast } := by
    rw [hnames, FsPath.parent, List.dropLast_append_of_ne_nil hsome]
  refine ⟨names.dropLast, hparent, fun segment hsegments => ?_⟩
  have hsegment : segment ≠ .recursive := by
    rintro rfl
    exact hmatches.ne_recursive hdisk hsegments
  have hselects := hmatches.selected
  rw [hsegments] at hselects
  have hsame := (FsPath.mk.inj (hparent.symm.trans (hselects.parent_eq hsegment))).2
  exact List.append_right_eq_self.1 hsame

/-! ### Projects that are missed -/

/-- All patterns have one segment. -/
def SingleSegments (patterns : List String) : Prop :=
  ∀ text ∈ patterns, ∃ pattern segment, Pattern.parse text = .ok pattern ∧
    pattern.segments = [segment]

/-- A search misses a directory: it comes to no project, or to one strictly above. -/
def Misses (h : Host) (patterns : List String) (start dir : FsPath) : Prop :=
  (search h patterns start).outcome = .ok none ∨
    ∃ project, (search h patterns start).outcome = .ok (some project) ∧
      project.root ∈ dir.ancestors

/-- A directory can be listed, and a regular file that a pattern selects in it can be looked at. -/
def Offers (h : Host) (patterns : List String) (dir : FsPath) : Prop :=
  (∃ entries, h.scandir dir = .ok entries) ∧
    ∃ text ∈ patterns, ∃ pattern file n, Pattern.parse text = .ok pattern ∧
      h.Selects pattern.directory pattern.segments dir file ∧ h.stat file = .ok n ∧
      n.isFile = true

theorem SingleSegments.accepted (hsingle : SingleSegments patterns) : Accepted patterns :=
  fun text htext => (hsingle text htext).imp fun _ ⟨_, hparse, _⟩ => hparse

/-- With patterns of one segment, a manifest is in the directory that shows it. -/
theorem SingleSegments.parent_eq (hdisk : h.disk.Sound) (hsingle : SingleSegments patterns)
    (hmatched : Matched h patterns dir file) : file.parent = dir := by
  obtain ⟨text, htext, pattern, hparse, hmatches⟩ := hmatched
  obtain ⟨pattern', segment, hparse', hsegments⟩ := hsingle text htext
  obtain rfl := Except.ok.inj (hparse'.symm.trans hparse)
  obtain ⟨below, hparent, hbelow⟩ := hmatches.parent_eq hdisk
  rw [hparent, hbelow segment hsegments, List.append_nil]

/-- A directory that offers a manifest shows none exactly if it cannot be looked at or its manifests
are hidden. -/
theorem Offers.bare_iff (hoffers : Offers h patterns dir) :
    Bare h patterns dir ↔ (∃ e, h.stat dir = .error e) ∨ Hidden h patterns dir := by
  obtain ⟨⟨entries, hlist⟩, text, htext, pattern, file, n, hparse, hselects, hstat, hisFile⟩ :=
    hoffers
  obtain ⟨place, m, hlocate, hisDir, -⟩ := Host.scandir_eq_ok hlist
  constructor
  · rintro (hhidden | hnone)
    · exact Or.inr hhidden
    · cases hdir : h.stat dir with
      | error e => exact Or.inl ⟨e, rfl⟩
      | ok m' =>
        -- What was listed and looked at is the same directory.
        obtain ⟨place', hlocate'⟩ := Host.locate_of_stat hdir
        obtain ⟨-, rfl⟩ := Prod.mk.inj (Except.ok.inj (hlocate.symm.trans hlocate'))
        exact absurd ⟨text, htext, pattern, hparse, ⟨m, hdir, hisDir⟩, hselects, n, hstat, hisFile⟩
          (hnone file)
  · rintro (⟨e, hdir⟩ | hhidden)
    · refine Or.inr ?_
      rintro file ⟨_, _, _, _, hmatches⟩
      obtain ⟨m', hdir', -⟩ := hmatches.isDir
      cases hdir.symm.trans hdir'
    · exact Or.inl hhidden

section Missed

variable {before after : List FsPath} (hdisk : h.disk.Sound) (hresolve : h.resolve start = .ok real)
  (hsingle : SingleSegments patterns) (hchain : real.chain = before ++ dir :: after)

include hdisk hresolve hsingle hchain

/-- A directory that is missed shows no manifest, and neither does any nearer one. -/
theorem bare_of_misses (hmisses : Misses h patterns start dir) :
    (∀ nearer ∈ before, Bare h patterns nearer) ∧ Bare h patterns dir := by
  have hbare : ∀ d, manifestIn .ample h patterns d = .ok none ↔ Bare h patterns d :=
    fun d => manifestIn_eq_none_iff hdisk hsingle.accepted not_exceeds_ample
  unfold Misses at hmisses
  simp only [search_eq_ok hresolve] at hmisses
  rcases hmisses with hnone | ⟨project, hsome, habove⟩
  · -- No directory of the way up has shown a manifest.
    have hall := firstOf_eq_none_iff.1 hnone
    rw [hchain] at hall
    exact ⟨fun nearer hnearer => (hbare nearer).1 (hall nearer (List.mem_append_left _ hnearer)),
      (hbare dir).1 (hall dir (List.mem_append_right _ List.mem_cons_self))⟩
  · obtain ⟨before', dir', after', hchain', hbefore', manifest, hfound, rfl⟩ :=
      firstOf_eq_some_iff.1 hsome
    have hroot : manifest.parent = dir' :=
      hsingle.parent_eq hdisk (matched_of_manifestIn hdisk hfound)
    -- The directory of the project is above this one, which has been passed before.
    have hdir' : dir' ∈ dir.ancestors := hroot ▸ habove
    have hless := (FsPath.mem_ancestors.1 hdir').2.2
    have hpassed : ∀ nearer ∈ real.chain, dir.names.length ≤ nearer.names.length →
        manifestIn .ample h patterns nearer = .ok none := by
      intro nearer hnearer hlength
      rw [hchain', List.mem_append, List.mem_cons] at hnearer
      rcases hnearer with hnearer | rfl | hnearer
      · exact hbefore' nearer hnearer
      · omega
      · have hafter := ((FsPath.mem_after_of_chain hchain').1 hnearer).2
        have hmore := (FsPath.mem_ancestors.1 hafter).2.2
        omega
    rw [hchain] at hpassed
    refine ⟨fun nearer hnearer => (hbare nearer).1 ?_, (hbare dir).1 ?_⟩
    · exact hpassed nearer (List.mem_append_left _ hnearer)
        (FsPath.length_lt_of_chain hchain hnearer).le
    · exact hpassed dir (List.mem_append_right _ List.mem_cons_self) le_rfl

/-- Where neither a directory nor a nearer one shows a manifest, the directory is missed. -/
theorem misses_of_bare (hbefore : ∀ nearer ∈ before, Bare h patterns nearer)
    (hdir : Bare h patterns dir) : Misses h patterns start dir := by
  unfold Misses
  simp only [search_eq_ok hresolve]
  obtain ⟨found, hfound⟩ := exists_firstOf h real.chain hsingle.accepted
  cases found with
  | none => exact Or.inl hfound
  | some project =>
    refine Or.inr ⟨project, hfound, ?_⟩
    obtain ⟨before', dir', after', hchain', -, manifest, hshown, rfl⟩ :=
      firstOf_eq_some_iff.1 hfound
    have hroot : (ofManifest manifest).root = dir' :=
      hsingle.parent_eq hdisk (matched_of_manifestIn hdisk hshown)
    have hmem : dir' ∈ before ++ dir :: after := by
      rw [← hchain, hchain']
      exact List.mem_append_right _ List.mem_cons_self
    -- The directory that wins is none of those that show nothing, so that it comes after them.
    have hnot : ∀ d, Bare h patterns d → d ≠ dir' := by
      rintro d hd rfl
      cases hshown.symm.trans
        ((manifestIn_eq_none_iff hdisk hsingle.accepted not_exceeds_ample).2 hd)
    rcases List.mem_append.1 hmem with hmem | hmem
    · exact absurd rfl (hnot dir' (hbefore dir' hmem))
    · rcases List.mem_cons.1 hmem with rfl | hmem
      · exact absurd rfl (hnot dir' hdir)
      · rw [hroot]
        exact ((FsPath.mem_after_of_chain hchain).1 hmem).2

end Missed

/-- The search misses a directory that offers a manifest exactly if no nearer directory shows one
and if the directory itself cannot be looked at or a failed call hides its manifests: a failure at
any path that a pattern selects, or while one is matched, is enough, whatever was found before. -/
theorem misses_iff {before after : List FsPath} (hdisk : h.disk.Sound)
    (hresolve : h.resolve start = .ok real) (hsingle : SingleSegments patterns)
    (hchain : real.chain = before ++ dir :: after) (hoffers : Offers h patterns dir) :
    Misses h patterns start dir ↔ (∀ nearer ∈ before, Bare h patterns nearer) ∧
      ((∃ e, h.stat dir = .error e) ∨ Hidden h patterns dir) := by
  rw [← hoffers.bare_iff]
  constructor
  · exact bare_of_misses hdisk hresolve hsingle hchain
  · rintro ⟨hbefore, hdir⟩
    exact misses_of_bare hdisk hresolve hsingle hchain hbefore hdir

/-- A host with a directory of two manifests, one of which may not be looked at, and with a manifest
above. -/
def denied : Host where
  disk := ⟨[(["o.uproject"], .file (.bytes []) 0o644), (["w"], .dir 0o755),
    (["w", "a.uproject"], .file (.bytes []) 0o644), (["w", "b.uproject"], .file (.bytes []) 0o644)]⟩
  faults := [⟨.stat, "/w/b.uproject", Errno.accessDenied⟩]
  cwd := some "/w"
  env := []
  uid := 0
  platform := "linux"
  pid := 1

theorem misses_iff_denied :
    denied.disk.Sound ∧ denied.resolve ⟨.root, ["w"]⟩ = .ok ⟨.root, ["w"]⟩ ∧
      SingleSegments ["*.uproject"] ∧
      (FsPath.mk .root ["w"]).chain = [] ++ ⟨.root, ["w"]⟩ :: [⟨.root, []⟩] ∧
      Offers denied ["*.uproject"] ⟨.root, ["w"]⟩ ∧
      (Misses denied ["*.uproject"] ⟨.root, ["w"]⟩ ⟨.root, ["w"]⟩ ↔
        (∀ nearer ∈ [], Bare denied ["*.uproject"] nearer) ∧
          ((∃ e, denied.stat ⟨.root, ["w"]⟩ = .error e) ∨
            Hidden denied ["*.uproject"] ⟨.root, ["w"]⟩)) ∧
      (search denied ["*.uproject"] ⟨.root, ["w"]⟩).outcome.toOption =
        some (some ⟨⟨.root, []⟩, ⟨.root, ["o.uproject"]⟩⟩) := by
  have hdisk : denied.disk.Sound := ⟨by decide, by decide⟩
  have hresolve : denied.resolve ⟨.root, ["w"]⟩ = .ok ⟨.root, ["w"]⟩ := by rfl
  have hparse : Pattern.parse "*.uproject" = .ok ⟨[.wild (glyphs "*.uproject")], false⟩ := by rfl
  have hsingle : SingleSegments ["*.uproject"] :=
    List.forall_mem_singleton.2 ⟨_, _, hparse, rfl⟩
  have hlist : denied.scandir ⟨.root, ["w"]⟩ = .ok [("a.uproject", .file (.bytes []) 0o644),
      ("b.uproject", .file (.bytes []) 0o644)] := by rfl
  have hoffers : Offers denied ["*.uproject"] ⟨.root, ["w"]⟩ :=
    ⟨⟨_, hlist⟩, "*.uproject", List.mem_cons_self, _, ⟨.root, ["w", "a.uproject"]⟩,
      .file (.bytes []) 0o644, hparse,
      .wild hlist List.mem_cons_self (by decide +kernel) (by simp) .done, rfl, rfl⟩
  exact ⟨hdisk, hresolve, hsingle, rfl, hoffers,
    misses_iff hdisk hresolve hsingle rfl hoffers, by decide +kernel⟩

/-! ### Roots of projects -/

/-- The root of a project is a directory on the way up from the resolved start, or lies below one:
in the directory itself only if the pattern leads no further. It is on the way up exactly if the way
down to the manifest goes back the way that the search has come. -/
theorem search_root (hdisk : h.disk.Sound)
    (hfound : (search h patterns start).outcome = .ok (some project)) :
    ∃ real dir below, h.resolve start = .ok real ∧ dir ∈ real.chain ∧
      project.root = { dir with names := dir.names ++ below } ∧
      (∃ text ∈ patterns, ∃ pattern, Pattern.parse text = .ok pattern ∧
        Matches h pattern dir project.manifest ∧
        ∀ segment, pattern.segments = [segment] → below = []) ∧
      (project.root ∈ real.chain ↔ dir.names ++ below <+: real.names) := by
  cases hresolve : h.resolve start with
  | error e =>
    have hstop : h.resolveWithin Stack.ample.links start = .error e := hresolve
    rw [search, find, hstop] at hfound
    cases e with
    | nullByte => cases hfound
    | _ => cases Except.ok.inj hfound
  | ok real =>
    obtain ⟨before, dir, after, hchain, -, manifest, hshown, rfl⟩ :=
      firstOf_eq_some_iff.1 ((search_eq_ok hresolve).1 hfound)
    obtain ⟨text, htext, pattern, hparse, hmatches⟩ := matched_of_manifestIn hdisk hshown
    obtain ⟨below, hparent, hbelow⟩ := hmatches.parent_eq hdisk
    have hmem : dir ∈ real.chain := hchain ▸ List.mem_append_right _ List.mem_cons_self
    have hroot : (ofManifest manifest).root = { dir with names := dir.names ++ below } := hparent
    refine ⟨real, dir, below, rfl, hmem, hroot,
      ⟨text, htext, pattern, hparse, hmatches, hbelow⟩, ?_⟩
    rw [hroot, FsPath.mem_chain]
    exact and_iff_right (FsPath.mem_chain.1 hmem).1

/-- A host with a manifest below the directory that is searched. -/
def offshoot : Host where
  disk := ⟨[(["w"], .dir 0o755), (["w", "sub"], .dir 0o755),
    (["w", "sub", "a.uproject"], .file (.bytes []) 0o644)]⟩
  faults := []
  cwd := some "/w"
  env := []
  uid := 0
  platform := "linux"
  pid := 1

/-- A search can come to a project that its start is outside of. -/
theorem search_root_offshoot :
    let project : Project := ⟨⟨.root, ["w", "sub"]⟩, ⟨.root, ["w", "sub", "a.uproject"]⟩⟩
    offshoot.disk.Sound ∧
      (search offshoot ["sub/*.uproject"] ⟨.root, ["w"]⟩).outcome = .ok (some project) ∧
      (∃ real dir below, offshoot.resolve ⟨.root, ["w"]⟩ = .ok real ∧ dir ∈ real.chain ∧
        project.root = { dir with names := dir.names ++ below } ∧
        (∃ text ∈ ["sub/*.uproject"], ∃ pattern, Pattern.parse text = .ok pattern ∧
          Matches offshoot pattern dir project.manifest ∧
          ∀ segment, pattern.segments = [segment] → below = []) ∧
        (project.root ∈ real.chain ↔ dir.names ++ below <+: real.names)) ∧
      offshoot.resolve ⟨.root, ["w"]⟩ = .ok ⟨.root, ["w"]⟩ ∧
      project.root ∉ (FsPath.mk .root ["w"]).chain := by
  intro project
  have hdisk : offshoot.disk.Sound := ⟨by decide, by decide⟩
  have htold : (search offshoot ["sub/*.uproject"] ⟨.root, ["w"]⟩).outcome.toOption =
      some (some project) := by decide +kernel
  have hfound : (search offshoot ["sub/*.uproject"] ⟨.root, ["w"]⟩).outcome =
      .ok (some project) := by
    generalize (search offshoot ["sub/*.uproject"] ⟨.root, ["w"]⟩).outcome = outcome at htold ⊢
    cases outcome with
    | error e => cases htold
    | ok found => exact congrArg _ (Option.some.inj htold)
  exact ⟨hdisk, hfound, search_root hdisk hfound, by rfl, by decide⟩

end Project

end IndexSync
