import IndexSync.Proofs.Search.Links
import IndexSync.Proofs.Search.Location
import Mathlib.Data.List.TakeWhile

/-!
# Searches that end with an answer

A search for a project ends with an answer on every host, whatever links there are and whichever
calls fail: a project with an absolute root, or none. System calls that fail on the way are passed
over. Two things are not: an exhausted stack, and half of a surrogate pair in the start, which no
call takes.

* `Pattern.exists_parse_iff` — the manifest patterns that can be used;
* `Host.Regular.confines`, `Project.filesMatching_failure` — what can fail in a directory;
* `Host.walk_bounded`, `Host.not_deep` — a stack with room for all nodes of the disk makes no
  difference to a walk;
* `Project.findAt_codePoints` — a start that is a text is searched from as it is;
* `Project.findAt_cases` — how the end of a search depends on its start;
* `Project.firstOf_cut` — what an exhausted stack changes on the way up;
* `Project.search_answers` — every search ends, and what it comes to.
-/

namespace IndexSync

/-! ### Patterns that can be used -/

theorem hasDoubleStar_iff {cs : List Char} : hasDoubleStar cs = true ↔ ['*', '*'] <:+: cs := by
  induction cs with
  | nil => simp [hasDoubleStar]
  | cons c rest ih =>
    cases rest with
    | nil => simp [hasDoubleStar, List.infix_cons_iff]
    | cons d rest =>
      have hfirst : ['*', '*'] <+: c :: d :: rest ↔ c = '*' ∧ d = '*' := by
        rw [List.cons_prefix_cons, List.cons_prefix_cons, and_iff_left List.nil_prefix,
          eq_comm (b := c), eq_comm (b := d)]
      rw [hasDoubleStar, Bool.or_eq_true, Bool.and_eq_true, beq_iff_eq, beq_iff_eq, ← hfirst, ih]
      exact List.infix_cons_iff.symm

/-- A part of a pattern can be used unless two stars stand beside something else. -/
theorem Segment.exists_parse_iff {name : String} :
    (∃ segment, Segment.parse name = .ok segment) ↔
      (['*', '*'] <:+: name.toList → name = "**") := by
  rw [Segment.parse, ← hasDoubleStar_iff]
  split_ifs with hrecursive hstars
  · exact iff_of_true ⟨_, rfl⟩ fun _ => hrecursive
  · exact iff_of_false nofun fun hall => hrecursive (hall hstars)
  · exact iff_of_true ⟨_, rfl⟩ fun hall => absurd hall hstars
  · exact iff_of_true ⟨_, rfl⟩ fun hall => absurd hall hstars

namespace Pattern

/-- The text of a manifest pattern that can be used. -/
structure Usable (text : String) : Prop where
  /-- It is relative. -/
  relative : text.toList.head? ≠ some '/'
  /-- It has a part that is neither empty nor `.`. -/
  part : ∃ name ∈ Text.splitText '/' text, name ≠ "" ∧ name ≠ "."
  /-- Two stars side by side are a whole part. -/
  stars : ∀ name ∈ Text.splitText '/' text, ['*', '*'] <:+: name.toList → name = "**"

variable {text : String}

/-- The names of a pattern are its parts but for the empty ones and `.`. -/
theorem mem_names {name : String} : name ∈ (FsPath.parse text).names ↔
    name ∈ Text.splitText '/' text ∧ name ≠ "" ∧ name ≠ "." := by
  rw [FsPath.parse, FsPath.namesOf, Text.splitText, List.mem_map, List.mem_map]
  have hname : ∀ field, FsPath.isName field = true ↔
      String.ofList field ≠ "" ∧ String.ofList field ≠ "." := by
    intro field
    rw [FsPath.isName, Bool.not_eq_true', Bool.or_eq_false_iff, beq_eq_false_iff_ne,
      beq_eq_false_iff_ne, ← String.toList_inj.ne, ← String.toList_inj.ne, String.toList_ofList]
    exact Iff.rfl
  constructor
  · rintro ⟨field, hfield, rfl⟩
    obtain ⟨hmem, hisName⟩ := List.mem_filter.1 hfield
    exact ⟨⟨field, hmem, rfl⟩, (hname field).1 hisName⟩
  · rintro ⟨⟨field, hmem, rfl⟩, hne⟩
    exact ⟨field, List.mem_filter.2 ⟨hmem, (hname field).2 hne⟩, rfl⟩

/-- Parts are read one by one, and all of them have to be usable. -/
theorem exists_mapM_iff {names : List String} :
    (∃ segments, names.mapM Segment.parse = .ok segments) ↔
      ∀ name ∈ names, ['*', '*'] <:+: name.toList → name = "**" := by
  induction names with
  | nil => exact iff_of_true ⟨[], rfl⟩ fun _ hmem => absurd hmem List.not_mem_nil
  | cons name names ih =>
    rw [List.forall_mem_cons, ← ih, ← Segment.exists_parse_iff, List.mapM_cons]
    cases Segment.parse name with
    | error fault => exact iff_of_false nofun fun ⟨⟨_, hok⟩, _⟩ => nomatch hok
    | ok segment =>
      cases names.mapM Segment.parse with
      | error fault => exact iff_of_false nofun fun ⟨_, _, hok⟩ => nomatch hok
      | ok segments => exact iff_of_true ⟨_, rfl⟩ ⟨⟨_, rfl⟩, _, rfl⟩

theorem isAbsolute_parse : (FsPath.parse text).isAbsolute = false ↔
    text.toList.head? ≠ some '/' := by
  rw [FsPath.isAbsolute, FsPath.parse, bne_eq_false_iff_eq]
  refine ⟨fun hrelative hhead => ?_, PathKey.anchorOf_of_head⟩
  obtain ⟨rest, hrest⟩ := List.head?_eq_some_iff.1 hhead
  rw [hrest] at hrelative
  exact PathKey.anchorOf_slash rest hrelative

/-- A pattern is read exactly if it can be used. -/
theorem exists_parse_iff : (∃ pattern, Pattern.parse text = .ok pattern) ↔ Usable text := by
  have hstars : (∀ name ∈ (FsPath.parse text).names, ['*', '*'] <:+: name.toList → name = "**") ↔
      ∀ name ∈ Text.splitText '/' text, ['*', '*'] <:+: name.toList → name = "**" := by
    refine ⟨fun hall name hname hbeside => ?_,
      fun hall name hname => hall name (mem_names.1 hname).1⟩
    -- No stars stand in the parts that are no names.
    refine hall name (mem_names.2 ⟨hname, ?_, ?_⟩) hbeside
    · rintro rfl
      exact absurd hbeside.length_le (by decide)
    · rintro rfl
      exact absurd hbeside.length_le (by decide)
  have hpart : (FsPath.parse text).names ≠ [] ↔
      ∃ name ∈ Text.splitText '/' text, name ≠ "" ∧ name ≠ "." := by
    rw [Ne, List.eq_nil_iff_forall_not_mem, not_forall_not]
    exact exists_congr fun name => mem_names
  rw [Pattern.parse]
  dsimp only
  split_ifs with hempty hroot hnone
  · subst hempty
    exact iff_of_false nofun fun husable => absurd (hpart.2 husable.part) (by decide)
  · refine iff_of_false nofun fun husable => ?_
    rw [isAbsolute_parse.2 husable.relative] at hroot
    cases hroot
  · exact iff_of_false nofun fun husable => hpart.2 husable.part hnone
  · rw [Bool.not_eq_true, isAbsolute_parse] at hroot
    -- What the segments are put into does not matter here.
    have hmap : ∀ {α β : Type} (f : α → β) (e : Except PatternFault α),
        (∃ b, f <$> e = .ok b) ↔ ∃ a, e = .ok a := by
      rintro α β f (fault | a)
      · exact iff_of_false nofun nofun
      · exact iff_of_true ⟨_, rfl⟩ ⟨_, rfl⟩
    refine (hmap _ _).trans (exists_mapM_iff.trans (hstars.trans ?_))
    exact ⟨fun hall => ⟨hroot, hpart.1 hnone, hall⟩, fun husable => husable.stars⟩

end Pattern

/-! ### Failures that end a selection -/

theorem Selection.forEach_congr {α : Type} {f g : α → Selection} {l : List α}
    (hfg : ∀ a ∈ l, f a = g a) : forEach f l = forEach g l := by
  induction l with
  | nil => rfl
  | cons a l ih =>
    obtain ⟨ha, hl⟩ := List.forall_mem_cons.1 hfg
    rw [forEach, forEach, ha, ih hl]

namespace Host

variable {h : Host} {p : FsPath}

theorem nullFree_of_guarded {α : Type} {call : Call} {act : Except Errno α} {a : α}
    (hcall : h.guarded call p act = .ok a) : NullFree p.text := by
  unfold guarded at hcall
  split at hcall
  · cases hcall
  · next hfree => exact fun hmem => hfree (List.contains_iff_mem.2 hmem)

/-- A null character makes a path that does not exist, and no failure. -/
theorem isSystem_of_probe {test : Node → Bool} {e : Failure} (hprobe : h.probe p test = .error e) :
    e.IsSystem := by
  obtain ⟨hstat, habsent⟩ := probe_eq_error.1 hprobe
  rcases eq_of_guarded hstat with rfl | ⟨errno, rfl⟩
  · cases habsent
  · exact ⟨errno, _, rfl⟩

theorem nullFree_of_probe {test : Node → Bool} (hprobe : h.probe p test = .ok true) :
    NullFree p.text := by
  obtain ⟨n, hstat, -⟩ := probe_eq_true.1 hprobe
  exact nullFree_of_guarded hstat

theorem isSystem_of_entryIsDir {n : Node} {e : Failure} (hentry : h.entryIsDir p n = .error e) :
    e.IsSystem := by
  unfold entryIsDir deny at hentry
  split at hentry
  · cases hentry
  · split at hentry
    · cases hentry
    · split at hentry
      · cases hentry
      · exact ⟨_, _, (Except.error.inj hentry).symm⟩
  · cases hentry

/-- The entries of a directory can be passed to the system. -/
theorem nullFree_child (hh : h.Regular) {entries : List (String × Node)}
    (hlist : h.scandir p = .ok entries) {entry : String × Node} (hentry : entry ∈ entries) :
    NullFree (p.child entry.1).text := by
  obtain ⟨place, n, -, -, rfl⟩ := scandir_eq_ok hlist
  have hname : NullFree entry.1 := hh.names (place ++ [entry.1], entry.2)
    (Disk.mem_entries.1 hentry) entry.1 (List.mem_append_right _ (List.mem_singleton_self _))
  by_cases hnames : p.names = []
  · rw [text_child_of_nil hnames]
    refine NullFree.append ?_ hname
    cases p.anchor with
    | _ => decide
  · rw [text_child hnames]
    exact ((nullFree_of_guarded hlist).append (by decide)).append hname

/-- On a host as systems are, paths can be passed to the system, and only system calls fail. -/
theorem Regular.confines (hh : h.Regular) :
    h.Confines (fun p => NullFree p.text) fun e => e.IsSystem ∨ e = .exhausted where
  look _ _ hstat := nullFree_of_guarded hstat
  fails _ e hstat habsent := by
    rcases eq_of_guarded hstat with rfl | ⟨errno, rfl⟩
    · cases habsent
    · exact Or.inl ⟨errno, _, rfl⟩
  child _ _ _ hlist hentry := nullFree_child hh hlist hentry
  list _ _ hp hlist := Or.inl (isSystem_of_guarded hp hlist)
  judge _ _ _ hentry := Or.inl (isSystem_of_entryIsDir hentry)

/-! ### Nested directories -/

/-- A bound on nested directories that leaves room for all nodes below a directory makes no
difference. The induction is on the bound; the number of nodes below the directory, which gets
smaller on the way down, stays below it. -/
theorem directories_covered (hdisk : h.disk.Sound) {edge edge' : FsPath → Selection}
    {depth depth' : Nat} (hdepth : 0 < depth) (hle : depth ≤ depth')
    (hbelow : ∀ place n, h.locate .use p = .ok (place, n) → h.disk.countBelow place < depth) :
    h.directories edge' depth' p = h.directories edge depth p := by
  induction depth generalizing depth' p with
  | zero => exact absurd hdepth (Nat.lt_irrefl 0)
  | succ depth ih =>
    obtain ⟨more, rfl⟩ := Nat.exists_eq_add_of_lt hle
    rw [directories, directories]
    cases hlist : h.scandir p with
    | error e => rfl
    | ok entries =>
      -- Only entries that are directories are gone into, links to directories are not.
      refine congrArg (fun s => (Selection.single p).append (Selection.absorb s))
        (Selection.forEach_congr fun entry hentry => ?_)
      obtain ⟨name, n⟩ := entry
      refine congrArg (Selection.guarded _) ?_
      cases n with
      | dir mode =>
        -- The entry is at a place of its own, with fewer nodes below it.
        obtain ⟨place, n', hlocate, hplace, hchild⟩ := locate_entry hdisk hlist hentry
        have hless := Disk.countBelow_lt hplace
        have hbound := hbelow place n' hlocate
        refine ih (by omega) (by omega) fun place' m hm => ?_
        rw [(hchild place' m hm).1]
        omega
      | _ => rfl

/-- A walk that can go through more directories than the disk has nodes goes through all there
are. -/
theorem walk_bounded (hdisk : h.disk.Sound) (dir : FsPath) {limit : Nat}
    (hlimit : h.disk.nodes.length < limit) : h.walk (some limit) dir = h.walk none dir :=
  directories_covered hdisk (Nat.succ_pos _) hlimit fun place _ _ =>
    Nat.lt_succ_of_le (h.disk.countBelow_le place)

/-- No disk is deeper than it has nodes. -/
theorem not_deep (hdisk : h.disk.Sound) {levels : Option Nat}
    (hlevels : ∀ limit ∈ levels, h.disk.nodes.length < limit) : ¬h.Deep levels p := by
  rintro ⟨limit, hlimit, q, hnested, hlevel⟩
  have hless := hlevels limit hlimit
  have hle := hnested.length_le hdisk
  omega

end Host

/-! ### Starts -/

namespace Text.CodePoints

variable {codes : CodePoints}

/-- Code points of a path: none is the null character, and none stands for a byte that is no part of
a character. -/
def Pathlike (codes : CodePoints) : Prop :=
  ∀ n ∈ codes, n ≠ 0 ∧ n < 0x110000 ∧ isByteHalf n = false

instance (codes : CodePoints) : Decidable codes.Pathlike :=
  inferInstanceAs (Decidable (∀ n ∈ codes, n ≠ 0 ∧ n < 0x110000 ∧ isByteHalf n = false))

/-- The code points of a text are put together to the text. -/
theorem veiled_codePoints (text : String) : (codePoints text).veiled = text := by
  have hchars : (codePoints text).map (fun n => if isHalf n then '\x00' else Char.ofNat n) =
      text.toList := by
    rw [codePoints, List.map_map, List.map_congr_left (g := id), List.map_id]
    exact fun c _ => by simp [isHalf_toNat]
  rw [veiled, hchars, String.ofList_toList]

theorem unencodable?_codePoints (text : String) : (codePoints text).unencodable? = none := by
  have hbefore : (codePoints text).takeWhile (fun n => !isHalf n || isByteHalf n) =
      codePoints text := by
    rw [List.takeWhile_eq_self_iff]
    intro n hn
    obtain ⟨c, -, rfl⟩ := List.mem_map.1 hn
    simp [isHalf_toNat]
  simp [unencodable?, hbefore]

/-- Halves stand for null characters, and nothing else does. -/
theorem nullFree_veiled (hcodes : codes.Pathlike) (hwhole : ∀ n ∈ codes, isHalf n = false) :
    NullFree codes.veiled := by
  rw [NullFree, veiled, String.toList_ofList, List.mem_map]
  rintro ⟨n, hn, hnull⟩
  obtain ⟨hzero, hmax, -⟩ := hcodes n hn
  have hhalf := hwhole n hn
  rw [hhalf, if_neg Bool.false_ne_true] at hnull
  have hvalid : n.isValidChar := by
    simp only [isHalf, Bool.and_eq_false_iff, decide_eq_false_iff_not] at hhalf
    simp only [Nat.isValidChar]
    omega
  have hnumber : (Char.ofNat n).toNat = n := by
    rw [Char.ofNat, dif_pos hvalid]
    rfl
  rw [hnull] at hnumber
  exact hzero hnumber.symm

/-- Where there are halves, the first one is told. -/
theorem exists_unencodable? (hcodes : codes.Pathlike) (hhalf : ∃ n ∈ codes, isHalf n = true) :
    ∃ index halves, codes.unencodable? = some (index, halves) := by
  obtain ⟨n, hfind⟩ := Option.isSome_iff_exists.1 (List.find?_isSome.2 hhalf)
  obtain ⟨hn, before, after, rfl, hbefore⟩ := List.find?_eq_some_iff_append.1 hfind
  have hbyte := (hcodes n (List.mem_append_right _ List.mem_cons_self)).2.2
  have hplain : (before ++ n :: after).takeWhile (fun n => !isHalf n || isByteHalf n) = before := by
    rw [List.takeWhile_append_of_pos fun m hm => by rw [hbefore m hm, Bool.true_or],
      List.takeWhile_cons_of_neg (by simp [hn, hbyte]), List.append_nil]
  rw [unencodable?, hplain, List.drop_left, List.takeWhile_cons_of_pos hn]
  exact ⟨_, _, rfl⟩

end Text.CodePoints

/-! ### What a search comes to -/

namespace Project

variable {stack : Stack} {h : Host} {patterns : List String} {dir start : FsPath}
  {codes : Text.CodePoints}

theorem regularFiles_failure {ps : List FsPath} {e : Failure}
    (hfails : regularFiles h ps = .error e) : e.IsSystem := by
  induction ps with
  | nil => cases hfails
  | cons p ps ih =>
    rw [regularFiles] at hfails
    cases hkeep : h.isFile p with
    | error e' =>
      rw [hkeep] at hfails
      exact Except.error.inj hfails ▸ Host.isSystem_of_probe hkeep
    | ok keep =>
      rw [hkeep] at hfails
      cases hrest : regularFiles h ps with
      | error e' =>
        rw [hrest] at hfails
        exact ih (hrest.trans hfails)
      | ok rest =>
        rw [hrest] at hfails
        cases hfails

/-- What is passed over in a directory is a failed system call. -/
theorem filesMatching_failure (hh : h.Regular) {pattern : Pattern} {e : Failure}
    (hfails : filesMatching stack h pattern dir = .error e) : e.IsSystem ∨ e = .exhausted := by
  cases hreads : stack.reads pattern with
  | false =>
    rw [filesMatching, hreads] at hfails
    exact Or.inr (Except.error.inj hfails).symm
  | true =>
    rcases (filesMatching_eq_error hreads).1 hfails with hfiles | ⟨-, hstop⟩
    · exact Or.inl (regularFiles_failure hfiles)
    · exact (hh.confines.glob (fun _ => Or.inr rfl) pattern dir).stopped e hstop

theorem accepted_of_usable (hpatterns : ∀ text ∈ patterns, Pattern.Usable text) :
    Accepted patterns := fun text htext => Pattern.exists_parse_iff.2 (hpatterns text htext)

/-- The first directory that shows a manifest has the project. -/
theorem firstOf_eq_some_bare_iff (hdisk : h.disk.Sound) (hpatterns : Accepted patterns)
    {dirs : List FsPath} (project : Project) :
    firstOf .ample h patterns dirs = .ok (some project) ↔
      ∃ before dir after, dirs = before ++ dir :: after ∧
        (∀ nearer ∈ before, Bare h patterns nearer) ∧ ¬Hidden h patterns dir ∧
          ∃ manifest, Least h patterns dir manifest ∧ project = ofManifest manifest := by
  rw [firstOf_eq_some_iff]
  refine exists_congr fun before => exists_congr fun dir => exists_congr fun after =>
    and_congr_right fun _ => and_congr (forall₂_congr fun nearer _ => ?_) ?_
  · exact manifestIn_eq_none_iff hdisk hpatterns not_exceeds_ample
  · simp only [manifestIn_eq_some_iff hdisk hpatterns not_exceeds_ample, and_assoc,
      exists_and_left, eq_comm]

/-- A stack that is not exhausted makes no difference on the way up. The induction is on the way. -/
theorem firstOf_cut (hdisk : h.disk.Sound) (hpatterns : Accepted patterns) (dirs : List FsPath) :
    firstOf stack h patterns dirs = firstOf .ample h patterns dirs ∨
      firstOf stack h patterns dirs = .error .exhausted := by
  induction dirs with
  | nil => exact Or.inl rfl
  | cons dir dirs ih =>
    rw [firstOf, firstOf]
    rcases hfound : manifestIn stack h patterns dir with e | _ | manifest
    · obtain ⟨rfl, -⟩ := exceeds_of_manifestIn hdisk hpatterns hfound
      exact Or.inr rfl
    · have hbare := bare_of_manifestIn hdisk hfound
      rw [(manifestIn_eq_none_iff hdisk hpatterns not_exceeds_ample).2 hbare]
      exact ih
    · obtain ⟨hshown, -, hleast⟩ := least_of_manifestIn hdisk hfound
      rw [(manifestIn_eq_some_iff hdisk hpatterns not_exceeds_ample).2 ⟨hshown, hleast⟩]
      exact Or.inl rfl

/-- A start that is a text is searched from as it is. -/
theorem findAt_codePoints (stack : Stack) (h : Host) (patterns : List String) (text : String) :
    findAt stack h patterns (Text.codePoints text) =
      find stack h patterns (FsPath.parse text) := by
  rw [findAt, Text.CodePoints.veiled_codePoints, Text.CodePoints.unencodable?_codePoints]
  split
  · next heq => cases heq
  · rfl

theorem findAt_of_ne (hne : (find stack h patterns (FsPath.parse codes.veiled)).outcome ≠
      .error .nullByte) : (findAt stack h patterns codes).outcome =
      (find stack h patterns (FsPath.parse codes.veiled)).outcome := by
  rw [findAt]
  split
  · next hnull _ => exact absurd hnull hne
  · rfl

theorem findAt_of_nullByte {index : Nat} {halves : Text.CodePoints}
    (hnull : (find stack h patterns (FsPath.parse codes.veiled)).outcome = .error .nullByte)
    (hhalves : codes.unencodable? = some (index, halves)) :
    (findAt stack h patterns codes).outcome = .error (.unencodable index halves) := by
  rw [findAt, hnull, hhalves]

/-- A start without halves can be passed to the system. -/
theorem nullFree_start (hcodes : codes.Pathlike) (hwhole : ∀ n ∈ codes, Text.isHalf n = false) :
    NullFree (FsPath.parse codes.veiled).text := by
  have hfree := Text.CodePoints.nullFree_veiled hcodes hwhole
  refine NullFree.text fun name hname => ?_
  obtain ⟨field, hfield, rfl⟩ := List.mem_map.1 hname
  exact hfree.of_mem_fields (List.mem_filter.1 hfield).1

theorem not_nullByte {e : Failure} (he : Host.Unresolvable e ∨ e = .exhausted) :
    e ≠ .nullByte := by
  rcases he with (⟨errno, file, rfl⟩ | ⟨path, rfl⟩) | rfl
  · nofun
  · nofun
  · nofun

/-- How the search from a start ends is decided by whether it can be resolved. -/
theorem findAt_cases (stack : Stack) (hh : h.Regular) (hcodes : codes.Pathlike)
    (hpatterns : Accepted patterns) :
    (h.resolveWithin stack.links (FsPath.parse codes.veiled) = .error .nullByte ∧
        ∃ index halves, codes.unencodable? = some (index, halves) ∧
          (findAt stack h patterns codes).outcome = .error (.unencodable index halves)) ∨
      (∃ e, e ≠ .nullByte ∧
        h.resolveWithin stack.links (FsPath.parse codes.veiled) = .error e ∧
        (findAt stack h patterns codes).outcome = .ok none) ∨
      ∃ real, h.resolveWithin stack.links (FsPath.parse codes.veiled) = .ok real ∧
        (findAt stack h patterns codes).outcome = firstOf stack h patterns real.chain := by
  cases hresolve : h.resolveWithin stack.links (FsPath.parse codes.veiled) with
  | ok real =>
    refine Or.inr (Or.inr ⟨real, rfl, ?_⟩)
    have hfirst : (find stack h patterns _).outcome = firstOf stack h patterns real.chain :=
      find_eq hresolve
    rw [findAt_of_ne, hfirst]
    rw [hfirst]
    rcases firstOf_cut hh.sound hpatterns real.chain with hsame | hexhausted
    · obtain ⟨found, hfound⟩ := exists_firstOf h real.chain hpatterns
      rw [hsame, hfound]
      simp
    · rw [hexhausted]
      simp
  | error e =>
    by_cases he : e = .nullByte
    · subst he
      refine Or.inl ⟨rfl, ?_⟩
      -- Only a half can have stood where the null character is.
      have hhalf : ∃ n ∈ codes, Text.isHalf n = true := by
        by_contra hwhole
        push Not at hwhole
        have hfree := nullFree_start hcodes fun n hn => Bool.eq_false_iff.2 (hwhole n hn)
        rcases Host.resolveWithin_cases hh hfree stack.links with
          ⟨real, hok⟩ | ⟨e, herror, hreason⟩
        · cases hresolve.symm.trans hok
        · exact not_nullByte hreason (Except.error.inj (herror.symm.trans hresolve))
      obtain ⟨index, halves, hhalves⟩ := Text.CodePoints.exists_unencodable? hcodes hhalf
      refine ⟨index, halves, hhalves, findAt_of_nullByte ?_ hhalves⟩
      rw [find, hresolve]
      rfl
    · refine Or.inr (Or.inl ⟨e, he, rfl, ?_⟩)
      have hnone : (find stack h patterns (FsPath.parse codes.veiled)).outcome = .ok none := by
        rw [find, hresolve]
        cases e with
        | nullByte => exact absurd rfl he
        | _ => rfl
      rw [findAt_of_ne, hnone]
      rw [hnone]
      simp

/-- What the search from a start comes to, with null characters for its halves, if it ends so. -/
structure Answered (stack : Stack) (h : Host) (patterns : List String) (codes : Text.CodePoints)
    (start : FsPath) (outcome : Except Failure (Option Project)) : Prop where
  /-- The search ends with a project or without one, unless the stack is exhausted or a call would
  have to take half of a surrogate pair. -/
  ends : (∃ found, outcome = .ok found) ∨ outcome = .error .exhausted ∨
    ∃ index halves, codes.unencodable? = some (index, halves) ∧
      outcome = .error (.unencodable index halves)
  /-- A call would have to take a half exactly if the way along the start comes to one. -/
  halved : (∃ index halves, outcome = .error (.unencodable index halves)) ↔
    h.resolveWithin stack.links start = .error .nullByte
  /-- The stack is exhausted only at a directory on the way up before which none shows a manifest,
  by a pattern that cannot be read or by too many directories inside one another. -/
  exhausted : outcome = .error .exhausted → ∃ real before dir after,
    h.resolveWithin stack.links start = .ok real ∧ real.chain = before ++ dir :: after ∧
      (∀ nearer ∈ before, Bare h patterns nearer) ∧ Exceeds stack h patterns dir
  /-- It is exhausted at the first directory for which it does not suffice, unless one before it
  shows a manifest or a failed call hides what is in it. -/
  exhausts : ∀ real before dir after, h.resolveWithin stack.links start = .ok real →
    real.chain = before ++ dir :: after →
    (∀ nearer ∈ before, Bare h patterns nearer ∧ ¬Exceeds stack h patterns nearer) →
    ¬Hidden h patterns dir → Exceeds stack h patterns dir → outcome = .error .exhausted
  /-- A stack is not exhausted if it takes all patterns and more directories inside one another than
  the disk has nodes. -/
  ample : (∀ text ∈ patterns, ∀ pattern, Pattern.parse text = .ok pattern →
      stack.reads pattern = true) →
    (∀ limit ∈ stack.levels, h.disk.nodes.length < limit) → outcome ≠ .error .exhausted
  /-- Links are followed to their end unless that exhausts the stack: a larger one makes no other
  difference. -/
  followed : ∀ depth, stack.links ≤ depth →
    h.resolveWithin stack.links start = h.resolveWithin depth start ∨
      h.resolveWithin stack.links start = .error .exhausted
  /-- Links inside one another come to an end before a bound that leaves room for all of them. -/
  bounded : (∀ n ∈ codes, Text.isHalf n = false) → ∀ depth, Host.maxNested ≤ depth →
    h.resolveWithin depth start = h.resolve start
  /-- Nested directories do as well. -/
  walked : ∀ dir limit, h.disk.nodes.length < limit → h.walk (some limit) dir = h.walk none dir
  /-- A start that cannot be resolved has no project, unless for a half. -/
  unresolved : ∀ e, h.resolveWithin stack.links start = .error e → e ≠ .nullByte →
    outcome = .ok none
  /-- If a text cannot be resolved, a system call failed, links lead in a circle or the stack is
  exhausted. -/
  reason : (∀ n ∈ codes, Text.isHalf n = false) → ∀ e,
    h.resolveWithin stack.links start = .error e → Host.Unresolvable e ∨ e = .exhausted
  /-- What is passed over in a directory is a failed system call. -/
  passedOver : ∀ pattern dir e, filesMatching stack h pattern dir = .error e →
    e.IsSystem ∨ e = .exhausted
  /-- A stack that is not exhausted makes no difference. -/
  same : ∀ real, h.resolveWithin stack.links start = .ok real → h.resolve start = .ok real →
    outcome ≠ .error .exhausted → outcome = (search h patterns start).outcome
  /-- If the start can be resolved, there is no project exactly if no directory on the way up shows
  a manifest. -/
  none_iff : ∀ real, h.resolveWithin stack.links start = .ok real →
    outcome ≠ .error .exhausted →
    (outcome = .ok none ↔ ∀ dir ∈ real.chain, Bare h patterns dir)
  /-- Else the project is that of the least manifest in the first directory that shows one. -/
  some_iff : ∀ real, h.resolveWithin stack.links start = .ok real →
    outcome ≠ .error .exhausted → ∀ project,
      (outcome = .ok (some project) ↔
        ∃ before dir after, real.chain = before ++ dir :: after ∧
          (∀ nearer ∈ before, Bare h patterns nearer) ∧ ¬Hidden h patterns dir ∧
            ∃ manifest, Least h patterns dir manifest ∧ project = ofManifest manifest)
  /-- The root of a project is absolute. -/
  absolute : ∀ project, outcome = .ok (some project) → project.root.isAbsolute = true

section Way

variable {dirs : List FsPath} (hdisk : h.disk.Sound) (hpatterns : Accepted patterns)

include hdisk hpatterns

/-- The way up is broken off by nothing but an exhausted stack. -/
theorem firstOf_exhausted {e : Failure} (hfails : firstOf stack h patterns dirs = .error e) :
    e = .exhausted ∧ ∃ before dir after, dirs = before ++ dir :: after ∧
      (∀ nearer ∈ before, Bare h patterns nearer) ∧ Exceeds stack h patterns dir := by
  obtain ⟨before, dir, after, hsplit, hbefore, hstop⟩ := firstOf_eq_stop_iff.1 hfails
  obtain ⟨rfl, hexceeds⟩ := exceeds_of_manifestIn hdisk hpatterns hstop
  exact ⟨rfl, before, dir, after, hsplit,
    fun nearer hnearer => bare_of_manifestIn hdisk (hbefore nearer hnearer), hexceeds⟩

theorem firstOf_exceeded {before after : List FsPath} (hsplit : dirs = before ++ dir :: after)
    (hbefore : ∀ nearer ∈ before, Bare h patterns nearer ∧ ¬Exceeds stack h patterns nearer)
    (hshown : ¬Hidden h patterns dir) (hexceeds : Exceeds stack h patterns dir) :
    firstOf stack h patterns dirs = .error .exhausted := by
  refine firstOf_eq_stop_iff.2 ⟨before, dir, after, hsplit, fun nearer hnearer => ?_,
    manifestIn_eq_error hdisk hpatterns hshown hexceeds⟩
  obtain ⟨hbare, hroom⟩ := hbefore nearer hnearer
  exact (manifestIn_eq_none_iff hdisk hpatterns hroom).2 hbare

/-- A way up that is not broken off ends as it does with an ample stack. -/
theorem firstOf_same (hgo : firstOf stack h patterns dirs ≠ .error .exhausted) :
    firstOf stack h patterns dirs = firstOf .ample h patterns dirs :=
  (firstOf_cut hdisk hpatterns dirs).resolve_right hgo

end Way

/-- No directory exceeds a stack that takes all patterns and more directories than there are nodes.
-/
theorem not_exceeds (hdisk : h.disk.Sound)
    (hreads : ∀ text ∈ patterns, ∀ pattern, Pattern.parse text = .ok pattern →
      stack.reads pattern = true)
    (hlevels : ∀ limit ∈ stack.levels, h.disk.nodes.length < limit) :
    ¬Exceeds stack h patterns dir := by
  rintro ⟨text, htext, pattern, hparse, hunread | ⟨-, before, rest, q, -, -, hdeep⟩⟩
  · cases (hreads text htext pattern hparse).symm.trans hunread
  · exact Host.not_deep hdisk hlevels hdeep

section Outcome

variable {real : FsPath} (hh : h.Regular) (hcodes : codes.Pathlike) (hpatterns : Accepted patterns)

include hh hcodes hpatterns

/-- The search from a start that can be resolved goes up from it. -/
theorem findAt_of_resolved
    (hresolve : h.resolveWithin stack.links (FsPath.parse codes.veiled) = .ok real) :
    (findAt stack h patterns codes).outcome = firstOf stack h patterns real.chain := by
  rcases findAt_cases stack hh hcodes hpatterns with
    ⟨hnull, -⟩ | ⟨e, -, herror, -⟩ | ⟨real', hok, houtcome⟩
  · cases hresolve.symm.trans hnull
  · cases hresolve.symm.trans herror
  · rwa [Except.ok.inj (hresolve.symm.trans hok)]

/-- Unless the stack is exhausted, it does so as with an ample one. -/
theorem findAt_same
    (hresolve : h.resolveWithin stack.links (FsPath.parse codes.veiled) = .ok real)
    (hgo : (findAt stack h patterns codes).outcome ≠ .error .exhausted) :
    (findAt stack h patterns codes).outcome = firstOf .ample h patterns real.chain := by
  rw [findAt_of_resolved hh hcodes hpatterns hresolve] at hgo ⊢
  exact firstOf_same hh.sound hpatterns hgo

theorem findAt_of_unresolved {e : Failure}
    (herror : h.resolveWithin stack.links (FsPath.parse codes.veiled) = .error e)
    (he : e ≠ .nullByte) : (findAt stack h patterns codes).outcome = .ok none := by
  rcases findAt_cases stack hh hcodes hpatterns with
    ⟨hnull, -⟩ | ⟨e', -, -, houtcome⟩ | ⟨real, hok, -⟩
  · exact absurd (Except.error.inj (herror.symm.trans hnull)) he
  · exact houtcome
  · cases herror.symm.trans hok

theorem findAt_ends : (∃ found, (findAt stack h patterns codes).outcome = .ok found) ∨
    (findAt stack h patterns codes).outcome = .error .exhausted ∨
    ∃ index halves, codes.unencodable? = some (index, halves) ∧
      (findAt stack h patterns codes).outcome = .error (.unencodable index halves) := by
  rcases findAt_cases stack hh hcodes hpatterns with
    ⟨-, index, halves, hhalves, houtcome⟩ | ⟨e, -, -, houtcome⟩ | ⟨real, hok, houtcome⟩
  · exact Or.inr (Or.inr ⟨index, halves, hhalves, houtcome⟩)
  · exact Or.inl ⟨none, houtcome⟩
  · rw [houtcome]
    cases hfound : firstOf stack h patterns real.chain with
    | ok found => exact Or.inl ⟨found, rfl⟩
    | error e =>
      rw [(firstOf_exhausted hh.sound hpatterns hfound).1]
      exact Or.inr (Or.inl rfl)

theorem findAt_halved_iff :
    (∃ index halves,
      (findAt stack h patterns codes).outcome = .error (.unencodable index halves)) ↔
      h.resolveWithin stack.links (FsPath.parse codes.veiled) = .error .nullByte := by
  constructor
  · rintro ⟨index, halves, houtcome⟩
    rcases findAt_cases stack hh hcodes hpatterns with
      ⟨hnull, -⟩ | ⟨e, -, -, hnone⟩ | ⟨real, hok, hreal⟩
    · exact hnull
    · cases houtcome.symm.trans hnone
    · cases (firstOf_exhausted hh.sound hpatterns (hreal.symm.trans houtcome)).1
  · intro hnull
    rcases findAt_cases stack hh hcodes hpatterns with
      ⟨-, index, halves, -, houtcome⟩ | ⟨e, he, herror, -⟩ | ⟨real, hok, -⟩
    · exact ⟨index, halves, houtcome⟩
    · exact absurd (Except.error.inj (herror.symm.trans hnull)) he
    · cases hnull.symm.trans hok

/-- Only the way up exhausts the stack so that it shows. -/
theorem findAt_exhausted
    (hexhausted : (findAt stack h patterns codes).outcome = .error .exhausted) :
    ∃ real before dir after, h.resolveWithin stack.links (FsPath.parse codes.veiled) = .ok real ∧
      real.chain = before ++ dir :: after ∧ (∀ nearer ∈ before, Bare h patterns nearer) ∧
      Exceeds stack h patterns dir := by
  rcases findAt_cases stack hh hcodes hpatterns with
    ⟨-, index, halves, -, houtcome⟩ | ⟨e, -, -, houtcome⟩ | ⟨real, hok, houtcome⟩
  · cases hexhausted.symm.trans houtcome
  · cases hexhausted.symm.trans houtcome
  · obtain ⟨-, before, dir, after, hsplit, hbefore, hexceeds⟩ :=
      firstOf_exhausted hh.sound hpatterns (houtcome.symm.trans hexhausted)
    exact ⟨real, before, dir, after, hok, hsplit, hbefore, hexceeds⟩

/-- Manifests are below the directory that shows them, and that is above the start. -/
theorem isAbsolute_of_findAt {project : Project}
    (hfound : (findAt stack h patterns codes).outcome = .ok (some project)) :
    project.root.isAbsolute = true := by
  rcases findAt_cases stack hh hcodes hpatterns with
    ⟨-, _, _, -, houtcome⟩ | ⟨e, -, -, houtcome⟩ | ⟨real, hok, houtcome⟩
  · cases hfound.symm.trans houtcome
  · cases Except.ok.inj (hfound.symm.trans houtcome)
  · have hgo : (findAt stack h patterns codes).outcome ≠ .error .exhausted := by
      rw [hfound]
      simp
    obtain ⟨before, dir, after, hchain, -, -, manifest, hleast, rfl⟩ :=
      (firstOf_eq_some_bare_iff hh.sound hpatterns project).1
        ((findAt_same hh hcodes hpatterns hok hgo).symm.trans hfound)
    have hdir : dir ∈ real.chain := hchain ▸ List.mem_append_right _ List.mem_cons_self
    have hanchor : (ofManifest manifest).root.anchor = real.anchor :=
      hleast.matched.anchor.trans (FsPath.mem_chain.1 hdir).1
    rw [FsPath.isAbsolute, hanchor]
    exact Host.isAbsolute_of_resolve hh hok

end Outcome

/-- On a host as systems are, whatever links there are, whichever calls fail and whether or not the
working directory is there: if no null character is in the start and all patterns can be used, then
a search ends with an answer, unless it comes to half of a surrogate pair or exhausts the stack. -/
theorem search_answers (stack : Stack) (hh : h.Regular) (hcodes : codes.Pathlike)
    (hpatterns : ∀ text ∈ patterns, Pattern.Usable text) :
    Answered stack h patterns codes (FsPath.parse codes.veiled)
      (findAt stack h patterns codes).outcome := by
  have haccepted := accepted_of_usable hpatterns
  constructor
  case ends => exact findAt_ends hh hcodes haccepted
  case halved => exact findAt_halved_iff hh hcodes haccepted
  case exhausted => exact findAt_exhausted hh hcodes haccepted
  case exhausts =>
    intro real before dir after hresolve hsplit hbefore hshown hexceeds
    rw [findAt_of_resolved hh hcodes haccepted hresolve]
    exact firstOf_exceeded hh.sound haccepted hsplit hbefore hshown hexceeds
  case ample =>
    intro hreads hlevels hexhausted
    obtain ⟨_, _, _, _, -, -, -, hexceeds⟩ := findAt_exhausted hh hcodes haccepted hexhausted
    exact not_exceeds hh.sound hreads hlevels hexceeds
  case followed => exact fun depth hdepth => Host.resolveWithin_cut hdepth _
  case bounded =>
    exact fun hwhole depth hdepth =>
      Host.resolveWithin_eq_resolve hh (nullFree_start hcodes hwhole) hdepth
  case walked => exact fun dir limit hlimit => Host.walk_bounded hh.sound dir hlimit
  case unresolved => exact fun e herror he => findAt_of_unresolved hh hcodes haccepted herror he
  case reason =>
    intro hwhole e herror
    rcases Host.resolveWithin_cases hh (nullFree_start hcodes hwhole) stack.links with
      ⟨real, hok⟩ | ⟨e', herror', hreason⟩
    · cases herror.symm.trans hok
    · rwa [Except.error.inj (herror.symm.trans herror')]
  case passedOver => exact fun pattern dir e => filesMatching_failure hh
  case same =>
    intro real hresolve hresolve' hgo
    rw [findAt_same hh hcodes haccepted hresolve hgo, search_eq hresolve']
  case none_iff =>
    intro real hresolve hgo
    rw [findAt_same hh hcodes haccepted hresolve hgo, firstOf_eq_none_iff]
    exact forall₂_congr fun dir _ =>
      manifestIn_eq_none_iff hh.sound haccepted not_exceeds_ample
  case some_iff =>
    intro real hresolve hgo project
    rw [findAt_same hh hcodes haccepted hresolve hgo]
    exact firstOf_eq_some_bare_iff hh.sound haccepted project
  case absolute => exact fun project hfound => isAbsolute_of_findAt hh hcodes haccepted hfound

/-- A host with links in a circle, a link that leads nowhere and a directory that cannot be
listed. -/
def tangled : Host where
  disk := ⟨[(["w"], .dir 0o755), (["w", "l"], .link "m"), (["w", "m"], .link "/w/l"),
    (["w", "d"], .link "gone"), (["w", "a.uproject"], .file (.bytes []) 0o644)]⟩
  faults := [⟨.scandir, "/", 5⟩]
  cwd := some "/w"
  env := []
  uid := 0
  platform := "linux"
  pid := 1

theorem tangled_regular : tangled.Regular where
  sound := ⟨by decide, by decide⟩
  names := by decide
  targets place target hmem := by
    simp only [tangled, List.mem_cons, Prod.mk.injEq, reduceCtorEq, and_false, false_or, or_false,
      Node.link.injEq, List.not_mem_nil] at hmem
    rcases hmem with ⟨-, rfl⟩ | ⟨-, rfl⟩ | ⟨-, rfl⟩
    · decide
    · decide
    · decide
  cwd dir hcwd := by
    obtain rfl := Option.some.inj hcwd
    exact ⟨rfl, by decide⟩

/-- A stack that takes one link, one level of directories and patterns of two segments. -/
def shallow : Stack := ⟨2, some 1, fun pattern => pattern.segments.length ≤ 2⟩

/-- Searches end where links lead in a circle, where a link leads nowhere and where a directory
cannot be listed. -/
theorem search_answers_tangled :
    let outcome (text : String) :=
      (findAt shallow tangled ["*.uproject"] (Text.codePoints text)).outcome
    tangled.Regular ∧ (Text.codePoints "d/..").Pathlike ∧
      (∀ text ∈ ["*.uproject"], Pattern.Usable text) ∧
      Answered shallow tangled ["*.uproject"] (Text.codePoints "d/..")
        (FsPath.parse (Text.codePoints "d/..").veiled) (outcome "d/..") ∧
      (outcome "d/..").toOption =
        some (some ⟨⟨.root, ["w"]⟩, ⟨.root, ["w", "a.uproject"]⟩⟩) ∧
      (outcome "l").toOption = some none ∧ (outcome "/").toOption = some none := by
  have hpatterns : ∀ text ∈ ["*.uproject"], Pattern.Usable text :=
    List.forall_mem_singleton.2 (Pattern.exists_parse_iff.1 ⟨_, rfl⟩)
  exact ⟨tangled_regular, by decide, hpatterns,
    search_answers shallow tangled_regular (by decide) hpatterns, by decide +kernel,
    by decide +kernel, by decide +kernel⟩

-- Directories inside one another, a long pattern or half of a surrogate pair end a search
-- otherwise.
example : (findAt shallow offshoot ["**/*.uproject"] (Text.codePoints "/w")).outcome =
    .error .exhausted := rfl

example : (findAt shallow tangled ["a/b/c"] (Text.codePoints "/w")).outcome =
    .error .exhausted := rfl

example : (findAt shallow tangled ["*.uproject"] [0x2f, 0x77, 0x2f, 0xd800]).outcome =
    .error (.unencodable 3 [0xd800]) := rfl

end Project

end IndexSync
