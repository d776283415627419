import IndexSync.Host.Resolve
import IndexSync.Proofs.Keys.Spellings
import IndexSync.Proofs.Storage.Nesting
import Mathlib.Data.Fintype.BigOperators

/-!
# Links that are followed to their end

To find the real path of a path, every link on the way is followed, and so are the links on the way
to its target. Links may lead in circles, and any call may fail. Following them comes to an end all
the same: a link that is being followed is not entered once more, and the paths of links are short
texts, of which there are finitely many. That is why the bound of `Host.resolve` on links inside one
another is never met, and a higher one makes no difference. A lower one can only exhaust the stack.

* `Host.Regular` — a host as systems are: its disk is a file system, no text on it holds a null
  character, and the working directory is an absolute path, if it is there;
* `Host.card_le_room` — there are fewer paths of links than the bound on links inside one another;
* `Host.follow_covered`, `Host.follow_maxNested` — bounds that leave room for all of them make no
  difference;
* `Host.resolveWithin_cut` — what a lower bound on links inside one another makes of it;
* `Host.resolveWithin_cases` — a path is resolved to an absolute one, unless a system call fails,
  links lead in a circle or the stack is exhausted.
-/

namespace IndexSync

/-! ### Texts for the system -/

/-- A text without the null character, which would end it for the system. -/
def NullFree (text : String) : Prop := '\x00' ∉ text.toList

instance (text : String) : Decidable (NullFree text) :=
  inferInstanceAs (Decidable ('\x00' ∉ text.toList))

theorem NullFree.append {a b : String} (ha : NullFree a) (hb : NullFree b) : NullFree (a ++ b) := by
  intro hmem
  rw [String.toList_append] at hmem
  exact (List.mem_append.1 hmem).elim ha hb

theorem NullFree.joinText {names : List String} (h : ∀ name ∈ names, NullFree name) :
    NullFree (Text.joinText '/' names) := by
  intro hmem
  rw [Text.joinText, String.toList_ofList] at hmem
  rcases PathKey.mem_joinFields hmem with hslash | ⟨part, hpart, hmem⟩
  · cases hslash
  · obtain ⟨name, hname, rfl⟩ := List.mem_map.1 hpart
    exact h name hname hmem

theorem NullFree.of_mem_fields {text : String} (h : NullFree text) {part : List Char}
    (hpart : part ∈ Text.fields '/' text.toList) : NullFree (String.ofList part) := by
  intro hmem
  rw [String.toList_ofList] at hmem
  exact h (Text.mem_of_mem_fields hpart hmem)

/-- A part of a path, as it stands between two slashes. -/
def PathPart (part : String) : Prop := '/' ∉ part.toList ∧ NullFree part

theorem NullFree.splitText {text : String} (h : NullFree text) :
    ∀ part ∈ Text.splitText '/' text, PathPart part := by
  intro part hpart
  obtain ⟨field, hfield, rfl⟩ := List.mem_map.1 hpart
  refine ⟨?_, h.of_mem_fields hfield⟩
  rw [String.toList_ofList]
  exact Text.not_mem_of_mem_fields '/' _ field hfield

theorem NullFree.text {p : FsPath} (h : ∀ name ∈ p.names, NullFree name) : NullFree p.text := by
  rw [FsPath.text]
  split
  · decide
  · refine NullFree.append ?_ (NullFree.joinText h)
    cases p.anchor with
    | _ => decide

namespace Host

/-- A host as systems are. -/
structure Regular (h : Host) : Prop where
  /-- The disk is a file system. -/
  sound : h.disk.Sound
  /-- No name on it holds a null character. -/
  names : ∀ entry ∈ h.disk.nodes, ∀ name ∈ entry.1, NullFree name
  /-- Neither does the target of a link. -/
  targets : ∀ place target, (place, .link target) ∈ h.disk.nodes → NullFree target
  /-- The working directory is an absolute path, if it is there. -/
  cwd : ∀ dir, h.cwd = some dir → (FsPath.parse dir).isAbsolute = true ∧ NullFree dir

end Host

/-- A system call failed. -/
def Failure.IsSystem (e : Failure) : Prop := ∃ errno file, e = .system errno file

/-! ### Counting the paths of links -/

namespace FsPath

/-- Short paths are told apart by the characters of their texts, so that there are not too many. -/
theorem card_le_of_length_le {K : Finset FsPath} {n : Nat}
    (hK : ∀ p ∈ K, p.Proper ∧ p.text.toList.length ≤ n) : K.card ≤ 0x110001 ^ n := by
  have hvalid : ∀ c : Char, c.toNat + 1 < 0x110001 := by
    intro c
    have hc : c.toNat < 0xd800 ∨ 0xdfff < c.toNat ∧ c.toNat < 0x110000 := c.valid
    omega
  -- The characters of a text by their positions; zero is left for what is behind its end.
  let characters (p : FsPath) (i : Fin n) : Fin 0x110001 :=
    match p.text.toList[i.val]? with
    | some c => ⟨c.toNat + 1, hvalid c⟩
    | none => 0
  have hinj : Set.InjOn characters K := by
    intro p hp q hq hsame
    -- Two paths with the same characters have the same text, and proper paths are told by it.
    obtain ⟨hproper, hlength⟩ := hK p hp
    obtain ⟨hproper', hlength'⟩ := hK q hq
    have hchars : p.text.toList = q.text.toList := by
      refine List.ext_getElem? fun i => ?_
      by_cases hi : i < n
      · have heq := congrFun hsame ⟨i, hi⟩
        dsimp only [characters] at heq
        cases hc : p.text.toList[i]? with
        | none => cases hd : q.text.toList[i]? with
          | none => rfl
          | some d => simp [hc, hd, Fin.ext_iff] at heq
        | some c => cases hd : q.text.toList[i]? with
          | none => simp [hc, hd, Fin.ext_iff] at heq
          | some d =>
            simp only [hc, hd, Fin.mk.injEq, Nat.add_right_cancel_iff] at heq
            rw [Char.toNat_inj.1 heq]
      · rw [List.getElem?_eq_none (by omega), List.getElem?_eq_none (by omega)]
    rw [← parse_text hproper, ← parse_text hproper', String.toList_inj.1 hchars]
  have hcard := Finset.card_le_card_of_injOn characters (fun p _ => Finset.mem_univ _) hinj
  rwa [Finset.card_univ, Fintype.card_fun, Fintype.card_fin, Fintype.card_fin] at hcard

end FsPath

namespace Host

variable {h : Host}

theorem length_le_encode (text : String) :
    text.toList.length ≤ (Text.Utf8.encode text).length := by
  rw [Text.Utf8.encode]
  induction text.toList with
  | nil => exact Nat.le_refl 0
  | cons c cs ih =>
    -- Every character has at least one byte.
    have hc : 1 ≤ (Text.Utf8.encodeChar c).length := by
      unfold Text.Utf8.encodeChar
      dsimp only
      split_ifs
      all_goals exact Nat.le_add_left 1 _
    rw [List.flatMap_cons, List.length_append, List.length_cons]
    omega

/-- Only a link shows as one. -/
theorem isLink_eq_true {p : FsPath} (hlink : h.isLink p = .ok true) :
    ∃ place target, h.locate .inspect p = .ok (place, .link target) := by
  unfold isLink at hlink
  split at hlink
  · next target hlstat =>
    have hact := act_of_guarded hlstat
    rcases hlocate : h.locate .inspect p with errno | ⟨place, n⟩
    · rw [hlocate] at hact
      cases hact
    · rw [hlocate] at hact
      obtain rfl : n = .link target := Except.ok.inj hact
      exact ⟨place, target, rfl⟩
  · cases hlink
  · cases hlink
  · cases hlink

/-- The path of a link is shorter than what is too long for a call. -/
theorem length_lt_of_isLink {p : FsPath} (hlink : h.isLink p = .ok true) :
    p.text.toList.length < maxPathBytes := by
  obtain ⟨place, target, hlocate⟩ := isLink_eq_true hlink
  obtain ⟨text, _, hcall, hshort, -, -⟩ := find_eq_ok.1 (locate_eq_ok.1 hlocate)
  -- The text of the call ends with the text of the path.
  refine Nat.lt_of_le_of_lt ?_ (Nat.lt_of_le_of_lt (length_le_encode text) hshort)
  unfold callText? at hcall
  split at hcall
  · rw [Option.some.inj hcall]
  · obtain ⟨dir, -, rfl⟩ := Option.map_eq_some_iff.1 hcall
    rw [String.toList_append, List.length_append]
    omega

/-- The number of texts that are short enough for a call. -/
def room : Nat := 0x110001 ^ (maxPathBytes - 1)

theorem card_le_room {K : Finset FsPath} (hK : ∀ p ∈ K, p.Proper ∧ h.isLink p = .ok true) :
    K.card ≤ room :=
  FsPath.card_le_of_length_le fun p hp =>
    ⟨(hK p hp).1, Nat.le_sub_one_of_lt (length_lt_of_isLink (hK p hp).2)⟩

theorem room_lt_maxNested : room < maxNested := by
  have hnested : maxNested = 0x110001 ^ maxPathBytes := by
    rw [show maxPathBytes = 64 * 64 from rfl, Nat.pow_mul]
    rfl
  rw [hnested, room]
  exact Nat.pow_lt_pow_right (by decide) (by decide)

/-! ### Trails -/

/-- The names of a trail are names of path texts, without a null character. -/
def Trail.Proper (t : Trail) : Prop := ∀ name ∈ t.names, FsPath.ProperName name ∧ NullFree name

/-- The names of a trail hold no null character. -/
def Trail.NullFree (t : Trail) : Prop := ∀ name ∈ t.names, IndexSync.NullFree name

variable {t : Trail} {name : String}

theorem Trail.Proper.nullFree (ht : t.Proper) : t.NullFree := fun name hname => (ht name hname).2

theorem Trail.Proper.path (ht : t.Proper) : t.path.Proper := fun name hname => (ht name hname).1

theorem Trail.NullFree.text (ht : t.NullFree) : IndexSync.NullFree t.path.text :=
  IndexSync.NullFree.text ht

/-- A part of a path that does not stay where it is can be gone to. -/
theorem Trail.Proper.down (ht : t.Proper) (hname : PathPart name)
    (hgo : ¬(name = "" ∨ name = ".")) : (t.down name).Proper := by
  intro other hother
  rcases List.mem_append.1 hother with hother | hother
  · exact ht other hother
  · obtain rfl := List.mem_singleton.1 hother
    refine ⟨⟨?_, hname.1⟩, hname.2⟩
    rw [not_or] at hgo
    rw [FsPath.isName, Bool.not_eq_true', Bool.or_eq_false_iff, beq_eq_false_iff_ne,
      beq_eq_false_iff_ne]
    exact ⟨fun hnil => hgo.1 (String.toList_eq_nil_iff.1 hnil),
      fun hdot => hgo.2 (String.toList_inj.1 hdot)⟩

theorem Trail.Proper.up (ht : t.Proper) : t.up.Proper := by
  have hup : FsPath.ProperName ".." ∧ IndexSync.NullFree ".." := by decide
  unfold Trail.up
  split
  · split
    · exact ht
    · exact List.forall_mem_singleton.2 hup
  · split
    · exact List.forall_mem_append.2 ⟨ht, List.forall_mem_singleton.2 hup⟩
    · exact fun name hname => ht name (List.mem_of_mem_dropLast hname)

/-- What is added without following links holds no null character either. -/
theorem Trail.NullFree.add (ht : t.NullFree) {rest : List String}
    (hrest : ∀ name ∈ rest, PathPart name) : (t.add rest).NullFree := by
  unfold Trail.add
  split
  · exact fun name hname => (hrest name (List.mem_cons_of_mem _ hname)).2
  · exact List.forall_mem_append.2 ⟨ht, fun name hname => (hrest name hname).2⟩

/-! ### Links that were met -/

/-- The paths of the links met so far. -/
def Links.paths (links : Links) : Finset FsPath := (links.map Prod.fst).toFinset

@[simp]
theorem Links.paths_cons (entry : FsPath × Option Trail) (links : Links) :
    paths (entry :: links) = insert entry.1 links.paths := by
  rw [paths, List.map_cons, List.toFinset_cons]
  rfl

theorem Links.lookup_eq_none {links : Links} {p : FsPath} :
    links.lookup p = none ↔ p ∉ links.paths := by
  rw [List.lookup_eq_none_iff, paths, List.mem_toFinset, List.mem_map]
  constructor
  · rintro hnone ⟨entry, hentry, rfl⟩
    exact absurd rfl (bne_iff_ne.1 (hnone entry hentry))
  · exact fun hnone entry hentry => bne_iff_ne.2 fun heq => hnone ⟨entry, hentry, heq.symm⟩

theorem Links.mem_of_lookup {links : Links} {p : FsPath} {value : Option Trail}
    (hlookup : links.lookup p = some value) : (p, value) ∈ links := by
  obtain ⟨before, after, rfl, -⟩ := List.lookup_eq_some_iff.1 hlookup
  exact List.mem_append_right _ List.mem_cons_self

/-- The links met so far are links, and lead to proper trails. -/
structure Charted (h : Host) (links : Links) : Prop where
  /-- They are links on proper paths. -/
  met : ∀ p ∈ links.paths, p.Proper ∧ h.isLink p = .ok true
  /-- They lead to proper trails, as far as that is known. -/
  ends : ∀ p t, (p, some t) ∈ links → t.Proper

theorem Charted.insert {links : Links} {p : FsPath} {value : Option Trail}
    (hlinks : h.Charted links) (hp : p.Proper) (hlink : h.isLink p = .ok true)
    (hvalue : ∀ t, value = some t → t.Proper) : h.Charted ((p, value) :: links) where
  met q hq := by
    rw [Links.paths_cons, Finset.mem_insert] at hq
    rcases hq with rfl | hq
    · exact ⟨hp, hlink⟩
    · exact hlinks.met q hq
  ends q t hmem := by
    rcases List.mem_cons.1 hmem with heq | hmem
    · exact hvalue t (Prod.mk.inj heq).2.symm
    · exact hlinks.ends q t hmem

/-- Where following a path has led when these links were met before it. -/
structure Explored (h : Host) (links : Links) (f : Followed) : Prop where
  /-- All links that are known now are links. -/
  charted : h.Charted f.links
  /-- None of those that were met before is forgotten. -/
  keeps : links.paths ⊆ f.links.paths
  /-- The trail can be passed to the system. -/
  nullFree : f.trail.NullFree
  /-- A trail without open links goes on as a path does. -/
  proper : f.complete = true → f.trail.Proper

/-- Following a path leads somewhere, unless a system call fails. -/
def Sane (h : Host) (links : Links) : Except Failure Followed → Prop
  | .ok f => h.Explored links f
  | .error e => e.IsSystem

theorem Sane.mono {links links' : Links} (hsub : links.paths ⊆ links'.paths)
    {outcome : Except Failure Followed} (hsane : h.Sane links' outcome) : h.Sane links outcome := by
  cases outcome with
  | error e => exact hsane
  | ok f => exact { hsane with keeps := hsub.trans hsane.keeps }

section Entered

variable {links : Links} {p : FsPath} {value : Option Trail} {sub : Followed}
  (hsub : h.Explored ((p, value) :: links) sub)

include hsub

theorem Explored.subset : links.paths ⊆ sub.links.paths := by
  have hkeeps := hsub.keeps
  rw [Links.paths_cons] at hkeeps
  exact (Finset.subset_insert _ _).trans hkeeps

/-- Behind a link whose target ends in a circle, the rest of a path is kept as it is. -/
theorem Explored.kept {rest : List String} (hrest : ∀ name ∈ rest, PathPart name) :
    h.Explored links ⟨sub.trail.add rest, false, sub.links⟩ where
  charted := hsub.charted
  keeps := hsub.subset
  nullFree := hsub.nullFree.add hrest
  proper := nofun

/-- A link whose target was followed is known from then on. -/
theorem Explored.known (hp : p.Proper) (hlink : h.isLink p = .ok true)
    (hcomplete : sub.complete = true) : h.Charted ((p, some sub.trail) :: sub.links) ∧
      links.paths ⊆ Links.paths ((p, some sub.trail) :: sub.links) := by
  refine ⟨hsub.charted.insert hp hlink fun t heq => ?_, ?_⟩
  · rw [← Option.some.inj heq]
    exact hsub.proper hcomplete
  · rw [Links.paths_cons]
    exact hsub.subset.trans (Finset.subset_insert _ _)

end Entered

/-! ### Following -/

variable {links : Links} {expand expand' : Links → Trail → String → Except Failure Followed}

theorem isSystem_of_guarded {α : Type} {call : Call} {p : FsPath} {act : Except Errno α}
    {e : Failure} (hp : IndexSync.NullFree p.text) (hcall : h.guarded call p act = .error e) :
    e.IsSystem := by
  unfold guarded deny at hcall
  rw [if_neg (mt List.contains_iff_mem.1 hp)] at hcall
  split at hcall
  · exact ⟨_, _, (Except.error.inj hcall).symm⟩
  · split at hcall
    · cases hcall
    · exact ⟨_, _, (Except.error.inj hcall).symm⟩

/-- What cannot be looked at is no link. -/
theorem exists_isLink {p : FsPath} (hp : IndexSync.NullFree p.text) :
    ∃ link, h.isLink p = .ok link := by
  unfold isLink
  split
  · exact ⟨_, rfl⟩
  · exact ⟨_, rfl⟩
  · next hlstat =>
    obtain ⟨errno, file, he⟩ := isSystem_of_guarded hp hlstat
    cases he
  · exact ⟨_, rfl⟩

/-- The target of a link on a disk without null characters has none. -/
theorem nullFree_of_readlink (hh : h.Regular) {p : FsPath} {target : String}
    (hread : h.readlink p = .ok target) : IndexSync.NullFree target := by
  have hact := act_of_guarded hread
  rcases hlocate : h.locate .inspect p with errno | ⟨place, n⟩
  · rw [hlocate] at hact
    cases hact
  · rw [hlocate] at hact
    cases n with
    | link target' =>
      obtain rfl : target' = target := Except.ok.inj hact
      have hnode := get?_of_find (locate_eq_ok.1 hlocate)
      refine hh.targets place target' (hh.sound.lookup_eq_some.1 ?_)
      unfold Disk.get? at hnode
      split at hnode
      · next n hlookup => rw [hlookup, Option.some.inj hnode]
      · split at hnode
        · cases hnode
        · cases hnode
    | _ => cases hact

/-- Following the parts of a path is sane, and depends on how targets are followed only for links
that are met after more links than `count`, if targets are followed sanely then. The induction is
on the parts. -/
theorem followWith_covered (hh : h.Regular) {count : Nat}
    (hexpand : ∀ links t target, h.Charted links → count < links.paths.card → t.Proper →
      IndexSync.NullFree target → h.Sane links (expand links t target) ∧
        expand' links t target = expand links t target)
    (hlinks : h.Charted links) (hcount : count ≤ links.paths.card) (ht : t.Proper)
    {names : List String} (hnames : ∀ name ∈ names, PathPart name) :
    h.Sane links (h.followWith expand links t names) ∧
      h.followWith expand' links t names = h.followWith expand links t names := by
  induction names generalizing links t with
  | nil => exact ⟨⟨hlinks, Finset.Subset.refl _, ht.nullFree, fun _ => ht⟩, rfl⟩
  | cons name rest ih =>
    obtain ⟨hname, hrest⟩ := List.forall_mem_cons.1 hnames
    rw [followWith, followWith]
    -- Staying and going up meets no link.
    split
    · exact ih hlinks hcount ht hrest
    next hgo =>
    split
    · exact ih hlinks hcount ht.up hrest
    have hnext := ht.down hname hgo
    obtain ⟨link, hlink⟩ := exists_isLink (h := h) hnext.nullFree.text
    simp only [hlink, bind, Except.bind]
    cases link with
    | false => exact ih hlinks hcount hnext hrest
    | true =>
      simp only [if_true]
      rcases hlookup : links.lookup (t.down name).path with _ | _ | known
      · -- The link is new, so that more links have been met when its target is followed.
        have hopen : h.Charted (((t.down name).path, none) :: links) :=
          hlinks.insert hnext.path hlink nofun
        have hmore : links.paths.card <
            (Links.paths (((t.down name).path, none) :: links)).card := by
          rw [Links.paths_cons, Finset.card_insert_of_notMem (Links.lookup_eq_none.1 hlookup)]
          exact Nat.lt_succ_self _
        cases htarget : h.readlink (t.down name).path with
        | error e => exact ⟨isSystem_of_guarded hnext.nullFree.text htarget, rfl⟩
        | ok target =>
          obtain ⟨hsane, hsame⟩ := hexpand _ t target hopen (Nat.lt_of_le_of_lt hcount hmore) ht
            (nullFree_of_readlink hh htarget)
          simp only [hsame]
          cases hsub : expand (((t.down name).path, none) :: links) t target with
          | error e =>
            rw [hsub] at hsane
            exact ⟨hsane, rfl⟩
          | ok sub =>
            rw [hsub] at hsane
            cases hcomplete : sub.complete with
            | false =>
              simp only [hcomplete, Bool.false_eq_true, if_false]
              exact ⟨hsane.kept hrest, trivial⟩
            | true =>
              obtain ⟨hknown, hkeeps⟩ := hsane.known hnext.path hlink hcomplete
              have htrail := hsane.proper hcomplete
              obtain ⟨hsane', hsame'⟩ :=
                ih hknown (hcount.trans (Finset.card_le_card hkeeps)) htrail hrest
              simp only [hcomplete, if_true]
              exact ⟨hsane'.mono hkeeps, hsame'⟩
      · -- The link is being followed: a circle.
        exact ⟨⟨hlinks, Finset.Subset.refl _, hnext.nullFree.add hrest, nofun⟩, rfl⟩
      · exact ih hlinks hcount (hlinks.ends _ known (Links.mem_of_lookup hlookup)) hrest

/-- Following a path comes to its end before the bound on links inside one another is met, if that
leaves room for all links that are yet to be met. The induction is on the bound: every link that is
entered leaves less room. -/
theorem follow_covered (hh : h.Regular) {depth depth' : Nat} (hdepth : depth ≤ depth')
    (hroom : room < depth + links.paths.card) (hlinks : h.Charted links) (ht : t.Proper)
    {text : String} (htext : IndexSync.NullFree text) :
    h.Sane links (h.follow depth links t text) ∧
      h.follow depth' links t text = h.follow depth links t text := by
  induction depth generalizing depth' links t text with
  | zero =>
    -- More links would have been met than there are.
    have hcard := card_le_room hlinks.met
    omega
  | succ depth ih =>
    obtain ⟨more, rfl⟩ := Nat.exists_eq_add_of_lt hdepth
    rw [follow, follow]
    refine followWith_covered hh (fun links' t' target hlinks' hmore ht' htarget => ?_) hlinks
      (Nat.le_refl _) ?_ htext.splitText
    · exact ih (by omega) (by omega) hlinks' ht' htarget
    · split
      · exact nofun
      · exact ht

theorem charted_nil : h.Charted [] where
  met _ hp := absurd hp (Finset.notMem_empty _)
  ends _ _ hmem := absurd hmem List.not_mem_nil

/-- A path is followed to its end, and a higher bound on links inside one another makes no
difference. -/
theorem follow_maxNested (hh : h.Regular) {text : String} (htext : IndexSync.NullFree text) :
    h.Sane [] (h.follow maxNested [] ⟨false, []⟩ text) ∧
      ∀ bound, maxNested ≤ bound →
        h.follow bound [] ⟨false, []⟩ text = h.follow maxNested [] ⟨false, []⟩ text := by
  have hroom : room < maxNested + (Links.paths []).card :=
    Nat.lt_of_lt_of_le room_lt_maxNested (Nat.le_add_right _ _)
  have hcovered : ∀ bound, maxNested ≤ bound →
      h.Sane [] (h.follow maxNested [] ⟨false, []⟩ text) ∧
        h.follow bound [] ⟨false, []⟩ text = h.follow maxNested [] ⟨false, []⟩ text :=
    fun bound hbound => follow_covered hh hbound hroom charted_nil (t := ⟨false, []⟩) nofun htext
  exact ⟨(hcovered maxNested (Nat.le_refl _)).1, fun bound hbound => (hcovered bound hbound).2⟩

/-! ### Real paths -/

/-- An absolute path text is cleaned to an absolute path. -/
theorem isAbsolute_clean {text : String} (hroot : text.toList.head? = some '/') :
    (absolute.clean text).isAbsolute = true := by
  obtain ⟨rest, hrest⟩ := List.head?_eq_some_iff.1 hroot
  rw [absolute.clean, FsPath.isAbsolute, hrest, bne_iff_ne]
  exact PathKey.anchorOf_slash rest

/-- No null character comes into a text that is cleaned. -/
theorem nullFree_clean {text : String} (htext : IndexSync.NullFree text) :
    IndexSync.NullFree (absolute.clean text).text := by
  refine IndexSync.NullFree.text fun name hname => ?_
  obtain ⟨seg, hseg, rfl⟩ := List.mem_map.1 hname
  exact htext.of_mem_fields (PathKey.mem_of_mem_reduce hseg)

/-- The working directory is an absolute text, ready to have names put behind it. -/
theorem closed_cwd (hh : h.Regular) {dir : String} (hcwd : h.cwd = some dir) :
    (closed dir).toList.head? = some '/' ∧ IndexSync.NullFree (closed dir) := by
  obtain ⟨hdir, hdirFree⟩ := hh.cwd dir hcwd
  have hhead : dir.toList.head? = some '/' := by
    by_contra hne
    rw [FsPath.isAbsolute, FsPath.parse, PathKey.anchorOf_of_head hne] at hdir
    cases hdir
  unfold closed
  split
  · exact ⟨hhead, hdirFree⟩
  · refine ⟨?_, hdirFree.append (by decide)⟩
    rw [String.toList_append, List.head?_append, hhead, Option.some_or]

/-- A trail is made absolute, whatever its names are. -/
theorem isAbsolute_of_absolute (hh : h.Regular) {real : FsPath}
    (habsolute : h.absolute t = .ok real) : real.isAbsolute = true := by
  unfold absolute at habsolute
  dsimp only at habsolute
  split at habsolute
  · rw [← Except.ok.inj habsolute]
    refine isAbsolute_clean ?_
    rw [String.toList_append]
    rfl
  · next dir _ hcwd =>
    rw [← Except.ok.inj habsolute]
    refine isAbsolute_clean ?_
    rw [String.toList_append, List.head?_append, (closed_cwd hh hcwd).1, Option.some_or]
  · cases habsolute

/-- A trail is made absolute, unless the working directory is needed and was deleted. -/
theorem absolute_cases (hh : h.Regular) (ht : t.NullFree) :
    (∃ real, h.absolute t = .ok real ∧ IndexSync.NullFree real.text) ∨
      ∃ e, h.absolute t = .error e ∧ e.IsSystem := by
  have htail := IndexSync.NullFree.joinText ht
  unfold absolute
  dsimp only
  split
  · exact Or.inl ⟨_, rfl, nullFree_clean (IndexSync.NullFree.append (by decide) htail)⟩
  · next dir _ hcwd =>
    exact Or.inl ⟨_, rfl, nullFree_clean ((closed_cwd hh hcwd).2.append htail)⟩
  · exact Or.inr ⟨_, rfl, _, _, rfl⟩

/-- Why a path cannot be resolved: a system call failed, or links lead in a circle. -/
def Unresolvable (e : Failure) : Prop := e.IsSystem ∨ ∃ path, e = .linkLoop path

theorem unresolvable_asLoop {e : Failure} (he : e.IsSystem) : Unresolvable (asLoop e) := by
  obtain ⟨errno, file, rfl⟩ := he
  cases file with
  | none => exact Or.inl ⟨errno, none, rfl⟩
  | some path =>
    rw [asLoop]
    split
    · exact Or.inr ⟨path, rfl⟩
    · exact Or.inl ⟨errno, some path, rfl⟩

/-- What a path is resolved to is absolute. -/
theorem isAbsolute_of_resolve (hh : h.Regular) {depth : Nat} {p real : FsPath}
    (hresolve : h.resolveWithin depth p = .ok real) : real.isAbsolute = true := by
  unfold resolveWithin at hresolve
  cases hfollow : h.follow depth [] ⟨false, []⟩ p.text with
  | error e =>
    rw [hfollow] at hresolve
    cases hresolve
  | ok f =>
    cases habsolute : h.absolute f.trail with
    | error e =>
      simp only [hfollow, habsolute, Except.mapError, bind, Except.bind] at hresolve
      cases hresolve
    | ok real' =>
      simp only [hfollow, habsolute, Except.mapError, bind, Except.bind] at hresolve
      have hsame : real' = real := by
        split at hresolve
        · cases hresolve
        · split at hresolve
          · cases hresolve
          · exact Except.ok.inj hresolve
        · exact Except.ok.inj hresolve
      exact hsame ▸ isAbsolute_of_absolute hh habsolute

/-- A path can be resolved, or there is a reason why not. -/
theorem resolve_cases (hh : h.Regular) {p : FsPath} (hp : IndexSync.NullFree p.text) :
    (∃ real, h.resolve p = .ok real) ∨ ∃ e, h.resolve p = .error e ∧ Unresolvable e := by
  have hsane := (follow_maxNested hh hp).1
  unfold resolve resolveWithin
  cases hfollow : h.follow maxNested [] ⟨false, []⟩ p.text with
  | error e =>
    rw [hfollow] at hsane
    exact Or.inr ⟨asLoop e, rfl, unresolvable_asLoop hsane⟩
  | ok f =>
    rw [hfollow] at hsane
    rcases absolute_cases hh hsane.nullFree with ⟨real, habsolute, hfree⟩ | ⟨e, habsolute, he⟩
    · simp only [habsolute, Except.mapError, bind, Except.bind]
      cases hstat : h.stat real with
      | ok n => exact Or.inl ⟨real, rfl⟩
      | error e =>
        -- The last look may find a circle; other failures of it do not matter.
        obtain ⟨errno, file, rfl⟩ := isSystem_of_guarded hfree hstat
        dsimp only
        split
        · exact Or.inr ⟨_, rfl, unresolvable_asLoop ⟨errno, file, rfl⟩⟩
        · exact Or.inl ⟨real, rfl⟩
    · simp only [habsolute, Except.mapError, bind, Except.bind]
      exact Or.inr ⟨e, rfl, Or.inl he⟩

/-! ### Exhausted stacks -/

/-- If targets are followed alike or exhaust the stack, so are paths. The induction is on the
parts. -/
theorem followWith_cut (hexpand : ∀ links t target, expand' links t target =
      expand links t target ∨ expand' links t target = .error .exhausted) (names : List String) :
    h.followWith expand' links t names = h.followWith expand links t names ∨
      h.followWith expand' links t names = .error .exhausted := by
  induction names generalizing links t with
  | nil => exact Or.inl rfl
  | cons name rest ih =>
    rw [followWith, followWith]
    split
    · exact ih
    split
    · exact ih
    cases hlink : h.isLink (t.down name).path with
    | error e => exact Or.inl (by simp only [hlink, bind, Except.bind])
    | ok link =>
      simp only [hlink, bind, Except.bind]
      cases link with
      | false => exact ih
      | true =>
        simp only [if_true]
        rcases links.lookup (t.down name).path with _ | _ | known
        · -- A link that was not met before: only here is a target expanded.
          cases htarget : h.readlink (t.down name).path with
          | error e => exact Or.inl rfl
          | ok target =>
            rcases hexpand (((t.down name).path, none) :: links) t target with hsame | hexhausted
            · simp only [hsame]
              cases hsub : expand (((t.down name).path, none) :: links) t target with
              | error e => exact Or.inl rfl
              | ok sub =>
                cases hcomplete : sub.complete with
                | false => exact Or.inl (by simp only [hcomplete, Bool.false_eq_true, if_false])
                | true =>
                  simp only [hcomplete, if_true]
                  exact ih
            · simp only [hexhausted]
              exact Or.inr trivial
        · exact Or.inl rfl
        · exact ih

theorem follow_cut {depth depth' : Nat} (hdepth : depth ≤ depth') (text : String) :
    h.follow depth links t text = h.follow depth' links t text ∨
      h.follow depth links t text = .error .exhausted := by
  induction depth generalizing depth' links t text with
  | zero => exact Or.inr rfl
  | succ depth ih =>
    obtain ⟨more, rfl⟩ := Nat.exists_eq_add_of_le hdepth
    rw [Nat.add_right_comm, follow, follow]
    exact followWith_cut (fun links t target => ih (Nat.le_add_right depth more) target) _

/-- With a smaller bound on links inside one another a path is resolved alike, or the stack is
exhausted. -/
theorem resolveWithin_cut {depth depth' : Nat} (hdepth : depth ≤ depth') (p : FsPath) :
    h.resolveWithin depth p = h.resolveWithin depth' p ∨
      h.resolveWithin depth p = .error .exhausted := by
  have hcut : h.follow depth [] ⟨false, []⟩ p.text = h.follow depth' [] ⟨false, []⟩ p.text ∨
      h.follow depth [] ⟨false, []⟩ p.text = .error .exhausted := follow_cut hdepth p.text
  rcases hcut with hsame | hexhausted
  · rw [resolveWithin, resolveWithin, hsame]
    exact Or.inl rfl
  · rw [resolveWithin, hexhausted]
    exact Or.inr rfl

/-- A bound that no links meet makes no difference. -/
theorem resolveWithin_eq_resolve (hh : h.Regular) {p : FsPath} (hp : IndexSync.NullFree p.text)
    {depth : Nat} (hdepth : maxNested ≤ depth) : h.resolveWithin depth p = h.resolve p := by
  rw [resolve, resolveWithin, resolveWithin, (follow_maxNested hh hp).2 depth hdepth]

/-- Whatever the bound is, a path can be resolved, or there is a reason why not. -/
theorem resolveWithin_cases (hh : h.Regular) {p : FsPath} (hp : IndexSync.NullFree p.text)
    (depth : Nat) : (∃ real, h.resolveWithin depth p = .ok real) ∨
      ∃ e, h.resolveWithin depth p = .error e ∧ (Unresolvable e ∨ e = .exhausted) := by
  have hcut : h.resolveWithin depth p = h.resolve p ∨
      h.resolveWithin depth p = .error .exhausted := by
    rcases Nat.le_total depth maxNested with hdepth | hdepth
    · exact resolveWithin_cut hdepth p
    · exact Or.inl (resolveWithin_eq_resolve hh hp hdepth)
  rcases hcut with hsame | hexhausted
  · rw [hsame]
    exact (resolve_cases hh hp).imp_right fun ⟨e, hresolve, he⟩ => ⟨e, hresolve, Or.inl he⟩
  · exact Or.inr ⟨_, hexhausted, Or.inr rfl⟩

end Host

end IndexSync
