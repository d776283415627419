import IndexSync.Proofs.PathText
import IndexSync.Proofs.Storage.Files
import Mathlib.Data.List.Count

/-!
# Directories inside directories

Where listing one directory after the other leads. On a file system, the entry of a directory stands
at a place of its own one name further down, so that going down comes to an end.

* `Disk.Sound` — a disk that is a file system: places are made of names, and each has one node;
* `Host.Nested` — the directories that are reached from a directory through entries that are
  directories themselves;
* `Host.locate_child` — a path that goes on by the name of an entry leads to the place of that
  entry;
* `Disk.countBelow_lt` — the number of nodes below a place gets smaller on the way down.
-/

namespace IndexSync

namespace Text

/-- The fields on both sides of a slash are those of the whole. -/
theorem fields_append_slash (a b : List Char) :
    fields '/' (a ++ '/' :: b) = fields '/' a ++ fields '/' b := by
  induction a with
  | nil => rfl
  | cons c a ih =>
    rw [List.cons_append, fields, fields, ih]
    by_cases hc : c = '/'
    · rw [if_pos hc, if_pos hc, List.cons_append]
    · rw [if_neg hc, if_neg hc]
      cases hfields : fields '/' a with
      | nil => exact absurd hfields (fields_ne_nil '/' a)
      | cons first rest => rfl

theorem joinFields_snoc {parts : List (List Char)} (h : parts ≠ []) (last : List Char) :
    joinFields '/' (parts ++ [last]) = joinFields '/' parts ++ '/' :: last := by
  induction parts with
  | nil => exact absurd rfl h
  | cons part parts ih =>
    cases parts with
    | nil => rfl
    | cons next parts =>
      have hrest := ih (List.cons_ne_nil next parts)
      rw [List.cons_append] at hrest
      rw [List.cons_append, List.cons_append, joinFields, hrest, joinFields, List.append_assoc,
        List.cons_append]

/-- Splitting at a slash and at the slashes on both sides of it is splitting the whole. -/
theorem splitText_append_slash (a b : String) :
    splitText '/' (a ++ "/" ++ b) = splitText '/' a ++ splitText '/' b := by
  have htext : (a ++ "/" ++ b).toList = a.toList ++ '/' :: b.toList := by simp
  rw [splitText, htext, fields_append_slash, List.map_append]
  rfl

theorem splitText_of_not_mem {name : String} (h : '/' ∉ name.toList) :
    splitText '/' name = [name] := by
  rw [splitText, fields_of_not_mem h, List.map_singleton, String.ofList_toList]

end Text

/-! ### File systems -/

/-- A text that can be the name of a directory entry. -/
def FileName (name : String) : Prop := FsPath.ProperName name ∧ name ≠ ".."

instance (name : String) : Decidable (FileName name) :=
  inferInstanceAs (Decidable (FsPath.ProperName name ∧ name ≠ ".."))

namespace Disk

/-- A disk that is a file system. -/
structure Sound (d : Disk) : Prop where
  /-- Places are made of names of directory entries. -/
  names : ∀ entry ∈ d.nodes, ∀ name ∈ entry.1, FileName name
  /-- There is one node at a place. -/
  places : (d.nodes.map Prod.fst).Nodup

section Entries

variable {d : Disk} {place : Place} {name : String} {n : Node}

theorem childName?_eq_some {dir p : Place} :
    childName? dir p = some name ↔ p = dir ++ [name] := by
  induction dir generalizing p with
  | nil =>
    rcases p with - | ⟨first, - | ⟨second, rest⟩⟩
    · simp [childName?]
    · simp [childName?]
    · simp [childName?]
  | cons a dir ih =>
    cases p with
    | nil => simp [childName?]
    | cons b p =>
      rw [childName?]
      by_cases hab : a = b
      · rw [if_pos hab, ih, hab, List.cons_append, List.cons.injEq, eq_self_iff_true, true_and]
      · rw [if_neg hab, List.cons_append, List.cons.injEq]
        exact iff_of_false nofun fun h => hab h.1.symm

/-- The entries of a directory are the nodes one name further down. -/
theorem mem_entries : (name, n) ∈ d.entries place ↔ (place ++ [name], n) ∈ d.nodes := by
  unfold entries
  rw [List.mem_filterMap]
  constructor
  · rintro ⟨⟨p, m⟩, hmem, hentry⟩
    obtain ⟨other, hother, heq⟩ := Option.map_eq_some_iff.1 hentry
    obtain ⟨rfl, rfl⟩ := Prod.mk.inj heq
    rwa [← childName?_eq_some.1 hother]
  · intro hmem
    refine ⟨_, hmem, ?_⟩
    exact Option.map_eq_some_iff.2 ⟨name, childName?_eq_some.2 rfl, rfl⟩

/-- What is at a place of a file system is its node. -/
theorem Sound.lookup_eq_some (h : d.Sound) :
    d.nodes.lookup place = some n ↔ (place, n) ∈ d.nodes := by
  rw [List.lookup_eq_some_iff]
  constructor
  · rintro ⟨before, after, hnodes, -⟩
    rw [hnodes]
    exact List.mem_append_right _ List.mem_cons_self
  · intro hmem
    obtain ⟨before, after, hnodes⟩ := List.append_of_mem hmem
    refine ⟨before, after, hnodes, fun entry hentry => ?_⟩
    -- No node before it is at the same place.
    have hplaces := h.places
    rw [hnodes, List.map_append, List.map_cons, List.nodup_append] at hplaces
    have hne := hplaces.2.2 _ (List.mem_map_of_mem hentry) _ List.mem_cons_self
    exact bne_iff_ne.2 hne.symm

theorem Sound.get?_of_mem (h : d.Sound) (hmem : (place, n) ∈ d.nodes) : d.get? place = some n := by
  rw [get?, h.lookup_eq_some.2 hmem]

/-- The names of entries are names of directory entries. -/
theorem Sound.fileName (h : d.Sound) (hmem : (name, n) ∈ d.entries place) : FileName name :=
  h.names _ (mem_entries.1 hmem) name (List.mem_append_right _ List.mem_cons_self)

/-- The node is below the place. -/
def isBelow (place : Place) (entry : Place × Node) : Bool :=
  place.isPrefixOf entry.1 && place != entry.1

/-- The number of nodes below a place. -/
def countBelow (d : Disk) (place : Place) : Nat := d.nodes.countP (isBelow place)

theorem countBelow_le (d : Disk) (place : Place) : d.countBelow place ≤ d.nodes.length :=
  List.countP_le_length

theorem isBelow_child (place : Place) (name : String) (n : Node) :
    isBelow place (place ++ [name], n) = true := by
  rw [isBelow, Bool.and_eq_true, List.isPrefixOf_iff_prefix, bne_iff_ne]
  refine ⟨List.prefix_append _ _, fun heq => ?_⟩
  have hlength := congrArg List.length heq
  rw [List.length_append, List.length_singleton] at hlength
  omega

theorem isBelow_of_isBelow_child {entry : Place × Node}
    (h : isBelow (place ++ [name]) entry = true) : isBelow place entry = true := by
  rw [isBelow, Bool.and_eq_true, List.isPrefixOf_iff_prefix, bne_iff_ne] at h ⊢
  refine ⟨(List.prefix_append _ _).trans h.1, fun heq => ?_⟩
  have hlength := h.1.length_le
  rw [← heq, List.length_append, List.length_singleton] at hlength
  omega

/-- There are fewer nodes below an entry than below its directory: the entry itself is one of
these. -/
theorem countBelow_lt (h : (name, n) ∈ d.entries place) :
    d.countBelow (place ++ [name]) < d.countBelow place := by
  -- What is below the entry is also below the directory, which has the entry itself besides.
  have hboth : d.countBelow (place ++ [name]) =
      (d.nodes.filter (isBelow place)).countP (isBelow (place ++ [name])) := by
    rw [List.countP_filter, countBelow]
    refine List.countP_congr fun entry _ => ?_
    rw [Bool.and_eq_true]
    exact ⟨fun hbelow => ⟨hbelow, isBelow_of_isBelow_child hbelow⟩, And.left⟩
  have hself : isBelow (place ++ [name]) (place ++ [name], n) = false := by
    rw [isBelow, bne_self_eq_false, Bool.and_false]
  rw [hboth, countBelow, List.countP_eq_length_filter (l := d.nodes), List.countP_lt_length_iff]
  exact ⟨_, List.mem_filter.2 ⟨mem_entries.1 h, isBelow_child place name n⟩, hself⟩

end Entries

/-! ### Walks in two parts -/

section Parts

variable {d : Disk} {purpose : Purpose} {links : Nat} {place q : Place} {here n : Node}
  {steps more : List String}

/-- A walk that ends at a node has reached a node after any number of its steps. -/
theorem Walks.split (h : Walks d .use links place here (steps ++ more) (.node q n)) :
    ∃ links' q' n', Walks d .use links place here steps (.node q' n') ∧
      Walks d .use links' q' n' more (.node q n) := by
  generalize hall : steps ++ more = all at h
  generalize hfound : Found.node q n = found at h
  induction h generalizing steps with
  | @done links place here =>
    obtain ⟨rfl, rfl⟩ := List.append_eq_nil_iff.1 hall
    exact ⟨links, place, here, .done, .done⟩
  | @stay links place here step rest found hdir hstay h ih =>
    -- The part before is empty, or it starts with the step that is taken.
    rcases List.append_eq_cons_iff.1 hall with ⟨rfl, rfl⟩ | ⟨before, rfl, rfl⟩
    · exact ⟨links, place, here, .done, .stay hdir hstay h⟩
    · obtain ⟨links', q', n', hbefore, hmore⟩ := ih rfl hfound
      exact ⟨links', q', n', .stay hdir hstay hbefore, hmore⟩
  | @up links place here rest found hdir h ih =>
    rcases List.append_eq_cons_iff.1 hall with ⟨rfl, rfl⟩ | ⟨before, rfl, rfl⟩
    · exact ⟨links, place, here, .done, .up hdir h⟩
    · obtain ⟨links', q', n', hbefore, hmore⟩ := ih rfl hfound
      exact ⟨links', q', n', .up hdir hbefore, hmore⟩
  | absent => cases hfound
  | link _ _ hpurpose => cases hpurpose
  | @follow links place here start step target rest found hnamed hlink hgo hstart h ih =>
    rcases List.append_eq_cons_iff.1 hall with ⟨rfl, rfl⟩ | ⟨before, rfl, rfl⟩
    · exact ⟨links + 1, place, here, .done, .follow hnamed hlink hgo hstart h⟩
    · -- The steps of the target come before those that are left.
      have hsteps : (retarget place target before).2 ++ more =
          (retarget place target (before ++ more)).2 := List.append_assoc _ _ _
      obtain ⟨links', q', n', hbefore, hmore⟩ := ih hsteps hfound
      exact ⟨links', q', n', .follow { hnamed with file := nofun } hlink nofun hstart hbefore,
        hmore⟩
  | @enter links place here m step rest found hnamed hnode hsolid h ih =>
    rcases List.append_eq_cons_iff.1 hall with ⟨rfl, rfl⟩ | ⟨before, rfl, rfl⟩
    · exact ⟨links, place, here, .done, .enter hnamed hnode hsolid h⟩
    · obtain ⟨links', q', n', hbefore, hmore⟩ := ih rfl hfound
      exact ⟨links', q', n', .enter { hnamed with file := nofun } hnode hsolid hbefore, hmore⟩

/-- Walks along the same steps end in the same way. -/
theorem Walks.unique {found found' : Found} (h : Walks d purpose links place here steps found)
    (h' : Walks d purpose links place here steps found') : found = found' :=
  Except.ok.inj (h.walkWith.symm.trans h'.walkWith)

/-- Steps that stay lead nowhere else. -/
theorem Walks.eq_of_stay (h : Walks d .use links place here steps (.node q n))
    (hstay : ∀ step ∈ steps, isStay step = true) : q = place ∧ n = here := by
  generalize hfound : Found.node q n = found at h
  induction h with
  | done =>
    obtain ⟨rfl, rfl⟩ := Found.node.inj hfound
    exact ⟨rfl, rfl⟩
  | stay _ _ _ ih => exact ih (fun s hs => hstay s (List.mem_cons_of_mem _ hs)) hfound
  | up => exact absurd (hstay _ List.mem_cons_self) (by decide)
  | absent hnamed => exact absurd (hstay _ List.mem_cons_self) (by simp [hnamed.goes])
  | link hnamed => exact absurd (hstay _ List.mem_cons_self) (by simp [hnamed.goes])
  | follow hnamed => exact absurd (hstay _ List.mem_cons_self) (by simp [hnamed.goes])
  | enter hnamed => exact absurd (hstay _ List.mem_cons_self) (by simp [hnamed.goes])

/-- A walk by the name of an entry leads to the entry, unless that is a link: the name neither stays
nor climbs. -/
theorem Walks.entry {name : String} {m : Node}
    (h : Walks d .use links place here [name] (.node q n))
    (hname : FileName name) (hnode : d.get? (place ++ [name]) = some m)
    (hsolid : ∀ target, m ≠ .link target) : q = place ++ [name] := by
  have hgoes : isStay name = false := by
    have hproper := hname.1.1
    rw [FsPath.isName, Bool.not_eq_true'] at hproper
    rw [isStay, Bool.eq_false_iff]
    intro hstay
    rcases Bool.or_eq_true_iff.1 hstay with heq | heq
    · rw [beq_iff_eq] at heq
      rw [heq] at hproper
      exact absurd hproper (by decide)
    · rw [beq_iff_eq] at heq
      rw [heq] at hproper
      exact absurd hproper (by decide)
  cases h with
  | stay _ hstay _ => exact absurd hstay (by simp [hgoes])
  | up => exact absurd rfl hname.2
  | link _ _ hpurpose => cases hpurpose
  | follow _ hlink _ _ _ => exact absurd (Option.some.inj (hnode.symm.trans hlink)) (hsolid _)
  | enter _ _ _ hrest =>
    cases hrest
    rfl

end Parts

end Disk

/-! ### Paths to entries -/

namespace Host

variable {h : Host} {p q : FsPath} {name : String}

theorem text_child (hnames : p.names ≠ []) (name : String) :
    (p.child name).text = p.text ++ "/" ++ name := by
  have hne : p.names.map String.toList ≠ [] := by simpa using hnames
  have hjoin : Text.joinText '/' (p.child name).names =
      Text.joinText '/' p.names ++ "/" ++ name := by
    rw [FsPath.child, Text.joinText, List.map_append, List.map_singleton,
      Text.joinFields_snoc hne, ← String.toList_inj]
    simp [Text.joinText]
  have hchild : (p.child name).names ≠ [] :=
    List.append_ne_nil_of_right_ne_nil _ (List.cons_ne_nil name [])
  rw [FsPath.text, if_neg fun hdot => hchild hdot.2, FsPath.text, if_neg fun hdot => hnames hdot.2,
    hjoin, String.append_assoc, String.append_assoc, String.append_assoc]
  rfl

theorem text_child_of_nil (hnames : p.names = []) (name : String) :
    (p.child name).text = p.anchor.text ++ name := by
  have hchild : (p.child name).names = [name] := by rw [FsPath.child, hnames, List.nil_append]
  rw [FsPath.text, hchild, if_neg fun hdot => List.cons_ne_nil name [] hdot.2]
  congr 1
  rw [Text.joinText, List.map_singleton, Text.joinFields, String.ofList_toList]

/-- A text that ends where a name can begin. -/
def EndsOpen (text : String) : Prop := text = "" ∨ ∃ front, text = front ++ "/"

/-- A directory is ready to have names put behind it. -/
theorem endsOpen_closed (dir : String) : EndsOpen (closed dir) := by
  unfold closed
  split
  · next hlast =>
    rcases List.eq_nil_or_concat dir.toList with hnil | ⟨cs, c, hdir⟩
    · exact Or.inl (String.toList_eq_nil_iff.1 hnil)
    · rw [List.concat_eq_append] at hdir
      rw [hdir, List.getLast?_append, List.getLast?_singleton] at hlast
      obtain rfl : c = '/' := hlast
      refine Or.inr ⟨String.ofList cs, ?_⟩
      rw [← String.toList_inj, hdir, String.toList_append, String.toList_ofList]
      rfl
  · exact Or.inr ⟨dir, rfl⟩

/-- A name behind such a text is a step of its own. -/
theorem EndsOpen.splitText {text : String} (h : EndsOpen text) :
    ∃ base, ∀ last : String, '/' ∉ last.toList →
      Text.splitText '/' (text ++ last) = base ++ [last] := by
  rcases h with rfl | ⟨front, rfl⟩
  · refine ⟨[], fun last hlast => ?_⟩
    rw [String.empty_append, Text.splitText_of_not_mem hlast, List.nil_append]
  · refine ⟨Text.splitText '/' front, fun last hlast => ?_⟩
    rw [Text.splitText_append_slash, Text.splitText_of_not_mem hlast]

/-- The text that a call gets for an entry goes on where that for its directory ends. -/
theorem callText?_child (hnames : p.names ≠ []) (name : String) :
    h.callText? (p.child name) = (h.callText? p).map (· ++ "/" ++ name) := by
  have hisAbsolute : (p.child name).isAbsolute = p.isAbsolute := rfl
  unfold callText?
  rw [hisAbsolute, text_child hnames]
  split
  · rfl
  · cases h.cwd with
    | none => rfl
    | some dir =>
      simp only [Option.map_some, String.append_assoc]

/-- The steps to an entry are those to its directory and its name, but for steps of the directory
that stay where they are. -/
theorem steps_child (hname : '/' ∉ name.toList) {text : String}
    (htext : h.callText? p = some text) :
    ∃ base idle text', h.callText? (p.child name) = some text' ∧
      Text.splitText '/' text = base ++ idle ∧ (∀ step ∈ idle, Disk.isStay step = true) ∧
      Text.splitText '/' text' = base ++ [name] := by
  by_cases hnames : p.names = []
  · -- Without names, a step that stays stands for the directory.
    suffices hopen : ∃ front last, EndsOpen front ∧ text = front ++ last ∧ '/' ∉ last.toList ∧
        Disk.isStay last = true ∧ h.callText? (p.child name) = some (front ++ name) by
      obtain ⟨front, last, hfront, rfl, hlast, hstay, hchild⟩ := hopen
      obtain ⟨base, hbase⟩ := hfront.splitText
      refine ⟨base, [last], _, hchild, hbase last hlast, ?_, hbase name hname⟩
      exact List.forall_mem_singleton.2 hstay
    have hisAbsolute : (p.child name).isAbsolute = p.isAbsolute := rfl
    unfold callText? at htext ⊢
    rw [hisAbsolute, text_child_of_nil hnames]
    obtain ⟨anchor, names⟩ := p
    obtain rfl : names = [] := hnames
    cases anchor with
    | relative =>
      obtain ⟨dir, hcwd, rfl⟩ := Option.map_eq_some_iff.1 htext
      refine ⟨closed dir, ".", endsOpen_closed dir, rfl, by decide, rfl, ?_⟩
      exact Option.map_eq_some_iff.2 ⟨dir, hcwd, congrArg (closed dir ++ ·) String.empty_append⟩
    | root =>
      obtain rfl := Option.some.inj htext
      exact ⟨"/", "", Or.inr ⟨"", rfl⟩, rfl, by decide, rfl, rfl⟩
    | doubleRoot =>
      obtain rfl := Option.some.inj htext
      exact ⟨"//", "", Or.inr ⟨"/", rfl⟩, rfl, by decide, rfl, rfl⟩
  · -- With names, the text of the directory goes on, whether or not another one is put before it.
    refine ⟨Text.splitText '/' text, [], text ++ "/" ++ name, ?_, (List.append_nil _).symm, nofun,
      ?_⟩
    · rw [callText?_child hnames, htext, Option.map_some]
    · rw [Text.splitText_append_slash, Text.splitText_of_not_mem hname]

theorem locate_eq_ok {purpose : Disk.Purpose} {place : Place} {n : Node} :
    h.locate purpose p = .ok (place, n) ↔ h.find purpose p = .ok (.node place n) := by
  unfold locate
  cases h.find purpose p with
  | error e => exact iff_of_false nofun nofun
  | ok found =>
    cases found with
    | absent dir name => exact iff_of_false nofun nofun
    | node place' n' => simp [Except.bind, present]

/-- A path that leads nowhere meets an obstacle. -/
theorem obstacle_of_locate {purpose : Disk.Purpose} {errno : Errno}
    (hlocate : h.locate purpose p = .error errno) : Disk.Obstacle purpose errno := by
  unfold locate at hlocate
  cases hfind : h.find purpose p with
  | ok found =>
    rw [hfind] at hlocate
    cases found with
    | node place n => cases hlocate
    | absent dir name =>
      obtain rfl := Except.error.inj hlocate
      exact .noEntry
  | error errno' =>
    rw [hfind] at hlocate
    obtain rfl : errno' = errno := Except.error.inj hlocate
    unfold find at hfind
    split at hfind
    · obtain rfl := Except.error.inj hfind
      exact .noEntry
    · split at hfind
      · obtain rfl := Except.error.inj hfind
        exact .nameTooLong
      · exact Disk.obstacle_of_walk hfind

/-- A call that succeeds does what it is made for. -/
theorem act_of_guarded {α : Type} {call : Call} {act : Except Errno α} {a : α}
    (hcall : h.guarded call p act = .ok a) : act = .ok a := by
  unfold guarded deny at hcall
  split at hcall
  · cases hcall
  · split at hcall
    · cases hcall
    · split at hcall
      · exact congrArg _ (Except.ok.inj hcall)
      · cases hcall

/-- What is looked at is at a place. -/
theorem locate_of_stat {n : Node} (hstat : h.stat p = .ok n) :
    ∃ place, h.locate .use p = .ok (place, n) := by
  have hact := act_of_guarded hstat
  cases hlocate : h.locate .use p with
  | error e =>
    rw [hlocate] at hact
    cases hact
  | ok found =>
    obtain ⟨place, m⟩ := found
    rw [hlocate] at hact
    obtain rfl : m = n := Except.ok.inj hact
    exact ⟨place, rfl⟩

/-- A directory that can be listed is at a place, and its entries are those of the place. -/
theorem scandir_eq_ok {entries : List (String × Node)} (hlist : h.scandir p = .ok entries) :
    ∃ place n, h.locate .use p = .ok (place, n) ∧ n.isDir = true ∧
      entries = h.disk.entries place := by
  have hact := act_of_guarded hlist
  cases hlocate : h.locate .use p with
  | error e =>
    rw [hlocate] at hact
    cases hact
  | ok found =>
    obtain ⟨place, n⟩ := found
    rw [hlocate] at hact
    change (if n.isDir = true then _ else _) = _ at hact
    split at hact
    · next hdir => exact ⟨place, n, rfl, hdir, (Except.ok.inj hact).symm⟩
    · cases hact

/-- A path that goes on by the name of an entry leads to the place of that entry, unless that is a
link, or nowhere. -/
theorem locate_child {place place' : Place} {n n' m : Node} (hname : FileName name)
    (hdir : h.locate .use p = .ok (place, n)) (hnode : h.disk.get? (place ++ [name]) = some m)
    (hsolid : ∀ target, m ≠ .link target)
    (hchild : h.locate .use (p.child name) = .ok (place', n')) :
    place' = place ++ [name] ∧ n' = m := by
  rw [locate_eq_ok] at hdir hchild
  obtain ⟨text, here, htext, -, hroot, hwalk⟩ := find_eq_ok.1 hdir
  obtain ⟨text', here', htext', -, hroot', hwalk'⟩ := find_eq_ok.1 hchild
  obtain ⟨base, idle, text'', hcall, hsteps, hidle, hsteps'⟩ := steps_child hname.1.2 htext
  obtain rfl : text'' = text' := Option.some.inj (hcall.symm.trans htext')
  obtain rfl : here = here' := Option.some.inj (hroot.node.symm.trans hroot'.node)
  -- Both walks pass the place that the common steps lead to.
  rw [hsteps] at hwalk
  rw [hsteps'] at hwalk'
  obtain ⟨links, q, n₁, hbase, hend⟩ := hwalk.split
  obtain ⟨links', q', n₁', hbase', hend'⟩ := hwalk'.split
  obtain ⟨rfl, rfl⟩ := Disk.Found.node.inj (hbase.unique hbase')
  obtain ⟨rfl, rfl⟩ := hend.eq_of_stay hidle
  obtain rfl := hend'.entry hname hnode hsolid
  exact ⟨rfl, Option.some.inj ((get?_of_find hchild).symm.trans hnode)⟩

/-- A directory, and the directories below it that are reached through entries which are directories
themselves, and not links to directories. -/
inductive Nested (h : Host) : FsPath → FsPath → Prop where
  /-- The directory itself. -/
  | here {p : FsPath} : Nested h p p
  /-- What is nested in an entry. -/
  | within {p q : FsPath} {name : String} {mode : Nat} {entries : List (String × Node)}
    (hlist : h.scandir p = .ok entries) (hentry : (name, .dir mode) ∈ entries)
    (hnested : Nested h (p.child name) q) : Nested h p q

/-- An entry that is a directory leads to its own place. -/
theorem locate_entry (hdisk : h.disk.Sound) {entries : List (String × Node)} {mode : Nat}
    (hlist : h.scandir p = .ok entries) (hentry : (name, .dir mode) ∈ entries) :
    ∃ place n, h.locate .use p = .ok (place, n) ∧ (name, .dir mode) ∈ h.disk.entries place ∧
      ∀ place' n', h.locate .use (p.child name) = .ok (place', n') →
        place' = place ++ [name] ∧ n' = .dir mode := by
  obtain ⟨place, n, hlocate, -, rfl⟩ := scandir_eq_ok hlist
  have hnode := hdisk.get?_of_mem (Disk.mem_entries.1 hentry)
  exact ⟨place, n, hlocate, hentry, fun place' n' hchild =>
    locate_child (hdisk.fileName hentry) hlocate hnode nofun hchild⟩

/-- What is nested in a directory is a directory, if it is anything. -/
theorem Nested.isDir (hdisk : h.disk.Sound) (hnested : h.Nested p q)
    (hdir : ∀ n, h.stat p = .ok n → n.isDir = true) {n : Node} (hstat : h.stat q = .ok n) :
    n.isDir = true := by
  induction hnested with
  | here => exact hdir n hstat
  | @within p q name mode entries hlist hentry _ ih =>
    refine ih (fun m hm => ?_) hstat
    -- The entry is looked up where its directory is.
    obtain ⟨_, _, _, _, hentryAt⟩ := locate_entry hdisk hlist hentry
    obtain ⟨place, hlocate⟩ := locate_of_stat hm
    rw [(hentryAt place m hlocate).2]
    rfl

/-- Directories that lie inside one another take a node of the disk each. -/
theorem Nested.length_le_countBelow (hdisk : h.disk.Sound) (hnested : h.Nested p q)
    {place : Place} {n : Node} (hlocate : h.locate .use p = .ok (place, n)) :
    q.names.length ≤ p.names.length + h.disk.countBelow place := by
  induction hnested generalizing place n with
  | here => exact Nat.le_add_right _ _
  | @within p q name mode entries hlist hentry hnested ih =>
    obtain ⟨place', n', hlocate', hplace, hchild⟩ := locate_entry hdisk hlist hentry
    obtain ⟨rfl, -⟩ := Prod.mk.inj (Except.ok.inj (hlocate.symm.trans hlocate'))
    have hless := Disk.countBelow_lt hplace
    have hlength : (p.child name).names.length = p.names.length + 1 := List.length_append
    cases hbelow : h.locate .use (p.child name) with
    | ok found =>
      obtain ⟨place', m⟩ := found
      have hle := ih hbelow
      rw [(hchild place' m hbelow).1] at hle
      omega
    | error errno =>
      -- The entry cannot be listed, so that nothing else is nested in it.
      cases hnested with
      | here => omega
      | within hlist' =>
        obtain ⟨_, _, hok, -, -⟩ := scandir_eq_ok hlist'
        cases hbelow.symm.trans hok

theorem Nested.length_le (hdisk : h.disk.Sound) (hnested : h.Nested p q) :
    q.names.length ≤ p.names.length + h.disk.nodes.length := by
  cases hlocate : h.locate .use p with
  | ok found =>
    have hle := hnested.length_le_countBelow hdisk hlocate
    have hbelow := h.disk.countBelow_le found.1
    omega
  | error errno =>
    cases hnested with
    | here => exact Nat.le_add_right _ _
    | within hlist =>
      obtain ⟨_, _, hok, -, -⟩ := scandir_eq_ok hlist
      cases hlocate.symm.trans hok

end Host

end IndexSync
