import IndexSync.Proofs.Storage.Probing

/-!
# Files that are written over

A path leads where it led before, and meets the same obstacles, if nothing but the contents of files
has changed. So writing over a file neither makes nor hides anything. This needs more than that
walks which succeed still do: those that fail must fail in the same way.

* `Disk.walk_map` — walks on a disk whose files have other contents;
* `Host.exists?_of_overwrite` — what exists after a file was written over;
* `Host.isDir_of_exists_child` — what exists is in a directory.
-/

namespace IndexSync

namespace Disk

variable {d d' : Disk} {f : Place → Node → Node} {purpose : Purpose}

/-- A change of nodes that makes files of files, and keeps all others as they are. -/
structure ChangesFiles (f : Place → Node → Node) : Prop where
  other : ∀ q m, m.isFile = false → f q m = m
  file : ∀ q m, m.isFile = true → (f q m).isFile = true

theorem ChangesFiles.dir (hf : ChangesFiles f) (q : Place) (mode : Nat) :
    f q (.dir mode) = .dir mode := hf.other q _ rfl

theorem ChangesFiles.link (hf : ChangesFiles f) (q : Place) (target : String) :
    f q (.link target) = .link target := hf.other q _ rfl

theorem ChangesFiles.isDir (hf : ChangesFiles f) (q : Place) (m : Node) :
    (f q m).isDir = m.isDir := by
  cases hm : m.isFile with
  | false => rw [hf.other q m hm]
  | true =>
    have hfile := hf.file q m hm
    cases m <;> cases hn : f q _ <;> simp_all [Node.isFile, Node.isDir]

/-- Where a walk ends once the nodes are changed. -/
def Found.change (f : Place → Node → Node) : Found → Found
  | .node q m => .node q (f q m)
  | .absent dir name => .absent dir name

/-- A walk on a disk with changed files goes the same way, if the walks behind links do. -/
theorem walkWith_map (hf : ChangesFiles f) (hget : ∀ q, d'.get? q = (d.get? q).map (f q))
    {onLink onLink' : Place → List String → Except Errno Found}
    (hlinks : ∀ start rest, onLink' start rest = (onLink start rest).map (Found.change f))
    (place : Place) (here : Node) (steps : List String) :
    walkWith d' purpose onLink' place (f place here) steps =
      (walkWith d purpose onLink place here steps).map (Found.change f) := by
  induction steps generalizing place here with
  | nil =>
    rw [walkWith, walkWith]
    rfl
  | cons step rest ih =>
    -- Where the parent is not listed, both walks take it for a plain directory.
    have hup : (d'.get? place.dropLast).getD (.dir Node.dirMode) =
        f place.dropLast ((d.get? place.dropLast).getD (.dir Node.dirMode)) := by
      rw [hget]
      cases d.get? place.dropLast with
      | none => exact (hf.dir _ _).symm
      | some m => rfl
    rw [walkWith, walkWith, hf.isDir]
    dsimp only
    rw [hup, hget]
    split
    · rfl
    split
    · exact ih place here
    split
    · exact ih _ _
    split
    · rfl
    split
    · rfl
    cases hnode : d.get? (place ++ [step]) with
    | none =>
      dsimp only [Option.map_none]
      split <;> rfl
    | some m =>
      rw [Option.map_some]
      cases m with
      | link target =>
        rw [hf.link]
        dsimp only
        split
        · exact congrArg Except.ok (congrArg (Found.node _) (hf.link _ _).symm)
        · exact hlinks _ _
      | dir mode =>
        rw [← ih, hf.dir]
      | file content mode =>
        rw [← ih]
        have hfile := hf.file (place ++ [step]) (.file content mode) rfl
        cases hn : f (place ++ [step]) (.file content mode) <;> simp_all [Node.isFile]
      | socket listener mode =>
        rw [← ih]
        have hfile := hf.file (place ++ [step]) (.socket listener mode) rfl
        cases hn : f (place ++ [step]) (.socket listener mode) <;> simp_all [Node.isFile]

/-- A walk on a disk with changed files goes the same way. -/
theorem walk_map (hf : ChangesFiles f) (hget : ∀ q, d'.get? q = (d.get? q).map (f q))
    (links : Nat) (place : Place) (steps : List String) :
    d'.walk purpose links place steps =
      (d.walk purpose links place steps).map (Found.change f) := by
  induction links generalizing place steps with
  | zero =>
    rw [walk_eq, walk_eq, hget]
    cases d.get? place with
    | none => rfl
    | some here =>
      have hlinks : ∀ start rest, d'.atLink purpose 0 start rest =
          (d.atLink purpose 0 start rest).map (Found.change f) := fun _ _ => rfl
      exact walkWith_map hf hget hlinks place here steps
  | succ links ih =>
    rw [walk_eq, walk_eq, hget]
    cases d.get? place with
    | none => rfl
    | some here => exact walkWith_map hf hget ih place here steps

/-- Only a directory leads on. -/
theorem Walks.isDir_of_cons {links : Nat} {place : Place} {here : Node} {step : String}
    {rest : List String} {found : Found}
    (h : Walks d purpose links place here (step :: rest) found) : here.isDir = true := by
  cases h with
  | stay hdir => exact hdir
  | up hdir => exact hdir
  | absent hnamed => exact hnamed.dir
  | link hnamed => exact hnamed.dir
  | follow hnamed => exact hnamed.dir
  | enter hnamed => exact hnamed.dir

/-- What becomes of the nodes of a disk when the file at a place is written over by another one. -/
def overwrite (p : Place) (n : Node) (q : Place) (m : Node) : Node :=
  if q = p ∧ m.isFile = true then n else m

theorem overwrite_changesFiles {n : Node} (hn : n.isFile = true) (p : Place) :
    ChangesFiles (overwrite p n) where
  other q m hm := if_neg fun h => by rw [hm] at h; cases h.2
  file q m hm := by
    rw [overwrite]
    split
    · exact hn
    · exact hm

/-- Putting a file in place of a file writes over it. -/
theorem get?_overwrite {p : Place} {n old : Node} (hold : d.get? p = some old)
    (hfile : old.isFile = true) (q : Place) :
    (d.set p n).get? q = (d.get? q).map (overwrite p n q) := by
  rw [get?_set]
  split
  · next heq =>
    subst heq
    rw [hold, Option.map_some, overwrite, if_pos ⟨rfl, hfile⟩]
  · next hne =>
    cases d.get? q with
    | none => rfl
    | some m => rw [Option.map_some, overwrite, if_neg fun h => hne h.1]

end Disk

namespace Host

open Disk (Found ChangesFiles)

variable {h h' : Host} {p : FsPath} {name : String} {data : List UInt8}

/-- What is done with the result of a call does not matter to the call. -/
theorem guarded_map {α β : Type} (call : Call) (act : Except Errno α) (g : α → β) :
    h.guarded call p (act.map g) = (h.guarded call p act).map g := by
  unfold guarded deny
  split
  · rfl
  · split
    · rfl
    · cases act <;> rfl

/-- The same paths exist on a host whose files have other contents. -/
theorem exists?_map {f : Place → Node → Node} {d : Disk} (hf : ChangesFiles f)
    (hget : ∀ q, d.get? q = (h.disk.get? q).map (f q)) (p : FsPath) :
    { h with disk := d }.exists? p = h.exists? p := by
  have hfind : { h with disk := d }.find .use p = (h.find .use p).map (Found.change f) := by
    have hcall : { h with disk := d }.callText? p = h.callText? p := rfl
    rw [find, find, hcall]
    cases h.callText? p with
    | none => rfl
    | some text =>
      dsimp only
      split
      · rfl
      · exact Disk.walk_map hf hget _ _ _
  have hlocate : { h with disk := d }.locate .use p =
      (h.locate .use p).map fun found => (found.1, f found.1 found.2) := by
    unfold locate
    rw [hfind]
    rcases h.find .use p with errno | ⟨place, n⟩ | ⟨dir, name⟩ <;> rfl
  have hstat : { h with disk := d }.stat p =
      ((h.guarded .stat p (h.locate .use p)).map fun found => (found.1, f found.1 found.2)).map
        Prod.snd := by
    rw [← guarded_map, ← guarded_map, ← hlocate]
    rfl
  -- A probe for anything does not look at the node.
  rw [exists?, exists?, probe_eq, probe_eq, hstat, stat, guarded_map]
  cases h.guarded .stat p (h.locate .use p) with
  | ok found => rfl
  | error e => rfl

/-- What exists is at a place. -/
theorem exists_find_of_exists? (hexists : h.exists? p = .ok true) :
    ∃ place n, h.find .use p = .ok (.node place n) := by
  obtain ⟨n, hstat, -⟩ := probe_eq_true.1 hexists
  obtain ⟨place, hlocate⟩ := locate_of_stat hstat
  exact ⟨place, n, locate_eq_ok.1 hlocate⟩

/-- Writing to a file that exists writes over it: the same paths exist. -/
theorem exists?_of_overwrite (hfaults : h.faults = []) (hexists : h.exists? p = .ok true)
    (hwrite : h.writeFile p data = .ok h') (q : FsPath) : h'.exists? q = h.exists? q := by
  obtain ⟨-, hact⟩ := (guarded_eq_ok hfaults).1 hwrite
  obtain ⟨place, n, huse⟩ := exists_find_of_exists? hexists
  cases hfind : h.find .create p with
  | error errno =>
    rw [hfind] at hact
    cases hact
  | ok found =>
    -- What writing finds is what the path leads to.
    obtain rfl : found = .node place n := by
      have huse' := find_of_walks (fun _ hwalk => hwalk.use_of_create) hfind
      exact Except.ok.inj (huse'.symm.trans huse)
    rw [hfind] at hact
    have hnode := get?_of_find hfind
    cases n with
    | dir mode => cases hact
    | link target => cases hact
    | file content mode =>
      obtain rfl := Except.ok.inj hact
      exact exists?_map (Disk.overwrite_changesFiles rfl place) (Disk.get?_overwrite hnode rfl) q
    | socket listener mode =>
      obtain rfl := Except.ok.inj hact
      exact exists?_map (Disk.overwrite_changesFiles rfl place) (Disk.get?_overwrite hnode rfl) q

/-- What exists behind a name is in a directory. -/
theorem isDir_of_exists_child (hfaults : h.faults = []) (hnames : p.names ≠ [])
    (hname : '/' ∉ name.toList) (hexists : h.exists? (p.child name) = .ok true) :
    h.isDir p = .ok true := by
  have hnull : NullFree p.text := by
    have hchild := nullFree_of_probe hexists
    rw [text_child hnames] at hchild
    intro hmem
    exact hchild (by simp [hmem])
  obtain ⟨place, n, hfind⟩ := exists_find_of_exists? hexists
  obtain ⟨text', here, htext', hshort, hreached, hwalk⟩ := find_eq_ok.1 hfind
  rw [callText?_child hnames] at htext'
  obtain ⟨text, htext, rfl⟩ := Option.map_eq_some_iff.1 htext'
  rw [Text.splitText_append_slash, Text.splitText_of_not_mem hname] at hwalk
  -- The walk has passed a node before its last step, which only leads on from a directory.
  obtain ⟨links, q, m, hbase, hlast⟩ := hwalk.split
  obtain ⟨mode, rfl⟩ := Disk.eq_dir_of_isDir hlast.isDir_of_cons
  have hless : (Text.Utf8.encode text).length < maxPathBytes := by
    simp only [Text.Utf8.encode, String.toList_append, List.flatMap_append,
      List.length_append] at hshort ⊢
    omega
  exact (isDir_eq_true hfaults).2
    ⟨hnull, q, mode, find_eq_ok.2 ⟨text, here, htext, hless, hreached, hbase⟩⟩

end Host

end IndexSync
