import IndexSync.Host.Basic
import IndexSync.Proofs.Storage.Walk

/-!
# Files that were written

What a host without faults has after it made directories or wrote a file: the directories are there,
the file is read as it was written, and both can be done once more. The path may lead over links and
upwards, and the directories may have been there before.

* `Host.readFile_of_writeFile` — a file is read as it was written;
* `Host.writeFile_again` — it can be written once more;
* `Host.isDir_of_mkdirs` — directories that were made are there;
* `Host.mkdirs_of_isDir` — nothing is made where they are.
-/

namespace IndexSync.Host

open Disk (Purpose Found Walks Reached Placed)

variable {h h' : Host} {p : FsPath}

/-- Without faults, a call is made on every path without a null character. -/
theorem guarded_eq_ok {α : Type} {call : Call} {act : Except Errno α} {a : α}
    (hfaults : h.faults = []) :
    h.guarded call p act = .ok a ↔ '\x00' ∉ p.text.toList ∧ act = .ok a := by
  unfold guarded
  rw [show h.faultOf call p.text = none by simp [faultOf, hfaults]]
  cases hnull : p.text.toList.contains '\x00' with
  | true =>
    have hmem : '\x00' ∈ p.text.toList := List.contains_iff_mem.1 hnull
    simp [hmem]
  | false =>
    have hmem : '\x00' ∉ p.text.toList := fun hmem => by
      rw [List.contains_iff_mem.2 hmem] at hnull
      cases hnull
    cases act <;> simp [deny, hmem]

/-- A call that fails by itself fails on its path. -/
theorem guarded_eq_error {α : Type} {call : Call} {act : Except Errno α} {errno : Errno}
    (hfaults : h.faults = []) (htext : '\x00' ∉ p.text.toList) (hact : act = .error errno) :
    h.guarded call p act = .error (.system errno (some p.text)) := by
  have hnull : p.text.toList.contains '\x00' = false := by
    simpa using htext
  rw [guarded.eq_def, hnull, show h.faultOf call p.text = none by simp [faultOf, hfaults], hact]
  rfl

/-- A call fails on the path that it is made on. -/
theorem eq_of_guarded {α : Type} {call : Call} {act : Except Errno α} {e : Failure}
    (hcall : h.guarded call p act = .error e) :
    e = .nullByte ∨ ∃ errno, e = .system errno (some p.text) := by
  unfold guarded deny at hcall
  split at hcall
  · exact Or.inl (Except.error.inj hcall).symm
  · split at hcall
    · exact Or.inr ⟨_, (Except.error.inj hcall).symm⟩
    · split at hcall
      · cases hcall
      · exact Or.inr ⟨_, (Except.error.inj hcall).symm⟩

/-- A path leads somewhere by a walk from the root. -/
theorem find_eq_ok {purpose : Purpose} {found : Found} :
    h.find purpose p = .ok found ↔ ∃ text here, h.callText? p = some text ∧
      (Text.Utf8.encode text).length < maxPathBytes ∧ Reached h.disk [] here ∧
      Walks h.disk purpose Disk.maxLinks [] here (Text.splitText '/' text) found := by
  unfold find
  cases h.callText? p with
  | none => simp
  | some text =>
    dsimp only
    split
    · next hlong => simp [Nat.not_lt.2 hlong]
    · next hshort =>
      rw [Disk.lookup, Disk.walk_eq_ok]
      constructor
      · rintro ⟨here, hhere, hwalk⟩
        exact ⟨text, here, rfl, Nat.not_le.1 hshort, Disk.reached_root hhere, hwalk⟩
      · rintro ⟨text, here, ⟨⟩, -, hreached, hwalk⟩
        exact ⟨here, hreached.node, hwalk⟩

/-- A path leads to the same place for purposes whose walks agree. -/
theorem find_of_walks {purpose purpose' : Purpose} {found found' : Found}
    (hwalks : ∀ {here : Node} {steps : List String}, Reached h.disk [] here →
      Walks h.disk purpose Disk.maxLinks [] here steps found →
      Walks h.disk purpose' Disk.maxLinks [] here steps found')
    (hfind : h.find purpose p = .ok found) : h.find purpose' p = .ok found' := by
  obtain ⟨text, here, htext, hshort, hreached, hwalk⟩ := find_eq_ok.1 hfind
  exact find_eq_ok.2 ⟨text, here, htext, hshort, hreached, hwalks hreached hwalk⟩

/-- The node at the end of a path is the node of its place. -/
theorem get?_of_find {purpose : Purpose} {q : Place} {n : Node}
    (hfind : h.find purpose p = .ok (.node q n)) : h.disk.get? q = some n := by
  obtain ⟨_, _, _, _, hreached, hwalk⟩ := find_eq_ok.1 hfind
  exact hwalk.get? hreached

/-- Once a node is put at a place, all paths lead where they led, and those to the place lead to
the node. -/
theorem find_placed {purpose : Purpose} {d : Disk} {place : Place} {n : Node} {found : Found}
    (hplaced : Placed h.disk d place n) (hfind : h.find purpose p = .ok found)
    (hfit : ∀ dir name, found = .absent dir name → purpose = .create ∨ n.isDir = true) :
    { h with disk := d }.find purpose p = .ok (found.settle place n) := by
  obtain ⟨text, here, htext, hshort, hreached, hwalk⟩ := find_eq_ok.1 hfind
  obtain ⟨here', hhere'⟩ := hplaced.exists_node hreached.node
  exact find_eq_ok.2 ⟨text, here', htext, hshort, Disk.reached_root hhere',
    hwalk.placed hplaced hreached hhere' hfit⟩

/-! ### Making a node -/

/-- Where a path led to nothing or a file, it leads to the node that is put there. -/
theorem find_set {purpose : Purpose} {found : Found} (hfind : h.find purpose p = .ok found)
    (place : Place) (n : Node) (hend : found.settle place n = .node place n)
    (hold : ∀ m, h.disk.get? place = some m → m.isFile = true) (hn : ∀ target, n ≠ .link target)
    (hfit : purpose = .create ∨ n.isDir = true) :
    { h with disk := h.disk.set place n }.find purpose p = .ok (.node place n) :=
  hend ▸ find_placed (Disk.placed_set hold hn) hfind fun _ _ _ => hfit

/-- There is nothing where a path ends without a node. -/
theorem get?_of_find_absent {purpose : Purpose} {dir : Place} {name : String}
    (hfind : h.find purpose p = .ok (.absent dir name)) : h.disk.get? (dir ++ [name]) = none := by
  obtain ⟨_, _, _, _, _, hwalk⟩ := find_eq_ok.1 hfind
  exact hwalk.get?_absent

/-- A written file is where its path leads, and nothing else of the host has changed. -/
structure Wrote (h : Host) (p : FsPath) (data : List UInt8) (h' : Host) : Prop where
  text : '\x00' ∉ p.text.toList
  made : ∃ place mode, h' = { h with disk := h.disk.set place (.file (.bytes data) mode) } ∧
    (∀ m, h.disk.get? place = some m → m.isFile = true) ∧
    h'.find .create p = .ok (.node place (.file (.bytes data) mode))

theorem wrote_of_writeFile {data : List UInt8} (hfaults : h.faults = [])
    (hwrite : h.writeFile p data = .ok h') : Wrote h p data h' := by
  obtain ⟨htext, hact⟩ := (guarded_eq_ok hfaults).1 hwrite
  refine ⟨htext, ?_⟩
  cases hfind : h.find .create p with
  | error e =>
    rw [hfind] at hact
    cases hact
  | ok found =>
    rw [hfind] at hact
    -- The file is put where the path ends, at its place or in its directory.
    have key : ∀ (place : Place) (mode : Nat),
        found.settle place (.file (.bytes data) mode) = .node place (.file (.bytes data) mode) →
        (∀ m, h.disk.get? place = some m → m.isFile = true) →
        h' = { h with disk := h.disk.set place (.file (.bytes data) mode) } →
        ∃ place mode, h' = { h with disk := h.disk.set place (.file (.bytes data) mode) } ∧
          (∀ m, h.disk.get? place = some m → m.isFile = true) ∧
          h'.find .create p = .ok (.node place (.file (.bytes data) mode)) := by
      rintro place mode hend hold rfl
      exact ⟨place, mode, rfl, hold, find_set hfind place _ hend hold nofun (.inl rfl)⟩
    cases found with
    | node place n =>
      have hnode := get?_of_find hfind
      cases n with
      | file content mode =>
        exact key place mode (by simp [Disk.Found.settle]) (by simp [hnode, Node.isFile])
          (Except.ok.inj hact).symm
      | socket listener mode =>
        exact key place mode (by simp [Disk.Found.settle]) (by simp [hnode, Node.isFile])
          (Except.ok.inj hact).symm
      | dir mode => cases hact
      | link target => cases hact
    | absent dir name =>
      have hnone := get?_of_find_absent hfind
      exact key (dir ++ [name]) Node.fileMode (by simp [Disk.Found.settle]) (by simp [hnone])
        (Except.ok.inj hact).symm

/-- A file is read as it was written. -/
theorem readFile_of_writeFile {data : List UInt8} (hfaults : h.faults = [])
    (hwrite : h.writeFile p data = .ok h') : h'.readFile p = .ok data := by
  obtain ⟨htext, place, mode, rfl, hold, hfind⟩ := wrote_of_writeFile hfaults hwrite
  have huse := find_of_walks (fun _ hwalk => hwalk.use_of_create) hfind
  refine (guarded_eq_ok hfaults).2 ⟨htext, ?_⟩
  rw [locate, huse]
  rfl

/-- Something exists where a file was written. -/
theorem exists?_of_writeFile {data : List UInt8} (hfaults : h.faults = [])
    (hwrite : h.writeFile p data = .ok h') : h'.exists? p = .ok true := by
  obtain ⟨htext, place, mode, rfl, hold, hfind⟩ := wrote_of_writeFile hfaults hwrite
  have huse := find_of_walks (fun _ hwalk => hwalk.use_of_create) hfind
  have hstat : { h with disk := h.disk.set place (.file (.bytes data) mode) }.stat p =
      .ok (.file (.bytes data) mode) := by
    refine (guarded_eq_ok hfaults).2 ⟨htext, ?_⟩
    rw [locate, huse]
    rfl
  rw [exists?, probe, hstat]

/-- A file that is there can be written. -/
theorem writeFile_of_find {place : Place} {content : Content} {mode : Nat}
    (hfaults : h.faults = []) (htext : '\x00' ∉ p.text.toList)
    (hfind : h.find .create p = .ok (.node place (.file content mode))) (data : List UInt8) :
    h.writeFile p data =
      .ok { h with disk := h.disk.set place (.file (.bytes data) mode) } := by
  refine (guarded_eq_ok hfaults).2 ⟨htext, ?_⟩
  rw [hfind]
  rfl

/-- A file that was written can be written once more. -/
theorem writeFile_again {data : List UInt8} (hfaults : h.faults = [])
    (hwrite : h.writeFile p data = .ok h') (data' : List UInt8) :
    ∃ h'', h'.writeFile p data' = .ok h'' := by
  obtain ⟨htext, place, mode, hmade, -, hfind⟩ := wrote_of_writeFile hfaults hwrite
  have hfaults' : h'.faults = [] := by rw [hmade, hfaults]
  exact ⟨_, writeFile_of_find hfaults' htext hfind data'⟩

/-! ### Directories -/

/-- There is a directory at a path if the path leads to one. -/
theorem isDir_eq_true (hfaults : h.faults = []) :
    h.isDir p = .ok true ↔ '\x00' ∉ p.text.toList ∧
      ∃ place mode, h.find .use p = .ok (.node place (.dir mode)) := by
  constructor
  · intro hdir
    unfold isDir probe at hdir
    split at hdir
    · next n hstat =>
      obtain ⟨mode, rfl⟩ := Disk.eq_dir_of_isDir (Except.ok.inj hdir)
      obtain ⟨htext, hlocate⟩ := (guarded_eq_ok hfaults).1 hstat
      refine ⟨htext, ?_⟩
      unfold locate at hlocate
      cases hfind : h.find .use p with
      | error e => rw [hfind] at hlocate; cases hlocate
      | ok found =>
        rw [hfind] at hlocate
        cases found with
        | node place n => cases hlocate; exact ⟨place, mode, rfl⟩
        | absent => cases hlocate
    · cases hdir
    · split at hdir <;> cases hdir
    · cases hdir
  · rintro ⟨htext, place, mode, hfind⟩
    have hstat : h.stat p = .ok (.dir mode) := by
      refine (guarded_eq_ok hfaults).2 ⟨htext, ?_⟩
      rw [locate, hfind]
      rfl
    rw [isDir, probe, hstat]
    rfl

/-- A directory stays where it is when a file is written. -/
theorem isDir_of_writeFile {q : FsPath} {data : List UInt8} (hfaults : h.faults = [])
    (hdir : h.isDir q = .ok true) (hwrite : h.writeFile p data = .ok h') :
    h'.isDir q = .ok true := by
  obtain ⟨hnull, dir, dirMode, hfind⟩ := (isDir_eq_true hfaults).1 hdir
  obtain ⟨-, place, mode, hmade, hold, -⟩ := wrote_of_writeFile hfaults hwrite
  have hne : dir ≠ place := fun heq => by cases hold _ (heq ▸ get?_of_find hfind)
  have hplaced : Placed h.disk h'.disk place (.file (.bytes data) mode) := by
    rw [hmade]
    exact Disk.placed_set hold nofun
  have hfind' : h'.find .use q = .ok (.node dir (.dir dirMode)) := by
    have hsettled := find_placed hplaced hfind fun _ _ heq => by cases heq
    rw [Disk.Found.settle, if_neg hne] at hsettled
    rw [hmade] at hsettled ⊢
    exact hsettled
  have hfaults' : h'.faults = [] := by rw [hmade, hfaults]
  exact (isDir_eq_true hfaults').2 ⟨hnull, dir, dirMode, hfind'⟩

/-- A directory that was made is there. -/
theorem isDir_of_mkdir {mode : Nat} (hfaults : h.faults = []) (hmake : h.mkdir p mode = .ok h') :
    h'.isDir p = .ok true ∧ h'.faults = [] := by
  obtain ⟨htext, hact⟩ := (guarded_eq_ok hfaults).1 hmake
  cases hfind : h.find .inspect p with
  | error e =>
    rw [hfind] at hact
    cases hact
  | ok found =>
    rw [hfind] at hact
    cases found with
    | node place n => cases hact
    | absent dir name =>
      have hmade := (Except.ok.inj hact).symm
      have hfaults' : h'.faults = [] := by rw [hmade, hfaults]
      have hnone := get?_of_find_absent hfind
      have hfind' := find_set hfind (dir ++ [name]) (.dir mode) (by simp [Disk.Found.settle])
        (by simp [hnone]) (fun _ heq => by cases heq) (.inr rfl)
      rw [← hmade] at hfind'
      refine ⟨(isDir_eq_true hfaults').2 ⟨htext, dir ++ [name], mode, ?_⟩, hfaults'⟩
      exact find_of_walks (fun _ hwalk => hwalk.use_of_inspect fun _ _ heq => by cases heq) hfind'

/-- A directory that is tolerated is there. -/
theorem isDir_of_tolerate {e : Failure} (htolerate : h.tolerate p e = .ok ()) :
    h.isDir p = .ok true := by
  unfold tolerate at htolerate
  split at htolerate
  · split at htolerate
    · cases htolerate
    · split at htolerate
      · assumption
      · cases htolerate
      · cases htolerate
  · cases htolerate

/-- After a directory was made unless it was there, it is there. -/
theorem isDir_of_mkdirOnce {mode : Nat} {r : Except Failure Unit} (hfaults : h.faults = [])
    (hmake : h.mkdirOnce p mode = (r, h')) :
    (r = .ok () → h'.isDir p = .ok true) ∧ h'.faults = [] := by
  unfold mkdirOnce at hmake
  split at hmake
  · next hmkdir =>
    obtain ⟨rfl, rfl⟩ := Prod.mk.inj hmake
    obtain ⟨hdir, hfaults'⟩ := isDir_of_mkdir hfaults hmkdir
    exact ⟨fun _ => hdir, hfaults'⟩
  · obtain ⟨rfl, rfl⟩ := Prod.mk.inj hmake
    exact ⟨isDir_of_tolerate, hfaults⟩

/-- After a directory was made along with those above it, it is there. The induction is on how far
up directories are made. -/
theorem isDir_of_makeDirs {bound mode : Nat} {r : Except Failure Unit} (hfaults : h.faults = [])
    (hmake : makeDirs bound h p mode = (r, h')) :
    (r = .ok () → h'.isDir p = .ok true) ∧ h'.faults = [] := by
  induction bound generalizing h h' p mode r with
  | zero => exact isDir_of_mkdirOnce hfaults hmake
  | succ bound ih =>
    rw [makeDirs] at hmake
    dsimp only at hmake
    cases honce : h.mkdirOnce p mode with
    | mk r₁ h₁ =>
      have h₁faults := (isDir_of_mkdirOnce hfaults honce).2
      rw [honce] at hmake
      split at hmake
      · split at hmake
        · next h₂ hup => exact isDir_of_mkdirOnce (ih h₁faults hup).2 hmake
        · next hfail =>
          have hall := ih h₁faults hmake
          refine ⟨fun hr => ?_, hall.2⟩
          exact absurd (hr ▸ hmake) (hfail h')
      · obtain ⟨rfl, rfl⟩ := Prod.mk.inj hmake
        exact isDir_of_mkdirOnce hfaults honce

/-- Directories that were made are there. -/
theorem isDir_of_mkdirs {mode : Nat} (hfaults : h.faults = [])
    (hmake : h.mkdirs p mode = (.ok (), h')) : h'.isDir p = .ok true ∧ h'.faults = [] :=
  (isDir_of_makeDirs hfaults hmake).imp_left fun hdir => hdir rfl

/-- A directory that is there is not made. -/
theorem mkdirOnce_of_isDir (hfaults : h.faults = []) (hdir : h.isDir p = .ok true) (mode : Nat) :
    h.mkdirOnce p mode = (.ok (), h) := by
  obtain ⟨htext, place, dirMode, hfind⟩ := (isDir_eq_true hfaults).1 hdir
  obtain ⟨text, here, hcall, hshort, hreached, hwalk⟩ := find_eq_ok.1 hfind
  obtain ⟨q, n, hinspect⟩ := hwalk.inspect_of_use
  have hfind' := find_eq_ok.2 ⟨text, here, hcall, hshort, hreached, hinspect⟩
  have hmkdir : h.mkdir p mode = .error (.system Errno.alreadyExists (some p.text)) :=
    guarded_eq_error hfaults htext (by rw [hfind']; rfl)
  rw [mkdirOnce, hmkdir]
  dsimp only
  rw [tolerate, if_neg (by decide), hdir]

/-- Nothing is made where the directories are. -/
theorem mkdirs_of_isDir (hfaults : h.faults = []) (hdir : h.isDir p = .ok true) (mode : Nat) :
    h.mkdirs p mode = (.ok (), h) := by
  have honce := mkdirOnce_of_isDir hfaults hdir mode
  rw [mkdirs]
  cases p.names.length with
  | zero => exact honce
  | succ bound =>
    rw [makeDirs, honce]
    rfl

end IndexSync.Host
