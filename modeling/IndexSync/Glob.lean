import IndexSync.Host.Basic
import IndexSync.Pattern

/-!
# Matching patterns on a disk

The paths below a directory that a pattern selects, in the order in which directories list their
entries. A denied call ends the matches of the segment it was made for and keeps what was found
before; any other failed call ends the whole selection, and so does a walk through more directories
inside one another than the stack allows for.
-/

namespace IndexSync

/-- What was selected before a selection ended, and the failure that ended it early. -/
structure Selection where
  /-- The selected paths, in order. -/
  found : List FsPath
  /-- The failure that ended the selection. -/
  stopped : Option Failure := none

namespace Selection

/-- Nothing is selected. -/
def none : Selection := ⟨[], .none⟩

/-- One path is selected. -/
def single (p : FsPath) : Selection := ⟨[p], .none⟩

/-- The selection ends with a failure. -/
def stop (e : Failure) : Selection := ⟨[], some e⟩

/-- One selection after the other; the second is not begun if the first ended early. -/
def append (s t : Selection) : Selection :=
  match s.stopped with
  | some e => ⟨s.found, some e⟩
  | .none => ⟨s.found ++ t.found, t.stopped⟩

/-- Selections one after the other, for every element of a list. -/
def forEach {α : Type} (f : α → Selection) : List α → Selection
  | [] => none
  | a :: as => (f a).append (forEach f as)

/-- A denial ends a selection without failing it. -/
def absorb (s : Selection) : Selection :=
  match s.stopped with
  | some (.system errno _) => if errno.isDenial then ⟨s.found, .none⟩ else s
  | _ => s

/-- Go on if a test succeeds. -/
def guarded (test : Except Failure Bool) (s : Selection) : Selection :=
  match test with
  | .ok true => s
  | .ok false => none
  | .error e => stop e

end Selection

/-- A directory entry leads to a directory. Links that lead nowhere do not. The entry knows where
it leads, so that no call is made that could be bound to fail. -/
def Host.entryIsDir (h : Host) (p : FsPath) : Node → Except Failure Bool
  | .dir _ => .ok true
  | .link _ =>
    match h.locate .use p with
    | .ok (_, n) => .ok n.isDir
    | .error errno => if errno.isAbsence then .ok false else Host.deny errno p
  | _ => .ok false

/-- What a walk through nested directories is told of an entry. It does not go into links, but where
it looks at what they lead to, that can fail. -/
def Host.nestedIsDir (h : Host) (p : FsPath) (n : Node) : Except Failure Bool :=
  if h.probesLinks then h.entryIsDir p n else .ok n.isDir

/-- A directory and all directories below it, links not followed, on `depth` levels. What comes of a
directory further down is up to `edge`. -/
def Host.directories (h : Host) (edge : FsPath → Selection) : Nat → FsPath → Selection
  | 0, p => edge p
  | depth + 1, p =>
    (Selection.single p).append
      (match h.scandir p with
        | .error e => (Selection.stop e).absorb
        | .ok entries =>
          (Selection.forEach (fun (name, n) =>
            Selection.guarded (h.nestedIsDir (p.child name) n)
              (if n.isDir then h.directories edge depth (p.child name) else .none)) entries).absorb)

/-- A directory and all directories below it, where calls can be nested for so many directories
inside one another, or for any number of them. -/
def Host.walk (h : Host) : Option Nat → FsPath → Selection
  -- No chain of nested directories is longer than the disk has nodes.
  | none => h.directories .single (h.disk.nodes.length + 1)
  | some levels => h.directories (fun _ => .stop .exhausted) levels

/-- The paths below `p` that segments select. The flag tells whether matches of the last segment
have to be directories. -/
def Host.select (h : Host) (levels : Option Nat) (directory : Bool) :
    List Segment → FsPath → Selection
  | [], p => .single p
  | .exact name :: rest, p =>
    let q := p.child name
    let test := if rest ≠ [] ∨ directory then h.isDir q else h.exists? q
    (Selection.guarded test (h.select levels directory rest q)).absorb
  | .wild glyphs :: rest, p =>
    (match h.scandir p with
      | .error e => Selection.stop e
      | .ok entries =>
        Selection.forEach (fun (name, n) =>
          let q := p.child name
          let test := if rest ≠ [] ∨ directory then h.entryIsDir q n else .ok true
          Selection.guarded test
            (if Glyph.matchAll glyphs name.toList then h.select levels directory rest q else .none))
          entries).absorb
  | .recursive :: rest, p =>
    let dirs := h.walk levels p
    ((Selection.forEach (h.select levels directory rest) dirs.found).append
      ⟨[], dirs.stopped⟩).absorb

/-- The paths below a directory that a pattern selects. -/
def Host.glob (h : Host) (levels : Option Nat) (pattern : Pattern) (dir : FsPath) : Selection :=
  Selection.guarded (h.isDir dir) (h.select levels pattern.directory pattern.segments dir)

end IndexSync
