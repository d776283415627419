import IndexSync.Glob
import IndexSync.Proofs.Storage.Nesting

/-!
# What a pattern selects

The paths that the segments of a pattern select below a directory, as a relation with one rule for
every kind of segment, beside the inquiries that the search for them makes. The search finds these
paths and no others, and it ends early exactly if one of its inquiries fails in a way that cannot be
passed over.

* `Host.Selects` — the paths that segments select;
* `Host.Asks` — the inquiries that are made for segments;
* `Selection.Tells` — a selection is complete unless something ends it;
* `Host.Obstructed` — a directory that ends a walk;
* `Host.Deep`, `Host.Overreaches` — too many directories inside one another for a search;
* `Host.directories_tells`, `Host.walk_tells` — the directories below a directory;
* `Host.select_tells` — the search for the paths that segments select.
-/

namespace IndexSync

/-! ### Failures of calls on files -/

namespace Failure

/-- A call was denied. -/
def isDenial : Failure → Bool
  | .system errno _ => errno.isDenial
  | _ => false

/-- A call failed because nothing is at its path. -/
def meansAbsent : Failure → Bool
  | .system errno _ => errno.isAbsence
  | .nullByte => true
  | _ => false

end Failure

namespace Host

variable {h : Host} {p : FsPath} {test : Node → Bool} {e : Failure}

/-- A probe passes on the failures that do not mean that nothing is there. -/
theorem probe_eq (h : Host) (p : FsPath) (test : Node → Bool) : h.probe p test =
    match h.stat p with
    | .ok n => .ok (test n)
    | .error e => if e.meansAbsent = true then .ok false else .error e := by
  unfold probe
  rcases h.stat p with e | n
  · cases e with
    | _ => rfl
  · rfl

theorem probe_eq_true : h.probe p test = .ok true ↔ ∃ n, h.stat p = .ok n ∧ test n = true := by
  rw [probe_eq]
  cases h.stat p with
  | ok n => simp
  | error e =>
    refine iff_of_false ?_ nofun
    dsimp only
    split <;> nofun

theorem probe_eq_error : h.probe p test = .error e ↔
    h.stat p = .error e ∧ e.meansAbsent = false := by
  rw [probe_eq]
  cases h.stat p with
  | ok n => simp
  | error e' =>
    rw [Except.error.injEq]
    dsimp only
    cases habsent : e'.meansAbsent with
    | true =>
      refine iff_of_false (by simp) ?_
      rintro ⟨rfl, hpresent⟩
      exact Bool.noConfusion (habsent.symm.trans hpresent)
    | false =>
      rw [if_neg Bool.false_ne_true, Except.error.injEq]
      refine ⟨fun heq => ⟨heq, heq ▸ habsent⟩, And.left⟩

/-- To find out where a path leads to is never denied. -/
theorem isDenial_of_locate {purpose : Disk.Purpose} {errno : Errno}
    (hlocate : h.locate purpose p = .error errno) : errno.isDenial = false := by
  cases obstacle_of_locate hlocate <;> decide

/-- No call fails because others are nested too deeply. -/
theorem ne_exhausted_of_guarded {α : Type} {call : Call} {act : Except Errno α}
    (hcall : h.guarded call p act = .error e) : e ≠ .exhausted := by
  rcases eq_of_guarded hcall with rfl | ⟨errno, rfl⟩
  · nofun
  · nofun

end Host

/-! ### What a selection is made of -/

namespace Selection

/-- A selection of paths of `P` that only failures of `Q` end early. -/
structure Only (s : Selection) (P : FsPath → Prop) (Q : Failure → Prop) : Prop where
  found : ∀ p ∈ s.found, P p
  stopped : ∀ e, s.stopped = some e → Q e

variable {s t : Selection} {P : FsPath → Prop} {Q : Failure → Prop}

theorem none_only : none.Only P Q where
  found _ := nofun
  stopped _ := nofun

theorem single_only {p : FsPath} (hp : P p) : (single p).Only P Q where
  found _ hq := List.mem_singleton.1 hq ▸ hp
  stopped _ := nofun

theorem stop_only {e : Failure} (he : Q e) : (stop e).Only P Q where
  found _ := nofun
  stopped _ heq := Option.some.inj heq ▸ he

theorem Only.append (hs : s.Only P Q) (ht : t.Only P Q) : (s.append t).Only P Q := by
  unfold Selection.append
  split
  · next e hstop => exact ⟨hs.found, fun e' heq => hs.stopped e' (hstop.trans heq)⟩
  · exact ⟨List.forall_mem_append.2 ⟨hs.found, ht.found⟩, ht.stopped⟩

theorem forEach_only {α : Type} {f : α → Selection} {l : List α}
    (hf : ∀ a ∈ l, (f a).Only P Q) : (forEach f l).Only P Q := by
  induction l with
  | nil => exact none_only
  | cons a l ih =>
    obtain ⟨ha, hl⟩ := List.forall_mem_cons.1 hf
    exact ha.append (ih hl)

theorem Only.absorb (hs : s.Only P Q) : s.absorb.Only P Q := by
  unfold Selection.absorb
  split
  · split
    · exact ⟨hs.found, nofun⟩
    · exact hs
  · exact hs

/-- The end of a selection, without what was found. -/
theorem Only.ending (hs : s.Only P Q) : Only ⟨[], s.stopped⟩ P Q where
  found _ := nofun
  stopped := hs.stopped

theorem guarded_only {test : Except Failure Bool} (htest : ∀ e, test = .error e → Q e)
    (hs : test = .ok true → s.Only P Q) : (guarded test s).Only P Q := by
  rcases test with e | _ | _
  · exact stop_only (htest e rfl)
  · exact none_only
  · exact hs rfl

end Selection

namespace Host

theorem ne_exhausted_of_entryIsDir {h : Host} {p : FsPath} {n : Node} {e : Failure}
    (hentry : h.entryIsDir p n = .error e) : e ≠ .exhausted := by
  unfold entryIsDir deny at hentry
  split at hentry
  · cases hentry
  · split at hentry
    · cases hentry
    · split at hentry
      · cases hentry
      · rw [← Except.error.inj hentry]
        nofun
  · cases hentry

/-- What is found on a host are paths of `P`, and calls on such paths fail by failures of `Q`. -/
structure Confines (h : Host) (P : FsPath → Prop) (Q : Failure → Prop) : Prop where
  /-- What can be looked at is such a path. -/
  look : ∀ p n, h.stat p = .ok n → P p
  /-- What cannot be looked at makes such a failure, unless it is absent. -/
  fails : ∀ p e, h.stat p = .error e → e.meansAbsent = false → Q e
  /-- The entries of a directory are such paths. -/
  child : ∀ p entries entry, h.scandir p = .ok entries → entry ∈ entries → P (p.child entry.1)
  /-- A directory that cannot be listed makes such a failure. -/
  list : ∀ p e, P p → h.scandir p = .error e → Q e
  /-- So does an entry that cannot be judged. -/
  judge : ∀ p n e, h.entryIsDir p n = .error e → Q e

section Confined

variable {h : Host} {p : FsPath} {P : FsPath → Prop} {Q : Failure → Prop}
  (hall : h.Confines P Q)

include hall

theorem Confines.directories {edge : FsPath → Selection} (hedge : ∀ q, P q → (edge q).Only P Q)
    (depth : Nat) (hp : P p) : (h.directories edge depth p).Only P Q := by
  induction depth generalizing p with
  | zero => exact hedge p hp
  | succ depth ih =>
    rw [Host.directories]
    refine (Selection.single_only hp).append ?_
    cases hlist : h.scandir p with
    | error e => exact (Selection.stop_only (hall.list p e hp hlist)).absorb
    | ok entries =>
      refine (Selection.forEach_only fun ⟨name, n⟩ hentry => ?_).absorb
      refine Selection.guarded_only (fun e he => ?_) fun _ => ?_
      · unfold nestedIsDir at he
        split at he
        · exact hall.judge _ n e he
        · cases he
      · split
        · exact ih (hall.child p entries (name, n) hlist hentry)
        · exact Selection.none_only

variable {levels : Option Nat} (hlevels : levels.isSome → Q .exhausted)

include hlevels

theorem Confines.walk (hp : P p) : (h.walk levels p).Only P Q := by
  cases levels with
  | none => exact hall.directories (fun q hq => Selection.single_only hq) _ hp
  | some limit => exact hall.directories (fun q _ => Selection.stop_only (hlevels rfl)) _ hp

/-- What segments select is confined as well. The induction is on the segments. -/
theorem Confines.select (directory : Bool) (segments : List Segment) (hp : P p) :
    (h.select levels directory segments p).Only P Q := by
  induction segments generalizing p with
  | nil => exact Selection.single_only hp
  | cons segment rest ih =>
    cases segment with
    | exact name =>
      rw [Host.select]
      refine (Selection.guarded_only (fun e he => ?_) fun hok => ih ?_).absorb
      · -- A name is asked for by the one probe or by the other; both are calls of `stat`.
        obtain ⟨hstat, habsent⟩ : h.stat (p.child name) = .error e ∧ e.meansAbsent = false := by
          split at he
          · exact probe_eq_error.1 he
          · exact probe_eq_error.1 he
        exact hall.fails _ e hstat habsent
      · obtain ⟨n, hstat⟩ : ∃ n, h.stat (p.child name) = .ok n := by
          split at hok
          · exact (probe_eq_true.1 hok).imp fun _ => And.left
          · exact (probe_eq_true.1 hok).imp fun _ => And.left
        exact hall.look _ n hstat
    | wild glyphs =>
      rw [Host.select]
      cases hlist : h.scandir p with
      | error e => exact (Selection.stop_only (hall.list p e hp hlist)).absorb
      | ok entries =>
        refine (Selection.forEach_only fun entry hentry => ?_).absorb
        refine Selection.guarded_only (fun e he => ?_) fun _ => ?_
        · split at he
          · exact hall.judge _ _ e he
          · cases he
        · split
          · exact ih (hall.child p entries entry hlist hentry)
          · exact Selection.none_only
    | recursive =>
      rw [Host.select]
      -- The directories of the walk are confined, and so is what is selected in each.
      have hdirs := hall.walk hlevels hp
      exact ((Selection.forEach_only fun dir hdir => ih (hdirs.found dir hdir)).append
        hdirs.ending).absorb

theorem Confines.glob (pattern : Pattern) (dir : FsPath) :
    (h.glob levels pattern dir).Only P Q := by
  refine Selection.guarded_only (fun e he => ?_) fun hdir => ?_
  · obtain ⟨hstat, habsent⟩ := probe_eq_error.1 he
    exact hall.fails dir e hstat habsent
  · obtain ⟨n, hstat, -⟩ := probe_eq_true.1 hdir
    exact hall.select hlevels _ _ (hall.look dir n hstat)

end Confined

end Host

/-! ### What a selection tells -/

namespace Selection

/-- A selection that is ended by a failed call only if `D`, and then not by a denial, and by an
exhausted stack only if `E`. It is ended if one of the two holds. What it holds are paths of `P`,
and they are all of them if nothing has ended it. -/
structure Tells (s : Selection) (P : FsPath → Prop) (D E : Prop) : Prop where
  ends : D ∨ E → s.stopped.isSome
  failed : ∀ e, s.stopped = some e → e ≠ .exhausted → D ∧ e.isDenial = false
  exhausted : s.stopped = some .exhausted → E
  sound : ∀ q ∈ s.found, P q
  found : s.stopped = .none → ∀ q, P q → q ∈ s.found

variable {s t : Selection} {P Q : FsPath → Prop} {D D' E E' : Prop} {e : Failure}

theorem Tells.stopped_iff (hs : s.Tells P D E) : s.stopped.isSome ↔ D ∨ E := by
  refine ⟨fun hsome => ?_, hs.ends⟩
  obtain ⟨e, hstop⟩ := Option.isSome_iff_exists.1 hsome
  by_cases he : e = .exhausted
  · exact Or.inr (hs.exhausted (he ▸ hstop))
  · exact Or.inl (hs.failed e hstop he).1

theorem Tells.not_of_none (hs : s.Tells P D E) (hstop : s.stopped = .none) : ¬(D ∨ E) := by
  rw [← hs.stopped_iff, hstop]
  exact Bool.false_ne_true

/-- What is found does not matter where a selection ends early. -/
theorem Tells.congr_of_not (hs : s.Tells P D E) (hD : D → D') (hE : E → E')
    (hends : D' ∨ E' → D ∨ E) (hP : ∀ q, P q → Q q) (hQ : ¬(D' ∨ E') → ∀ q, Q q → P q) :
    s.Tells Q D' E' where
  ends hend := hs.ends (hends hend)
  failed e hstop he := (hs.failed e hstop he).imp_left hD
  exhausted hstop := hE (hs.exhausted hstop)
  sound q hq := hP q (hs.sound q hq)
  found hstop q hq :=
    hs.found hstop q (hQ (mt hends (hs.not_of_none hstop)) q hq)

theorem Tells.congr (hs : s.Tells P D E) (hP : ∀ q, P q ↔ Q q) (hD : D ↔ D') (hE : E ↔ E') :
    s.Tells Q D' E' :=
  hs.congr_of_not hD.1 hE.1 (or_congr hD hE).2 (fun q => (hP q).1) fun _ q => (hP q).2

theorem none_tells : none.Tells (fun _ => False) False False where
  ends hend := hend.elim False.elim False.elim
  failed _ := nofun
  exhausted := nofun
  sound _ := nofun
  found _ _ := False.elim

theorem single_tells (p : FsPath) : (single p).Tells (fun q => q = p) False False where
  ends hend := hend.elim False.elim False.elim
  failed _ := nofun
  exhausted := nofun
  sound _ := List.mem_singleton.1
  found _ _ := List.mem_singleton.2

theorem stop_tells (he : e.isDenial = false) (hcall : e ≠ .exhausted) :
    (stop e).Tells P True False where
  ends _ := rfl
  failed _ hstop _ := ⟨trivial, Option.some.inj hstop ▸ he⟩
  exhausted hstop := hcall (Option.some.inj hstop)
  sound _ := nofun
  found := nofun

/-- An exhausted stack tells of nothing else. -/
theorem stop_exhausted_tells : (stop .exhausted).Tells P D True where
  ends _ := rfl
  failed _ hstop he := absurd (Option.some.inj hstop).symm he
  exhausted _ := trivial
  sound _ := nofun
  found := nofun

/-- One selection after the other tells what both do. -/
theorem Tells.append (hs : s.Tells P D E) (ht : t.Tells Q D' E') :
    (s.append t).Tells (fun q => P q ∨ Q q) (D ∨ D') (E ∨ E') := by
  unfold Selection.append
  cases hstop : s.stopped with
  | some e =>
    -- The second selection is not begun, so that nothing is known of what it would find.
    exact
      { ends := fun _ => rfl
        failed := fun e' heq he => (hs.failed e' (hstop.trans heq) he).imp_left Or.inl
        exhausted := fun heq => Or.inl (hs.exhausted (hstop.trans heq))
        sound := fun q hq => Or.inl (hs.sound q hq)
        found := nofun }
  | none =>
    have hnot := not_or.1 (hs.not_of_none hstop)
    exact
      { ends := fun hend => ht.ends
          (hend.imp (Or.resolve_left · hnot.1) (Or.resolve_left · hnot.2))
        failed := fun e heq he => (ht.failed e heq he).imp_left Or.inr
        exhausted := fun heq => Or.inr (ht.exhausted heq)
        sound := fun q hq => (List.mem_append.1 hq).imp (hs.sound q) (ht.sound q)
        found := fun hnone q hq =>
          List.mem_append.2 (hq.imp (hs.found hstop q) (ht.found hnone q)) }

theorem forEach_tells {α : Type} {f : α → Selection} {P : α → FsPath → Prop} {D E : α → Prop}
    {l : List α} (hf : ∀ a ∈ l, (f a).Tells (P a) (D a) (E a)) :
    (forEach f l).Tells (fun q => ∃ a ∈ l, P a q) (∃ a ∈ l, D a) (∃ a ∈ l, E a) := by
  induction l with
  | nil => exact none_tells.congr (fun q => by simp) (by simp) (by simp)
  | cons a l ih =>
    have hrest := ih fun b hb => hf b (List.mem_cons_of_mem a hb)
    refine ((hf a List.mem_cons_self).append hrest).congr (fun q => ?_) ?_ ?_
    all_goals simp only [List.mem_cons, exists_eq_or_imp]

/-- The end of a selection, without what was found. -/
theorem Tells.ending (hs : s.Tells P D E) : Tells ⟨[], s.stopped⟩ (fun _ => False) D E where
  ends := hs.ends
  failed := hs.failed
  exhausted := hs.exhausted
  sound _ := nofun
  found _ _ := False.elim

/-- A selection that is not ended by a denial has nothing to pass over. -/
theorem Tells.absorb (hs : s.Tells P D E) : s.absorb.Tells P D E := by
  -- Only a denial is absorbed, and this selection was not ended by one.
  have hself : s.absorb = s := by
    unfold Selection.absorb
    split
    · next errno file hstop =>
      have hfirm : errno.isDenial = false := (hs.failed _ hstop nofun).2
      rw [hfirm]
      rfl
    · rfl
  rw [hself]
  exact hs

theorem absorb_stop (e : Failure) :
    (stop e).absorb = if e.isDenial = true then none else stop e := by
  cases e with
  | system errno file => rfl
  | _ => rfl

/-- A denial alone selects nothing and ends nothing. -/
theorem absorb_stop_tells (hcall : e ≠ .exhausted) :
    (stop e).absorb.Tells (fun _ => False) (e.isDenial = false) False := by
  rw [absorb_stop]
  cases hdenial : e.isDenial with
  | true => exact none_tells.congr (fun _ => Iff.rfl) (by simp) Iff.rfl
  | false => exact (stop_tells hdenial hcall).congr (fun _ => Iff.rfl) (by simp) Iff.rfl

variable {test : Except Failure Bool}

theorem guarded_tells (htest : ∀ e, test = .error e → e.isDenial = false ∧ e ≠ .exhausted)
    (hs : test = .ok true → s.Tells P D E) :
    (guarded test s).Tells (fun q => test = .ok true ∧ P q)
      ((∃ e, test = .error e) ∨ test = .ok true ∧ D) (test = .ok true ∧ E) := by
  rcases test with e | _ | _
  · obtain ⟨hdenial, hcall⟩ := htest e rfl
    exact (stop_tells hdenial hcall).congr (fun _ => Iff.rfl) (by simp) (by simp)
  · exact none_tells.congr (by simp) (by simp) (by simp)
  · exact (hs rfl).congr (by simp) (by simp) (by simp)

/-- A test that is denied counts as one that failed. -/
theorem absorb_guarded_tells (htest : ∀ e, test = .error e → e ≠ .exhausted)
    (hs : test = .ok true → s.Tells P D E) :
    (guarded test s).absorb.Tells (fun q => test = .ok true ∧ P q)
      ((∃ e, test = .error e ∧ e.isDenial = false) ∨ test = .ok true ∧ D)
      (test = .ok true ∧ E) := by
  rcases test with e | _ | _
  · exact (absorb_stop_tells (htest e rfl)).congr (by simp) (by simp) (by simp)
  · exact none_tells.absorb.congr (by simp) (by simp) (by simp)
  · exact (hs rfl).absorb.congr (by simp) (by simp) (by simp)

end Selection

/-! ### Inquiries -/

/-- What a search for files asks of a host. -/
inductive Inquiry where
  /-- What a path leads to. -/
  | look (p : FsPath)
  /-- The entries of a directory. -/
  | list (p : FsPath)
  /-- What an entry that is a link leads to. -/
  | follow (p : FsPath)

/-- A failure of an inquiry ends the selection it is made for. Denials are passed over, as is the
absence of what is looked for, but not that of a directory that is to be listed. -/
def Inquiry.EndedBy : Inquiry → Failure → Prop
  | .list _, e => e.isDenial = false
  | _, e => e.isDenial = false ∧ e.meansAbsent = false

namespace Host

/-- An inquiry fails. -/
def Fails (h : Host) : Inquiry → Failure → Prop
  | .look p, e => h.stat p = .error e
  | .list p, e => h.scandir p = .error e
  | .follow p, e => ∃ errno, h.locate .use p = .error errno ∧ e = .system errno (some p.text)

/-- An inquiry fails, and ends the selection it is made for. -/
def Disrupts (h : Host) (inquiry : Inquiry) : Prop :=
  ∃ e, h.Fails inquiry e ∧ inquiry.EndedBy e

/-- An entry leads to a directory: it is one, or a link to one. -/
def LeadsToDir (h : Host) (p : FsPath) (n : Node) : Prop :=
  n.isDir = true ∨
    (∃ target, n = .link target) ∧ ∃ place m, h.locate .use p = .ok (place, m) ∧ m.isDir = true

variable {h : Host} {directory : Bool} {p q : FsPath} {n : Node} {e : Failure}

theorem entryIsDir_eq_true : h.entryIsDir p n = .ok true ↔ h.LeadsToDir p n := by
  unfold entryIsDir LeadsToDir
  cases n with
  | link target =>
    rcases h.locate .use p with errno | ⟨place, m⟩
    · dsimp only
      split <;> simp [Node.isDir, deny]
    · simp [Node.isDir]
  | _ => simp [Node.isDir]

/-- Only a link can fail to be judged, if following it fails for another reason than that it leads
nowhere. -/
theorem entryIsDir_eq_error : h.entryIsDir p n = .error e ↔
    (∃ target, n = .link target) ∧ h.Fails (.follow p) e ∧ e.meansAbsent = false := by
  have hfails : h.Fails (.follow p) e ↔
      ∃ errno, h.locate .use p = .error errno ∧ e = .system errno (some p.text) := Iff.rfl
  rw [hfails]
  unfold entryIsDir deny
  -- Only a link is followed; everything else is judged by itself.
  cases n with
  | link target =>
    dsimp only
    cases h.locate .use p with
    | ok found => simp
    | error errno =>
      have hmeans : (Failure.system errno (some p.text)).meansAbsent = errno.isAbsence := rfl
      simp only [Node.link.injEq, exists_eq', true_and, Except.error.injEq, exists_eq_left']
      cases habsent : errno.isAbsence with
      | true =>
        refine iff_of_false (by simp) ?_
        rintro ⟨rfl, hpresent⟩
        exact Bool.noConfusion (habsent.symm.trans (hmeans.symm.trans hpresent))
      | false =>
        rw [if_neg Bool.false_ne_true, Except.error.injEq]
        refine ⟨fun heq => ⟨heq.symm, ?_⟩, fun heq => heq.1.symm⟩
        rw [← heq, hmeans, habsent]
  | _ => simp

/-- An entry that is a directory is told to be one, whether or not links are looked through. -/
theorem nestedIsDir_of_isDir (hdir : n.isDir = true) : h.nestedIsDir p n = .ok true := by
  rw [nestedIsDir, hdir]
  split
  · exact entryIsDir_eq_true.2 (Or.inl hdir)
  · rfl

theorem nestedIsDir_eq_error : h.nestedIsDir p n = .error e ↔ h.probesLinks = true ∧
    (∃ target, n = .link target) ∧ h.Fails (.follow p) e ∧ e.meansAbsent = false := by
  rw [nestedIsDir, ← entryIsDir_eq_error]
  split
  · next hprobes => exact (and_iff_right hprobes).symm
  · next hskips => exact iff_of_false nofun fun hprobes => hskips hprobes.1

theorem isDenial_of_follow (hfails : h.Fails (.follow p) e) : e.isDenial = false := by
  obtain ⟨errno, hlocate, rfl⟩ := hfails
  exact isDenial_of_locate hlocate

theorem ne_exhausted_of_follow (hfails : h.Fails (.follow p) e) : e ≠ .exhausted := by
  obtain ⟨errno, -, rfl⟩ := hfails
  nofun

/-- A link that cannot be judged ends the selection. -/
theorem disrupts_follow : h.Disrupts (.follow p) ↔
    ∃ e, h.Fails (.follow p) e ∧ e.meansAbsent = false := by
  refine exists_congr fun e => and_congr_right fun hfails => ?_
  exact and_iff_right (isDenial_of_follow hfails)

/-- A path that segments select below another one. Where further segments follow, or where the
pattern demands a directory, what a segment matches has to be one. -/
inductive Selects (h : Host) (directory : Bool) : List Segment → FsPath → FsPath → Prop where
  /-- Without segments, the path itself is selected. -/
  | done {p : FsPath} : Selects h directory [] p p
  /-- A name is looked up. -/
  | exact {name : String} {rest : List Segment} {p q : FsPath} {n : Node}
    (hlook : h.stat (p.child name) = .ok n)
    (hdir : rest ≠ [] ∨ directory = true → n.isDir = true)
    (hrest : Selects h directory rest (p.child name) q) :
    Selects h directory (.exact name :: rest) p q
  /-- Glyphs are matched with the names of the entries. -/
  | wild {glyphs : List Glyph} {name : String} {rest : List Segment} {p q : FsPath} {n : Node}
    {entries : List (String × Node)} (hlist : h.scandir p = .ok entries)
    (hentry : (name, n) ∈ entries) (hmatch : Glyph.matchAll glyphs name.toList = true)
    (hdir : rest ≠ [] ∨ directory = true → h.LeadsToDir (p.child name) n)
    (hrest : Selects h directory rest (p.child name) q) :
    Selects h directory (.wild glyphs :: rest) p q
  /-- The search goes on in every nested directory. -/
  | recursive {rest : List Segment} {p dir q : FsPath} (hnested : h.Nested p dir)
    (hrest : Selects h directory rest dir q) :
    Selects h directory (.recursive :: rest) p q

/-- An inquiry that the search for what segments select makes. -/
inductive Asks (h : Host) (directory : Bool) : List Segment → FsPath → Inquiry → Prop where
  /-- A name is looked up. -/
  | look {name : String} {rest : List Segment} {p : FsPath} :
    Asks h directory (.exact name :: rest) p (.look (p.child name))
  /-- The search goes on where a name leads to. -/
  | behindName {name : String} {rest : List Segment} {p : FsPath} {n : Node} {inquiry : Inquiry}
    (hlook : h.stat (p.child name) = .ok n)
    (hdir : rest ≠ [] ∨ directory = true → n.isDir = true)
    (hrest : Asks h directory rest (p.child name) inquiry) :
    Asks h directory (.exact name :: rest) p inquiry
  /-- A directory is listed. -/
  | list {glyphs : List Glyph} {rest : List Segment} {p : FsPath} :
    Asks h directory (.wild glyphs :: rest) p (.list p)
  /-- Every entry has to be judged where a directory is demanded, whether or not it matches. -/
  | judge {glyphs : List Glyph} {name target : String} {rest : List Segment} {p : FsPath}
    {entries : List (String × Node)} (hlist : h.scandir p = .ok entries)
    (hentry : (name, .link target) ∈ entries) (hdemand : rest ≠ [] ∨ directory = true) :
    Asks h directory (.wild glyphs :: rest) p (.follow (p.child name))
  /-- The search goes on in an entry. -/
  | behindEntry {glyphs : List Glyph} {name : String} {rest : List Segment} {p : FsPath} {n : Node}
    {entries : List (String × Node)} {inquiry : Inquiry} (hlist : h.scandir p = .ok entries)
    (hentry : (name, n) ∈ entries) (hmatch : Glyph.matchAll glyphs name.toList = true)
    (hdir : rest ≠ [] ∨ directory = true → h.LeadsToDir (p.child name) n)
    (hrest : Asks h directory rest (p.child name) inquiry) :
    Asks h directory (.wild glyphs :: rest) p inquiry
  /-- Every nested directory is listed. -/
  | listNested {rest : List Segment} {p dir : FsPath} (hnested : h.Nested p dir) :
    Asks h directory (.recursive :: rest) p (.list dir)
  /-- Every link in a nested directory has to be judged, on hosts that do so. -/
  | judgeNested {name target : String} {rest : List Segment} {p dir : FsPath}
    {entries : List (String × Node)} (hprobes : h.probesLinks = true) (hnested : h.Nested p dir)
    (hlist : h.scandir dir = .ok entries) (hentry : (name, .link target) ∈ entries) :
    Asks h directory (.recursive :: rest) p (.follow (dir.child name))
  /-- The search goes on in a nested directory. -/
  | behindNested {rest : List Segment} {p dir : FsPath} {inquiry : Inquiry}
    (hnested : h.Nested p dir) (hrest : Asks h directory rest dir inquiry) :
    Asks h directory (.recursive :: rest) p inquiry

/-! ### Nested directories -/

/-- A directory cannot be listed, or a link in it cannot be judged where that is asked for. -/
def Obstructed (h : Host) (dir : FsPath) : Prop :=
  h.Disrupts (.list dir) ∨ h.probesLinks = true ∧ ∃ entries name target,
    h.scandir dir = .ok entries ∧ (name, .link target) ∈ entries ∧
      h.Disrupts (.follow (dir.child name))

/-- So many directories lie inside one another in a directory that a walk with this limit is
exhausted: there is one on the level of the limit. -/
def Deep (h : Host) (levels : Option Nat) (p : FsPath) : Prop :=
  ∃ limit ∈ levels, ∃ q, h.Nested p q ∧ q.names.length = p.names.length + limit

variable {entries : List (String × Node)}

theorem nested_of_error (hlist : h.scandir p = .error e) : h.Nested p q ↔ q = p := by
  constructor
  · intro hnested
    cases hnested with
    | here => rfl
    | within hok _ _ => cases hlist.symm.trans hok
  · rintro rfl
    exact .here

theorem nested_of_ok (hlist : h.scandir p = .ok entries) : h.Nested p q ↔
    q = p ∨ ∃ entry ∈ entries, entry.2.isDir = true ∧ h.Nested (p.child entry.1) q := by
  constructor
  · intro hnested
    cases hnested with
    | here => exact Or.inl rfl
    | within hok hentry hnested =>
      obtain rfl := Except.ok.inj (hlist.symm.trans hok)
      exact Or.inr ⟨_, hentry, rfl, hnested⟩
  · rintro (rfl | ⟨⟨name, n⟩, hentry, hdir, hnested⟩)
    · exact .here
    · obtain ⟨mode, rfl⟩ := Disk.eq_dir_of_isDir hdir
      exact .within hlist hentry hnested

/-- What is obstructed in a directory that can be listed: a link in it, or something in an entry. -/
theorem obstructed_of_ok (hlist : h.scandir p = .ok entries) :
    (∃ dir, h.Nested p dir ∧ h.Obstructed dir) ↔
      ∃ entry ∈ entries,
        h.probesLinks = true ∧ (∃ target, entry.2 = .link target) ∧
            h.Disrupts (.follow (p.child entry.1)) ∨
          entry.2.isDir = true ∧ ∃ dir, h.Nested (p.child entry.1) dir ∧ h.Obstructed dir := by
  constructor
  · rintro ⟨dir, hnested, hobstructed⟩
    rcases (nested_of_ok hlist).1 hnested with rfl | ⟨entry, hentry, hdir, hnested⟩
    · rcases hobstructed with
        ⟨e, hfails, -⟩ | ⟨hprobes, entries', name, target, hok, hentry, hdisrupts⟩
      · cases hlist.symm.trans hfails
      · obtain rfl := Except.ok.inj (hlist.symm.trans hok)
        exact ⟨_, hentry, Or.inl ⟨hprobes, ⟨target, rfl⟩, hdisrupts⟩⟩
    · exact ⟨entry, hentry, Or.inr ⟨hdir, dir, hnested, hobstructed⟩⟩
  · rintro ⟨⟨name, n⟩, hentry,
      ⟨hprobes, ⟨target, rfl⟩, hdisrupts⟩ | ⟨hdir, dir, hnested, hobstructed⟩⟩
    · exact ⟨p, .here, Or.inr ⟨hprobes, entries, name, target, hlist, hentry, hdisrupts⟩⟩
    · refine ⟨dir, (nested_of_ok hlist).2 (Or.inr ⟨_, hentry, hdir, hnested⟩), hobstructed⟩

/-- A directory that cannot be listed is obstructed by that, unless it is denied. -/
theorem obstructed_of_error (hlist : h.scandir p = .error e) :
    (∃ dir, h.Nested p dir ∧ h.Obstructed dir) ↔ e.isDenial = false := by
  constructor
  · rintro ⟨dir, hnested, hobstructed⟩
    obtain rfl := (nested_of_error hlist).1 hnested
    rcases hobstructed with ⟨e', hfails, hdenial⟩ | ⟨-, _, _, _, hok, -⟩
    · rwa [Except.error.inj (hlist.symm.trans hfails)]
    · cases hlist.symm.trans hok
  · exact fun hdenial => ⟨p, .here, Or.inl ⟨e, hlist, hdenial⟩⟩

/-- Every entry of a directory is judged, also one that is no directory: only links can fail here.
-/
theorem entry_tells {s : Selection} {P : FsPath → Prop} {D E : Prop}
    (hinside : n.isDir = true → s.Tells P D E) :
    (Selection.guarded (h.nestedIsDir p n) (if n.isDir then s else .none)).Tells
      (fun q => n.isDir = true ∧ P q)
      (h.probesLinks = true ∧ (∃ target, n = .link target) ∧ h.Disrupts (.follow p) ∨
        n.isDir = true ∧ D)
      (n.isDir = true ∧ E) := by
  have hnested : (if n.isDir then s else .none).Tells (fun q => n.isDir = true ∧ P q)
      (n.isDir = true ∧ D) (n.isDir = true ∧ E) := by
    cases hdir : n.isDir with
    | false => exact Selection.none_tells.congr (by simp) (by simp) (by simp)
    | true => exact (hinside hdir).congr (by simp) (by simp) (by simp)
  have htrue : n.isDir = true → h.nestedIsDir p n = .ok true := nestedIsDir_of_isDir
  refine (Selection.guarded_tells (fun e he => ?_) fun _ => hnested).congr (fun q => ?_) ?_ ?_
  · have hfails := (nestedIsDir_eq_error.1 he).2.2.1
    exact ⟨isDenial_of_follow hfails, ne_exhausted_of_follow hfails⟩
  · exact and_iff_right_of_imp fun hq => htrue hq.1
  · refine or_congr ?_ (and_iff_right_of_imp fun hq => htrue hq.1)
    rw [disrupts_follow, ← exists_and_left, ← exists_and_left]
    exact exists_congr fun e => nestedIsDir_eq_error
  · exact and_iff_right_of_imp fun hq => htrue hq.1

/-- The directories below a directory are found, unless one of them is obstructed or there are
directories on the level of the bound, of which `edge` tells in its way. The induction is on the
bound. -/
theorem directories_tells {edge : FsPath → Selection} {depth : Nat}
    (hedge : ∀ q, h.Nested p q → q.names.length = p.names.length + depth →
      (edge q).Tells (h.Nested q) (∃ dir, h.Nested q dir ∧ h.Obstructed dir) True) :
    (h.directories edge depth p).Tells (h.Nested p) (∃ dir, h.Nested p dir ∧ h.Obstructed dir)
      (∃ q, h.Nested p q ∧ q.names.length = p.names.length + depth) := by
  induction depth generalizing p with
  | zero =>
    refine (hedge p .here rfl).congr (fun _ => Iff.rfl) Iff.rfl ?_
    exact iff_of_true trivial ⟨p, .here, rfl⟩
  | succ depth ih =>
    rw [directories]
    cases hlist : h.scandir p with
    | error e =>
      -- Without its entries, the directory is all there is; a denial is passed over.
      refine ((Selection.single_tells p).append (Selection.absorb_stop_tells
        (ne_exhausted_of_guarded hlist))).congr (fun q => ?_) ?_ ?_
      · rw [nested_of_error hlist, or_false]
      · rw [false_or, obstructed_of_error hlist]
      · refine iff_of_false (or_self_iff.1 ·) ?_
        rintro ⟨q, hnested, hlevel⟩
        rw [(nested_of_error hlist).1 hnested] at hlevel
        omega
    | ok entries =>
      have hlevel : ∀ (q : FsPath) (name : String),
          q.names.length = (p.child name).names.length + depth ↔
            q.names.length = p.names.length + (depth + 1) := by
        intro q name
        rw [FsPath.child, List.length_append, List.length_singleton]
        omega
      have hentries := Selection.forEach_tells fun entry hentry =>
        entry_tells (h := h) (p := p.child entry.1) fun hdir => ih fun q hnested hq =>
          hedge q ((nested_of_ok hlist).2 (Or.inr ⟨entry, hentry, hdir, hnested⟩))
            ((hlevel q entry.1).1 hq)
      refine ((Selection.single_tells p).append hentries.absorb).congr
        (fun q => (nested_of_ok hlist).symm) ?_ ?_
      · rw [false_or, obstructed_of_ok hlist]
      · rw [false_or]
        simp only [hlevel]
        constructor
        · rintro ⟨entry, hentry, hdir, q, hnested, hq⟩
          exact ⟨q, (nested_of_ok hlist).2 (Or.inr ⟨entry, hentry, hdir, hnested⟩), hq⟩
        · rintro ⟨q, hnested, hq⟩
          rcases (nested_of_ok hlist).1 hnested with rfl | ⟨entry, hentry, hdir, hnested⟩
          · omega
          · exact ⟨entry, hentry, hdir, q, hnested, hq⟩

/-- The directories that a walk goes through are told, by a walk without a limit on a file system.
-/
theorem walk_tells (hdisk : h.disk.Sound) (levels : Option Nat) (p : FsPath) :
    (h.walk levels p).Tells (h.Nested p) (∃ dir, h.Nested p dir ∧ h.Obstructed dir)
      (h.Deep levels p) := by
  cases levels with
  | some limit =>
    refine (directories_tells fun q _ _ => Selection.stop_exhausted_tells).congr
      (fun _ => Iff.rfl) Iff.rfl ?_
    simp [Deep]
  | none =>
    -- No chain of directories gets to the bound.
    have hlevel : ∀ q, h.Nested p q →
        q.names.length ≠ p.names.length + (h.disk.nodes.length + 1) := fun q hnested => by
      have hle := hnested.length_le hdisk
      omega
    refine (directories_tells fun q hnested hq => absurd hq (hlevel q hnested)).congr
      (fun _ => Iff.rfl) Iff.rfl ?_
    exact iff_of_false (fun ⟨q, hnested, hq⟩ => hlevel q hnested hq) (by simp [Deep])

/-! ### Selected paths -/

/-- The search for what segments select is ended by an inquiry. -/
def Disrupted (h : Host) (directory : Bool) (segments : List Segment) (p : FsPath) : Prop :=
  ∃ inquiry, h.Asks directory segments p inquiry ∧ h.Disrupts inquiry

variable {rest : List Segment} {name : String} {glyphs : List Glyph}

/-- What a name leads to is there, and a directory where one is demanded. -/
theorem demanded_eq_true :
    (if rest ≠ [] ∨ directory = true then h.isDir p else h.exists? p) = .ok true ↔
      ∃ n, h.stat p = .ok n ∧ (rest ≠ [] ∨ directory = true → n.isDir = true) := by
  split
  · next hdemand =>
    rw [isDir, probe_eq_true]
    exact exists_congr fun n => and_congr_right fun _ => (imp_iff_right hdemand).symm
  · next hdemand =>
    rw [exists?, probe_eq_true]
    exact exists_congr fun n => and_congr_right fun _ =>
      iff_of_true rfl fun hdir => absurd hdir hdemand

theorem demanded_eq_error :
    (if rest ≠ [] ∨ directory = true then h.isDir p else h.exists? p) = .error e ↔
      h.stat p = .error e ∧ e.meansAbsent = false := by
  split
  · exact probe_eq_error
  · exact probe_eq_error

theorem selects_exact : h.Selects directory (.exact name :: rest) p q ↔
    (∃ n, h.stat (p.child name) = .ok n ∧ (rest ≠ [] ∨ directory = true → n.isDir = true)) ∧
      h.Selects directory rest (p.child name) q := by
  constructor
  · intro hselects
    cases hselects with
    | exact hlook hdir hrest => exact ⟨⟨_, hlook, hdir⟩, hrest⟩
  · rintro ⟨⟨n, hlook, hdir⟩, hrest⟩
    exact .exact hlook hdir hrest

theorem disrupted_exact : h.Disrupted directory (.exact name :: rest) p ↔
    h.Disrupts (.look (p.child name)) ∨
      (∃ n, h.stat (p.child name) = .ok n ∧ (rest ≠ [] ∨ directory = true → n.isDir = true)) ∧
        h.Disrupted directory rest (p.child name) := by
  constructor
  · rintro ⟨inquiry, hasks, hdisrupts⟩
    cases hasks with
    | look => exact Or.inl hdisrupts
    | behindName hlook hdir hrest => exact Or.inr ⟨⟨_, hlook, hdir⟩, inquiry, hrest, hdisrupts⟩
  · rintro (hdisrupts | ⟨⟨n, hlook, hdir⟩, inquiry, hrest, hdisrupts⟩)
    · exact ⟨_, .look, hdisrupts⟩
    · exact ⟨inquiry, .behindName hlook hdir hrest, hdisrupts⟩

theorem selects_recursive : h.Selects directory (.recursive :: rest) p q ↔
    ∃ dir, h.Nested p dir ∧ h.Selects directory rest dir q := by
  constructor
  · intro hselects
    cases hselects with
    | recursive hnested hrest => exact ⟨_, hnested, hrest⟩
  · rintro ⟨dir, hnested, hrest⟩
    exact .recursive hnested hrest

theorem disrupted_recursive : h.Disrupted directory (.recursive :: rest) p ↔
    ∃ dir, h.Nested p dir ∧ (h.Obstructed dir ∨ h.Disrupted directory rest dir) := by
  constructor
  · rintro ⟨inquiry, hasks, hdisrupts⟩
    cases hasks with
    | listNested hnested => exact ⟨_, hnested, Or.inl (Or.inl hdisrupts)⟩
    | judgeNested hprobes hnested hlist hentry =>
      exact ⟨_, hnested, Or.inl (Or.inr ⟨hprobes, _, _, _, hlist, hentry, hdisrupts⟩)⟩
    | behindNested hnested hrest => exact ⟨_, hnested, Or.inr ⟨inquiry, hrest, hdisrupts⟩⟩
  · rintro ⟨dir, hnested, (hdisrupts | ⟨hprobes, _, _, _, hlist, hentry, hdisrupts⟩) |
      ⟨inquiry, hrest, hdisrupts⟩⟩
    · exact ⟨_, .listNested hnested, hdisrupts⟩
    · exact ⟨_, .judgeNested hprobes hnested hlist hentry, hdisrupts⟩
    · exact ⟨inquiry, .behindNested hnested hrest, hdisrupts⟩

/-- An entry that is judged fit leads to a directory where one is demanded. -/
theorem fit_eq_true :
    (if rest ≠ [] ∨ directory = true then h.entryIsDir p n else .ok true) = .ok true ↔
      (rest ≠ [] ∨ directory = true → h.LeadsToDir p n) := by
  split
  · next hdemand => exact entryIsDir_eq_true.trans (imp_iff_right hdemand).symm
  · next hdemand => exact iff_of_true rfl fun hdir => absurd hdir hdemand

theorem fit_eq_error :
    (if rest ≠ [] ∨ directory = true then h.entryIsDir p n else .ok true) = .error e ↔
      (rest ≠ [] ∨ directory = true) ∧ h.entryIsDir p n = .error e := by
  split
  · next hdemand => exact (and_iff_right hdemand).symm
  · next hdemand => exact iff_of_false nofun fun hdir => hdemand hdir.1

theorem selects_wild (hlist : h.scandir p = .ok entries) :
    h.Selects directory (.wild glyphs :: rest) p q ↔
      ∃ entry ∈ entries, (rest ≠ [] ∨ directory = true → h.LeadsToDir (p.child entry.1) entry.2) ∧
        Glyph.matchAll glyphs entry.1.toList = true ∧
        h.Selects directory rest (p.child entry.1) q := by
  constructor
  · intro hselects
    cases hselects with
    | wild hok hentry hmatch hdir hrest =>
      obtain rfl := Except.ok.inj (hlist.symm.trans hok)
      exact ⟨_, hentry, hdir, hmatch, hrest⟩
  · rintro ⟨entry, hentry, hdir, hmatch, hrest⟩
    exact .wild hlist hentry hmatch hdir hrest

theorem disrupted_wild (hlist : h.scandir p = .ok entries) :
    h.Disrupted directory (.wild glyphs :: rest) p ↔
      ∃ entry ∈ entries,
        (rest ≠ [] ∨ directory = true) ∧ (∃ target, entry.2 = .link target) ∧
            h.Disrupts (.follow (p.child entry.1)) ∨
          (rest ≠ [] ∨ directory = true → h.LeadsToDir (p.child entry.1) entry.2) ∧
            Glyph.matchAll glyphs entry.1.toList = true ∧
            h.Disrupted directory rest (p.child entry.1) := by
  constructor
  · rintro ⟨inquiry, hasks, hdisrupts⟩
    cases hasks with
    | list =>
      obtain ⟨e, hfails, -⟩ := hdisrupts
      cases hlist.symm.trans hfails
    | judge hok hentry hdemand =>
      obtain rfl := Except.ok.inj (hlist.symm.trans hok)
      exact ⟨_, hentry, Or.inl ⟨hdemand, ⟨_, rfl⟩, hdisrupts⟩⟩
    | behindEntry hok hentry hmatch hdir hrest =>
      obtain rfl := Except.ok.inj (hlist.symm.trans hok)
      exact ⟨_, hentry, Or.inr ⟨hdir, hmatch, inquiry, hrest, hdisrupts⟩⟩
  · rintro ⟨⟨name, n⟩, hentry, ⟨hdemand, ⟨target, rfl⟩, hdisrupts⟩ |
      ⟨hdir, hmatch, inquiry, hrest, hdisrupts⟩⟩
    · exact ⟨_, .judge hlist hentry hdemand, hdisrupts⟩
    · exact ⟨inquiry, .behindEntry hlist hentry hmatch hdir hrest, hdisrupts⟩

/-- Glyphs ask for the entries of a directory first, and for no more if that fails. -/
theorem disrupted_wild_of_error (hlist : h.scandir p = .error e) :
    h.Disrupted directory (.wild glyphs :: rest) p ↔ e.isDenial = false := by
  constructor
  · rintro ⟨inquiry, hasks, e', hfails, hended⟩
    cases hasks with
    | list => rwa [Except.error.inj (hlist.symm.trans hfails)]
    | judge hok => cases hlist.symm.trans hok
    | behindEntry hok => cases hlist.symm.trans hok
  · exact fun hdenial => ⟨_, .list, e, hlist, hdenial⟩

/-! ### Exhausted stacks -/

/-- The search for what segments select comes to a directory that it would have to walk, and in
which too many directories lie inside one another. -/
def Overreaches (h : Host) (levels : Option Nat) (segments : List Segment) (p : FsPath) : Prop :=
  ∃ before rest q, segments = before ++ .recursive :: rest ∧ h.Selects true before p q ∧
    h.Deep levels q

variable {levels : Option Nat}

theorem not_overreaches_nil : ¬h.Overreaches levels [] p := by
  rintro ⟨before, rest, q, hnil, -⟩
  exact absurd hnil (by simp)

/-- A segment that is no `**` leads to where the search goes on. -/
theorem overreaches_cons {segment : Segment} (hsegment : segment ≠ .recursive) :
    h.Overreaches levels (segment :: rest) p ↔ ∃ before rest' q,
      rest = before ++ .recursive :: rest' ∧ h.Selects true (segment :: before) p q ∧
        h.Deep levels q := by
  constructor
  · rintro ⟨before, rest', q, hsplit, hselects, hdeep⟩
    rcases List.cons_eq_append_iff.1 hsplit with ⟨rfl, hhead⟩ | ⟨before, rfl, rfl⟩
    · exact absurd (List.cons.inj hhead).1.symm hsegment
    · exact ⟨before, rest', q, rfl, hselects, hdeep⟩
  · rintro ⟨before, rest', q, rfl, hselects, hdeep⟩
    exact ⟨segment :: before, rest', q, rfl, hselects, hdeep⟩

theorem overreaches_exact : h.Overreaches levels (.exact name :: rest) p ↔
    (∃ n, h.stat (p.child name) = .ok n ∧ n.isDir = true) ∧
      h.Overreaches levels rest (p.child name) := by
  have hsegment : Segment.exact name ≠ .recursive := nofun
  rw [overreaches_cons hsegment]
  simp only [selects_exact, or_true, forall_const]
  constructor
  · rintro ⟨before, rest', q, rfl, ⟨hdir, hselects⟩, hdeep⟩
    exact ⟨hdir, before, rest', q, rfl, hselects, hdeep⟩
  · rintro ⟨hdir, before, rest', q, rfl, hselects, hdeep⟩
    exact ⟨before, rest', q, rfl, ⟨hdir, hselects⟩, hdeep⟩

theorem overreaches_wild (hlist : h.scandir p = .ok entries) :
    h.Overreaches levels (.wild glyphs :: rest) p ↔
      ∃ entry ∈ entries, h.LeadsToDir (p.child entry.1) entry.2 ∧
        Glyph.matchAll glyphs entry.1.toList = true ∧
        h.Overreaches levels rest (p.child entry.1) := by
  have hsegment : Segment.wild glyphs ≠ .recursive := nofun
  rw [overreaches_cons hsegment]
  simp only [selects_wild hlist, or_true, forall_const]
  constructor
  · rintro ⟨before, rest', q, rfl, ⟨entry, hentry, hdir, hmatch, hselects⟩, hdeep⟩
    exact ⟨entry, hentry, hdir, hmatch, before, rest', q, rfl, hselects, hdeep⟩
  · rintro ⟨entry, hentry, hdir, hmatch, before, rest', q, rfl, hselects, hdeep⟩
    exact ⟨before, rest', q, rfl, ⟨entry, hentry, hdir, hmatch, hselects⟩, hdeep⟩

/-- What cannot be listed has nothing that could be walked. -/
theorem not_overreaches_wild (hlist : h.scandir p = .error e) :
    ¬h.Overreaches levels (.wild glyphs :: rest) p := by
  have hsegment : Segment.wild glyphs ≠ .recursive := nofun
  rw [overreaches_cons hsegment]
  rintro ⟨before, rest', q, -, hselects, -⟩
  cases hselects with
  | wild hok => cases hlist.symm.trans hok

theorem overreaches_recursive : h.Overreaches levels (.recursive :: rest) p ↔
    h.Deep levels p ∨ ∃ dir, h.Nested p dir ∧ h.Overreaches levels rest dir := by
  constructor
  · rintro ⟨before, rest', q, hsplit, hselects, hdeep⟩
    rcases List.cons_eq_append_iff.1 hsplit with ⟨rfl, -⟩ | ⟨before, rfl, rfl⟩
    · cases hselects
      exact Or.inl hdeep
    · obtain ⟨dir, hnested, hrest⟩ := selects_recursive.1 hselects
      exact Or.inr ⟨dir, hnested, before, rest', q, rfl, hrest, hdeep⟩
  · rintro (hdeep | ⟨dir, hnested, before, rest', q, rfl, hselects, hdeep⟩)
    · exact ⟨[], rest, p, rfl, .done, hdeep⟩
    · exact ⟨.recursive :: before, rest', q, rfl, .recursive hnested hselects, hdeep⟩

/-- Where segments go on with a directory to walk, a directory is demanded. -/
theorem Overreaches.ne_nil (hover : h.Overreaches levels rest p) : rest ≠ [] := by
  rintro rfl
  exact not_overreaches_nil hover

/-! ### The search for selected paths -/

section Rest

-- What is known of the segments behind the first one.
variable (hrest : ∀ q, (h.select levels directory rest q).Tells (h.Selects directory rest q)
  (h.Disrupted directory rest q) (h.Overreaches levels rest q))

include hrest

/-- What a name and further segments select is found, unless an inquiry ends the search. -/
theorem select_exact_tells : (h.select levels directory (.exact name :: rest) p).Tells
    (h.Selects directory (.exact name :: rest) p)
    (h.Disrupted directory (.exact name :: rest) p)
    (h.Overreaches levels (.exact name :: rest) p) := by
  rw [select]
  refine (Selection.absorb_guarded_tells (fun e he => ?_) fun _ => hrest (p.child name)).congr
    (fun q => ?_) ?_ ?_
  · exact ne_exhausted_of_guarded (demanded_eq_error.1 he).1
  · rw [demanded_eq_true, selects_exact]
  · rw [demanded_eq_true, disrupted_exact]
    refine or_congr_left (exists_congr fun e => ?_)
    rw [demanded_eq_error, and_assoc, and_comm (b := e.isDenial = false)]
    exact Iff.rfl
  · rw [demanded_eq_true, overreaches_exact]
    refine and_congr_left fun hover => exists_congr fun n => and_congr_right fun _ => ?_
    exact imp_iff_right (Or.inl hover.ne_nil)

/-- The same for glyphs. -/
theorem select_wild_tells : (h.select levels directory (.wild glyphs :: rest) p).Tells
    (h.Selects directory (.wild glyphs :: rest) p)
    (h.Disrupted directory (.wild glyphs :: rest) p)
    (h.Overreaches levels (.wild glyphs :: rest) p) := by
  rw [select]
  cases hlist : h.scandir p with
  | error e =>
    refine (Selection.absorb_stop_tells (ne_exhausted_of_guarded hlist)).congr (fun q => ?_)
      (disrupted_wild_of_error hlist).symm (iff_of_false id (not_overreaches_wild hlist))
    refine iff_of_false id fun hselects => ?_
    cases hselects with
    | wild hok => cases hlist.symm.trans hok
  | ok entries =>
    refine (Selection.forEach_tells fun entry hentry => ?_).absorb.congr
      (fun q => (selects_wild hlist).symm) (disrupted_wild hlist).symm
      (overreaches_wild hlist).symm
    obtain ⟨name, n⟩ := entry
    have hinside : (if Glyph.matchAll glyphs name.toList = true then
        h.select levels directory rest (p.child name) else .none).Tells
        (fun q => Glyph.matchAll glyphs name.toList = true ∧
          h.Selects directory rest (p.child name) q)
        (Glyph.matchAll glyphs name.toList = true ∧ h.Disrupted directory rest (p.child name))
        (Glyph.matchAll glyphs name.toList = true ∧
          h.Overreaches levels rest (p.child name)) := by
      have htells := hrest (p.child name)
      split
      · next hmatch => exact htells.congr (by simp [hmatch]) (by simp [hmatch]) (by simp [hmatch])
      · next hmatch =>
        exact Selection.none_tells.congr (by simp [hmatch]) (by simp [hmatch]) (by simp [hmatch])
    -- An entry is judged before it is matched, so that one that does not match can fail too.
    refine (Selection.guarded_tells (fun e he => ?_) fun _ => hinside).congr (fun q => ?_) ?_ ?_
    · have hfails := (entryIsDir_eq_error.1 (fit_eq_error.1 he).2).2.1
      exact ⟨isDenial_of_follow hfails, ne_exhausted_of_follow hfails⟩
    · rw [fit_eq_true]
    · rw [fit_eq_true, disrupts_follow]
      refine or_congr_left ?_
      rw [← exists_and_left, ← exists_and_left]
      exact exists_congr fun e => fit_eq_error.trans (and_congr_right fun _ =>
        entryIsDir_eq_error)
    · rw [fit_eq_true]
      refine and_congr_left fun hover => ?_
      exact imp_iff_right (Or.inl hover.2.ne_nil)

/-- The same for all nested directories. -/
theorem select_recursive_tells (hdisk : h.disk.Sound) :
    (h.select levels directory (.recursive :: rest) p).Tells
      (h.Selects directory (.recursive :: rest) p) (h.Disrupted directory (.recursive :: rest) p)
      (h.Overreaches levels (.recursive :: rest) p) := by
  rw [select]
  have hdirs := walk_tells hdisk levels p
  -- From here on it is of no account how the directories are found.
  generalize h.walk levels p = dirs at hdirs ⊢
  have hfound := Selection.forEach_tells (f := h.select levels directory rest) (l := dirs.found)
    fun dir _ => hrest dir
  -- All nested directories are searched if the walk has not ended early, and else it has ended.
  have hall : ∀ dir, h.Nested p dir → dir ∈ dirs.found ∨
      ((∃ dir, h.Nested p dir ∧ h.Obstructed dir) ∨ h.Deep levels p) := by
    intro dir hnested
    cases hstop : dirs.stopped with
    | none => exact Or.inl (hdirs.found hstop dir hnested)
    | some e => exact Or.inr (hdirs.stopped_iff.1 (by rw [hstop]; rfl))
  refine (hfound.append hdirs.ending).absorb.congr_of_not ?_ ?_ ?_ ?_ ?_
  · rw [disrupted_recursive]
    rintro (⟨dir, hdir, hdisrupted⟩ | ⟨dir, hnested, hdisrupts⟩)
    · exact ⟨dir, hdirs.sound dir hdir, Or.inr hdisrupted⟩
    · exact ⟨dir, hnested, Or.inl hdisrupts⟩
  · rw [overreaches_recursive]
    rintro (⟨dir, hdir, hover⟩ | hdeep)
    · exact Or.inr ⟨dir, hdirs.sound dir hdir, hover⟩
    · exact Or.inl hdeep
  · rw [disrupted_recursive, overreaches_recursive]
    rintro (⟨dir, hnested, hdisrupts | hdisrupted⟩ | hdeep | ⟨dir, hnested, hover⟩)
    · exact Or.inl (Or.inr ⟨dir, hnested, hdisrupts⟩)
    · rcases hall dir hnested with hdir | hended | hdeep
      · exact Or.inl (Or.inl ⟨dir, hdir, hdisrupted⟩)
      · exact Or.inl (Or.inr hended)
      · exact Or.inr (Or.inr hdeep)
    · exact Or.inr (Or.inr hdeep)
    · rcases hall dir hnested with hdir | hended | hdeep
      · exact Or.inr (Or.inl ⟨dir, hdir, hover⟩)
      · exact Or.inl (Or.inr hended)
      · exact Or.inr (Or.inr hdeep)
  · rintro q (⟨dir, hdir, hselects⟩ | hnone)
    · exact selects_recursive.2 ⟨dir, hdirs.sound dir hdir, hselects⟩
    · exact hnone.elim
  · intro hgo q hselects
    obtain ⟨dir, hnested, hselects⟩ := selects_recursive.1 hselects
    rcases hall dir hnested with hdir | ⟨dir', hnested', hdisrupts⟩ | hdeep
    · exact Or.inl ⟨dir, hdir, hselects⟩
    · exact absurd (Or.inl (disrupted_recursive.2 ⟨dir', hnested', Or.inl hdisrupts⟩)) hgo
    · exact absurd (Or.inr (overreaches_recursive.2 (Or.inl hdeep))) hgo

end Rest

/-- The paths that segments select are found, unless an inquiry ends the search or the stack is
exhausted. The induction is on the segments. -/
theorem select_tells (hdisk : h.disk.Sound) (levels : Option Nat) (directory : Bool)
    (segments : List Segment) (p : FsPath) :
    (h.select levels directory segments p).Tells (h.Selects directory segments p)
      (h.Disrupted directory segments p) (h.Overreaches levels segments p) := by
  induction segments generalizing p with
  | nil =>
    refine (Selection.single_tells p).congr (fun q => ?_) ?_ ?_
    · exact ⟨fun heq => heq ▸ .done, fun hselects => by cases hselects; rfl⟩
    · exact iff_of_false id fun ⟨_, hasks, _⟩ => nomatch hasks
    · exact iff_of_false id not_overreaches_nil
  | cons segment rest ih =>
    cases segment with
    | exact name => exact select_exact_tells ih
    | wild glyphs => exact select_wild_tells ih
    | recursive => exact select_recursive_tells ih hdisk

end Host

end IndexSync
