import IndexSync.Disk

/-!
# Walks

What it takes for a walk along a path to end somewhere, as a relation with one rule for every kind
of step, and what becomes of the walk when a node is put where it ended. The relation and the
function have the same results, so that what holds of walks is proved by induction on the rules.

* `Disk.Walks` — the rules of walking;
* `Disk.walk_eq_ok` — the function walks by these rules;
* `Disk.obstacle_of_walk` — what stops a walk;
* `Disk.Walks.placed` — a walk on a disk that got a node at one place;
* `Disk.Walks.use_of_create`, `Disk.Walks.use_of_inspect`, `Disk.Walks.inspect_of_use` — walks that
  are made for different purposes.
-/

namespace IndexSync.Disk

/-! ### Nodes by place -/

theorem lookup_replace (nodes : List (Place × Node)) (p q : Place) (n : Node) :
    (nodes.map fun (r, m) => if r = p then (r, n) else (r, m)).lookup q =
      if q = p then (nodes.lookup p).map fun _ => n else nodes.lookup q := by
  induction nodes with
  | nil => simp
  | cons entry nodes ih =>
    obtain ⟨r, m⟩ := entry
    by_cases hr : r = p
    · subst hr
      by_cases hq : q = r
      · simp [hq]
      · have hne : (q == r) = false := by simpa using hq
        simp [List.lookup_cons, hne, hq, ih]
    · by_cases hq : q = r
      · subst hq
        simp [hr]
      · have hne : (q == r) = false := by simpa using hq
        by_cases hp : q = p
        · subst hp
          simp [List.lookup_cons, hne, hr, ih]
        · simp [List.lookup_cons, hne, hr, hp, ih]

/-- Putting a node at a place changes that place and no other. -/
theorem get?_set (d : Disk) (p q : Place) (n : Node) :
    (d.set p n).get? q = if q = p then some n else d.get? q := by
  have hlookup : (d.set p n).nodes.lookup q = if q = p then some n else d.nodes.lookup q := by
    unfold set
    split
    · next hsome =>
      obtain ⟨old, hold⟩ := Option.isSome_iff_exists.1 hsome
      rw [lookup_replace, hold]
      rfl
    · next hnone =>
      rw [Option.not_isSome_iff_eq_none] at hnone
      rw [List.lookup_append]
      by_cases hq : q = p
      · simp [hq, hnone]
      · have hne : (q == p) = false := by simpa using hq
        simp [hq, List.lookup_cons, hne]
  unfold get?
  rw [hlookup]
  by_cases hq : q = p
  · simp [hq]
  · simp [hq]

/-! ### The rules of walking -/

/-- The name `step` is looked up in the directory that a walk has reached. -/
structure Named (purpose : Purpose) (here : Node) (step : String) (rest : List String) : Prop where
  dir : here.isDir = true
  goes : isStay step = false
  down : step ≠ ".."
  -- No file can be made where a directory is meant.
  file : ¬(purpose = .create ∧ rest ≠ [] ∧ rest.all (· == "") = true)
  short : (Text.Utf8.encode step).length ≤ maxNameBytes

/-- A walk along steps, from a place with the node `here` and following at most a number of links,
ends as `found`. -/
inductive Walks (d : Disk) (purpose : Purpose) :
    Nat → Place → Node → List String → Found → Prop where
  | done {links : Nat} {place : Place} {here : Node} :
    Walks d purpose links place here [] (.node place here)
  | stay {links : Nat} {place : Place} {here : Node} {step : String} {rest : List String}
    {found : Found} (hdir : here.isDir = true) (hstay : isStay step = true)
    (h : Walks d purpose links place here rest found) :
    Walks d purpose links place here (step :: rest) found
  | up {links : Nat} {place : Place} {here : Node} {rest : List String} {found : Found}
    (hdir : here.isDir = true)
    (h : Walks d purpose links place.dropLast
      ((d.get? place.dropLast).getD (.dir Node.dirMode)) rest found) :
    Walks d purpose links place here (".." :: rest) found
  | absent {links : Nat} {place : Place} {here : Node} {step : String} {rest : List String}
    (hnamed : Named purpose here step rest) (hnone : d.get? (place ++ [step]) = none)
    (hrest : rest.all (· == "") = true) :
    Walks d purpose links place here (step :: rest) (.absent place step)
  | link {links : Nat} {place : Place} {here : Node} {step target : String}
    (hnamed : Named purpose here step []) (hlink : d.get? (place ++ [step]) = some (.link target))
    (hpurpose : purpose = .inspect) :
    Walks d purpose links place here [step] (.node (place ++ [step]) (.link target))
  | follow {links : Nat} {place : Place} {here start : Node} {step target : String}
    {rest : List String} {found : Found} (hnamed : Named purpose here step rest)
    (hlink : d.get? (place ++ [step]) = some (.link target))
    (hgo : ¬(rest = [] ∧ purpose = .inspect))
    (hstart : d.get? (retarget place target rest).1 = some start)
    (h : Walks d purpose links (retarget place target rest).1 start
      (retarget place target rest).2 found) :
    Walks d purpose (links + 1) place here (step :: rest) found
  | enter {links : Nat} {place : Place} {here n : Node} {step : String} {rest : List String}
    {found : Found} (hnamed : Named purpose here step rest)
    (hnode : d.get? (place ++ [step]) = some n) (hsolid : ∀ target, n ≠ .link target)
    (h : Walks d purpose links (place ++ [step]) n rest found) :
    Walks d purpose links place here (step :: rest) found

/-- What a walk that may follow a number of links does at a link. -/
def atLink (d : Disk) (purpose : Purpose) : Nat → Place → List String → Except Errno Found
  | 0 => fun _ _ => .error Errno.linkLoop
  | links + 1 => d.walk purpose links

/-- A walk starts at a node and goes on from there. -/
theorem walk_eq (d : Disk) (purpose : Purpose) (links : Nat) (place : Place) (steps : List String) :
    d.walk purpose links place steps =
      match d.get? place with
      | none => .error Errno.noEntry
      | some here => walkWith d purpose (atLink d purpose links) place here steps := by
  cases links with
  | zero => rw [walk]; rfl
  | succ links => rw [walk]; rfl

/-- A name that can be looked up is looked up. -/
theorem walkWith_named {d : Disk} {purpose : Purpose}
    {onLink : Place → List String → Except Errno Found} {place : Place} {here : Node}
    {step : String} {rest : List String} (h : Named purpose here step rest) :
    walkWith d purpose onLink place here (step :: rest) =
      match d.get? (place ++ [step]) with
      | none => if rest.all (· == "") then .ok (.absent place step) else .error Errno.noEntry
      | some (.link target) =>
        if rest = [] ∧ purpose = .inspect then .ok (.node (place ++ [step]) (.link target))
        else onLink (retarget place target rest).1 (retarget place target rest).2
      | some n => walkWith d purpose onLink (place ++ [step]) n rest := by
  have hstep := walkWith.eq_2 d purpose onLink place here step rest
  simp only [h.dir, h.goes, h.down, h.file, Nat.not_lt.2 h.short, Bool.not_true, Bool.false_eq_true,
    ↓reduceIte] at hstep
  exact hstep

/-- A walk that succeeds goes by the rules, if the walks behind links do. -/
theorem walks_of_walkWith {d : Disk} {purpose : Purpose} {links : Nat}
    (hlinks : ∀ {start : Place} {steps : List String} {found : Found},
      atLink d purpose links start steps = .ok found → ∃ less here, links = less + 1 ∧
        d.get? start = some here ∧ Walks d purpose less start here steps found)
    {place : Place} {here : Node} {steps : List String} {found : Found}
    (h : walkWith d purpose (atLink d purpose links) place here steps = .ok found) :
    Walks d purpose links place here steps found := by
  induction steps generalizing place here with
  | nil =>
    rw [walkWith] at h
    cases h
    exact .done
  | cons step rest ih =>
    rw [walkWith] at h
    -- The tests of the walk come in the order of its rules.
    split at h
    · cases h
    next hdir =>
    have hdir : here.isDir = true := by simpa using hdir
    split at h
    · next hstay => exact .stay hdir hstay (ih h)
    next hgoes =>
    split at h
    · next hup =>
      subst hup
      exact .up hdir (ih h)
    next hdown =>
    split at h
    · cases h
    next hfile =>
    split at h
    · cases h
    next hshort =>
    have hnamed : Named purpose here step rest :=
      ⟨hdir, by simpa using hgoes, hdown, hfile, Nat.not_lt.1 hshort⟩
    split at h
    · next hnone =>
      split at h
      · next hrest =>
        cases h
        exact .absent hnamed hnone hrest
      · cases h
    · next target hlink =>
      split at h
      · next hend =>
        obtain ⟨rfl, hpurpose⟩ := hend
        cases h
        exact .link hnamed hlink hpurpose
      · next hgo =>
        obtain ⟨less, start, rfl, hstart, hwalk⟩ := hlinks h
        exact .follow hnamed hlink hgo hstart hwalk
    · next n hsolid hnode =>
      exact .enter hnamed hnode (fun target heq => hsolid target heq) (ih h)

/-- A walk by the rules is what the function does. -/
theorem Walks.walkWith {d : Disk} {purpose : Purpose} {links : Nat} {place : Place} {here : Node}
    {steps : List String} {found : Found} (h : Walks d purpose links place here steps found) :
    walkWith d purpose (atLink d purpose links) place here steps = .ok found := by
  induction h with
  | done => rw [Disk.walkWith]
  | stay hdir hstay _ ih =>
    rw [Disk.walkWith, hdir]
    simpa only [hstay, Bool.not_true, Bool.false_eq_true, ↓reduceIte] using ih
  | up hdir _ ih =>
    rw [Disk.walkWith, hdir]
    exact ih
  | absent hnamed hnone hrest =>
    rw [walkWith_named hnamed, hnone]
    simp only [hrest, ↓reduceIte]
  | link hnamed hlink hpurpose =>
    rw [walkWith_named hnamed, hlink]
    simp only [hpurpose, and_self, ↓reduceIte]
  | follow hnamed hlink hgo hstart _ ih =>
    rw [walkWith_named hnamed, hlink]
    dsimp only
    rw [if_neg hgo, atLink, walk_eq, hstart]
    exact ih
  | enter hnamed hnode hsolid _ ih =>
    rw [walkWith_named hnamed, hnode]
    split
    · next heq => cases heq
    · next target heq => exact absurd (Option.some.inj heq) (hsolid target)
    · next heq =>
      obtain rfl := Option.some.inj heq
      exact ih

/-- The function walks by the rules. The induction is on the number of links that may be
followed. -/
theorem walk_eq_ok {d : Disk} {purpose : Purpose} {links : Nat} {place : Place}
    {steps : List String} {found : Found} :
    d.walk purpose links place steps = .ok found ↔
      ∃ here, d.get? place = some here ∧ Walks d purpose links place here steps found := by
  constructor
  · induction links generalizing place steps found with
    | zero =>
      intro h
      rw [walk_eq] at h
      split at h
      · cases h
      · next here hhere =>
        refine ⟨here, hhere, walks_of_walkWith (fun hlink => ?_) h⟩
        rw [atLink] at hlink
        cases hlink
    | succ links ih =>
      intro h
      rw [walk_eq] at h
      split at h
      · cases h
      · next here hhere =>
        refine ⟨here, hhere, walks_of_walkWith (fun hlink => ?_) h⟩
        obtain ⟨start, hstart, hwalk⟩ := ih hlink
        exact ⟨links, start, rfl, hstart, hwalk⟩
  · rintro ⟨here, hhere, hwalk⟩
    rw [walk_eq, hhere]
    exact hwalk.walkWith

/-! ### Walks that fail -/

/-- What stops a walk. -/
inductive Obstacle (purpose : Purpose) : Errno → Prop where
  /-- The path goes on behind what is no directory. -/
  | notDirectory : Obstacle purpose Errno.notDirectory
  /-- A file is to be made where a directory is meant. -/
  | isDirectory (hcreate : purpose = .create) : Obstacle purpose Errno.isDirectory
  /-- A name is too long. -/
  | nameTooLong : Obstacle purpose Errno.nameTooLong
  /-- The path goes on behind a name that its directory does not have. -/
  | noEntry : Obstacle purpose Errno.noEntry
  /-- Too many links are on the way. -/
  | linkLoop : Obstacle purpose Errno.linkLoop

/-- A walk that fails meets an obstacle, if the walks behind links do. -/
theorem obstacle_of_walkWith {d : Disk} {purpose : Purpose}
    {onLink : Place → List String → Except Errno Found} {place : Place} {here : Node}
    {steps : List String} {e : Errno}
    (hlinks : ∀ start rest e, onLink start rest = .error e → Obstacle purpose e)
    (h : walkWith d purpose onLink place here steps = .error e) : Obstacle purpose e := by
  induction steps generalizing place here with
  | nil =>
    rw [walkWith] at h
    cases h
  | cons step rest ih =>
    rw [walkWith] at h
    split at h
    · cases h
      exact .notDirectory
    split at h
    · exact ih h
    split at h
    · exact ih h
    split at h
    · next hfile =>
      cases h
      exact .isDirectory hfile.1
    split at h
    · cases h
      exact .nameTooLong
    split at h
    · split at h
      · cases h
      · cases h
        exact .noEntry
    · split at h
      · cases h
      · exact hlinks _ _ e h
    · exact ih h

/-- A walk that fails meets an obstacle. -/
theorem obstacle_of_walk {d : Disk} {purpose : Purpose} {links : Nat} {place : Place}
    {steps : List String} {e : Errno} (h : d.walk purpose links place steps = .error e) :
    Obstacle purpose e := by
  induction links generalizing place steps e with
  | zero =>
    rw [walk_eq] at h
    split at h
    · cases h
      exact .noEntry
    · refine obstacle_of_walkWith (fun start rest e hlink => ?_) h
      cases hlink
      exact .linkLoop
  | succ links ih =>
    rw [walk_eq] at h
    split at h
    · cases h
      exact .noEntry
    · exact obstacle_of_walkWith (fun start rest e hlink => ih hlink) h

/-! ### Walks for different purposes -/

variable {d d' : Disk} {links : Nat} {place : Place} {here : Node} {steps : List String}
  {found : Found}

/-- What a file can be made at can be used. -/
theorem Walks.use_of_create (h : Walks d .create links place here steps found) :
    Walks d .use links place here steps found := by
  have hnamed : ∀ {here : Node} {step : String} {rest : List String},
      Named .create here step rest → Named .use here step rest :=
    fun h => { h with file := nofun }
  induction h with
  | done => exact .done
  | stay hdir hstay _ ih => exact .stay hdir hstay ih
  | up hdir _ ih => exact .up hdir ih
  | absent hn hnone hrest => exact .absent (hnamed hn) hnone hrest
  | link hn hlink hpurpose => cases hpurpose
  | follow hn hlink hgo hstart _ ih => exact .follow (hnamed hn) hlink nofun hstart ih
  | enter hn hnode hsolid _ ih => exact .enter (hnamed hn) hnode hsolid ih

/-- What is no link on inspection is what is used. -/
theorem Walks.use_of_inspect (h : Walks d .inspect links place here steps found)
    (hfound : ∀ q target, found ≠ .node q (.link target)) :
    Walks d .use links place here steps found := by
  have hnamed : ∀ {here : Node} {step : String} {rest : List String},
      Named .inspect here step rest → Named .use here step rest :=
    fun h => { h with file := nofun }
  induction h with
  | done => exact .done
  | stay hdir hstay _ ih => exact .stay hdir hstay (ih hfound)
  | up hdir _ ih => exact .up hdir (ih hfound)
  | absent hn hnone hrest => exact .absent (hnamed hn) hnone hrest
  | link => exact absurd rfl (hfound _ _)
  | follow hn hlink hgo hstart _ ih =>
    exact .follow (hnamed hn) hlink nofun hstart (ih hfound)
  | enter hn hnode hsolid _ ih => exact .enter (hnamed hn) hnode hsolid (ih hfound)

/-- Where something can be used, something is found on inspection: the same, or a link to it. -/
theorem Walks.inspect_of_use {q : Place} {n : Node}
    (h : Walks d .use links place here steps (.node q n)) :
    ∃ q' n', Walks d .inspect links place here steps (.node q' n') := by
  have hnamed : ∀ {here : Node} {step : String} {rest : List String},
      Named .use here step rest → Named .inspect here step rest :=
    fun h => { h with file := nofun }
  generalize hfound : Found.node q n = found at h
  induction h with
  | done => exact ⟨_, _, .done⟩
  | stay hdir hstay _ ih =>
    obtain ⟨q', n', hwalk⟩ := ih hfound
    exact ⟨q', n', .stay hdir hstay hwalk⟩
  | up hdir _ ih =>
    obtain ⟨q', n', hwalk⟩ := ih hfound
    exact ⟨q', n', .up hdir hwalk⟩
  | absent => cases hfound
  | link hn hlink hpurpose => cases hpurpose
  | @follow _ _ _ _ _ _ rest _ hn hlink hgo hstart _ ih =>
    -- A link at the end is found itself; one on the way is followed on inspection, too.
    cases rest with
    | nil => exact ⟨_, _, .link (hnamed hn) hlink rfl⟩
    | cons next rest =>
      obtain ⟨q', n', hwalk⟩ := ih hfound
      exact ⟨q', n', .follow (hnamed hn) hlink nofun hstart hwalk⟩
  | enter hn hnode hsolid _ ih =>
    obtain ⟨q', n', hwalk⟩ := ih hfound
    exact ⟨q', n', .enter (hnamed hn) hnode hsolid hwalk⟩

/-! ### Walks on a changed disk -/

/-- A walk that has reached a place with the node `here` over directories. -/
structure Reached (d : Disk) (place : Place) (here : Node) : Prop where
  node : d.get? place = some here
  way : ∀ q, q <+: place → q ≠ place → ∃ mode, d.get? q = some (.dir mode)

theorem reached_root {here : Node} (h : d.get? [] = some here) : Reached d [] here :=
  ⟨h, fun _ hq hne => absurd (List.prefix_nil.1 hq) hne⟩

theorem eq_dir_of_isDir {n : Node} (h : n.isDir = true) : ∃ mode, n = .dir mode := by
  cases n with
  | dir mode => exact ⟨mode, rfl⟩
  | _ => cases h

/-- One name further down. -/
theorem Reached.enter (h : Reached d place here) (hdir : here.isDir = true) {step : String}
    {n : Node} (hn : d.get? (place ++ [step]) = some n) : Reached d (place ++ [step]) n := by
  refine ⟨hn, fun q hq hne => ?_⟩
  rcases List.prefix_concat_iff.1 hq with rfl | hq
  · exact absurd rfl hne
  · by_cases heq : q = place
    · obtain ⟨mode, rfl⟩ := eq_dir_of_isDir hdir
      exact ⟨mode, heq ▸ h.node⟩
    · exact h.way q hq heq

/-- One name further up, the root being above itself. -/
theorem Reached.up (h : Reached d place here) (hdir : here.isDir = true) :
    ∃ mode, d.get? place.dropLast = some (.dir mode) ∧ Reached d place.dropLast (.dir mode) := by
  rcases List.eq_nil_or_concat place with rfl | ⟨above, last, rfl⟩
  · obtain ⟨mode, rfl⟩ := eq_dir_of_isDir hdir
    exact ⟨mode, h.node, h⟩
  · rw [List.concat_eq_append, List.dropLast_concat]
    rw [List.concat_eq_append] at h
    have hproper : ∀ q, q <+: above → q ≠ above ++ [last] := by
      rintro q hq rfl
      have hlength := hq.length_le
      rw [List.length_append, List.length_singleton] at hlength
      omega
    obtain ⟨mode, hmode⟩ :=
      h.way above (List.prefix_append _ _) (hproper above (List.prefix_refl _))
    exact ⟨mode, hmode, hmode,
      fun q hq _ => h.way q (hq.trans (List.prefix_append _ _)) (hproper q hq)⟩

/-- The place where the target of a link is walked from. -/
theorem Reached.retarget (h : Reached d place here) {target : String} {rest : List String}
    {start : Node} (hstart : d.get? (retarget place target rest).1 = some start) :
    Reached d (retarget place target rest).1 start := by
  unfold Disk.retarget at hstart ⊢
  dsimp only at hstart ⊢
  split at hstart
  · next habsolute =>
    rw [if_pos habsolute]
    exact reached_root hstart
  · next hrelative =>
    rw [if_neg hrelative]
    exact ⟨hstart, h.way⟩

/-- A walk ends at the node of the place where it ends. -/
theorem Walks.get? {purpose : Purpose} {q : Place} {n : Node} (hhere : Reached d place here)
    (h : Walks d purpose links place here steps (.node q n)) : d.get? q = some n := by
  generalize hfound : Found.node q n = found at h
  induction h with
  | done =>
    cases hfound
    exact hhere.node
  | stay _ _ _ ih => exact ih hhere hfound
  | up hdir _ ih =>
    obtain ⟨mode, hmode, hup⟩ := hhere.up hdir
    rw [hmode] at ih
    exact ih hup hfound
  | absent => cases hfound
  | link _ hlink _ =>
    cases hfound
    exact hlink
  | follow _ _ _ hstart _ ih => exact ih (hhere.retarget hstart) hfound
  | enter hn hnode _ _ ih => exact ih (hhere.enter hn.dir hnode) hfound

/-- There is nothing where a walk ends without a node. -/
theorem Walks.get?_absent {purpose : Purpose} {dir : Place} {name : String}
    (h : Walks d purpose links place here steps (.absent dir name)) :
    d.get? (dir ++ [name]) = none := by
  generalize hfound : Found.absent dir name = found at h
  induction h with
  | done => cases hfound
  | stay _ _ _ ih => exact ih hfound
  | up _ _ ih => exact ih hfound
  | absent _ hnone _ =>
    cases hfound
    exact hnone
  | link => cases hfound
  | follow _ _ _ _ _ ih => exact ih hfound
  | enter _ _ _ _ ih => exact ih hfound

/-- The two disks differ in one place only: what was nothing or a file has become the node `n`. -/
structure Placed (d d' : Disk) (p : Place) (n : Node) : Prop where
  other : ∀ q, q ≠ p → d'.get? q = d.get? q
  node : d'.get? p = some n
  old : ∀ m, d.get? p = some m → m.isFile = true
  solid : ∀ target, n ≠ .link target

/-- Putting a node where there was nothing or a file. -/
theorem placed_set {p : Place} {n : Node} (hold : ∀ m, d.get? p = some m → m.isFile = true)
    (hn : ∀ target, n ≠ .link target) : Placed d (d.set p n) p n where
  other q hq := by rw [get?_set, if_neg hq]
  node := by rw [get?_set, if_pos rfl]
  old := hold
  solid := hn

/-- All directories stay what they are. -/
theorem Placed.dir {p q : Place} {n m : Node} (h : Placed d d' p n) (hq : d.get? q = some m)
    (hdir : m.isDir = true) : d'.get? q = some m := by
  by_cases heq : q = p
  · have hfile := h.old m (heq ▸ hq)
    obtain ⟨mode, rfl⟩ := eq_dir_of_isDir hdir
    cases hfile
  · rw [h.other q heq, hq]

/-- A link is not replaced. -/
theorem Placed.ne_of_link {p q : Place} {n : Node} {target : String} (h : Placed d d' p n)
    (hlink : d.get? q = some (.link target)) : q ≠ p := by
  rintro rfl
  cases h.old _ hlink

/-- Where there was a node, there is one. -/
theorem Placed.exists_node {p q : Place} {n m : Node} (h : Placed d d' p n)
    (hq : d.get? q = some m) : ∃ m', d'.get? q = some m' := by
  by_cases heq : q = p
  · exact ⟨n, heq ▸ h.node⟩
  · exact ⟨m, by rw [h.other q heq, hq]⟩

/-- Where a walk ends once the node `n` is put at the place `p`. -/
def Found.settle (p : Place) (n : Node) : Found → Found
  | .node q m => if q = p then .node p n else .node q m
  | .absent dir name => if dir ++ [name] = p then .node p n else .absent dir name

/-- Nothing but empty steps is left of a walk that has reached a directory. -/
theorem walks_stay {purpose : Purpose} (hdir : here.isDir = true)
    (h : steps.all (· == "") = true) :
    Walks d purpose links place here steps (.node place here) := by
  induction steps with
  | nil => exact .done
  | cons step rest ih =>
    simp only [List.all_cons, Bool.and_eq_true, beq_iff_eq] at h
    exact .stay hdir (by rw [h.1]; rfl) (ih h.2)

/-- A walk on a disk that got a node at one place goes the same way, and ends at the node if it
ended in that place. A file can take the place of a missing one only if the path does not go on. -/
theorem Walks.placed {purpose : Purpose} {p : Place} {n here' : Node} (hplaced : Placed d d' p n)
    (hhere : Reached d place here) (hhere' : d'.get? place = some here')
    (h : Walks d purpose links place here steps found)
    (hfit : ∀ dir name, found = .absent dir name → purpose = .create ∨ n.isDir = true) :
    Walks d' purpose links place here' steps (found.settle p n) := by
  -- Only a walk that is over can be at the place, which was no directory.
  have hsame : here.isDir = true → here' = here := fun hdir =>
    Option.some.inj (hhere'.symm.trans (hplaced.dir hhere.node hdir))
  induction h generalizing here' with
  | @done _ place here =>
    rw [Found.settle]
    split
    · next heq =>
      subst heq
      obtain rfl := Option.some.inj (hhere'.symm.trans hplaced.node)
      exact .done
    · next hne =>
      obtain rfl := Option.some.inj (hhere'.symm.trans ((hplaced.other _ hne).trans hhere.node))
      exact .done
  | stay hdir hstay _ ih =>
    obtain rfl := hsame hdir
    exact .stay hdir hstay (ih hhere hhere' hfit hsame)
  | up hdir _ ih =>
    obtain rfl := hsame hdir
    obtain ⟨mode, hmode, hup⟩ := hhere.up hdir
    have hmode' := hplaced.dir hmode rfl
    refine .up hdir ?_
    rw [hmode] at ih
    rw [hmode']
    exact ih hup hmode' hfit fun _ => rfl
  | @absent _ place here step rest hn hnone hrest =>
    obtain rfl := hsame hn.dir
    rw [Found.settle]
    split
    · next heq =>
      refine .enter hn (heq ▸ hplaced.node) hplaced.solid ?_
      rw [heq]
      rcases hfit place step rfl with hcreate | hdir
      · have hnil : rest = [] := Classical.byContradiction fun hne => hn.file ⟨hcreate, hne, hrest⟩
        rw [hnil]
        exact .done
      · exact walks_stay hdir hrest
    · next hne => exact .absent hn ((hplaced.other _ hne).trans hnone) hrest
  | @link _ place here step target hn hlink hpurpose =>
    obtain rfl := hsame hn.dir
    have hne := hplaced.ne_of_link hlink
    rw [Found.settle, if_neg hne]
    exact .link hn ((hplaced.other _ hne).trans hlink) hpurpose
  | @follow _ place here start step target rest _ hn hlink hgo hstart _ ih =>
    obtain rfl := hsame hn.dir
    have hne := hplaced.ne_of_link hlink
    obtain ⟨start', hstart'⟩ := hplaced.exists_node hstart
    refine .follow hn ((hplaced.other _ hne).trans hlink) hgo hstart' ?_
    exact ih (hhere.retarget hstart) hstart' hfit fun hdir =>
      Option.some.inj (hstart'.symm.trans (hplaced.dir hstart hdir))
  | @enter _ place here m step rest _ hn hnode hsolid _ ih =>
    obtain rfl := hsame hn.dir
    have hreached := hhere.enter hn.dir hnode
    by_cases heq : place ++ [step] = p
    · have hnode' : d'.get? (place ++ [step]) = some n := heq ▸ hplaced.node
      exact .enter hn hnode' hplaced.solid (ih hreached hnode' hfit fun hdir =>
        Option.some.inj (hnode'.symm.trans (hplaced.dir hnode hdir)))
    · have hnode' := (hplaced.other _ heq).trans hnode
      exact .enter hn hnode' hsolid (ih hreached hnode' hfit fun _ => rfl)

end IndexSync.Disk
