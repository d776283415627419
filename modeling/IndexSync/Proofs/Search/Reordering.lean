import IndexSync.Host.Resolve
import IndexSync.Proofs.Search.Selection

/-!
# Hosts that list in another order

A file system promises no order in which a directory lists its entries. Hosts that differ in this
order alone answer all calls alike, but for the order of listings, resolve paths alike, and patterns
select the same paths on them.

* `Host.Reordered` — the same host, but for the order of listings;
* `Host.Reordered.locate_eq`, `Host.Reordered.resolve_eq` — where paths lead to;
* `Host.Reordered.selects`, `Host.Reordered.asks` — what segments select, and what is asked for it.
-/

namespace IndexSync

namespace Disk

variable {d d' : Disk}

/-- Walks depend on a disk by what is at its places. -/
theorem walkWith_congr (hget : ∀ p, d'.get? p = d.get? p) (purpose : Purpose)
    (onLink : Place → List String → Except Errno Found) (place : Place) (here : Node)
    (steps : List String) :
    walkWith d' purpose onLink place here steps = walkWith d purpose onLink place here steps := by
  induction steps generalizing place here with
  | nil => rw [walkWith, walkWith]
  | cons step rest ih =>
    rw [walkWith, walkWith]
    simp only [hget, ih]

theorem walk_congr (hget : ∀ p, d'.get? p = d.get? p) (purpose : Purpose) (links : Nat)
    (place : Place) (steps : List String) :
    d'.walk purpose links place steps = d.walk purpose links place steps := by
  induction links generalizing place steps with
  | zero =>
    rw [walk_eq, walk_eq]
    simp only [hget, walkWith_congr hget]
    rfl
  | succ links ih =>
    -- The walk goes on with a lower bound only behind a link.
    have hlink : atLink d' purpose (links + 1) = atLink d purpose (links + 1) :=
      funext fun start => funext fun rest => ih start rest
    rw [walk_eq, walk_eq]
    simp only [hget, walkWith_congr hget, hlink]

theorem Sound.of_perm (h : d.Sound) (hperm : d'.nodes.Perm d.nodes) : d'.Sound where
  names entry hentry := h.names entry (hperm.mem_iff.1 hentry)
  places := (hperm.map Prod.fst).nodup_iff.2 h.places

/-- What is at a place does not depend on the order of the nodes. -/
theorem Sound.get?_perm (h : d.Sound) (hperm : d'.nodes.Perm d.nodes) (place : Place) :
    d'.get? place = d.get? place := by
  have hlookup : d'.nodes.lookup place = d.nodes.lookup place := by
    ext n
    rw [h.lookup_eq_some, (h.of_perm hperm).lookup_eq_some, hperm.mem_iff]
  rw [get?, get?, hlookup]

end Disk

namespace Host

/-- The same host, but for the order in which directories list their entries. -/
def Reordered (h h' : Host) : Prop :=
  ∃ nodes : List (Place × Node), nodes.Perm h.disk.nodes ∧ h' = { h with disk := ⟨nodes⟩ }

namespace Reordered

variable {h h' : Host} {p q : FsPath}

theorem symm (hr : h.Reordered h') : h'.Reordered h := by
  obtain ⟨nodes, hperm, rfl⟩ := hr
  exact ⟨h.disk.nodes, hperm.symm, rfl⟩

theorem disk_sound (hr : h.Reordered h') (hdisk : h.disk.Sound) : h'.disk.Sound := by
  obtain ⟨nodes, hperm, rfl⟩ := hr
  exact hdisk.of_perm hperm

/-! ### Calls -/

theorem find_eq (hr : h.Reordered h') (hdisk : h.disk.Sound) (purpose : Disk.Purpose)
    (p : FsPath) : h'.find purpose p = h.find purpose p := by
  obtain ⟨nodes, hperm, rfl⟩ := hr
  have hcall : callText? { h with disk := ⟨nodes⟩ } p = h.callText? p := rfl
  unfold find
  rw [hcall]
  simp only [Disk.lookup, Disk.walk_congr (hdisk.get?_perm hperm)]

theorem locate_eq (hr : h.Reordered h') (hdisk : h.disk.Sound) (purpose : Disk.Purpose)
    (p : FsPath) : h'.locate purpose p = h.locate purpose p := by
  rw [locate, locate, hr.find_eq hdisk]

/-- Calls fail by the same script. -/
theorem probesLinks_eq (hr : h.Reordered h') : h'.probesLinks = h.probesLinks := by
  obtain ⟨nodes, hperm, rfl⟩ := hr
  rfl

theorem guarded_eq (hr : h.Reordered h') {α : Type} (call : Call) (p : FsPath)
    (act : Except Errno α) : h'.guarded call p act = h.guarded call p act := by
  obtain ⟨nodes, hperm, rfl⟩ := hr
  rfl

theorem stat_eq (hr : h.Reordered h') (hdisk : h.disk.Sound) (p : FsPath) :
    h'.stat p = h.stat p := by
  rw [stat, stat, hr.guarded_eq, hr.locate_eq hdisk]

theorem lstat_eq (hr : h.Reordered h') (hdisk : h.disk.Sound) (p : FsPath) :
    h'.lstat p = h.lstat p := by
  rw [lstat, lstat, hr.guarded_eq, hr.locate_eq hdisk]

theorem readlink_eq (hr : h.Reordered h') (hdisk : h.disk.Sound) (p : FsPath) :
    h'.readlink p = h.readlink p := by
  rw [readlink, readlink, hr.guarded_eq, hr.locate_eq hdisk]

/-- Listings fail alike, or have the same entries. -/
theorem scandir_alike (hr : h.Reordered h') (hdisk : h.disk.Sound) (p : FsPath) :
    (∃ e, h.scandir p = .error e ∧ h'.scandir p = .error e) ∨
      ∃ entries entries', h.scandir p = .ok entries ∧ h'.scandir p = .ok entries' ∧
        entries'.Perm entries := by
  have hentries : ∀ place, (h'.disk.entries place).Perm (h.disk.entries place) := by
    obtain ⟨nodes, hperm, rfl⟩ := hr
    exact fun place => hperm.filterMap _
  have hguarded : ∀ act act' : Except Errno (List (String × Node)),
      (act' = act ∨ ∃ entries entries', act = .ok entries ∧ act' = .ok entries' ∧
        entries'.Perm entries) →
      (∃ e, h.guarded .scandir p act = .error e ∧ h.guarded .scandir p act' = .error e) ∨
        ∃ entries entries', h.guarded .scandir p act = .ok entries ∧
          h.guarded .scandir p act' = .ok entries' ∧ entries'.Perm entries := by
    intro act act' halike
    -- Scripted failures and texts that cannot be paths come before what is listed.
    unfold guarded
    split
    · exact Or.inl ⟨_, rfl, rfl⟩
    · split
      · exact Or.inl ⟨_, rfl, rfl⟩
      · rcases halike with rfl | ⟨entries, entries', rfl, rfl, hperm⟩
        · cases act' with
          | error errno => exact Or.inl ⟨_, rfl, rfl⟩
          | ok entries => exact Or.inr ⟨_, _, rfl, rfl, List.Perm.refl _⟩
        · exact Or.inr ⟨_, _, rfl, rfl, hperm⟩
  unfold scandir
  rw [hr.guarded_eq, hr.locate_eq hdisk]
  refine hguarded _ _ ?_
  rcases h.locate .use p with errno | ⟨place, n⟩
  · exact Or.inl rfl
  · cases hdir : n.isDir with
    | false => exact Or.inl (by simp [bind, Except.bind, hdir])
    | true =>
      refine Or.inr ⟨h.disk.entries place, h'.disk.entries place, ?_, ?_, hentries place⟩
      · simp [bind, Except.bind, hdir, pure, Except.pure]
      · simp [bind, Except.bind, hdir, pure, Except.pure]

theorem scandir_ok (hr : h.Reordered h') (hdisk : h.disk.Sound)
    {entries : List (String × Node)} (hlist : h.scandir p = .ok entries) :
    ∃ entries', h'.scandir p = .ok entries' ∧ ∀ entry, entry ∈ entries → entry ∈ entries' := by
  rcases hr.scandir_alike hdisk p with ⟨e, herror, -⟩ | ⟨listed, listed', hok, hok', hperm⟩
  · cases hlist.symm.trans herror
  · obtain rfl := Except.ok.inj (hlist.symm.trans hok)
    exact ⟨listed', hok', fun entry => hperm.mem_iff.2⟩

theorem scandir_error (hr : h.Reordered h') (hdisk : h.disk.Sound) {e : Failure}
    (hlist : h.scandir p = .error e) : h'.scandir p = .error e := by
  rcases hr.scandir_alike hdisk p with ⟨e', herror, herror'⟩ | ⟨_, _, hok, -, -⟩
  · rw [herror', ← herror, hlist]
  · cases hlist.symm.trans hok

/-! ### Resolving -/

theorem isLink_eq (hr : h.Reordered h') (hdisk : h.disk.Sound) (p : FsPath) :
    h'.isLink p = h.isLink p := by
  rw [isLink, isLink, hr.lstat_eq hdisk]

theorem followWith_eq (hr : h.Reordered h') (hdisk : h.disk.Sound)
    (expand : Links → Trail → String → Except Failure Followed) (links : Links) (trail : Trail)
    (names : List String) :
    h'.followWith expand links trail names = h.followWith expand links trail names := by
  induction names generalizing links trail with
  | nil => rw [followWith, followWith]
  | cons name rest ih =>
    rw [followWith, followWith]
    simp only [ih, hr.isLink_eq hdisk, hr.readlink_eq hdisk]

theorem follow_eq (hr : h.Reordered h') (hdisk : h.disk.Sound) (depth : Nat) (links : Links)
    (trail : Trail) (text : String) :
    h'.follow depth links trail text = h.follow depth links trail text := by
  induction depth generalizing links trail text with
  | zero => rfl
  | succ depth ih =>
    rw [follow, follow]
    simp only [hr.followWith_eq hdisk, ih]

/-- Paths are resolved alike. -/
theorem resolve_eq (hr : h.Reordered h') (hdisk : h.disk.Sound) (p : FsPath) :
    h'.resolve p = h.resolve p := by
  have habsolute : h'.absolute = h.absolute := by
    obtain ⟨nodes, hperm, rfl⟩ := hr
    rfl
  rw [resolve, resolve, resolveWithin, resolveWithin, habsolute]
  simp only [hr.follow_eq hdisk, hr.stat_eq hdisk]

/-! ### Selecting -/

variable {directory : Bool} {segments : List Segment} {inquiry : Inquiry} {n : Node} {e : Failure}

theorem fails (hr : h.Reordered h') (hdisk : h.disk.Sound) (hfails : h.Fails inquiry e) :
    h'.Fails inquiry e := by
  cases inquiry with
  | look p => exact (hr.stat_eq hdisk p).trans hfails
  | list p => exact hr.scandir_error hdisk hfails
  | follow p =>
    obtain ⟨errno, hlocate, he⟩ := hfails
    exact ⟨errno, (hr.locate_eq hdisk .use p).trans hlocate, he⟩

theorem leadsToDir (hr : h.Reordered h') (hdisk : h.disk.Sound) (hleads : h.LeadsToDir p n) :
    h'.LeadsToDir p n := by
  unfold LeadsToDir at hleads ⊢
  rwa [hr.locate_eq hdisk]

theorem nested (hr : h.Reordered h') (hdisk : h.disk.Sound) (hnested : h.Nested p q) :
    h'.Nested p q := by
  induction hnested with
  | here => exact .here
  | within hlist hentry _ ih =>
    obtain ⟨entries', hlist', hentries⟩ := hr.scandir_ok hdisk hlist
    exact .within hlist' (hentries _ hentry) ih

theorem selects (hr : h.Reordered h') (hdisk : h.disk.Sound)
    (hselects : h.Selects directory segments p q) : h'.Selects directory segments p q := by
  induction hselects with
  | done => exact .done
  | exact hlook hdir _ ih => exact .exact ((hr.stat_eq hdisk _).trans hlook) hdir ih
  | wild hlist hentry hmatch hdir _ ih =>
    obtain ⟨entries', hlist', hentries⟩ := hr.scandir_ok hdisk hlist
    exact .wild hlist' (hentries _ hentry) hmatch
      (fun hdemand => hr.leadsToDir hdisk (hdir hdemand)) ih
  | recursive hnested _ ih => exact .recursive (hr.nested hdisk hnested) ih

theorem asks (hr : h.Reordered h') (hdisk : h.disk.Sound)
    (hasks : h.Asks directory segments p inquiry) : h'.Asks directory segments p inquiry := by
  induction hasks with
  | look => exact .look
  | behindName hlook hdir _ ih => exact .behindName ((hr.stat_eq hdisk _).trans hlook) hdir ih
  | list => exact .list
  | judge hlist hentry hdemand =>
    obtain ⟨entries', hlist', hentries⟩ := hr.scandir_ok hdisk hlist
    exact .judge hlist' (hentries _ hentry) hdemand
  | behindEntry hlist hentry hmatch hdir _ ih =>
    obtain ⟨entries', hlist', hentries⟩ := hr.scandir_ok hdisk hlist
    exact .behindEntry hlist' (hentries _ hentry) hmatch
      (fun hdemand => hr.leadsToDir hdisk (hdir hdemand)) ih
  | listNested hnested => exact .listNested (hr.nested hdisk hnested)
  | judgeNested hprobes hnested hlist hentry =>
    obtain ⟨entries', hlist', hentries⟩ := hr.scandir_ok hdisk hlist
    refine .judgeNested ?_ (hr.nested hdisk hnested) hlist' (hentries _ hentry)
    rwa [hr.probesLinks_eq]
  | behindNested hnested _ ih => exact .behindNested (hr.nested hdisk hnested) ih

end Reordered

end Host

end IndexSync
