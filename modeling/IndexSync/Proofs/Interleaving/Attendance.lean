import IndexSync.Proofs.Interleaving.Shift

/-!
# Who waits for all tasks

Whoever waits for all tasks of a scheduler waits for those that it found when it looked last, or it
has a turn coming to look again. Nobody is forgotten as ends are noticed, and nobody is told twice.

* `Shift.Attended` — those who wait are in one gathering, or have one turn coming;
* `Shift.run_attended` — this holds of every shift;
* `Shift.Attended.waits` — whoever waits has somebody to wait for, or a turn.
-/

namespace IndexSync

namespace Shift

open Interleaving

variable {s : Setup} {y : Shift} {id : TaskId}

/-- Those who wait for all tasks: each in a gathering, or with a turn coming. -/
def waiters (y : Shift) : List TaskId := y.roster.gathers.map Prod.fst ++ y.due

/-- Nobody who waits for all tasks is forgotten, and nobody is told twice. -/
structure Attended (y : Shift) : Prop where
  /-- Exactly those are waited upon who wait. -/
  mem_waiters : ∀ id, id ∈ y.waiters ↔ y.tasks.Drains id
  /-- Nobody is in two gatherings, has two turns coming, or is in a gathering with a turn coming. -/
  nodup : y.waiters.Nodup

section Attended

variable {z : Shift}

/-- As long as the same tasks wait, they may be handed from the one place to the other. -/
theorem Attended.congr (h : y.Attended) (hwaiters : z.waiters.Perm y.waiters)
    (hdrains : ∀ id, z.tasks.Drains id ↔ y.tasks.Drains id) : z.Attended where
  mem_waiters id := by rw [hwaiters.mem_iff, hdrains, h.mem_waiters]
  nodup := hwaiters.nodup_iff.2 h.nodup

/-- Those who have a turn coming wait for all tasks. -/
theorem Attended.drains_of_due (h : y.Attended) (hdue : id ∈ y.due) : y.tasks.Drains id :=
  (h.mem_waiters id).1 (List.mem_append_right _ hdue)

/-- Whoever has used its turn has no other one coming. -/
theorem Attended.waiters_perm (h : y.Attended) (hdue : id ∈ y.due) :
    y.waiters.Perm (id :: (y.roster.gathers.map Prod.fst ++ y.due.filter (· != id))) := by
  have hone : y.due.Nodup := (List.nodup_append.1 h.nodup).2.1
  rw [← hone.erase_eq_filter]
  exact ((List.perm_cons_erase hdue).append_left _).trans List.perm_middle

/-- Those who wait stay where they are as tasks are tracked. -/
theorem waiters_track (y : Shift) (x : Interleaving) : (y.track x).waiters = y.waiters := by
  change (List.foldl Roster.enter y.roster _).gathers.map _ ++ y.due = _
  rw [Roster.gathers_enterAll]
  rfl

/-- A task that goes on comes to wait for all tasks, and is waited upon then, or it does not. -/
theorem Attended.arrive (h : y.Attended) {p : Program Job.Result}
    (hid : y.tasks.state? id = some (.ready p)) :
    ((y.track (y.tasks.proceed id p)).arrive id).Attended := by
  have hnot : ¬y.tasks.Drains id := y.tasks.not_drains_of_state? hid fun _ => by simp
  have hothers : ∀ i, i ≠ id → ((y.track (y.tasks.proceed id p)).tasks.Drains i ↔
      y.tasks.Drains i) := fun i hi => y.tasks.drains_proceed (Ne.symm hi) p
  by_cases hdrains : (y.track (y.tasks.proceed id p)).tasks.Drains id
  · have hwaiters : ((y.track (y.tasks.proceed id p)).arrive id).waiters = y.waiters ++ [id] := by
      rw [← waiters_track y (y.tasks.proceed id p), waiters, waiters, roster_arrive,
        due_arrive_of_drains _ _ hdrains, List.append_assoc]
    constructor
    · intro i
      rw [hwaiters, tasks_arrive, List.mem_append, List.mem_singleton, h.mem_waiters]
      by_cases hi : i = id
      · subst hi
        exact iff_of_true (Or.inr rfl) hdrains
      · rw [or_iff_left hi, hothers i hi]
    · rw [hwaiters]
      refine List.nodup_append.2 ⟨h.nodup, List.pairwise_singleton _ id, ?_⟩
      rintro i hi j hj rfl
      rw [List.mem_singleton.1 hj, h.mem_waiters] at hi
      exact hnot hi
  · rw [arrive_of_not_drains _ _ hdrains]
    refine h.congr (.of_eq (waiters_track y _)) fun i => ?_
    by_cases hi : i = id
    · subst hi
      exact iff_of_false hdrains hnot
    · exact hothers i hi

/-- A task that is answered about something else was not waited upon. -/
theorem Attended.answer (h : y.Attended) {state : Task.State}
    (hid : y.tasks.state? id = some state) (hstate : ∀ next, state ≠ .blocked .drain next)
    (a : Answer) (p : Program Job.Result) : Attended { y with tasks := y.tasks.answer id a p } := by
  refine h.congr (.refl _) fun i => ?_
  rw [drains_answer, and_iff_right_iff_imp]
  rintro hi rfl
  exact y.tasks.not_drains_of_state? hid hstate hi

theorem Attended.change (h : y.Attended) {m : Move} (hchange : Change y m z) : z.Attended := by
  cases hchange with
  | nothing m => exact h
  | start job => exact h.congr (.refl _) fun i => y.tasks.drains_add job _
  | spawn job => exact h.congr (.of_eq (waiters_track y _)) fun i => y.tasks.drains_add job _
  | go hid => exact h.arrive hid
  | reply hid hop replies =>
    refine h.answer hid (fun next heq => ?_) _ _
    cases heq
    cases hop
  | join hid hother => exact h.answer hid (fun next heq => by cases heq) _ _
  | @notice id r hid =>
    -- Who has nothing left to wait for leaves its gathering for a turn.
    refine h.congr ?_ fun _ => Iff.rfl
    have hparts := (y.roster.perm_notice id).append_right y.due
    rw [List.append_assoc] at hparts
    exact (List.perm_append_comm.append_left _).trans hparts
  | @drain id next hid hdue hnone =>
    have hparts := h.waiters_perm hdue
    obtain ⟨hnot, hnodup⟩ := List.nodup_cons.1 (hparts.nodup_iff.1 h.nodup)
    refine ⟨fun i => ?_, hnodup⟩
    rw [drains_answer, ← h.mem_waiters, hparts.mem_iff, List.mem_cons]
    constructor
    · intro hi
      refine ⟨?_, Or.inr hi⟩
      rintro rfl
      exact hnot hi
    · rintro ⟨hne, hi⟩
      exact hi.resolve_left hne
  | @gather id next hid hdue hsome =>
    refine h.congr ?_ fun _ => Iff.rfl
    refine List.Perm.trans ?_ (h.waiters_perm hdue).symm
    change ((y.roster.gathers ++ [(id, y.roster.tracked)]).map Prod.fst ++ _).Perm _
    rw [List.map_append, List.append_assoc]
    exact List.perm_middle

theorem Attended.move (h : y.Attended) (m : Move) : (y.move m).Attended :=
  h.change (move_change y m)

/-- Nobody who waits for all tasks is forgotten, whatever happens. -/
theorem run_attended (s : Setup) (moves : List Move) : (run s moves).Attended := by
  induction moves using List.reverseRecOn with
  | nil =>
    refine ⟨fun id => iff_of_false ?_ ?_, List.nodup_nil⟩
    · exact List.not_mem_nil
    · rintro ⟨next, hnext⟩
      cases hnext
  | append_singleton moves m ih =>
    rw [run_append]
    exact ih.move m

/-- Whoever waits for all tasks waits for some that are kept track of, or has a turn coming. -/
theorem Attended.waits (h : y.Attended) (hkept : y.Kept) (hid : y.tasks.Drains id) :
    (∃ group, (id, group) ∈ y.roster.gathers ∧ group ≠ [] ∧ group ⊆ y.roster.tracked) ∨
      id ∈ y.due := by
  refine (List.mem_append.1 ((h.mem_waiters id).2 hid)).imp_left fun hmem => ?_
  obtain ⟨⟨_, group⟩, hgroup, rfl⟩ := List.mem_map.1 hmem
  obtain ⟨hne, hsub⟩ := hkept.gathers _ hgroup
  exact ⟨group, hgroup, hne, hsub⟩

end Attended

end Shift

end IndexSync
