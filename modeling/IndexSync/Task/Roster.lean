import IndexSync.Task.Program

/-!
# Rosters

What a scheduler remembers of the tasks it has started: those whose end has not been noticed yet.
To wait for all of them is to wait, over and over, for those that are on the roster at the time, as
tasks may start others in the meantime.
-/

namespace IndexSync

/-- The tasks that a scheduler keeps track of, and those who wait for them. -/
structure Roster where
  /-- The tasks that were started and whose end has not been noticed, in order. -/
  tracked : List TaskId := []
  /-- Those who wait, each with the tasks whose end it still waits for. -/
  gathers : List (TaskId × List TaskId) := []

namespace Roster

/-- The number of tasks that are kept track of. -/
def pending (r : Roster) : Nat := r.tracked.length

/-- Keep track of a task. -/
def enter (r : Roster) (id : TaskId) : Roster := { r with tracked := r.tracked ++ [id] }

/-- A task waits for all those that are kept track of now. -/
def gather (r : Roster) (id : TaskId) : Roster :=
  { r with gathers := r.gathers ++ [(id, r.tracked)] }

/-- Those who wait once the end of a task is noticed. -/
def struck (r : Roster) (id : TaskId) : List (TaskId × List TaskId) :=
  r.gathers.map fun g => (g.1, g.2.filter (· != id))

/-- Notice that a task has ended, and tell who has nothing left to wait for. -/
def notice (r : Roster) (id : TaskId) : List TaskId × Roster :=
  (((r.struck id).filter fun g => g.2.isEmpty).map Prod.fst,
    { tracked := r.tracked.filter (· != id)
      gathers := (r.struck id).filter fun g => !g.2.isEmpty })

section Laws

variable (r : Roster) (id : TaskId)

@[simp]
theorem tracked_enterAll (ids : List TaskId) :
    (ids.foldl enter r).tracked = r.tracked ++ ids := by
  induction ids generalizing r with
  | nil => simp
  | cons id ids ih => simp [ih, enter]

@[simp]
theorem gathers_enterAll (ids : List TaskId) : (ids.foldl enter r).gathers = r.gathers := by
  induction ids generalizing r with
  | nil => rfl
  | cons id ids ih => exact ih (r.enter id)

@[simp]
theorem tracked_notice : (r.notice id).2.tracked = r.tracked.filter (· != id) := rfl

/-- Who still waits once an end is noticed waited before, for the same tasks and that one at most.
-/
theorem mem_gathers_notice {g : TaskId × List TaskId} :
    g ∈ (r.notice id).2.gathers ↔
      ∃ group, (g.1, group) ∈ r.gathers ∧ g.2 = group.filter (· != id) ∧ g.2 ≠ [] := by
  obtain ⟨c, rest⟩ := g
  simp only [notice, struck, List.mem_filter, List.mem_map, Prod.mk.injEq, Bool.not_eq_true',
    List.isEmpty_eq_false_iff]
  constructor
  · rintro ⟨⟨⟨c', group⟩, hmem, rfl, rfl⟩, hne⟩
    exact ⟨group, hmem, rfl, hne⟩
  · rintro ⟨group, hmem, rfl, hne⟩
    exact ⟨⟨_, hmem, rfl, rfl⟩, hne⟩

/-- Once an end is noticed, everybody who waited still waits or has nothing left to wait for. -/
theorem perm_notice :
    ((r.notice id).2.gathers.map Prod.fst ++ (r.notice id).1).Perm (r.gathers.map Prod.fst) := by
  have hstruck : (r.struck id).map Prod.fst = r.gathers.map Prod.fst := by
    rw [struck, List.map_map]
    rfl
  have hparts := List.filter_append_perm (fun g => g.2.isEmpty) (r.struck id)
  rw [← hstruck, notice, ← List.map_append]
  exact (List.perm_append_comm.trans hparts).map Prod.fst

end Laws

end Roster

end IndexSync
