import IndexSync.Proofs.Evidence
import IndexSync.Proofs.Keys.Segments

/-!
# Near misses

A registered root may be spelled almost like the root of a project: it may be a directory above or
below it, or one beside it whose name goes on where the other ends. None of these has the key of the
root, whatever the case rule: one path has more segments than the other, or a longer one.

* `PathKey.NearMiss a b` — one of two path texts denotes a path above or below that of the other, or
  one beside it whose name starts with the other's name;
* `PathKey.NearMiss.not_same` — near misses have different keys;
* `Record.find?_inert` — entries that are near misses do not matter, wherever they are.
-/

namespace IndexSync

namespace PathKey

/-- The second path text denotes a path strictly below that of the first. -/
def Below (upper lower : String) : Prop :=
  rooted lower = rooted upper ∧ ∃ more, more ≠ [] ∧ segments lower = segments upper ++ more

/-- The second path text denotes a path beside that of the first, whose name goes on where the name
of the first ends. -/
def Extends (short long : String) : Prop :=
  rooted long = rooted short ∧ ∃ dir name rest, rest ≠ [] ∧
    segments short = dir ++ [name] ∧ segments long = dir ++ [name ++ rest]

/-- Two path texts that may look alike denote different paths: one is above the other, or the name
of one starts with that of the other. -/
def NearMiss (a b : String) : Prop := Below a b ∨ Below b a ∨ Extends a b ∨ Extends b a

/-- A path below another has another key. -/
theorem Below.not_same {upper lower : String} (h : Below upper lower) (rule : CaseRule) :
    ofText rule upper ≠ ofText rule lower := by
  obtain ⟨-, more, hmore, hlower⟩ := h
  intro hkey
  obtain ⟨-, -, hsegments⟩ := (ofText_eq_ofText_iff rule upper lower).1 hkey
  have hlength := congrArg List.length hsegments
  rw [hlower, List.length_map, List.length_map, List.length_append] at hlength
  have hpos := List.length_pos_iff.2 hmore
  omega

/-- A path beside another, whose name goes on, has another key. -/
theorem Extends.not_same {short long : String} (h : Extends short long) (rule : CaseRule) :
    ofText rule short ≠ ofText rule long := by
  obtain ⟨-, dir, name, rest, hrest, hshort, hlong⟩ := h
  intro hkey
  obtain ⟨-, -, hsegments⟩ := (ofText_eq_ofText_iff rule short long).1 hkey
  rw [hshort, hlong, List.map_append, List.map_append] at hsegments
  exact fold_ne_append rule name hrest (List.singleton_inj.1 (List.append_cancel_left hsegments))

/-- Near misses have different keys. -/
theorem NearMiss.not_same {a b : String} (h : NearMiss a b) (rule : CaseRule) :
    ofText rule a ≠ ofText rule b := by
  rcases h with h | h | h | h
  · exact h.not_same rule
  · exact (h.not_same rule).symm
  · exact h.not_same rule
  · exact (h.not_same rule).symm

end PathKey

namespace Record

/-- The records of a project list are those of its usable entries. -/
theorem ofEntries_filter (entries : List Value) :
    ofEntries entries = ofEntries (entries.filter fun v => (ofValue? v).isSome) := by
  unfold ofEntries
  rw [List.filterMap_filter]
  congr 1
  funext v
  cases ofValue? v <;> rfl

/-- An entry of the project list whose root is almost that of a project, however the root of the
project is spelled: above or below it, or beside it with a name that goes on where the other
ends. -/
def NearMiss (rule : CaseRule) (root : String) (v : Value) : Prop :=
  ∃ e t spelling, v = .map e ∧ Value.lookup? e "root" = some t ∧
    PathKey.same rule spelling root = true ∧ PathKey.NearMiss spelling t.text

/-- Near misses are not about the root. -/
theorem NearMiss.not_names {rule : CaseRule} {root : String} {v : Value}
    (h : NearMiss rule root v) : names rule root v = false := by
  obtain ⟨e, t, spelling, rfl, hroot, hsame, hmiss⟩ := h
  have hne : PathKey.same rule t.text root = false := by
    rw [PathKey.same, beq_eq_false_iff_ne, ← beq_iff_eq.1 hsame]
    exact (hmiss.not_same rule).symm
  simp [names, hroot, hne]

/-- Entries that are not about the root do not matter, wherever they are. -/
theorem find?_inert {rule : CaseRule} {root : String} (before after : List Value)
    {others : List Value} (h : ∀ v ∈ others, names rule root v = false) :
    find? rule (ofEntries (before ++ others ++ after)) root =
      find? rule (ofEntries (before ++ after)) root := by
  have hnone : others.find? (names rule root) = none :=
    List.find?_eq_none.2 fun v hv => by simp [h v hv]
  rw [find?_ofEntries, find?_ofEntries, List.find?_append, List.find?_append, List.find?_append,
    hnone, Option.or_none]

end Record

end IndexSync
