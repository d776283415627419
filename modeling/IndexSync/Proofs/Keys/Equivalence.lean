import IndexSync.Proofs.Keys.Segments
import Mathlib.Logic.Relation

/-!
# Which paths are the same

Two path texts are the same path exactly if they start at the same place and their parts reduce to
the same segments, up to letter case where the case rule folds it. The reduction is stated as a
relation over the parts that are kept and those still to be read, without the key and its text, so
that both directions say something: texts of different paths have different keys, and all spellings
of a path have the same one.

* `PathKey.Reduces`, `PathKey.reduces_iff` — the reduction of parts from left to right;
* `PathKey.Denotes` — the path that a text stands for;
* `PathKey.Above`, `PathKey.Beside` — paths that are on the way to each other, or in one directory;
* `PathKey.same_iff_denotes` — a path is the same as another if and only if their texts stand for
  the same segments, hence never one above, below or beside it.
-/

namespace IndexSync.PathKey

/-! ### Reduction from left to right -/

/-- The parts that follow those that are kept reduce to the given result. -/
inductive Reduces (absolute : Bool) :
    List (List Char) → List (List Char) → List (List Char) → Prop
  | done (kept : List (List Char)) : Reduces absolute kept [] kept
  /-- Empty parts and dots are dropped. -/
  | drop {kept rest result : List (List Char)} {seg : List Char} (hidle : seg = [] ∨ seg = ['.'])
      (hrest : Reduces absolute kept rest result) : Reduces absolute kept (seg :: rest) result
  /-- Names are kept. -/
  | keep {kept rest result : List (List Char)} {seg : List Char} (hnonempty : seg ≠ [])
      (hdot : seg ≠ ['.']) (hup : seg ≠ ['.', '.'])
      (hrest : Reduces absolute (kept ++ [seg]) rest result) :
      Reduces absolute kept (seg :: rest) result
  /-- A climb cancels the name before it. -/
  | cancel {kept rest result : List (List Char)} {name : List Char} (hname : name ≠ ['.', '.'])
      (hrest : Reduces absolute kept rest result) :
      Reduces absolute (kept ++ [name]) (['.', '.'] :: rest) result
  /-- A climb vanishes at a root. -/
  | vanish {rest result : List (List Char)} (habsolute : absolute = true)
      (hrest : Reduces absolute [] rest result) :
      Reduces absolute [] (['.', '.'] :: rest) result
  /-- A climb stays at the front of a relative path. -/
  | climb {rest result : List (List Char)} (hrelative : absolute = false)
      (hrest : Reduces absolute [['.', '.']] rest result) :
      Reduces absolute [] (['.', '.'] :: rest) result
  /-- A climb stays after a climb. -/
  | further {kept rest result : List (List Char)}
      (hrest : Reduces absolute (kept ++ [['.', '.'], ['.', '.']]) rest result) :
      Reduces absolute (kept ++ [['.', '.']]) (['.', '.'] :: rest) result

section Reduces

variable {absolute : Bool} {kept segs result : List (List Char)}

theorem isIdle_iff (seg : List Char) : isIdle seg = true ↔ seg = [] ∨ seg = ['.'] := by
  simp [isIdle]

/-- A reduction from left to right takes in one part after the other. -/
theorem Reduces.eq_foldl (h : Reduces absolute kept segs result) :
    result.reverse = segs.foldl (push absolute) kept.reverse := by
  induction h with
  | done kept => rfl
  | drop hidle _ ih => rw [List.foldl_cons, push_idle ((isIdle_iff _).2 hidle), ih]
  | keep hnonempty hdot hup _ ih =>
    have hidle := Bool.eq_false_iff.2 (mt (isIdle_iff _).1 (not_or.2 ⟨hnonempty, hdot⟩))
    rw [List.foldl_cons, push_name hidle hup, ih, List.reverse_append]
    rfl
  | @cancel kept rest result name hname _ ih =>
    have hpush : push absolute (name :: kept.reverse) up = kept.reverse := if_neg hname
    rw [ih, List.reverse_append]
    exact congrArg (fun kept => rest.foldl (push absolute) kept) hpush.symm
  | vanish habsolute _ ih => rw [ih, habsolute]; rfl
  | climb hrelative _ ih => rw [ih, hrelative]; rfl
  | further _ ih =>
    rw [ih, List.reverse_append, List.reverse_append]
    rfl

theorem Reduces.eq_of_nil (h : Reduces absolute kept [] result) : result = kept := by
  cases h
  rfl

/-- All parts can be read. -/
theorem reduces_foldl (absolute : Bool) (kept segs : List (List Char)) :
    Reduces absolute kept segs (segs.foldl (push absolute) kept.reverse).reverse := by
  induction segs generalizing kept with
  | nil =>
    rw [List.foldl_nil, List.reverse_reverse]
    exact .done kept
  | cons seg segs ih =>
    rw [List.foldl_cons]
    cases hidle : isIdle seg with
    | true =>
      rw [push_idle hidle]
      exact .drop ((isIdle_iff seg).1 hidle) (ih kept)
    | false =>
      by_cases hup : seg = up
      · -- What a climb does is told by the part that was kept last.
        subst hup
        rcases List.eq_nil_or_concat kept with rfl | ⟨before, last, rfl⟩
        · rw [List.reverse_nil, push_up_nil]
          cases absolute with
          | true => exact .vanish rfl (ih [])
          | false => exact .climb rfl (ih [up])
        · rw [List.concat_eq_append, List.reverse_append, List.reverse_singleton,
            List.singleton_append, push_up_cons]
          split
          · next hlast =>
            subst hlast
            have hrest := ih (before ++ [up, up])
            rw [List.reverse_append] at hrest
            exact .further hrest
          · next hlast => exact .cancel hlast (ih before)
      · -- A part that is neither idle nor a climb is kept.
        have hbusy := Bool.eq_false_iff.1 hidle
        rw [Ne, isIdle_iff, not_or] at hbusy
        have hrest := ih (kept ++ [seg])
        rw [List.reverse_append] at hrest
        rw [push_name hidle hup]
        exact .keep hbusy.1 hbusy.2 hup hrest

/-- The reduction from left to right has one result. -/
theorem reduces_iff : Reduces absolute [] segs result ↔ result = reduce absolute segs := by
  constructor
  · intro h
    rw [reduce, ← List.reverse_nil, ← h.eq_foldl, List.reverse_reverse]
  · rintro rfl
    exact reduces_foldl absolute [] segs

end Reduces

/-! ### Texts and their paths -/

/-- The path that a text stands for: where it starts, and its segments. -/
structure Denotes (text : String) (absolute : Bool) (segs : List (List Char)) : Prop where
  /-- The empty text stands for no path. -/
  nonempty : text ≠ ""
  /-- The path starts at a root if the text starts with a separator. -/
  start : absolute = true ↔ text.toList.head? = some '/' ∨ text.toList.head? = some '\\'
  /-- The parts of the text reduce to the segments. -/
  reduces : Reduces absolute [] (pieces text) segs

section Denotes

variable {text : String} {absolute : Bool} {segs : List (List Char)}

theorem denotes_iff :
    Denotes text absolute segs ↔ text ≠ "" ∧ absolute = rooted text ∧ segs = segments text := by
  rw [segments_eq]
  constructor
  · intro h
    have hstart : absolute = rooted text := by rw [Bool.eq_iff_iff, h.start, rooted_iff]
    refine ⟨h.nonempty, hstart, ?_⟩
    rw [← hstart]
    exact reduces_iff.1 h.reduces
  · rintro ⟨hne, rfl, rfl⟩
    exact ⟨hne, rooted_iff text, reduces_iff.2 rfl⟩

/-- Every text but the empty one stands for a path. -/
theorem denotes_segments (h : text ≠ "") : Denotes text (rooted text) (segments text) :=
  denotes_iff.2 ⟨h, rfl, rfl⟩

/-- Texts are the same path if they stand for paths with the same folded segments. -/
theorem same_iff_exists (rule : CaseRule) (a b : String) :
    same rule a b = true ↔ a = "" ∧ b = "" ∨ ∃ absolute segs others,
      Denotes a absolute segs ∧ Denotes b absolute others ∧
        segs.map (fold rule) = others.map (fold rule) := by
  rw [same_iff, ofText_eq_ofText_iff]
  constructor
  · rintro ⟨hempty, hrooted, hsegments⟩
    by_cases ha : a = ""
    · exact Or.inl ⟨ha, hempty.1 ha⟩
    · have hb := denotes_segments (mt hempty.2 ha)
      rw [← hrooted] at hb
      exact Or.inr ⟨rooted a, segments a, segments b, denotes_segments ha, hb, hsegments⟩
  · rintro (⟨rfl, rfl⟩ | ⟨absolute, segs, others, ha, hb, hsegments⟩)
    · exact ⟨Iff.rfl, rfl, rfl⟩
    · obtain ⟨hane, harooted, rfl⟩ := denotes_iff.1 ha
      obtain ⟨hbne, hbrooted, rfl⟩ := denotes_iff.1 hb
      exact ⟨iff_of_false hane hbne, harooted.symm.trans hbrooted, hsegments⟩

end Denotes

/-! ### Other paths -/

/-- The path that a climb leads to. There is none above a root. -/
def Parent (absolute : Bool) (segs parent : List (List Char)) : Prop :=
  Reduces absolute segs [up] parent ∧ ¬(absolute = true ∧ segs = [])

/-- The first path text denotes a path that is reached from that of the second by climbing. -/
def Above (rule : CaseRule) (upper lower : String) : Prop :=
  ∃ absolute segs below ancestor, Denotes upper absolute segs ∧ Denotes lower absolute below ∧
    Relation.TransGen (Parent absolute) below ancestor ∧
      segs.map (fold rule) = ancestor.map (fold rule)

/-- The path texts denote paths in one directory whose names begin in the same way. Only one of the
names goes on, or they go on differently, and not only in letter case if that is folded. -/
def Beside (rule : CaseRule) (a b : String) : Prop :=
  ∃ absolute dir dir' name rest rest',
    Denotes a absolute (dir ++ [name ++ rest]) ∧ Denotes b absolute (dir' ++ [name ++ rest']) ∧
      dir.map (fold rule) = dir'.map (fold rule) ∧
      (rest = [] ∧ rest' ≠ [] ∨ rest ≠ [] ∧ rest' = [] ∨
        fold rule (name ++ rest) ≠ fold rule (name ++ rest'))

/-- How far down a path leads. -/
def depth : List (List Char) → Int
  | [] => 0
  | seg :: segs => (if seg = up then -1 else 1) + depth segs

section Other

variable {rule : CaseRule} {a b : String} {absolute : Bool} {segs : List (List Char)}

theorem depth_append (segs more : List (List Char)) :
    depth (segs ++ more) = depth segs + depth more := by
  induction segs with
  | nil => exact (Int.zero_add _).symm
  | cons seg segs ih => rw [List.cons_append, depth, depth, ih, Int.add_assoc]

/-- Letter case makes no difference to how far down a path leads. -/
theorem depth_fold (rule : CaseRule) (segs : List (List Char)) :
    depth (segs.map (fold rule)) = depth segs := by
  induction segs with
  | nil => rfl
  | cons seg segs ih => simp only [List.map_cons, depth, fold_eq_up_iff, ih]

/-- A climb leads up. -/
theorem Parent.depth_lt {parent : List (List Char)} (h : Parent absolute segs parent) :
    depth parent < depth segs := by
  obtain ⟨hreduces, hroot⟩ := h
  cases hreduces with
  | drop hidle _ => rcases hidle with hidle | hidle <;> cases hidle
  | keep _ _ hup _ => exact absurd rfl hup
  | @cancel kept _ _ name hname hrest =>
    have hlast : depth [name] = 1 := (Int.add_zero _).trans (if_neg hname)
    rw [hrest.eq_of_nil, depth_append, hlast]
    omega
  | vanish habsolute _ => exact absurd ⟨habsolute, rfl⟩ hroot
  | climb _ hrest =>
    rw [hrest.eq_of_nil]
    decide
  | further hrest =>
    rw [hrest.eq_of_nil, depth_append, depth_append]
    exact Int.add_lt_add_left (by decide) _

/-- Climbs lead up. -/
theorem depth_lt_of_transGen {ancestor : List (List Char)}
    (h : Relation.TransGen (Parent absolute) segs ancestor) : depth ancestor < depth segs := by
  induction h with
  | single hparent => exact hparent.depth_lt
  | tail _ hparent ih => exact Int.lt_trans hparent.depth_lt ih

/-- A path is not the same as one above it. -/
theorem Above.not_same (h : Above rule a b) : same rule a b = false := by
  obtain ⟨absolute, segs, below, ancestor, ha, hb, hclimbs, hancestor⟩ := h
  rw [Bool.eq_false_iff, Ne, same_iff, ofText_eq_ofText_iff]
  rintro ⟨-, -, hsegments⟩
  obtain ⟨-, -, rfl⟩ := denotes_iff.1 ha
  obtain ⟨-, -, rfl⟩ := denotes_iff.1 hb
  -- Paths with the same key are equally deep, and climbs lead up.
  have hdepth := depth_lt_of_transGen hclimbs
  rw [← depth_fold rule ancestor, ← hancestor, hsegments, depth_fold] at hdepth
  exact absurd hdepth (Int.lt_irrefl _)

/-- A path is not the same as one beside it. -/
theorem Beside.not_same (h : Beside rule a b) : same rule a b = false := by
  obtain ⟨absolute, dir, dir', name, rest, rest', ha, hb, -, hgoes⟩ := h
  rw [Bool.eq_false_iff, Ne, same_iff, ofText_eq_ofText_iff]
  rintro ⟨-, -, hsegments⟩
  obtain ⟨-, -, hsegs⟩ := denotes_iff.1 ha
  obtain ⟨-, -, hothers⟩ := denotes_iff.1 hb
  rw [← hsegs, ← hothers, List.map_append, List.map_append] at hsegments
  have hnames : fold rule (name ++ rest) = fold rule (name ++ rest') :=
    List.singleton_inj.1 (List.append_inj_right' hsegments rfl)
  -- A name that goes on is longer, and so is its lower-case form.
  rcases hgoes with ⟨rfl, hrest⟩ | ⟨hrest, rfl⟩ | hdiffer
  · rw [List.append_nil] at hnames
    exact fold_ne_append rule name hrest hnames
  · rw [List.append_nil] at hnames
    exact fold_ne_append rule name hrest hnames.symm
  · exact hdiffer hnames

end Other

/-- Two path texts are the same path if and only if both are empty, or they start at the same place
and their parts reduce to the same segments, which are compared in lower case where the case rule
folds it. Hence no path is the same as one above it, below it or beside it. -/
theorem same_iff_denotes (a b : String) :
    (same .sensitive a b = true ↔ a = "" ∧ b = "" ∨ ∃ absolute segs,
      Denotes a absolute segs ∧ Denotes b absolute segs) ∧
    (same .insensitive a b = true ↔ a = "" ∧ b = "" ∨ ∃ absolute segs others,
      Denotes a absolute segs ∧ Denotes b absolute others ∧
        segs.map Text.lowerList = others.map Text.lowerList) ∧
    ∀ rule, Above rule a b ∨ Above rule b a ∨ Beside rule a b → same rule a b = false := by
  refine ⟨?_, same_iff_exists .insensitive a b, ?_⟩
  · have hfold : fold .sensitive = id := rfl
    simp only [same_iff_exists, hfold, List.map_id]
    constructor
    · rintro (hempty | ⟨absolute, segs, others, ha, hb, rfl⟩)
      · exact Or.inl hempty
      · exact Or.inr ⟨absolute, segs, ha, hb⟩
    · rintro (hempty | ⟨absolute, segs, ha, hb⟩)
      · exact Or.inl hempty
      · exact Or.inr ⟨absolute, segs, segs, ha, hb, rfl⟩
  · rintro rule (h | h | h)
    · exact h.not_same
    · have hsymm : same rule a b = same rule b a := by
        rw [same, same, Bool.beq_comm]
      exact hsymm.trans h.not_same
    · exact h.not_same

/-- A directory is above a project in it, and its sibling begins like it, also where letter case is
folded. -/
theorem same_work_false :
    same .insensitive "/Work" "/work/a/../proj/" = false ∧
      same .insensitive "/work/Proj" "\\work\\project" = false := by
  have habove : Above .insensitive "/Work" "/work/a/../proj/" := by
    refine ⟨true, ["Work".toList], ["work".toList, "proj".toList], ["work".toList],
      denotes_iff.2 ⟨by decide, rfl, rfl⟩, denotes_iff.2 ⟨by decide, rfl, rfl⟩, ?_,
      by decide +kernel⟩
    have hparent : Parent true (["work".toList] ++ ["proj".toList]) ["work".toList] :=
      ⟨.cancel (by decide) (.done _), by decide⟩
    exact .single hparent
  have hbeside : Beside .insensitive "/work/Proj" "\\work\\project" := by
    refine ⟨true, ["work".toList], ["work".toList], [], "Proj".toList, "project".toList,
      denotes_iff.2 ⟨by decide, rfl, rfl⟩, denotes_iff.2 ⟨by decide, rfl, rfl⟩, rfl, ?_⟩
    exact Or.inr (Or.inr (by decide +kernel))
  exact ⟨(same_iff_denotes _ _).2.2 _ (Or.inl habove),
    (same_iff_denotes _ _).2.2 _ (Or.inr (Or.inr hbeside))⟩

end IndexSync.PathKey
