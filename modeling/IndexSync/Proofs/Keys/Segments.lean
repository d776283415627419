import IndexSync.PathKey
import IndexSync.Proofs.LowerCase

/-!
# The segments of path keys

The key of a path text is written out of segments: the parts between the separators of the text are
reduced, folded as the case rule says, and joined again. Nothing is lost on the way back, so that
what holds of segments holds of keys.

* `PathKey.pieces`, `PathKey.segments` — the parts of a text, and what is left of them by reduction;
* `PathKey.Reduced` — the segments that a reduction leaves, and that it does not change again;
* `PathKey.reduce_append` — a path can be reduced part by part;
* `PathKey.reduce_fold` — it makes no difference whether segments are folded before or after;
* `PathKey.ofText_eq`, `PathKey.segments_ofText` — a key is written out of the folded segments of
  its text, and these are its own segments;
* `PathKey.ofText_eq_ofText_iff` — texts have the same key if and only if they have the same folded
  segments.
-/

namespace IndexSync.PathKey

/-! ### Parts of a text -/

/-- Either separator. -/
def isSeparator (c : Char) : Bool := c == '/' || c == '\\'

/-- The parts of a path text between its separators. -/
def pieces (text : String) : List (List Char) := text.toList.splitOnP isSeparator

/-- The text starts at a root, whichever separator it uses. -/
def rooted (text : String) : Bool := isRooted (text.toList.map unify)

/-- The reduced segments of a path text. -/
def segments (text : String) : List (List Char) :=
  reduce (rooted text) (Text.fields '/' (text.toList.map unify))

section Pieces

theorem unify_eq_slash_iff (c : Char) : unify c = '/' ↔ isSeparator c = true := by
  unfold unify isSeparator
  split
  · next h => simp [h]
  · next h => simp [h]

theorem unify_of_not_isSeparator {c : Char} (h : isSeparator c = false) : unify c = c := by
  simp only [isSeparator, Bool.or_eq_false_iff, beq_eq_false_iff_ne] at h
  rw [unify, if_neg h.2]

/-- Parting a text at slashes, once all its separators are slashes, is parting it at separators. -/
theorem fields_map_unify (cs : List Char) :
    Text.fields '/' (cs.map unify) = cs.splitOnP isSeparator := by
  induction cs with
  | nil => rfl
  | cons c cs ih =>
    rw [List.map_cons, Text.fields, ih, List.splitOnP_cons_eq_if_modifyHead]
    cases hc : isSeparator c with
    | true => rw [if_pos ((unify_eq_slash_iff c).2 hc), if_pos rfl]
    | false =>
      have hslash : unify c ≠ '/' := by
        rw [Ne, unify_eq_slash_iff, hc]
        exact Bool.false_ne_true
      rw [if_neg hslash, if_neg Bool.false_ne_true, unify_of_not_isSeparator hc]
      cases hparts : cs.splitOnP isSeparator with
      | nil => exact absurd hparts (List.splitOnP_ne_nil _ _)
      | cons part parts => rfl

theorem segments_eq (text : String) : segments text = reduce (rooted text) (pieces text) := by
  rw [segments, fields_map_unify, pieces]

/-- A text starts at a root if its first character is a separator. -/
theorem rooted_eq (text : String) : rooted text = text.toList.head?.any isSeparator := by
  unfold rooted
  cases text.toList with
  | nil => rfl
  | cons c cs =>
    have hiff := unify_eq_slash_iff c
    rw [List.map_cons, List.head?_cons, Option.any_some, Bool.eq_iff_iff, ← hiff]
    unfold isRooted
    split
    · next h => simpa using (List.cons.inj h).1
    · next h => simpa using fun heq => h _ (by rw [heq])

theorem rooted_iff (text : String) :
    rooted text = true ↔ text.toList.head? = some '/' ∨ text.toList.head? = some '\\' := by
  rw [rooted_eq]
  cases text.toList with
  | nil => simp
  | cons c cs => simp [isSeparator]

/-- What is appended to a text makes no difference to where it starts. -/
theorem rooted_append {a : String} (h : a ≠ "") (b : String) : rooted (a ++ b) = rooted a := by
  rw [rooted_eq, rooted_eq, String.toList_append]
  cases ha : a.toList with
  | nil => exact absurd (String.toList_eq_nil_iff.1 ha) h
  | cons c cs => rfl

theorem pieces_append {sep : String} (h : sep = "/" ∨ sep = "\\") (a b : String) :
    pieces (a ++ sep ++ b) = pieces a ++ pieces b := by
  have hchar : ∃ c, isSeparator c = true ∧ sep.toList = [c] := by
    rcases h with rfl | rfl
    · exact ⟨'/', rfl, rfl⟩
    · exact ⟨'\\', rfl, rfl⟩
  obtain ⟨c, hc, hsep⟩ := hchar
  have htext : (a ++ sep ++ b).toList = a.toList ++ c :: b.toList := by simp [hsep]
  rw [pieces, htext, List.splitOnP_append_cons _ _ hc]
  rfl

theorem pieces_ne_nil (text : String) : pieces text ≠ [] := List.splitOnP_ne_nil _ _

/-- No part of a list holds what it is parted at. -/
theorem not_of_mem_splitOnP {α : Type} {p : α → Bool} {l part : List α}
    (h : part ∈ l.splitOnP p) : ∀ a ∈ part, p a = false := by
  induction l generalizing part with
  | nil =>
    rw [List.splitOnP_nil] at h
    rw [List.mem_singleton.1 h]
    exact fun a ha => absurd ha List.not_mem_nil
  | cons x l ih =>
    rw [List.splitOnP_cons_eq_if_modifyHead] at h
    split at h
    · rcases List.mem_cons.1 h with rfl | h
      · exact fun a ha => absurd ha List.not_mem_nil
      · exact ih h
    · next hx =>
      cases hparts : l.splitOnP p with
      | nil => exact absurd hparts (List.splitOnP_ne_nil _ _)
      | cons first parts =>
        rw [hparts] at h ih
        rcases List.mem_cons.1 h with rfl | h
        · exact List.forall_mem_cons.2 ⟨Bool.not_eq_true _ ▸ hx, ih List.mem_cons_self⟩
        · exact ih (List.mem_cons_of_mem _ h)

end Pieces

/-! ### Reduction -/

/-- The segments of a path that is reduced: none of them is idle, climbs are preceded by climbs
only, and there are none at a root. -/
structure Reduced (atRoot : Bool) (segs : List (List Char)) : Prop where
  busy : ∀ seg ∈ segs, isIdle seg = false
  climbs : segs.Pairwise fun before seg => seg = up → before = up
  unclimbed : atRoot = true → up ∉ segs

section Reduction

variable {atRoot : Bool} {kept segs : List (List Char)} {seg : List Char}

theorem push_idle (h : isIdle seg = true) : push atRoot kept seg = kept := if_pos h

theorem push_name (hidle : isIdle seg = false) (hup : seg ≠ up) :
    push atRoot kept seg = seg :: kept := by
  unfold push
  rw [if_neg (by simp [hidle]), if_neg hup]

theorem push_up_nil (atRoot : Bool) : push atRoot [] up = if atRoot then [] else [up] := rfl

theorem push_up_cons (atRoot : Bool) (last : List Char) (before : List (List Char)) :
    push atRoot (last :: before) up = if last = up then up :: last :: before else before := rfl

theorem reduced_nil (atRoot : Bool) : Reduced atRoot [] :=
  ⟨fun _ h => absurd h List.not_mem_nil, List.Pairwise.nil, fun _ => List.not_mem_nil⟩

/-- What comes first in a reduced path is a reduced path. -/
theorem Reduced.left {more : List (List Char)} (h : Reduced atRoot (segs ++ more)) :
    Reduced atRoot segs :=
  ⟨fun seg hseg => h.busy seg (List.mem_append_left _ hseg), (List.pairwise_append.1 h.climbs).1,
    fun hroot hup => h.unclimbed hroot (List.mem_append_left _ hup)⟩

/-- Another segment after those of a reduced path. -/
theorem Reduced.snoc (h : Reduced atRoot segs) (hseg : isIdle seg = false)
    (hup : seg = up → atRoot = false ∧ ∀ before ∈ segs, before = up) :
    Reduced atRoot (segs ++ [seg]) := by
  refine ⟨?_, ?_, ?_⟩
  · intro s hs
    rcases List.mem_append.1 hs with hs | hs
    · exact h.busy s hs
    · rwa [List.mem_singleton.1 hs]
  · refine List.pairwise_append.2 ⟨h.climbs, List.pairwise_singleton _ _, ?_⟩
    intro before hbefore s hs hsup
    exact (hup ((List.mem_singleton.1 hs).symm.trans hsup)).2 before hbefore
  · intro hroot hmem
    rcases List.mem_append.1 hmem with hmem | hmem
    · exact h.unclimbed hroot hmem
    · rw [(hup (List.mem_singleton.1 hmem).symm).1] at hroot
      cases hroot

/-- A reduced path that ends with a climb has nothing else. -/
theorem Reduced.eq_up (h : Reduced atRoot (segs ++ [up])) : ∀ before ∈ segs, before = up :=
  fun before hbefore =>
    (List.pairwise_append.1 h.climbs).2.2 before hbefore up List.mem_cons_self rfl

/-- Taking in a segment keeps a path reduced. -/
theorem Reduced.push (h : Reduced atRoot kept.reverse) (seg : List Char) :
    Reduced atRoot (push atRoot kept seg).reverse := by
  cases hidle : isIdle seg with
  | true => rwa [push_idle hidle]
  | false =>
    by_cases hup : seg = up
    · subst hup
      cases kept with
      | nil =>
        cases atRoot with
        | true => exact reduced_nil true
        | false => exact (reduced_nil false).snoc (by decide) fun _ => ⟨rfl, by simp⟩
      | cons last before =>
        rw [List.reverse_cons] at h
        rw [push_up_cons]
        -- The climb stays behind another climb, and cancels a name.
        split
        · next hlast =>
          rw [hlast] at h ⊢
          rw [List.reverse_cons, List.reverse_cons]
          refine h.snoc (by decide) fun _ => ⟨?_, ?_⟩
          · rw [Bool.eq_false_iff]
            exact fun hroot => h.unclimbed hroot (List.mem_append_right _ List.mem_cons_self)
          · intro s hs
            rcases List.mem_append.1 hs with hs | hs
            · exact h.eq_up s hs
            · exact List.mem_singleton.1 hs
        · exact h.left
    · rw [push_name hidle hup, List.reverse_cons]
      exact h.snoc hidle fun heq => absurd heq hup

/-- A reduction leaves a reduced path. -/
theorem reduce_reduced (atRoot : Bool) (segs : List (List Char)) :
    Reduced atRoot (reduce atRoot segs) := by
  refine List.foldlRecOn (motive := fun kept => Reduced atRoot kept.reverse) segs
    (PathKey.push atRoot) ?_ ?_
  · exact reduced_nil atRoot
  · exact fun kept hkept seg _ => hkept.push seg

/-- The segments of a reduced path are taken in one after the other. -/
theorem Reduced.foldl_push (h : Reduced atRoot (kept.reverse ++ segs)) :
    segs.foldl (PathKey.push atRoot) kept = segs.reverse ++ kept := by
  induction segs generalizing kept with
  | nil => rfl
  | cons seg segs ih =>
    have hbusy := h.busy seg (List.mem_append_right _ List.mem_cons_self)
    -- A climb is kept as well, since there is no name before it that it could cancel.
    have hpush : PathKey.push atRoot kept seg = seg :: kept := by
      by_cases hup : seg = up
      · subst hup
        cases kept with
        | nil =>
          cases atRoot with
          | true => exact absurd List.mem_cons_self (h.unclimbed rfl)
          | false => rfl
        | cons last before =>
          have hlast : last = up := (List.pairwise_append.1 h.climbs).2.2 last
            (List.mem_reverse.2 List.mem_cons_self) up List.mem_cons_self rfl
          rw [push_up_cons, if_pos hlast]
      · exact push_name hbusy hup
    rw [List.foldl_cons, hpush, ih (by simpa using h), List.reverse_cons, List.append_assoc]
    rfl

theorem Reduced.foldl_push_nil (h : Reduced atRoot segs) :
    segs.foldl (PathKey.push atRoot) [] = segs.reverse := by
  have hkept : Reduced atRoot (List.reverse [] ++ segs) := h
  rw [hkept.foldl_push, List.append_nil]

/-- A reduction does not change a reduced path. -/
theorem Reduced.reduce_eq (h : Reduced atRoot segs) : reduce atRoot segs = segs := by
  rw [reduce, h.foldl_push_nil, List.reverse_reverse]

/-- A path can be reduced part by part. -/
theorem reduce_append (atRoot : Bool) (segs more : List (List Char)) :
    reduce atRoot (reduce atRoot segs ++ more) = reduce atRoot (segs ++ more) := by
  have hfold : (reduce atRoot segs).foldl (push atRoot) [] = segs.foldl (push atRoot) [] := by
    rw [(reduce_reduced atRoot segs).foldl_push_nil, reduce, List.reverse_reverse]
  show ((reduce atRoot segs ++ more).foldl (push atRoot) []).reverse =
    ((segs ++ more).foldl (push atRoot) []).reverse
  rw [List.foldl_append, List.foldl_append, hfold]

/-- A reduction drops idle segments. -/
theorem reduce_idle (atRoot : Bool) (segs : List (List Char)) {idle : List Char}
    (h : isIdle idle = true) (more : List (List Char)) :
    reduce atRoot (segs ++ idle :: more) = reduce atRoot (segs ++ more) := by
  rw [reduce, reduce, List.foldl_append, List.foldl_append, List.foldl_cons]
  rw [push_idle h]

/-- Taking in a segment brings in no other. -/
theorem mem_of_mem_push {k : List Char} (h : k ∈ push atRoot kept seg) : k = seg ∨ k ∈ kept := by
  cases hidle : isIdle seg with
  | true =>
    rw [push_idle hidle] at h
    exact Or.inr h
  | false =>
    by_cases hup : seg = up
    · subst hup
      cases kept with
      | nil =>
        cases atRoot with
        | true => cases h
        | false => exact Or.inl (List.mem_singleton.1 h)
      | cons last before =>
        rw [push_up_cons] at h
        split at h
        · exact List.mem_cons.1 h
        · exact Or.inr (List.mem_cons_of_mem _ h)
    · rw [push_name hidle hup] at h
      exact List.mem_cons.1 h

/-- A reduction brings in no segment. -/
theorem mem_of_mem_reduce (h : seg ∈ reduce atRoot segs) : seg ∈ segs := by
  refine List.foldlRecOn (motive := fun kept => ∀ k ∈ kept, k ∈ segs) segs (push atRoot) ?_ ?_ seg
    (List.mem_reverse.1 h)
  · exact fun k hk => absurd hk List.not_mem_nil
  · intro kept hkept next hnext k hk
    rcases mem_of_mem_push hk with rfl | hk
    · exact hnext
    · exact hkept k hk

end Reduction

/-! ### Folding -/

section Folding

variable {atRoot : Bool} {segs : List (List Char)} (rule : CaseRule)

/-- Folding keeps separators and dots, and brings in none. -/
theorem mem_fold_iff {m : Char} (h : Text.isMark m = true) (cs : List Char) :
    m ∈ fold rule cs ↔ m ∈ cs := by
  cases rule with
  | sensitive => rfl
  | insensitive => exact Text.mem_lowerList_iff h cs

/-- Only dots are folded to dots. -/
theorem fold_eq_dots_iff (cs : List Char) (n : Nat) :
    fold rule cs = List.replicate n '.' ↔ cs = List.replicate n '.' := by
  cases rule with
  | sensitive => rfl
  | insensitive => exact Text.lowerList_eq_dots_iff cs n

/-- What is folded once is not changed by folding. -/
theorem fold_fold (cs : List Char) : fold rule (fold rule cs) = fold rule cs := by
  cases rule with
  | sensitive => rfl
  | insensitive => exact Text.lowerList_lowerList cs

/-- A longer text has a longer folded form. -/
theorem fold_ne_append (cs : List Char) {rest : List Char} (h : rest ≠ []) :
    fold rule cs ≠ fold rule (cs ++ rest) := by
  intro heq
  have hlength := congrArg List.length heq
  cases rule with
  | sensitive =>
    have hpos := List.length_pos_iff.2 h
    rw [fold, fold, List.length_append] at hlength
    omega
  | insensitive => exact absurd hlength (Nat.ne_of_lt (Text.length_lowerList_append_lt cs h))

theorem fold_eq_up_iff (seg : List Char) : fold rule seg = up ↔ seg = up :=
  fold_eq_dots_iff rule seg 2

theorem isIdle_fold (seg : List Char) : isIdle (fold rule seg) = isIdle seg := by
  have hnone := fold_eq_dots_iff rule seg 0
  have hone := fold_eq_dots_iff rule seg 1
  simp only [List.replicate] at hnone hone
  rw [Bool.eq_iff_iff, isIdle, isIdle, Bool.or_eq_true, Bool.or_eq_true, beq_iff_eq, beq_iff_eq,
    beq_iff_eq, beq_iff_eq, hnone, hone]

theorem isSeparator_of_mem_fold {seg : List Char} (h : ∀ c ∈ seg, isSeparator c = false) :
    ∀ c ∈ fold rule seg, isSeparator c = false := by
  intro c hc
  cases hsep : isSeparator c with
  | false => rfl
  | true =>
    have hmark : Text.isMark c = true := by rw [Text.isMark, ← isSeparator, hsep, Bool.true_or]
    exact hsep.symm.trans (h c ((mem_fold_iff rule hmark seg).1 hc))

/-- It makes no difference whether a segment is folded before it is taken in or after. -/
theorem push_fold (kept : List (List Char)) (seg : List Char) :
    push atRoot (kept.map (fold rule)) (fold rule seg) =
      (push atRoot kept seg).map (fold rule) := by
  have hidle := isIdle_fold rule seg
  cases hseg : isIdle seg with
  | true => rw [push_idle hseg, push_idle (hidle.trans hseg)]
  | false =>
    rw [hseg] at hidle
    by_cases hup : seg = up
    · have hfold : fold rule up = up := (fold_eq_up_iff rule up).2 rfl
      subst hup
      rw [hfold]
      cases kept with
      | nil => cases atRoot <;> simp [push_up_nil, hfold]
      | cons last before =>
        by_cases hlast : last = up <;> simp [push_up_cons, fold_eq_up_iff, hfold, hlast]
    · rw [push_name hseg hup, push_name hidle (mt (fold_eq_up_iff rule seg).1 hup), List.map_cons]

/-- It makes no difference whether segments are folded before they are reduced or after. -/
theorem reduce_fold (segs : List (List Char)) :
    reduce atRoot (segs.map (fold rule)) = (reduce atRoot segs).map (fold rule) := by
  -- The segments that are kept change along the path, so that all of them have to be considered.
  suffices hall : ∀ kept, (segs.map (fold rule)).foldl (push atRoot) (kept.map (fold rule)) =
      (segs.foldl (push atRoot) kept).map (fold rule) by
    have hnil := hall []
    rw [List.map_nil] at hnil
    rw [reduce, reduce, hnil, List.map_reverse]
  induction segs with
  | nil => exact fun kept => rfl
  | cons seg segs ih =>
    intro kept
    rw [List.map_cons, List.foldl_cons, List.foldl_cons, push_fold, ih]

theorem Reduced.map_fold (h : Reduced atRoot segs) : Reduced atRoot (segs.map (fold rule)) := by
  have hreduced := reduce_reduced atRoot (segs.map (fold rule))
  rwa [reduce_fold, h.reduce_eq] at hreduced

end Folding

/-! ### Writing and reading -/

/-- No segment holds a separator. -/
def Whole (segs : List (List Char)) : Prop := ∀ seg ∈ segs, ∀ c ∈ seg, isSeparator c = false

section Rendering

variable {atRoot : Bool} {segs : List (List Char)}

theorem whole_nil : Whole [] := fun _ h => absurd h List.not_mem_nil

theorem whole_pieces (text : String) : Whole (pieces text) := fun _ => not_of_mem_splitOnP

theorem Whole.reduce (h : Whole segs) (atRoot : Bool) : Whole (reduce atRoot segs) :=
  fun seg hseg => h seg (mem_of_mem_reduce hseg)

theorem Whole.map_fold (h : Whole segs) (rule : CaseRule) : Whole (segs.map (fold rule)) := by
  intro seg hseg
  obtain ⟨original, horiginal, rfl⟩ := List.mem_map.1 hseg
  exact isSeparator_of_mem_fold rule (h original horiginal)

/-- A path is folded by folding its segments. -/
theorem fold_render (rule : CaseRule) (atRoot : Bool) (segs : List (List Char)) :
    fold rule (render atRoot segs) = render atRoot (segs.map (fold rule)) := by
  cases rule with
  | sensitive =>
    have hid : fold .sensitive = id := rfl
    rw [hid, List.map_id]
    rfl
  | insensitive =>
    have hlower : fold .insensitive = Text.lowerList := rfl
    rw [hlower]
    cases atRoot with
    | true =>
      -- What follows the slash of the root is mapped as if it stood alone.
      show Text.lowerList ([] ++ '/' :: Text.joinFields '/' segs) = _
      rw [Text.lowerList, Text.lowerAfter_append_slash, Text.lowerList_joinFields]
      rfl
    | false =>
      cases segs with
      | nil => exact (Text.lowerList_eq_dots_iff ['.'] 1).2 rfl
      | cons seg segs => exact Text.lowerList_joinFields (seg :: segs)

/-- The text of a path is not empty. -/
theorem render_ne_nil (h : Reduced atRoot segs) : render atRoot segs ≠ [] := by
  cases atRoot with
  | true => exact List.cons_ne_nil _ _
  | false =>
    cases segs with
    | nil => exact List.cons_ne_nil _ _
    | cons seg segs =>
      have hbusy := h.busy seg List.mem_cons_self
      cases seg with
      | nil => exact absurd hbusy (by decide)
      | cons c cs => cases segs <;> exact List.cons_ne_nil _ _

/-- Joined segments are parted into these segments. -/
theorem splitOnP_joinFields (hne : segs ≠ []) (h : Whole segs) :
    (Text.joinFields '/' segs).splitOnP isSeparator = segs := by
  induction segs with
  | nil => exact absurd rfl hne
  | cons seg segs ih =>
    obtain ⟨hseg, hsegs⟩ := List.forall_mem_cons.1 h
    cases segs with
    | nil => exact List.splitOnP_eq_singleton hseg
    | cons next segs =>
      rw [Text.joinFields, List.splitOnP_append_cons_of_forall_mem hseg '/' (by decide),
        ih (List.cons_ne_nil _ _) hsegs]

/-- The parts of the text of a path: its segments, after a root an empty part, and a part that is
idle where there is no segment. -/
theorem pieces_render (atRoot : Bool) (h : Whole segs) :
    pieces (String.ofList (render atRoot segs)) =
      if atRoot then [] :: (if segs = [] then [[]] else segs)
      else if segs = [] then [['.']] else segs := by
  rw [pieces, String.toList_ofList]
  cases atRoot with
  | true =>
    show (([] : List Char) ++ '/' :: Text.joinFields '/' segs).splitOnP isSeparator = _
    rw [List.splitOnP_append_cons _ _ (by decide), if_pos rfl]
    cases segs with
    | nil => rfl
    | cons seg segs =>
      rw [splitOnP_joinFields (List.cons_ne_nil _ _) h, if_neg (List.cons_ne_nil _ _)]
      rfl
  | false =>
    cases segs with
    | nil => rfl
    | cons seg segs => exact splitOnP_joinFields (List.cons_ne_nil _ _) h

/-- The text of a path starts at a root if the path does. -/
theorem rooted_render (hreduced : Reduced atRoot segs) (h : Whole segs) :
    rooted (String.ofList (render atRoot segs)) = atRoot := by
  rw [rooted_eq, String.toList_ofList]
  cases atRoot with
  | true => rfl
  | false =>
    cases segs with
    | nil => rfl
    | cons seg segs =>
      have hbusy := hreduced.busy seg List.mem_cons_self
      have hseg := h seg List.mem_cons_self
      cases seg with
      | nil => exact absurd hbusy (by decide)
      | cons c cs =>
        have hfirst := hseg c List.mem_cons_self
        cases segs <;> exact hfirst

/-- What is read from the text of a path is the path, whatever is read after it. -/
theorem reduce_pieces_render (h : Whole segs) (more : List (List Char)) :
    reduce atRoot (pieces (String.ofList (render atRoot segs)) ++ more) =
      reduce atRoot (segs ++ more) := by
  have hidle : ∀ idle rest, isIdle idle = true →
      reduce atRoot (idle :: rest) = reduce atRoot rest := by
    intro idle rest hidle
    exact reduce_idle atRoot [] hidle rest
  rw [pieces_render atRoot h]
  cases segs with
  | nil =>
    cases atRoot with
    | true => exact (hidle [] _ rfl).trans (hidle [] _ rfl)
    | false => exact hidle ['.'] _ rfl
  | cons seg segs =>
    cases atRoot with
    | true => exact hidle [] _ rfl
    | false => rfl

theorem segments_render (hreduced : Reduced atRoot segs) (h : Whole segs) :
    segments (String.ofList (render atRoot segs)) = segs := by
  have hread := @reduce_pieces_render atRoot segs h []
  rw [List.append_nil, List.append_nil, hreduced.reduce_eq] at hread
  rw [segments_eq, rooted_render hreduced h, hread]

end Rendering

/-! ### Keys -/

section Keys

variable {rule : CaseRule} {a b text : String}

theorem reduced_segments (text : String) : Reduced (rooted text) (segments text) :=
  reduce_reduced _ _

theorem whole_segments (text : String) : Whole (segments text) := by
  rw [segments_eq]
  exact (whole_pieces text).reduce _

/-- A key is written out of the folded segments of its text. -/
theorem ofText_eq (rule : CaseRule) (h : text ≠ "") :
    ofText rule text =
      String.ofList (render (rooted text) ((segments text).map (fold rule))) := by
  have hne : text.toList ≠ [] := by rwa [Ne, String.toList_eq_nil_iff]
  rw [ofText, ofList, if_neg hne, ← fold_render]
  rfl

theorem ofText_empty (rule : CaseRule) : ofText rule "" = "" := rfl

theorem rooted_ofText (rule : CaseRule) (text : String) :
    rooted (ofText rule text) = rooted text := by
  by_cases h : text = ""
  · rw [h, ofText_empty]
  · rw [ofText_eq rule h]
    exact rooted_render ((reduced_segments text).map_fold rule)
      ((whole_segments text).map_fold rule)

/-- The segments of a key are the folded segments of its text. -/
theorem segments_ofText (rule : CaseRule) (text : String) :
    segments (ofText rule text) = (segments text).map (fold rule) := by
  by_cases h : text = ""
  · rw [h, ofText_empty]
    rfl
  · rw [ofText_eq rule h]
    exact segments_render ((reduced_segments text).map_fold rule)
      ((whole_segments text).map_fold rule)

/-- Only the empty text has an empty key. -/
theorem ofText_eq_empty_iff (rule : CaseRule) (text : String) :
    ofText rule text = "" ↔ text = "" := by
  constructor
  · intro hkey
    by_contra h
    rw [ofText_eq rule h, String.ofList_eq_empty_iff] at hkey
    exact render_ne_nil ((reduced_segments text).map_fold rule) hkey
  · rintro rfl
    exact ofText_empty rule

/-- Texts have the same key if and only if they have the same folded segments. The empty text shares
its key with no other. -/
theorem ofText_eq_ofText_iff (rule : CaseRule) (a b : String) :
    ofText rule a = ofText rule b ↔
      (a = "" ↔ b = "") ∧ rooted a = rooted b ∧
        (segments a).map (fold rule) = (segments b).map (fold rule) := by
  constructor
  · intro h
    refine ⟨?_, ?_, ?_⟩
    · rw [← ofText_eq_empty_iff rule a, h, ofText_eq_empty_iff rule b]
    · rw [← rooted_ofText rule a, h, rooted_ofText rule b]
    · rw [← segments_ofText rule a, h, segments_ofText rule b]
  · rintro ⟨hempty, hrooted, hsegments⟩
    by_cases ha : a = ""
    · rw [ha, hempty.1 ha]
    · rw [ofText_eq rule ha, ofText_eq rule (mt hempty.2 ha), hrooted, hsegments]

theorem same_iff (rule : CaseRule) (a b : String) :
    same rule a b = true ↔ ofText rule a = ofText rule b := by
  rw [same, beq_iff_eq]

end Keys

end IndexSync.PathKey
