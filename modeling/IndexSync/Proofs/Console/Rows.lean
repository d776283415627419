import IndexSync.Cli.Screen

/-!
# Lines and rows

A line that fits on the console is shown in one row, as it is. A line that is too wide is broken
into rows, and then nothing gets lost but blanks at the ends of rows. Columns do not add up, as what
follows a joiner is hidden and a selector widens the character before it; but a text is no wider
than a longer one that starts with it, and words end with blanks.

* `Screen.Fits` — a line fits on a console of some columns;
* `Screen.RowsOf loose line rows` — the rows are the line, but for loose characters at their ends;
* `Text.cellsAfter_add_cells_le` — a text with another one behind it is no narrower than the two;
* `Screen.wrap_of_fits` — a line that fits is one row;
* `Screen.rowsOf_wrap` — the rows that a line is broken into.
-/

namespace IndexSync

namespace Text

/-- The character that hides the one behind it. -/
def joiner : Char := '\u200d'

/-- What stands behind the characters of a class at the front. -/
theorem drop_length_takeWhile (cls : Char → Bool) (cs : List Char) :
    cs.drop (cs.takeWhile cls).length = cs.dropWhile cls := by
  induction cs with
  | nil => rfl
  | cons c cs ih => cases hc : cls c <;> simp [hc, ih]

/-- The columns of a text that starts with an ordinary character. -/
theorem cellsAfter_cons {c : Char} (hjoiner : c ≠ joiner) (hselector : c ≠ '\ufe0f')
    (last : Option Char) (rest : List Char) :
    cellsAfter last (c :: rest) =
      cellWidth c + cellsAfter (if cellWidth c = 0 then last else some c) rest := by
  rw [cellsAfter]
  · exact fun hc _ => hjoiner hc
  · exact fun _ _ hc _ => hjoiner hc
  · exact hselector

/-- A character that is no joiner, whether there is something behind it or not. -/
theorem ne_joiner {c : Char} {rest : List Char} (hend : c = joiner → rest = [] → False)
    (hjoin : ∀ d rest', c = joiner → rest = d :: rest' → False) : c ≠ joiner := by
  intro hc
  cases rest with
  | nil => exact hend hc rfl
  | cons d rest => exact hjoin d rest hc rfl

/-- A selector may widen the last character before a text, and nothing makes the text narrower. -/
theorem cells_le_cellsAfter (last : Option Char) (cs : List Char) :
    cells cs ≤ cellsAfter last cs := by
  rw [cells]
  induction last, cs using cellsAfter.induct with
  | case1 last => simp [cellsAfter]
  | case2 last => simp [cellsAfter]
  | case3 last c cs ih => simpa [cellsAfter] using ih
  | case4 last cs _ => simp [cellsAfter]
  | case5 last c cs hend hjoin hselector ih =>
    have hjoiner := ne_joiner hend hjoin
    rw [cellsAfter_cons hjoiner hselector, cellsAfter_cons hjoiner hselector]
    refine Nat.add_le_add_left ?_ _
    split
    · next hw => simpa [hw] using ih
    · exact Nat.le_refl _

/-- A text is no wider than what it is the beginning of. -/
theorem cellsAfter_le_append (last : Option Char) (cs rest : List Char) :
    cellsAfter last cs ≤ cellsAfter last (cs ++ rest) := by
  induction last, cs using cellsAfter.induct with
  | case1 last => simp [cellsAfter]
  | case2 last => simp [cellsAfter]
  | case3 last c cs ih => simpa [cellsAfter] using ih
  | case4 last cs ih => simpa [cellsAfter] using ih
  | case5 last c cs hend hjoin hselector ih =>
    have hjoiner := ne_joiner hend hjoin
    rw [List.cons_append, cellsAfter_cons hjoiner hselector, cellsAfter_cons hjoiner hselector]
    exact Nat.add_le_add_left ih _

/-- A text that no joiner ends is no narrower with a second one behind it than the two by
themselves. -/
theorem cellsAfter_add_cells_le (last : Option Char) {cs : List Char}
    (h : cs.getLast? ≠ some joiner) (rest : List Char) :
    cellsAfter last cs + cells rest ≤ cellsAfter last (cs ++ rest) := by
  induction last, cs using cellsAfter.induct with
  | case1 last => simpa [cellsAfter] using cells_le_cellsAfter last rest
  | case2 last => exact absurd rfl h
  | case3 last c cs ih =>
    simp only [cellsAfter, List.cons_append]
    refine ih fun hlast => h ?_
    simp [List.getLast?_cons, hlast]
  | case4 last cs ih =>
    simp only [cellsAfter, List.cons_append, Nat.add_assoc]
    refine Nat.add_le_add_left (ih fun hlast => h ?_) _
    simp [List.getLast?_cons, hlast]
  | case5 last c cs hend hjoin hselector ih =>
    have hjoiner := ne_joiner hend hjoin
    rw [List.cons_append, cellsAfter_cons hjoiner hselector, cellsAfter_cons hjoiner hselector,
      Nat.add_assoc]
    refine Nat.add_le_add_left (ih fun hlast => h ?_) _
    simp [List.getLast?_cons, hlast]

end Text

namespace Cli.Screen

open Text (cells cellsAfter)

/-- A line fits on a console of some columns. -/
def Fits (width : Nat) (line : List Char) : Prop := line.length ≤ width ∧ cells line ≤ width

variable {width : Nat}

/-! ### A line that fits -/

/-- What is left of a line when the blanks at its end are dropped. -/
theorem dropEndBlanks_append (line : List Char) :
    dropEndBlanks line ++ (line.reverse.takeWhile Text.isBlank).reverse = line := by
  rw [dropEndBlanks, ← List.reverse_append, List.takeWhile_append_dropWhile, List.reverse_reverse]

theorem cells_dropEndBlanks_le (line : List Char) : cells (dropEndBlanks line) ≤ cells line := by
  conv => rhs; rw [← dropEndBlanks_append line]
  exact Text.cellsAfter_le_append none _ _

/-- The blanks at the front of a text that starts with one end with a blank. -/
theorem getLast?_blanks {c : Char} (hc : Text.isBlank c = true) (front cs : List Char) :
    (front ++ (c :: cs).takeWhile Text.isBlank).getLast? ≠ some Text.joiner := by
  intro hlast
  rw [List.takeWhile_cons_of_pos hc, List.getLast?_append, List.getLast?_cons,
    Option.some_or] at hlast
  have hmem : Text.joiner ∈ c :: cs.takeWhile Text.isBlank := by
    rw [← List.getLast?_cons] at hlast
    exact List.mem_of_getLast? hlast
  have hjoiner : Text.isBlank Text.joiner = true := by
    rcases List.mem_cons.1 hmem with h | h
    · rwa [h]
    · exact List.all_eq_true.1 List.all_takeWhile _ h
  exact absurd hjoiner (by decide)

/-- The first word of a line ends with blanks if something follows, and so not with a joiner. -/
theorem exists_spacedWords (bound : Nat) (cs : List Char) :
    ∃ word rest, cs = word ++ rest ∧ (rest ≠ [] → word.getLast? ≠ some Text.joiner) ∧
      (spacedWords (bound + 1) cs = [] ∨
        spacedWords (bound + 1) cs = word :: spacedWords bound rest) := by
  have hfront := Text.drop_length_takeWhile Text.isBlank cs
  have hword := Text.drop_length_takeWhile (fun c => !Text.isBlank c) (cs.dropWhile Text.isBlank)
  have hhead := List.head?_dropWhile_not (fun c => !Text.isBlank c) (cs.dropWhile Text.isBlank)
  have hcs : cs.takeWhile Text.isBlank ++ cs.dropWhile Text.isBlank = cs :=
    List.takeWhile_append_dropWhile
  have hline : _ = cs.dropWhile Text.isBlank :=
    List.takeWhile_append_dropWhile (p := fun c => !Text.isBlank c)
  simp only [spacedWords, hfront, ← List.drop_drop, hword]
  -- What matters of the parts is only how they make up the line, and that the word ends at a blank.
  generalize cs.takeWhile Text.isBlank = front at hcs
  generalize cs.dropWhile Text.isBlank = line at hcs hline hhead
  generalize (line.takeWhile fun c => !Text.isBlank c) = word at hline
  generalize (line.dropWhile fun c => !Text.isBlank c) = behind at hline hhead
  have hbehind : behind.takeWhile Text.isBlank ++ behind.dropWhile Text.isBlank = behind :=
    List.takeWhile_append_dropWhile
  have hall : cs =
      front ++ word ++ behind.takeWhile Text.isBlank ++ behind.dropWhile Text.isBlank := by
    rw [List.append_assoc, hbehind, List.append_assoc, hline, hcs]
  refine ⟨_, _, hall, fun hrest => ?_, ?_⟩
  · cases behind with
    | nil => exact absurd rfl hrest
    | cons c behind => exact getLast?_blanks (by simpa using hhead) _ _
  · split
    · exact Or.inl rfl
    · rw [hall, List.drop_left]
      exact Or.inr rfl

/-- A line that is not too wide is not broken. -/
theorem breaks_spacedWords (bound : Nat) {column start : Nat} {cs : List Char}
    (h : column + cells cs ≤ width) : breaks width column start (spacedWords bound cs) = [] := by
  induction bound generalizing column start cs with
  | zero => rfl
  | succ bound ih =>
    obtain ⟨word, rest, rfl, hlast, hwords⟩ := exists_spacedWords bound cs
    have hsum : cells word + cells rest ≤ cells (word ++ rest) := by
      cases rest with
      | nil => simp [cells, cellsAfter]
      | cons c rest => exact Text.cellsAfter_add_cells_le none (hlast (by simp)) _
    have hneeded := cells_dropEndBlanks_le word
    rcases hwords with hwords | hwords
    · rw [hwords, breaks]
    · rw [hwords, breaks, if_pos (by omega)]
      exact ih (by omega)

/-- What is dropped from a row are blanks at its end. -/
theorem exists_dropExcess (width : Nat) (row : List Char) :
    ∃ lost, row = dropExcess width row ++ lost ∧ ∀ c ∈ lost, Text.isBlank c = true := by
  refine ⟨_, (List.take_append_drop _ _).symm, fun c hc => ?_⟩
  have hlength := congrArg List.length (dropEndBlanks_append row)
  have hdrop {front behind : List Char} (h : front ++ behind = row) :
      row.drop front.length = behind := by rw [← h, List.drop_left]
  have hmem : c ∈ row.drop (dropEndBlanks row).length := by
    refine (List.drop_subset_drop_left row ?_) hc
    rw [List.length_append] at hlength
    omega
  rw [hdrop (dropEndBlanks_append row), List.mem_reverse] at hmem
  exact List.all_eq_true.1 List.all_takeWhile _ hmem

/-- A line that fits is shown in one row. -/
theorem wrap_of_fits {line : List Char} (h : Fits width line) : wrap width line = [line] := by
  obtain ⟨hlength, hcells⟩ := h
  have hdrop : dropExcess width line = line := by
    rw [dropExcess]
    exact List.take_of_length_le (by omega)
  rw [wrap, breaks_spacedWords _ (by omega)]
  split
  · rfl
  · rw [cutAt, List.map_singleton, hdrop]

/-- A line without tabs is left as it is. -/
theorem expandTabs_of_not_mem {line : List Char} (h : '\t' ∉ line) : expandTabs line = line := by
  rw [expandTabs, Text.fields_of_not_mem h, joinTabbed]

/-! ### Rows -/

/-- Rows are a line, but for loose characters at their ends. -/
inductive RowsOf (loose : Char → Prop) : List Char → List (List Char) → Prop where
  | nil : RowsOf loose [] []
  | cons (row lost : List Char) {rest : List Char} {rows : List (List Char)} :
      (∀ c ∈ lost, loose c) → RowsOf loose rest rows →
        RowsOf loose (row ++ lost ++ rest) (row :: rows)

section RowsOf

variable {loose : Char → Prop} {line : List Char} {rows : List (List Char)}

/-- A line may be shown in one row. -/
theorem rowsOf_singleton (line : List Char) : RowsOf loose line [line] := by
  have hrows : RowsOf loose (line ++ [] ++ []) [line] := .cons line [] (by simp) .nil
  rwa [List.append_nil, List.append_nil] at hrows

/-- What is lost can be described in another way, as far as it is in the line. -/
theorem RowsOf.mono {loose' : Char → Prop} (h : RowsOf loose line rows)
    (hloose : ∀ c ∈ line, loose c → loose' c) : RowsOf loose' line rows := by
  induction h with
  | nil => exact .nil
  | cons row lost hlost _ ih =>
    refine .cons row lost (fun c hc => hloose c ?_ (hlost c hc)) (ih fun c hc => hloose c ?_)
    · simp [hc]
    · simp [hc]

/-- Nothing is added to a line. -/
theorem RowsOf.sublist (h : RowsOf loose line rows) : rows.flatten.Sublist line := by
  induction h with
  | nil => exact .slnil
  | cons row lost _ _ ih => exact (List.sublist_append_left row lost).append ih

/-- Characters of a class that is not loose are all in the rows. -/
theorem RowsOf.countP_flatten {cls : Char → Bool} (h : RowsOf loose line rows)
    (hloose : ∀ c, loose c → cls c = false) : rows.flatten.countP cls = line.countP cls := by
  induction h with
  | nil => rfl
  | cons row lost hlost _ ih =>
    have hzero : lost.countP cls = 0 :=
      List.countP_eq_zero.2 fun c hc => by simp [hloose c (hlost c hc)]
    rw [List.flatten_cons, List.countP_append, List.countP_append, List.countP_append, hzero, ih]
    rfl

/-- Wherever a line is cut, nothing gets lost but blanks. -/
theorem rowsOf_cutAt (places : List Nat) (done : Nat) (line : List Char) :
    RowsOf (fun c => Text.isBlank c = true) line
      ((cutAt done line places).map (dropExcess width)) := by
  induction places generalizing done line with
  | nil =>
    obtain ⟨lost, hrow, hlost⟩ := exists_dropExcess width line
    have hrows := RowsOf.cons (dropExcess width line) lost hlost .nil
    rwa [List.append_nil, ← hrow] at hrows
  | cons place places ih =>
    obtain ⟨lost, hrow, hlost⟩ := exists_dropExcess width (line.take (place - done))
    have hrows := RowsOf.cons (dropExcess width (line.take (place - done))) lost hlost
      (ih place (line.drop (place - done)))
    rwa [← hrow, List.take_append_drop] at hrows

/-- However a line is broken into rows, nothing gets lost but blanks. -/
theorem rowsOf_wrap (width : Nat) (line : List Char) :
    RowsOf (fun c => Text.isBlank c = true) line (wrap width line) := by
  rw [wrap]
  split
  · exact rowsOf_singleton line
  · exact rowsOf_cutAt _ _ _

end RowsOf

end Cli.Screen

end IndexSync
