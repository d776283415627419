import IndexSync.Proofs.Console.Signs
import IndexSync.Proofs.Validation
import Mathlib.Data.List.Forall2
import Mathlib.Data.List.TakeWhile
import Mathlib.Tactic.MkIffOfInductiveProp

/-!
# What is shown of a text

A text is shown faithfully if what is shown of each of its lines is the line, or the line broken
into rows if it is too wide. Of a text with its markup this holds just if there is nothing in it
that the console takes for markup: signs that the console takes away do not come back. A text whose
first tag is a closing one is not shown at all.

* `Markup.Shows text shown` — the text is shown faithfully;
* `Markup.Unmarked` — there is nothing in a text that the console takes for markup;
* `Markup.render_shows_iff` — a text is shown faithfully just if it is unmarked;
* `Markup.FirstTagCloses` — the first tag of a text is a closing one;
* `Markup.render_of_firstTagCloses` — such a text cannot be shown.
-/

namespace IndexSync.Cli.Markup

/-- A blank that may be lost at the end of a row. -/
def isLoose (c : Char) : Bool := Text.isBlank c && !isSign c

/-- What is shown of a line is the line, broken into rows if it is too wide. -/
structure LineShown (width : Nat) (line : List Char) (rows : List (List Char)) : Prop where
  /-- Nothing is added, and nothing gets lost but blanks at the ends of rows. -/
  complete : Screen.RowsOf (fun c => isLoose c = true) line rows
  /-- A line that fits is shown as it is. -/
  whole : Screen.Fits width line → rows = [line]

/-- A text is shown faithfully on a console of some columns, line by line. -/
def Shows (width : Nat) (text shown : String) : Prop :=
  ∃ groups, List.Forall₂ (LineShown width) (Text.fields '\n' text.toList) groups ∧
    shown.toList = Text.joinFields '\n' groups.flatten

/-- There is nothing in a text that the console takes for markup. -/
@[mk_iff]
structure Unmarked (cs : List Char) : Prop where
  /-- No tag starts anywhere. -/
  tags : TagFree cs
  /-- No backslash stands before an opening bracket. -/
  brackets : ¬['\\', '['] <:+: cs
  /-- No name of a pictograph stands between colons. -/
  pictographs : Pictograph.replace cs = cs
  /-- There are no control characters that the console drops. -/
  controls : ∀ c ∈ cs, isControl c = false
  /-- There are no tabs. -/
  tabs : '\t' ∉ cs

variable {width : Nat}

/-! ### Unmarked texts -/

/-- A text without signs is unmarked. -/
theorem unmarked_of_signs_eq_zero {cs : List Char} (h : signs cs = 0) : Unmarked cs := by
  have hnone : ∀ c ∈ cs, isSign c = false := by simpa [signs] using h
  have hno {c : Char} (hc : isSign c = true) : c ∉ cs := fun hmem => by
    rw [hnone c hmem] at hc
    cases hc
  refine ⟨fun behind hbehind => ?_, fun hinside => hno rfl (hinside.subset List.mem_cons_self),
    (tame_replace cs).resolve_right (by omega), fun c hc => ?_, hno rfl⟩
  · cases htag : tag? behind with
    | none => rfl
    | some tag =>
      refine absurd (hbehind.subset ?_) (hno (c := '[') rfl)
      rw [eq_of_tag? htag]
      simp
  · have hsign := hnone c hc
    simp only [isSign, Bool.or_eq_false_iff] at hsign
    exact hsign.2

/-- A character makes no markup of the text behind it if neither a tag nor a name can start with
it. -/
theorem unmarked_cons {c : Char} {cs : List Char} (hsign : isSign c = false ∨ c = ':')
    (hname : c = ':' → ∀ after, cs.dropWhile Pictograph.inName ≠ ':' :: after) :
    Unmarked (c :: cs) ↔ Unmarked cs := by
  -- The character is no sign, or a colon that no name follows; so it is none of the others.
  have hother {d : Char} (hd : isSign d = true) (hcolon : d ≠ ':') : c ≠ d := by
    rintro rfl
    rcases hsign with h | h
    · rw [hd] at h
      cases h
    · exact hcolon h
  have htags : TagFree (c :: cs) ↔ TagFree cs :=
    tagFree_cons.trans (and_iff_right (tag?_cons_of_ne (hother rfl (by decide)) cs))
  have hinside : ['\\', '['] <:+: c :: cs ↔ ['\\', '['] <:+: cs := by
    rw [List.infix_cons_iff, or_iff_right]
    rintro ⟨rest, hrest⟩
    exact hother rfl (by decide) (List.cons.inj hrest).1.symm
  have hreplace : Pictograph.replace (c :: cs) = c :: Pictograph.replace cs :=
    replaceWithin_cons hname cs.length
  have hcontrol : isControl c = false := by
    cases h : isControl c with
    | false => rfl
    | true => exact absurd rfl (hother (by simp [isSign, h]) (by rintro rfl; cases h))
  have hcontrols : (∀ d ∈ c :: cs, isControl d = false) ↔ ∀ d ∈ cs, isControl d = false :=
    List.forall_mem_cons.trans (and_iff_right hcontrol)
  have htabs : '\t' ∈ c :: cs ↔ '\t' ∈ cs :=
    List.mem_cons.trans (or_iff_right (hother rfl (by decide)).symm)
  rw [unmarked_iff, unmarked_iff, htags, hinside, hreplace, List.cons_inj_right, hcontrols, htabs]

/-- A label in front of a text makes no markup of it. -/
theorem unmarked_label {label : List Char} (hlabel : signs label = 0) {cs : List Char} :
    Unmarked (label ++ ':' :: ' ' :: cs) ↔ Unmarked cs := by
  induction label with
  | nil =>
    have hblank : Pictograph.inName ' ' = false := by decide
    rw [List.nil_append, unmarked_cons (Or.inr rfl) (by simp [hblank]),
      unmarked_cons (Or.inl rfl) (by simp)]
  | cons c label ih =>
    rw [signs_cons] at hlabel
    have hsign : isSign c = false := by
      cases h : isSign c with
      | false => rfl
      | true => simp [h] at hlabel
    rw [List.cons_append, unmarked_cons (Or.inl hsign), ih (by omega)]
    rintro rfl
    cases hsign

/-! ### Signs of what is shown -/

/-- Breaks between lines are no signs. -/
theorem signs_joinFields_break (parts : List (List Char)) :
    signs (Text.joinFields '\n' parts) = signs parts.flatten := by
  have hbreak : isSign '\n' = false := rfl
  simp [signs_joinFields, hbreak]

/-- A line that is shown faithfully keeps its signs. -/
theorem signs_flatten_of_lineShown {lines : List (List Char)} {groups : List (List (List Char))}
    (h : List.Forall₂ (LineShown width) lines groups) :
    signs groups.flatten.flatten = signs lines.flatten := by
  induction h with
  | nil => rfl
  | cons hline _ ih =>
    rw [List.flatten_cons, List.flatten_append, signs_append, ih, List.flatten_cons, signs_append]
    refine congrArg (· + _) (hline.complete.countP_flatten fun c hc => ?_)
    simpa using (Bool.and_eq_true_iff.1 hc).2

/-- A text that is shown faithfully keeps its signs. -/
theorem Shows.signs_eq {text shown : String} (h : Shows width text shown) :
    signs shown.toList = signs text.toList := by
  obtain ⟨groups, hgroups, hshown⟩ := h
  rw [hshown, signs_joinFields_break, signs_flatten_of_lineShown hgroups, ← signs_joinFields_break,
    Text.joinFields_fields]

/-- The lines of a text are shown without its tabs. -/
theorem signs_lines_le (width : Nat) (lines : List (List Char)) :
    signs (lines.flatMap fun line => Screen.wrap width (Screen.expandTabs line)).flatten +
      (if '\t' ∈ lines.flatten then 1 else 0) ≤ signs lines.flatten := by
  induction lines with
  | nil => simp
  | cons line lines ih =>
    have hrows : signs (Screen.wrap width (Screen.expandTabs line)).flatten ≤
        signs (Screen.expandTabs line) := (Screen.rowsOf_wrap _ _).sublist.countP_le
    rw [List.flatMap_cons, List.flatten_append, signs_append, List.flatten_cons, signs_append]
    by_cases h : '\t' ∈ line
    · have hlt := signs_expandTabs_lt h
      rw [if_pos (List.mem_append_left _ h)]
      have hle := Nat.le_of_add_right_le ih
      omega
    · have hle := signs_expandTabs_le line
      simp only [List.mem_append, h, false_or]
      omega

/-- What the console shows of a text has no more signs than it, and fewer if there are tabs. -/
theorem signs_shown_le (width : Nat) (cs : List Char) :
    signs (Text.joinFields '\n' (Screen.lines width cs)) + (if '\t' ∈ cs then 1 else 0) ≤
      signs cs := by
  have htab : '\t' ∈ cs → '\t' ∈ (Text.fields '\n' cs).flatten :=
    fun h => Text.mem_flatten_fields h (by decide)
  have hle := signs_lines_le width (Text.fields '\n' cs)
  rw [← signs_joinFields_break (Text.fields '\n' cs), Text.joinFields_fields] at hle
  rw [signs_joinFields_break, Screen.lines]
  refine Nat.le_trans (Nat.add_le_add_left ?_ _) hle
  split <;> simp_all

/-! ### Pieces -/

/-- What is shown of a piece. -/
def Piece.shown : Piece → List Char
  | .text cs => plainText cs
  | .tag _ _ => []

/-- What is shown of pieces. -/
def shownOf (ps : List Piece) : List Char := ps.flatMap Piece.shown

theorem signs_shownOf_le (ps : List Piece) : signs (shownOf ps) ≤ signs (plainOf ps) := by
  induction ps with
  | nil => exact Nat.le_refl _
  | cons p ps ih =>
    have hpiece : signs p.shown ≤ signs p.plain := by
      cases p with
      | text cs => exact tame_plainText.signs_le cs
      | tag position body => exact Nat.le_refl _
    rw [shownOf, plainOf, List.flatMap_cons, List.flatMap_cons, signs_append, signs_append]
    exact Nat.add_le_add hpiece ih

/-- The pieces of a text show it as it is, or with fewer signs. -/
theorem shownOf_pieces (cs : List Char) :
    TagFree cs ∧ shownOf (pieces cs) = plainText cs ∨
      ¬TagFree cs ∧ signs (shownOf (pieces cs)) < signs cs := by
  rcases scan_eq_or_lt cs.length 0 [] cs (Nat.le_refl _) with ⟨hfree, hscan⟩ | ⟨htags, hlt⟩
  · refine Or.inl ⟨hfree, ?_⟩
    rw [pieces, hscan, List.append_nil, flush]
    split
    · next h =>
      obtain rfl := List.reverse_eq_nil_iff.1 h
      rfl
    · simp [shownOf, Piece.shown]
  · refine Or.inr ⟨htags, Nat.lt_of_le_of_lt (signs_shownOf_le _) ?_⟩
    simpa [pieces] using hlt

/-! ### Drafts -/

section Draft

variable {d d' : Draft}

theorem text_finish {t : Opened} (h : d.finish t = .ok d') : d'.text = d.text := by
  rw [Draft.finish] at h
  split at h
  · cases hcheck : checkHandler t with
    | error fault => rw [hcheck] at h; cases h
    | ok _ =>
      rw [hcheck] at h
      obtain rfl := Except.ok.inj h
      rfl
  · obtain rfl := Except.ok.inj h
    rfl

/-- Closing tags are not shown. -/
theorem text_close {position : Nat} {body : List Char} (h : d.close position body = .ok d') :
    d'.text = d.text := by
  rw [Draft.close] at h
  split at h
  · split at h
    · cases h
    · next t outer _ => exact (text_finish h).trans rfl
  · obtain ⟨style, -, h⟩ := exists_of_bind_eq_ok h
    split at h
    · exact (text_finish h).trans rfl
    · cases h

/-- Opening tags are not shown. -/
theorem text_open {body : List Char} (h : d.open body = .ok d') : d'.text = d.text := by
  obtain ⟨style, -, h⟩ := exists_of_bind_eq_ok h
  obtain rfl := Except.ok.inj h
  rfl

/-- A piece is shown behind the pieces before it. -/
theorem text_add {p : Piece} (h : d.add p = .ok d') : d'.text = d.text ++ p.shown := by
  rw [Draft.add.eq_def] at h
  split at h
  · obtain rfl := Except.ok.inj h
    simp [Draft.text, Piece.shown]
  · rw [text_close h, Piece.shown, List.append_nil]
  · rw [text_open h, Piece.shown, List.append_nil]

theorem text_foldlM {ps : List Piece} (h : ps.foldlM Draft.add d = .ok d') :
    d'.text = d.text ++ shownOf ps := by
  induction ps generalizing d with
  | nil =>
    obtain rfl := Except.ok.inj h
    exact (List.append_nil _).symm
  | cons p ps ih =>
    rw [List.foldlM_cons] at h
    cases hadd : d.add p with
    | error fault => rw [hadd] at h; cases h
    | ok next =>
      rw [hadd] at h
      rw [ih h, text_add hadd, List.append_assoc]
      rfl

end Draft

/-- What is shown of a text is what its pieces show, line by line. -/
theorem text_of_render {s shown : String} (h : render width s = .ok shown) :
    shown.toList = Text.joinFields '\n' (Screen.lines width (shownOf (pieces s.toList))) := by
  rw [render] at h
  split at h
  · next lines hlines =>
    obtain ⟨d, hd, hlines⟩ := exists_of_bind_eq_ok hlines
    have htext : d.text = shownOf (pieces s.toList) := text_foldlM hd
    obtain rfl := Except.ok.inj h
    rw [Draft.lines] at hlines
    split at hlines
    · cases hlines
    · obtain rfl := Except.ok.inj hlines
      rw [String.toList_ofList, htext]
  · cases h

/-- A single piece of plain text makes a draft without styles. -/
theorem foldlM_flush (cs : List Char) :
    ∃ d, (flush cs.reverse).foldlM Draft.add {} = .ok d ∧ d.allSpans = [] ∧
      d.text = plainText cs := by
  rw [flush]
  split
  · next h =>
    obtain rfl := List.reverse_eq_nil_iff.1 h
    exact ⟨_, rfl, rfl, rfl⟩
  · rw [List.reverse_reverse]
    exact ⟨_, rfl, rfl, List.append_nil _⟩

/-- A text without tags is shown, whatever else is in it. -/
theorem render_of_tagFree {s : String} (h : TagFree s.toList) :
    render width s =
      .ok (String.ofList (Text.joinFields '\n' (Screen.lines width (plainText s.toList)))) := by
  rcases scan_eq_or_lt s.toList.length 0 [] s.toList (Nat.le_refl _) with ⟨-, hscan⟩ | ⟨htags, -⟩
  · rw [List.append_nil] at hscan
    obtain ⟨d, hd, hspans, htext⟩ := foldlM_flush s.toList
    have hlines : d.lines width = .ok (Screen.lines width (plainText s.toList)) := by
      rw [Draft.lines, hspans, htext]
      rfl
    have hdraft : ((pieces s.toList).foldlM Draft.add {} >>= Draft.lines width) =
        .ok (Screen.lines width (plainText s.toList)) := by
      rw [pieces, hscan, hd, ← hlines]
      rfl
    rw [render, hdraft]
  · exact absurd h htags

/-! ### Faithful showing -/

/-- A line of an unmarked text is shown faithfully. -/
theorem lineShown_wrap {cs line : List Char} (h : Unmarked cs) (hline : ∀ c ∈ line, c ∈ cs) :
    LineShown width line (Screen.wrap width line) := by
  refine ⟨(Screen.rowsOf_wrap width line).mono fun c hc hblank => ?_, Screen.wrap_of_fits⟩
  have hmem := hline c hc
  have hne {d : Char} (hd : Text.isBlank d = false) : c ≠ d := by
    rintro rfl
    rw [hblank] at hd
    cases hd
  have hbracket : c ≠ '[' := hne (by decide)
  have hbackslash : c ≠ '\\' := hne (by decide)
  have hcolon : c ≠ ':' := hne (by decide)
  have htab : c ≠ '\t' := by
    rintro rfl
    exact h.tabs hmem
  simp [isLoose, isSign, hblank, hbracket, hbackslash, hcolon, htab, h.controls c hmem]

/-- The lines of an unmarked text are shown faithfully. -/
theorem shows_lines {s : String} (h : Unmarked s.toList) :
    Shows width s
      (String.ofList (Text.joinFields '\n' (Screen.lines width (plainText s.toList)))) := by
  have hplain : plainText s.toList = s.toList :=
    plainText_eq_iff.2 ⟨h.brackets, h.pictographs, h.controls⟩
  refine ⟨(Text.fields '\n' s.toList).map (Screen.wrap width), ?_, ?_⟩
  · rw [List.forall₂_map_right_iff, List.forall₂_same]
    exact fun line hline => lineShown_wrap h fun c hc => Text.mem_of_mem_fields hline hc
  · rw [String.toList_ofList, hplain, Screen.lines, ← List.flatMap_def]
    refine congrArg (Text.joinFields '\n') (List.flatMap_congr fun line hline => ?_)
    rw [Screen.expandTabs_of_not_mem fun htab => h.tabs (Text.mem_of_mem_fields hline htab)]

/-- An unmarked text is shown faithfully. -/
theorem Unmarked.shows {s shown : String} (h : Unmarked s.toList)
    (hrender : render width s = .ok shown) : Shows width s shown := by
  rw [render_of_tagFree h.tags] at hrender
  obtain rfl := Except.ok.inj hrender
  exact shows_lines h

/-- A text of one line that fits is shown as it is. -/
theorem Shows.eq_of_fits {text shown : String} (h : Shows width text shown)
    (hline : '\n' ∉ text.toList) (hfits : Screen.Fits width text.toList) : shown = text := by
  obtain ⟨groups, hgroups, hshown⟩ := h
  rw [Text.fields_of_not_mem hline] at hgroups
  cases hgroups with
  | cons hfirst hrest =>
    cases hrest
    rw [hfirst.whole hfits] at hshown
    exact String.toList_inj.1 hshown

/-- What is shown of a text that is not unmarked has fewer signs than it. -/
theorem unmarked_or_signs_lt {s shown : String} (h : render width s = .ok shown) :
    Unmarked s.toList ∨ signs shown.toList < signs s.toList := by
  have hle := signs_shown_le width (shownOf (pieces s.toList))
  rw [text_of_render h]
  rcases shownOf_pieces s.toList with ⟨hfree, heq⟩ | ⟨-, hlt⟩
  · rw [heq] at hle ⊢
    rcases tame_plainText s.toList with hplain | hlt
    · obtain ⟨hbrackets, hpictographs, hcontrols⟩ := plainText_eq_iff.1 hplain
      rw [hplain] at hle ⊢
      by_cases htab : '\t' ∈ s.toList
      · rw [if_pos htab] at hle
        exact Or.inr hle
      · exact Or.inl ⟨hfree, hbrackets, hpictographs, hcontrols, htab⟩
    · exact Or.inr (by omega)
  · exact Or.inr (by omega)

/-- A text is shown faithfully if there is nothing in it that the console takes for markup, and only
then. -/
theorem render_shows_iff {s : String} :
    (∃ shown, render width s = .ok shown ∧ Shows width s shown) ↔ Unmarked s.toList := by
  constructor
  · -- Rows keep all signs of a line, so none can have been taken away.
    rintro ⟨shown, hrender, hshows⟩
    refine (unmarked_or_signs_lt hrender).resolve_right ?_
    rw [hshows.signs_eq]
    exact Nat.lt_irrefl _
  · exact fun h => ⟨_, render_of_tagFree h.tags, shows_lines h⟩

/-! ### Closing tags -/

/-- The first tag of a text is a closing one, and no backslash takes its effect away. -/
def FirstTagCloses (cs : List Char) : Prop :=
  ∃ front behind body after, cs = front ++ behind ∧ tag? behind = some ('/' :: body, after) ∧
    front.getLast? ≠ some '\\' ∧ ∀ part, part ≠ [] → part <:+ front → tag? (part ++ behind) = none

/-- A label without tags and backslashes in front of a text does not change its first tag. -/
theorem FirstTagCloses.label {label cs : List Char} (h : FirstTagCloses cs)
    (hbracket : '[' ∉ label) (hbackslash : '\\' ∉ label) : FirstTagCloses (label ++ cs) := by
  induction label with
  | nil => exact h
  | cons c label ih =>
    rw [List.mem_cons, not_or] at hbracket hbackslash
    obtain ⟨front, behind, body, after, heq, htag, hlast, hfront⟩ := ih hbracket.2 hbackslash.2
    refine ⟨c :: front, behind, body, after, by rw [List.cons_append, heq]; rfl, htag, ?_, ?_⟩
    · cases front with
      | nil => simpa using Ne.symm hbackslash.1
      | cons d front => simpa [List.getLast?_cons] using hlast
    · intro part hpart hsuffix
      rcases List.suffix_cons_iff.1 hsuffix with rfl | hsuffix
      · exact tag?_cons_of_ne (Ne.symm hbracket.1) _
      · exact hfront part hpart hsuffix

/-- Where no style was given, none can be closed. -/
theorem close_of_opened_nil {d : Draft} (hd : d.opened = []) (position : Nat) (body : List Char) :
    ∃ fault, d.close position body = .error fault := by
  rw [Draft.close]
  split
  · rw [hd]
    exact ⟨_, rfl⟩
  · next name _ =>
    rw [hd]
    cases styleFault (Style.normalize _) with
    | error fault => exact ⟨fault, rfl⟩
    | ok style => exact ⟨_, rfl⟩

/-- Backslashes at the front of a text that does not end with one are split off that text. -/
theorem takeBackslashes_append {front : List Char} (hne : front ≠ [])
    (hlast : front.getLast? ≠ some '\\') (behind : List Char) :
    ∃ n part, takeBackslashes (front ++ behind) = (n, part ++ behind) ∧
      front = List.replicate n '\\' ++ part ∧ part ≠ [] := by
  have hpart : front.dropWhile (· == '\\') ≠ [] := by
    intro hnil
    have hall := List.dropWhile_eq_nil_iff.1 hnil
    have hmem := List.mem_of_getLast? (List.getLast?_eq_some_getLast hne)
    refine hlast ((List.getLast?_eq_some_getLast hne).trans ?_)
    simpa using hall _ hmem
  have hlength : (front.takeWhile (· == '\\')).length ≠ front.length := by
    intro hlength
    have happend := List.takeWhile_append_dropWhile (p := (· == '\\')) (l := front)
    have hsum := congrArg List.length happend
    rw [List.length_append, hlength, Nat.add_eq_left, List.length_eq_zero_iff] at hsum
    exact hpart hsum
  have htake : takeBackslashes (front ++ behind) =
      ((front.takeWhile (· == '\\')).length, front.dropWhile (· == '\\') ++ behind) := by
    rw [takeBackslashes, List.takeWhile_append, if_neg hlength, List.dropWhile_append, if_neg]
    simpa using hpart
  exact ⟨_, _, htake, takeBackslashes_eq rfl, hpart⟩

/-- What is in front of the first tag is one piece of plain text. -/
theorem scan_append {behind body after : List Char} (htag : tag? behind = some (body, after))
    (bound position : Nat) (pending front : List Char) (hbound : (front ++ behind).length ≤ bound)
    (hlast : front.getLast? ≠ some '\\')
    (hfront : ∀ part, part ≠ [] → part <:+ front → tag? (part ++ behind) = none) :
    ∃ place rest, scan bound position pending (front ++ behind) =
      flush (front.reverse ++ pending) ++ .tag place body :: rest := by
  -- On the bound of the scan. What was scanned so far is pending, and the front gets shorter by a
  -- character or by a run of backslashes.
  induction bound generalizing position pending front with
  | zero =>
    have hempty := List.length_eq_zero_iff.1 (Nat.le_zero.1 hbound)
    rw [(List.append_eq_nil_iff.1 hempty).2] at htag
    cases htag
  | succ bound ih =>
    cases front with
    | nil =>
      cases behind with
      | nil => cases htag
      | cons b behind =>
        -- The tag is reached, so that all that is pending is flushed.
        have htake : takeBackslashes (b :: behind) = (0, b :: behind) := by
          rw [eq_of_tag? htag]
          rfl
        rw [List.nil_append, scan, htake]
        simp only [htag]
        exact ⟨_, _, List.append_assoc _ _ _⟩
    | cons c front =>
      obtain ⟨n, part, htake, heq, hpart⟩ :=
        takeBackslashes_append (List.cons_ne_nil c front) hlast behind
      have hsuffix : part <:+ c :: front := ⟨_, heq.symm⟩
      rw [List.cons_append] at htake ⊢
      rw [scan, htake]
      simp only [hfront part hpart hsuffix]
      rw [List.cons_append, List.length_cons] at hbound
      split
      · next hzero =>
        rw [List.reverse_cons, List.append_assoc]
        refine ih (position + 1) (c :: pending) front (Nat.le_of_succ_le_succ hbound) ?_ ?_
        · intro hend
          exact hlast (by rw [List.getLast?_cons, hend]; rfl)
        · exact fun part hpart h => hfront part hpart (h.trans (List.suffix_cons c front))
      · next hsome =>
        have hlength := congrArg List.length heq
        simp only [List.length_cons, List.length_append, List.length_replicate] at hlength hbound
        rw [heq, List.reverse_append, List.append_assoc, List.reverse_replicate]
        refine ih (position + n) (List.replicate n '\\' ++ pending) part ?_ ?_ ?_
        · rw [List.length_append]
          omega
        · intro hend
          exact hlast (by rw [heq, List.getLast?_append, hend]; rfl)
        · exact fun part' hpart' h => hfront part' hpart' (h.trans hsuffix)

/-- A text whose first tag is a closing one cannot be shown. -/
theorem render_of_firstTagCloses {s : String} (h : FirstTagCloses s.toList) :
    ∃ fault, render width s = .error (.markup fault) := by
  obtain ⟨front, behind, body, after, hs, htag, hlast, hfront⟩ := h
  have hbound : (front ++ behind).length ≤ s.toList.length := by rw [hs]
  obtain ⟨place, rest, hscan⟩ := scan_append htag s.toList.length 0 [] front hbound hlast hfront
  rw [← hs, List.append_nil] at hscan
  obtain ⟨d, hd, hspans, -⟩ := foldlM_flush front
  have hopened : d.opened = [] := List.map_eq_nil_iff.1 (List.append_eq_nil_iff.1 hspans).1
  obtain ⟨fault, hclose⟩ := close_of_opened_nil hopened place ('/' :: body)
  refine ⟨fault, ?_⟩
  have hfold : (pieces s.toList).foldlM Draft.add {} = .error fault := by
    rw [pieces, hscan, List.foldlM_append, hd]
    change d.close place ('/' :: body) >>= _ = _
    rw [hclose]
    rfl
  rw [render, hfold]
  rfl

end IndexSync.Cli.Markup
