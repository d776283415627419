import IndexSync.Proofs.Keys.CanonicalForm
import IndexSync.Proofs.PathText
import IndexSync.Registry.Record

/-!
# Keys of paths and of their spellings

The client knows the root of a project as a path, the service sends it as a text. Reading a path
from a text and computing a key from it are two ways of tidying it up that do not know of each
other: a path keeps its climbs and its second slash at the root, and takes a backslash for a letter.
Both drop the same parts of a text, so that the key of a path is that of each text that it is read
from.

* `PathKey.busyParts` — the parts of a text that a reduction does not drop;
* `PathKey.segments_eq_busyParts` — the other parts make no difference to the key;
* `PathKey.busyParts_parse` — reading a path from a text keeps these parts;
* `PathKey.ofPath_parse` — the key of a path is the key of the text, and so are the hash, the file
  of the index and the record that are found by it.
-/

namespace IndexSync

namespace PathKey

/-! ### The parts that matter -/

/-- The parts of a text that a reduction does not drop. -/
def busyParts (cs : List Char) : List (List Char) :=
  (cs.splitOnP isSeparator).filter fun seg => !isIdle seg

section BusyParts

/-- A reduction drops all idle segments. -/
theorem reduce_filter (atRoot : Bool) (segs : List (List Char)) :
    reduce atRoot (segs.filter fun seg => !isIdle seg) = reduce atRoot segs := by
  rw [reduce, reduce, List.foldl_filter]
  refine congrArg (fun step => (segs.foldl step []).reverse) ?_
  funext kept seg
  cases hidle : isIdle seg with
  | true => exact (push_idle hidle).symm
  | false => rfl

theorem segments_eq_busyParts (text : String) :
    segments text = reduce (rooted text) (busyParts text.toList) := by
  rw [segments_eq, busyParts, reduce_filter, pieces]

theorem busyParts_append (a b : List Char) :
    busyParts (a ++ '/' :: b) = busyParts a ++ busyParts b := by
  rw [busyParts, List.splitOnP_append_cons _ _ (by decide), List.filter_append]
  rfl

/-- A slash in front of a text adds nothing that matters. -/
theorem busyParts_slash (cs : List Char) : busyParts ('/' :: cs) = busyParts cs :=
  busyParts_append [] cs

theorem busyParts_joinFields (parts : List (List Char)) :
    busyParts (Text.joinFields '/' parts) = parts.flatMap busyParts := by
  induction parts with
  | nil => rfl
  | cons part parts ih =>
    cases parts with
    | nil => rw [Text.joinFields, List.flatMap_singleton]
    | cons next parts =>
      rw [Text.joinFields, busyParts_append, ih]
      rfl

/-- What is no name of a path has no part that matters. -/
theorem busyParts_of_not_isName {part : List Char} (h : FsPath.isName part = false) :
    busyParts part = [] := by
  have hidle : part = [] ∨ part = ['.'] := by
    simpa [FsPath.isName, or_iff_not_imp_left] using h
  rcases hidle with rfl | rfl <;> rfl

/-- The names of a path text hold all parts that matter. Where a name holds backslashes, these are
the parts between them. -/
theorem flatMap_busyParts (parts : List (List Char)) :
    (parts.filter FsPath.isName).flatMap busyParts = parts.flatMap busyParts := by
  induction parts with
  | nil => rfl
  | cons part parts ih =>
    cases hname : FsPath.isName part with
    | true => rw [List.filter_cons_of_pos hname, List.flatMap_cons, List.flatMap_cons, ih]
    | false =>
      rw [List.filter_cons_of_neg (by simp [hname]), List.flatMap_cons,
        busyParts_of_not_isName hname, List.nil_append, ih]

end BusyParts

/-! ### Paths and the texts they are read from -/

section Readings

variable {text : String}

theorem busyParts_text (p : FsPath) :
    busyParts p.text.toList = (p.names.map String.toList).flatMap busyParts := by
  have hjoined : ∀ a : Anchor, busyParts (a.text ++ Text.joinText '/' p.names).toList =
      (p.names.map String.toList).flatMap busyParts := by
    intro a
    rw [String.toList_append, Text.joinText, String.toList_ofList]
    cases a with
    | relative => exact busyParts_joinFields _
    | root => exact (busyParts_slash _).trans (busyParts_joinFields _)
    | doubleRoot =>
      exact (busyParts_slash _).trans ((busyParts_slash _).trans (busyParts_joinFields _))
  rw [FsPath.text]
  split
  · next hdot =>
    -- The dot that stands for no names is dropped.
    rw [hdot.2]
    rfl
  · exact hjoined p.anchor

/-- The text of a path has the parts of the text that the path was read from. -/
theorem busyParts_parse (text : String) :
    busyParts (FsPath.parse text).text.toList = busyParts text.toList := by
  calc busyParts (FsPath.parse text).text.toList
      = ((FsPath.namesOf text.toList).map String.toList).flatMap busyParts := busyParts_text _
    _ = ((Text.fields '/' text.toList).filter FsPath.isName).flatMap busyParts := by
        simp [FsPath.namesOf, List.map_map, Function.comp_def]
    _ = (Text.fields '/' text.toList).flatMap busyParts := flatMap_busyParts _
    _ = busyParts text.toList := by rw [← busyParts_joinFields, Text.joinFields_fields]

theorem anchorOf_slash (cs : List Char) : FsPath.anchorOf ('/' :: cs) ≠ .relative := by
  unfold FsPath.anchorOf
  split
  · decide
  · decide
  · decide
  · next h => exact absurd rfl (h cs)

theorem anchorOf_of_head {cs : List Char} (h : cs.head? ≠ some '/') :
    FsPath.anchorOf cs = .relative := by
  unfold FsPath.anchorOf
  split
  · exact absurd rfl h
  · exact absurd rfl h
  · exact absurd rfl h
  · rfl

/-- The text of a path is not empty. -/
theorem text_parse_ne_empty (text : String) : (FsPath.parse text).text ≠ "" := by
  rw [FsPath.text]
  split
  · decide
  · next hnames =>
    intro hempty
    obtain ⟨hanchor, hjoin⟩ := String.append_eq_empty_iff.1 hempty
    have hrelative : (FsPath.parse text).anchor = .relative := by
      cases ha : (FsPath.parse text).anchor with
      | relative => rfl
      | root => rw [ha] at hanchor; exact absurd hanchor (by decide)
      | doubleRoot => rw [ha] at hanchor; exact absurd hanchor (by decide)
    -- Proper names can be read from their joined text, so that this text is empty only for none.
    have hread := FsPath.namesOf_joinFields (FsPath.parse_proper text)
    rw [Text.joinText, String.ofList_eq_empty_iff] at hjoin
    rw [hjoin] at hread
    exact hnames ⟨hrelative, hread.symm⟩

/-- A path starts at a root if the text does that it is read from. A backslash at the start of a
path is a letter, while texts that start with one start at a root. -/
theorem rooted_parse (h : text.toList.head? = some '/' ∨ '\\' ∉ text.toList) :
    rooted (FsPath.parse text).text = rooted text := by
  by_cases hslash : text.toList.head? = some '/'
  · have hanchor : (FsPath.parse text).anchor ≠ .relative := by
      obtain ⟨cs, hcs⟩ := List.head?_eq_some_iff.1 hslash
      rw [FsPath.parse, hcs]
      exact anchorOf_slash cs
    rw [(rooted_iff text).2 (Or.inl hslash), rooted_iff]
    refine Or.inl ?_
    rw [FsPath.text, if_neg fun hdot => hanchor hdot.1, String.toList_append]
    cases ha : (FsPath.parse text).anchor with
    | relative => exact absurd ha hanchor
    | root => rfl
    | doubleRoot => rfl
  · -- Neither the text nor what is read from it starts with a separator.
    have hback := h.resolve_left hslash
    have hhead : ¬(text.toList.head? = some '/' ∨ text.toList.head? = some '\\') := by
      rintro (hhead | hhead)
      · exact hslash hhead
      · exact hback (List.mem_of_head? hhead)
    rw [Bool.eq_false_iff.2 (mt (rooted_iff text).1 hhead), Bool.eq_false_iff, Ne, rooted_iff]
    have hanchor : (FsPath.parse text).anchor = .relative := anchorOf_of_head hslash
    rw [FsPath.text]
    split
    · decide
    · rw [hanchor, String.toList_append, Text.joinText, String.toList_ofList]
      change ¬((Text.joinFields '/' _).head? = _ ∨ (Text.joinFields '/' _).head? = _)
      rintro (hhead | hhead)
      · obtain ⟨cs, hcs⟩ := List.head?_eq_some_iff.1 hhead
        exact FsPath.head_joinFields (FsPath.parse_proper text) cs hcs
      · -- All letters of the names are letters of the text.
        rcases mem_joinFields (List.mem_of_head? hhead) with hc | ⟨part, hpart, hc⟩
        · exact absurd hc (by decide)
        · obtain ⟨name, hname, rfl⟩ := List.mem_map.1 hpart
          obtain ⟨field, hfield, rfl⟩ := List.mem_map.1 hname
          rw [String.toList_ofList] at hc
          exact hback (Text.mem_of_mem_fields (List.mem_filter.1 hfield).1 hc)

end Readings

/-- The key of a path is that of each text that it is read from, and so is all that is found by it:
the hash, the file of the index and the record of the project. Texts with a backslash that do not
start with a slash are left out: a backslash at the start is a root to the key of a text, and a
letter to a path. -/
theorem ofPath_parse (rule : CaseRule) {text : String} (hne : text ≠ "")
    (h : text.toList.head? = some '/' ∨ '\\' ∉ text.toList) :
    ofPath rule (FsPath.parse text) = ofText rule text ∧
      hash (ofPath rule (FsPath.parse text)) = hash (ofText rule text) ∧
      (∀ dir, indexFile rule dir (FsPath.parse text).text = indexFile rule dir text) ∧
      ∀ records, Record.find? rule records (FsPath.parse text).text =
        Record.find? rule records text := by
  have hkey : ofText rule (FsPath.parse text).text = ofText rule text := by
    rw [ofText_eq_ofText_iff]
    refine ⟨iff_of_false (text_parse_ne_empty text) hne, rooted_parse h, ?_⟩
    rw [segments_eq_busyParts, segments_eq_busyParts, busyParts_parse, rooted_parse h]
  refine ⟨hkey, congrArg hash hkey, fun dir => ?_, fun records => ?_⟩
  · rw [indexFile, indexFile, hkey]
  · rw [Record.find?, Record.find?, hkey]

/-- A path that keeps two slashes at the root, a backslash and a climb has the key of its text. -/
theorem ofPath_parse_work :
    ofPath .insensitive (FsPath.parse "//Work/./a\\b/../Proj/") = "/work/a/proj" ∧
      ofPath .insensitive (FsPath.parse "//Work/./a\\b/../Proj/") =
        ofText .insensitive "//Work/./a\\b/../Proj/" :=
  ⟨by decide +kernel, (ofPath_parse .insensitive (by decide) (Or.inl (by decide))).1⟩

end PathKey

end IndexSync
