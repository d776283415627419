import IndexSync.Proofs.Keys.Segments

/-!
# Keys of extended paths

The key of a path can be computed from the key of its beginning: the beginning may be written out
and read again before the rest is appended, however far the rest climbs. Roots that are the same
therefore stay the same when both are extended, and what is appended without leading anywhere does
not matter.

* `PathKey.segments_append` — the segments of an extended path;
* `PathKey.Padded` — a text after which only separators and dots follow;
* `PathKey.ofText_ofText_append` — the key of an extended path is that of its extended key.
-/

namespace IndexSync.PathKey

/-- The second text is the first followed by separators and segments that are dots. -/
inductive Padded (text : String) : String → Prop
  | none : Padded text text
  | separator {padded sep : String} (h : Padded text padded) (hsep : sep = "/" ∨ sep = "\\") :
      Padded text (padded ++ sep)
  /-- A dot is a segment if it follows a separator. -/
  | dot {padded sep : String} (h : Padded text (padded ++ sep)) (hsep : sep = "/" ∨ sep = "\\") :
      Padded text (padded ++ sep ++ ".")

section Extension

variable {rule : CaseRule} {a b text sep : String}

/-- The segments of a path that is extended are those of its beginning and those that the rest adds
to them or takes from them. -/
theorem segments_append (hsep : sep = "/" ∨ sep = "\\") (h : a ≠ "") (b : String) :
    segments (a ++ sep ++ b) = reduce (rooted a) (segments a ++ pieces b) := by
  rw [segments_eq, segments_eq a, pieces_append hsep, reduce_append, String.append_assoc,
    rooted_append h]

theorem append_ne_empty (h : a ≠ "") (b : String) : a ++ b ≠ "" := by
  intro hempty
  exact h (String.append_eq_empty_iff.1 hempty).1

/-- The beginning of a path can be replaced by its key. -/
theorem ofText_append_key (rule : CaseRule) (a b : String) :
    ofText rule (a ++ "/" ++ b) = ofText rule (ofText rule a ++ "/" ++ b) := by
  by_cases ha : a = ""
  · -- The empty text is its own key.
    rw [ha, ofText_empty]
  · have hkey : ofText rule a ≠ "" := mt (ofText_eq_empty_iff rule a).1 ha
    have hfold : fold rule ∘ fold rule = fold rule := funext (fold_fold rule)
    rw [ofText_eq_ofText_iff]
    refine ⟨?_, ?_, ?_⟩
    · rw [String.append_assoc, String.append_assoc]
      exact iff_of_false (append_ne_empty ha _) (append_ne_empty hkey _)
    · rw [String.append_assoc, String.append_assoc, rooted_append ha, rooted_append hkey,
        rooted_ofText]
    · rw [segments_append (Or.inl rfl) ha, segments_append (Or.inl rfl) hkey, rooted_ofText,
        segments_ofText, ← reduce_fold, ← reduce_fold, List.map_append, List.map_append,
        List.map_map, hfold]

theorem ofText_eq_of_segments (ha : a ≠ "") (hb : b ≠ "") (hrooted : rooted a = rooted b)
    (hsegments : segments a = segments b) : ofText rule a = ofText rule b := by
  rw [ofText_eq rule ha, ofText_eq rule hb, hrooted, hsegments]

/-- A separator at the end of a path does not matter. -/
theorem ofText_append_separator (rule : CaseRule) (hsep : sep = "/" ∨ sep = "\\") (h : a ≠ "") :
    ofText rule (a ++ sep) = ofText rule a := by
  apply ofText_eq_of_segments (append_ne_empty h sep) h (rooted_append h sep)
  have hpieces := pieces_append hsep a ""
  rw [String.append_empty] at hpieces
  rw [segments_eq, segments_eq a, hpieces, rooted_append h]
  have hidle : reduce (rooted a) (pieces a ++ [[]]) = reduce (rooted a) (pieces a ++ []) :=
    reduce_idle _ _ rfl []
  rwa [List.append_nil] at hidle

/-- A dot after a separator at the end of a path does not matter. -/
theorem ofText_append_dot (rule : CaseRule) (hsep : sep = "/" ∨ sep = "\\") (a : String) :
    ofText rule (a ++ sep ++ ".") = ofText rule (a ++ sep) := by
  have hne : a ++ sep ≠ "" := by
    intro hempty
    rw [String.append_eq_empty_iff] at hempty
    rcases hsep with hsep | hsep <;> exact absurd (hsep.symm.trans hempty.2) (by decide)
  apply ofText_eq_of_segments (append_ne_empty hne ".") hne (rooted_append hne ".")
  have hpieces := pieces_append hsep a ""
  rw [String.append_empty] at hpieces
  rw [segments_eq, segments_eq (a ++ sep), pieces_append hsep, hpieces, rooted_append hne]
  -- The last part is a dot in one of the texts, and empty in the other.
  exact (reduce_idle _ (pieces a) rfl []).trans (reduce_idle _ (pieces a) rfl []).symm

theorem Padded.ofText_eq (h : Padded a text) (ha : a ≠ "") (rule : CaseRule) :
    text ≠ "" ∧ ofText rule text = ofText rule a := by
  induction h with
  | none => exact ⟨ha, rfl⟩
  | @separator padded sep _ hsep ih =>
    exact ⟨append_ne_empty ih.1 sep, (ofText_append_separator rule hsep ih.1).trans ih.2⟩
  | @dot padded sep _ hsep ih =>
    exact ⟨append_ne_empty ih.1 ".", (ofText_append_dot rule hsep padded).trans ih.2⟩

end Extension

/-- The key of an extended path is that of its extended key. Separators and dots that are appended
do not matter, and paths that are the same are so when both are extended, wherever that leads. -/
theorem ofText_ofText_append (rule : CaseRule) (a b : String) :
    ofText rule (a ++ "/" ++ b) = ofText rule (ofText rule a ++ "/" ++ b) ∧
      (∀ padded, a ≠ "" → Padded a padded → ofText rule padded = ofText rule a) ∧
      ∀ other, same rule a other = true →
        same rule (a ++ "/" ++ b) (other ++ "/" ++ b) = true := by
  refine ⟨ofText_append_key rule a b, ?_, ?_⟩
  · intro padded ha hpadded
    exact (hpadded.ofText_eq ha rule).2
  · intro other hsame
    rw [same_iff] at hsame ⊢
    rw [ofText_append_key rule a, hsame, ← ofText_append_key]

/-- A separator and a dot after a root do not matter, and two spellings of a root lead to the same
path outside of it. -/
theorem ofText_work_padded :
    ofText .insensitive ("/Work" ++ "/" ++ "." ++ "\\") = ofText .insensitive "/Work" ∧
      same .insensitive ("/Work" ++ "/" ++ "../../b") ("\\work/" ++ "/" ++ "../../b") = true :=
  ⟨(ofText_ofText_append .insensitive "/Work" "").2.1 _ (by decide)
      (.separator (.dot (.separator .none (Or.inl rfl)) (Or.inl rfl)) (Or.inr rfl)),
    (ofText_ofText_append .insensitive "/Work" "../../b").2.2 "\\work/" (by decide +kernel)⟩

end IndexSync.PathKey
