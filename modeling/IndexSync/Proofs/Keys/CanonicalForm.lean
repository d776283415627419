import IndexSync.Proofs.Keys.Segments

/-!
# The form of path keys

Keys are texts of a form of their own. Each stage of their computation could undo what an earlier
one did: a separator that is unified may stand beside another, a segment that is cancelled leaves
its separators behind, a lower-case form might hold a dot. The form is therefore read off the
segments that a key is written out of, and it is exact: a text of this form is its own key, up to
letter case.

* `PathKey.Canonical` — the form of keys;
* `PathKey.canonical_render` — the texts of reduced paths have it;
* `PathKey.canonical_iff` — the texts that have it are those that are their own keys where letter
  case is kept;
* `PathKey.ofText_canonical` — all keys have it, and computing the key of a key changes nothing.
-/

namespace IndexSync.PathKey

/-- The form of keys. -/
structure Canonical (text : String) : Prop where
  /-- All separators are slashes. -/
  slashes : '\\' ∉ text.toList
  /-- No two separators are adjacent. -/
  single : ¬['/', '/'] <:+: text.toList
  /-- Only the root ends with a separator. -/
  bare : text.toList.getLast? = some '/' → text = "/"
  /-- Only the current directory is a dot. -/
  undotted : ['.'] ∈ pieces text → text = "."
  /-- All climbs come first. -/
  climbs : ∃ n names, pieces text = List.replicate n up ++ names ∧ up ∉ names
  /-- There are no climbs at a root. -/
  unclimbed : up ∈ pieces text → text.toList.head? ≠ some '/'

/-- Segments of which only climbs precede climbs are climbs and then names. -/
theorem pairwise_climbs_iff {segs : List (List Char)} :
    (segs.Pairwise fun before seg => seg = up → before = up) ↔
      ∃ n names, segs = List.replicate n up ++ names ∧ up ∉ names := by
  constructor
  · intro h
    induction segs with
    | nil => exact ⟨0, [], rfl, List.not_mem_nil⟩
    | cons seg segs ih =>
      obtain ⟨hseg, hsegs⟩ := List.pairwise_cons.1 h
      by_cases hup : seg = up
      · obtain ⟨n, names, rfl, hnames⟩ := ih hsegs
        exact ⟨n + 1, names, by rw [hup, List.replicate_succ, List.cons_append], hnames⟩
      · refine ⟨0, seg :: segs, rfl, ?_⟩
        intro hmem
        rcases List.mem_cons.1 hmem with heq | hmem
        · exact hup heq.symm
        · exact hup (hseg up hmem rfl)
  · rintro ⟨n, names, rfl, hnames⟩
    induction n with
    | zero =>
      refine List.pairwise_of_forall_mem_list fun before _ seg hseg hup => ?_
      rw [hup] at hseg
      exact absurd hseg hnames
    | succ n ih => exact List.pairwise_cons.2 ⟨fun _ _ _ => rfl, ih⟩

/-- A part after a separator is not the first one. -/
theorem mem_tail_splitOnP {before rest part : List Char}
    (h : part ∈ rest.splitOnP isSeparator) :
    part ∈ ((before ++ '/' :: rest).splitOnP isSeparator).tail := by
  rw [List.splitOnP_append_cons _ _ (by decide),
    List.tail_append_of_ne_nil (List.splitOnP_ne_nil _ _)]
  exact List.mem_append_right _ h

theorem mem_joinFields {segs : List (List Char)} {c : Char} (h : c ∈ Text.joinFields '/' segs) :
    c = '/' ∨ ∃ seg ∈ segs, c ∈ seg := by
  induction segs with
  | nil => cases h
  | cons seg segs ih =>
    cases segs with
    | nil => exact Or.inr ⟨seg, List.mem_cons_self, h⟩
    | cons next segs =>
      rw [Text.joinFields, List.mem_append, List.mem_cons] at h
      rcases h with h | h | h
      · exact Or.inr ⟨seg, List.mem_cons_self, h⟩
      · exact Or.inl h
      · rcases ih h with hslash | ⟨other, hother, hc⟩
        · exact Or.inl hslash
        · exact Or.inr ⟨other, List.mem_cons_of_mem _ hother, hc⟩

section Rendering

variable {atRoot : Bool} {segs : List (List Char)}

/-- In the text of a path, nothing is empty after a separator, unless the path is the root. -/
theorem eq_root_of_nil_mem_tail (hreduced : Reduced atRoot segs) (h : Whole segs)
    (hmem : [] ∈ ((render atRoot segs).splitOnP isSeparator).tail) :
    render atRoot segs = ['/'] := by
  have hbusy : [] ∉ segs := fun hnil => absurd (hreduced.busy [] hnil) (by decide)
  have hpieces := pieces_render atRoot h
  rw [pieces, String.toList_ofList] at hpieces
  rw [hpieces] at hmem
  cases atRoot with
  | true =>
    rw [if_pos rfl, List.tail_cons] at hmem
    split at hmem
    · next hnone => rw [hnone]; rfl
    · exact absurd hmem hbusy
  | false =>
    rw [if_neg Bool.false_ne_true] at hmem
    split at hmem
    · cases hmem
    · exact absurd (List.mem_of_mem_tail hmem) hbusy

/-- The text of a path holds no separator but slashes. -/
theorem not_mem_render (h : Whole segs) : '\\' ∉ render atRoot segs := by
  have hjoin : '\\' ∉ Text.joinFields '/' segs := by
    intro hmem
    rcases mem_joinFields hmem with hslash | ⟨seg, hseg, hmem⟩
    · exact absurd hslash (by decide)
    · exact absurd (h seg hseg _ hmem) (by decide)
  unfold render
  split
  · rw [List.mem_cons, not_or]
    exact ⟨by decide, hjoin⟩
  · split
    · decide
    · exact hjoin

/-- The parts of the text of a path are its segments, but for what stands at a root and for the
current directory. -/
theorem mem_pieces_render {part : List Char} (h : Whole segs)
    (hpart : part ∈ pieces (String.ofList (render atRoot segs))) :
    part ∈ segs ∨ part = [] ∨ part = ['.'] ∧ String.ofList (render atRoot segs) = "." := by
  rw [pieces_render atRoot h] at hpart
  cases atRoot with
  | true =>
    rw [if_pos rfl] at hpart
    rcases List.mem_cons.1 hpart with hnil | hpart
    · exact Or.inr (Or.inl hnil)
    · split at hpart
      · exact Or.inr (Or.inl (List.mem_singleton.1 hpart))
      · exact Or.inl hpart
  | false =>
    rw [if_neg Bool.false_ne_true] at hpart
    split at hpart
    · next hnone =>
      rw [hnone]
      exact Or.inr (Or.inr ⟨List.mem_singleton.1 hpart, rfl⟩)
    · exact Or.inl hpart

/-- There are climbs in the texts of relative paths only. -/
theorem relative_of_up_mem (hreduced : Reduced atRoot segs) (h : Whole segs)
    (hup : up ∈ pieces (String.ofList (render atRoot segs))) : atRoot = false := by
  rcases mem_pieces_render h hup with hup | hnil | ⟨hdot, -⟩
  · rw [Bool.eq_false_iff]
    exact fun hroot => hreduced.unclimbed hroot hup
  · cases hnil
  · cases hdot

/-- The texts of reduced paths have the form of keys. -/
theorem canonical_render (hreduced : Reduced atRoot segs) (h : Whole segs) :
    Canonical (String.ofList (render atRoot segs)) := by
  have hroot := eq_root_of_nil_mem_tail hreduced h
  refine ⟨?slashes, ?single, ?bare, ?undotted, ?climbs, ?unclimbed⟩
  case slashes =>
    rw [String.toList_ofList]
    exact not_mem_render h
  case single =>
    rw [String.toList_ofList]
    rintro ⟨before, after, heq⟩
    have htext : render atRoot segs = before ++ '/' :: '/' :: after := by simp [← heq]
    have hnil : [] ∈ ((render atRoot segs).splitOnP isSeparator).tail := by
      rw [htext]
      exact mem_tail_splitOnP List.mem_cons_self
    -- The text would be the root, which is too short for two separators.
    have hlength := congrArg List.length (htext.symm.trans (hroot hnil))
    rw [List.length_append, List.length_cons, List.length_cons, List.length_singleton] at hlength
    omega
  case bare =>
    rw [String.toList_ofList]
    intro hlast
    obtain ⟨before, htext⟩ := List.getLast?_eq_some_iff.1 hlast
    have hnil : [] ∈ ((render atRoot segs).splitOnP isSeparator).tail := by
      rw [htext]
      exact mem_tail_splitOnP List.mem_cons_self
    rw [hroot hnil]
  case undotted =>
    intro hdot
    rcases mem_pieces_render h hdot with hdot | hnil | ⟨-, hcurrent⟩
    · exact absurd (hreduced.busy ['.'] hdot) (by decide)
    · cases hnil
    · exact hcurrent
  case climbs =>
    by_cases hup : up ∈ pieces (String.ofList (render atRoot segs))
    · -- There are climbs in relative paths only, whose parts are their segments.
      have hrelative := relative_of_up_mem hreduced h hup
      subst hrelative
      rw [pieces_render false h, if_neg Bool.false_ne_true] at hup ⊢
      split at hup
      · exact absurd hup (by decide)
      · next hsegs =>
        rw [if_neg hsegs]
        exact pairwise_climbs_iff.1 hreduced.climbs
    · exact ⟨0, _, rfl, hup⟩
  case unclimbed =>
    intro hup hhead
    have hrelative := rooted_render hreduced h
    rw [relative_of_up_mem hreduced h hup] at hrelative hhead
    rw [(rooted_iff _).2 (Or.inl hhead)] at hrelative
    cases hrelative

end Rendering

section Keys

/-- Keys have the form of keys. -/
theorem canonical_key (rule : CaseRule) (text : String) : Canonical (ofText rule text) := by
  by_cases h : text = ""
  · rw [h, ofText_empty]
    exact ⟨by decide, by decide, by decide, by decide, ⟨0, [[]], rfl, by decide⟩, by decide⟩
  · rw [ofText_eq rule h]
    exact canonical_render ((reduced_segments text).map_fold rule)
      ((whole_segments text).map_fold rule)

/-- A key starts with a slash if its text starts with a separator. -/
theorem head?_ofText (rule : CaseRule) (text : String) :
    (ofText rule text).toList.head? = some '/' ↔
      text.toList.head? = some '/' ∨ text.toList.head? = some '\\' := by
  have hslashes : (ofText rule text).toList.head? ≠ some '\\' :=
    fun hhead => (canonical_key rule text).slashes (List.mem_of_head? hhead)
  rw [← rooted_iff, ← rooted_ofText rule, rooted_iff, or_iff_left hslashes]

/-- The key of a key is the key. -/
theorem ofText_ofText (rule : CaseRule) (text : String) :
    ofText rule (ofText rule text) = ofText rule text := by
  rw [ofText_eq_ofText_iff]
  refine ⟨ofText_eq_empty_iff rule text, rooted_ofText rule text, ?_⟩
  rw [segments_ofText, List.map_map]
  exact List.map_congr_left fun seg _ => fold_fold rule seg

end Keys

section Canonical

variable {text : String}

theorem isIdle_of_ne {seg : List Char} (hnil : seg ≠ []) (hdot : seg ≠ ['.']) :
    isIdle seg = false := by
  simp [isIdle, hnil, hdot]

/-- The first part is empty if there is nothing before the first separator. -/
theorem head?_splitOnP_eq_nil {cs : List Char} (h : (cs.splitOnP isSeparator).head? = some []) :
    cs = [] ∨ cs.head?.any isSeparator = true := by
  cases cs with
  | nil => exact Or.inl rfl
  | cons c cs =>
    rw [List.splitOnP_cons_eq_if_modifyHead] at h
    cases hc : isSeparator c with
    | true => exact Or.inr hc
    | false =>
      rw [hc, if_neg Bool.false_ne_true] at h
      cases hparts : cs.splitOnP isSeparator with
      | nil => exact absurd hparts (List.splitOnP_ne_nil _ _)
      | cons part parts =>
        rw [hparts] at h
        cases h

/-- A part that is empty, after a separator, is between two separators or at the end. -/
theorem adjacent_or_last_of_nil_mem_tail {cs : List Char} (hslashes : '\\' ∉ cs)
    (h : [] ∈ (cs.splitOnP isSeparator).tail) :
    ['/', '/'] <:+: cs ∨ cs.getLast? = some '/' := by
  induction cs with
  | nil => cases h
  | cons c cs ih =>
    rw [List.mem_cons, not_or] at hslashes
    have hlater : [] ∈ (cs.splitOnP isSeparator).tail →
        ['/', '/'] <:+: c :: cs ∨ (c :: cs).getLast? = some '/' := by
      intro hmem
      rcases ih hslashes.2 hmem with hinfix | hlast
      · exact Or.inl (List.infix_cons hinfix)
      · obtain ⟨before, rfl⟩ := List.getLast?_eq_some_iff.1 hlast
        exact Or.inr (List.getLast?_eq_some_iff.2 ⟨c :: before, rfl⟩)
    have hslash : ∀ d, '\\' ≠ d → isSeparator d = true → d = '/' := by
      intro d hd hsep
      simpa [isSeparator, hd.symm] using hsep
    rw [List.splitOnP_cons_eq_if_modifyHead] at h
    cases hparts : cs.splitOnP isSeparator with
    | nil => exact absurd hparts (List.splitOnP_ne_nil _ _)
    | cons part parts =>
      rw [hparts] at h hlater
      -- The first letter is part of the first field or ends it.
      cases hc : isSeparator c with
      | false =>
        rw [hc, if_neg Bool.false_ne_true] at h
        exact hlater h
      | true =>
        rw [hc, if_pos rfl] at h
        obtain rfl := hslash c hslashes.1 hc
        rcases List.mem_cons.1 h with hpart | h
        · -- The part is empty: the text ends here, or goes on with another separator.
          rcases head?_splitOnP_eq_nil (by rw [hparts, hpart]; rfl) with rfl | hhead
          · exact Or.inr rfl
          · cases cs with
            | nil => cases hhead
            | cons d cs =>
              have hd : '\\' ≠ d := fun heq => hslashes.2 (heq ▸ List.mem_cons_self)
              obtain rfl := hslash d hd hhead
              exact Or.inl ⟨[], cs, rfl⟩
        · exact hlater h

/-- A text in the form of keys is written out of its parts. -/
theorem Canonical.joinFields_pieces (h : Canonical text) :
    Text.joinFields '/' (pieces text) = text.toList := by
  have hunified : text.toList.map unify = text.toList := by
    refine (List.map_congr_left fun c hc => ?_).trans (List.map_id _)
    refine if_neg fun heq => h.slashes ?_
    rwa [← heq]
  rw [pieces, ← fields_map_unify, Text.joinFields_fields, hunified]

/-- After a separator, no part of a text in the form of keys is empty, except at the root. -/
theorem Canonical.nil_not_mem_tail (h : Canonical text) (hroot : text ≠ "/") :
    [] ∉ (pieces text).tail := by
  intro hmem
  rcases adjacent_or_last_of_nil_mem_tail h.slashes hmem with hinfix | hlast
  · exact h.single hinfix
  · exact hroot (h.bare hlast)

/-- A text in the form of keys that starts at a root is that of a reduced path. -/
theorem Canonical.exists_render_of_rooted (h : Canonical text) (hrooted : rooted text = true) :
    ∃ segs, Reduced true segs ∧ Whole segs ∧ text = String.ofList (render true segs) := by
  by_cases hroot : text = "/"
  · exact ⟨[], reduced_nil true, whole_nil, hroot⟩
  · have hhead : text.toList.head? = some '/' := by
      rcases (rooted_iff text).1 hrooted with hhead | hhead
      · exact hhead
      · exact absurd (List.mem_of_head? hhead) h.slashes
    obtain ⟨cs, htext⟩ := List.head?_eq_some_iff.1 hhead
    -- The first piece is the empty one before the root; what follows are the segments.
    have hparts : pieces text = [] :: cs.splitOnP isSeparator := by
      rw [pieces, htext, List.splitOnP_cons_eq_if_modifyHead, if_pos (by decide)]
    have htail : ∀ seg ∈ cs.splitOnP isSeparator, seg ∈ pieces text :=
      fun seg hseg => hparts ▸ List.mem_cons_of_mem _ hseg
    have hnil : [] ∉ cs.splitOnP isSeparator := by
      have hnil := h.nil_not_mem_tail hroot
      rwa [hparts] at hnil
    have hup : up ∉ cs.splitOnP isSeparator := fun hup => h.unclimbed (htail up hup) hhead
    have hdot : ['.'] ∉ cs.splitOnP isSeparator := by
      intro hdot
      rw [h.undotted (htail _ hdot)] at hrooted
      exact absurd hrooted (by decide)
    refine ⟨cs.splitOnP isSeparator, ⟨?_, pairwise_climbs_iff.2 ⟨0, _, rfl, hup⟩, fun _ => hup⟩,
      fun seg hseg => whole_pieces text seg (htail seg hseg), ?_⟩
    · exact fun seg hseg => isIdle_of_ne (fun heq => hnil (heq ▸ hseg)) fun heq => hdot (heq ▸ hseg)
    · have hjoin := h.joinFields_pieces
      rw [hparts] at hjoin
      cases hsegs : cs.splitOnP isSeparator with
      | nil => exact absurd hsegs (List.splitOnP_ne_nil _ _)
      | cons seg segs =>
        rw [hsegs] at hjoin
        rw [← String.toList_inj, String.toList_ofList]
        exact hjoin.symm

/-- A text in the form of keys that starts at no root is that of a reduced path. -/
theorem Canonical.exists_render_of_not_rooted (h : Canonical text) (hne : text ≠ "")
    (hrooted : rooted text = false) :
    ∃ segs, Reduced false segs ∧ Whole segs ∧ text = String.ofList (render false segs) := by
  by_cases hcurrent : text = "."
  · exact ⟨[], reduced_nil false, whole_nil, hcurrent⟩
  · have hroot : text ≠ "/" := by
      rintro rfl
      exact absurd hrooted (by decide)
    -- An empty first piece would be that of a root.
    have hnil : [] ∉ pieces text := by
      intro hmem
      have htail := h.nil_not_mem_tail hroot
      cases hparts : pieces text with
      | nil => exact absurd hparts (pieces_ne_nil text)
      | cons part parts =>
        rw [hparts] at hmem htail
        rcases List.mem_cons.1 hmem with hpart | hmem
        · have hfirst : (text.toList.splitOnP isSeparator).head? = some [] := by
            rw [← pieces, hparts, hpart]
            rfl
          rcases head?_splitOnP_eq_nil hfirst with hempty | hhead
          · exact hne (String.toList_eq_nil_iff.1 hempty)
          · rw [rooted_eq, hhead] at hrooted
            cases hrooted
        · exact htail hmem
    have hdot : ['.'] ∉ pieces text := fun hdot => hcurrent (h.undotted hdot)
    refine ⟨pieces text, ⟨?_, pairwise_climbs_iff.2 h.climbs, fun hroot => by cases hroot⟩,
      whole_pieces text, ?_⟩
    · exact fun seg hseg => isIdle_of_ne (fun heq => hnil (heq ▸ hseg)) fun heq => hdot (heq ▸ hseg)
    · have hrender : render false (pieces text) = text.toList := by
        rw [← h.joinFields_pieces, render, if_neg Bool.false_ne_true, if_neg (pieces_ne_nil text)]
      rw [hrender, String.ofList_toList]

/-- The key of a text in the form of keys is the text, once its letter case is folded. -/
theorem Canonical.ofText_eq (h : Canonical text) (rule : CaseRule) :
    ofText rule text = String.ofList (fold rule text.toList) := by
  by_cases hne : text = ""
  · rw [hne]
    cases rule <;> rfl
  · have hrender : ∃ segs, Reduced (rooted text) segs ∧ Whole segs ∧
        text = String.ofList (render (rooted text) segs) := by
      cases hrooted : rooted text with
      | true => exact h.exists_render_of_rooted hrooted
      | false => exact h.exists_render_of_not_rooted hne hrooted
    obtain ⟨segs, hreduced, hwhole, htext⟩ := hrender
    have hsegments : segments text = segs := by
      rw [htext]
      exact segments_render hreduced hwhole
    have hlist : text.toList = render (rooted text) segs := by
      rw [← String.toList_ofList (l := render (rooted text) segs), ← htext]
    rw [PathKey.ofText_eq rule hne, hsegments, hlist, fold_render]

/-- The texts in the form of keys are those that are their own keys where letter case is kept. -/
theorem canonical_iff (text : String) : Canonical text ↔ ofText .sensitive text = text := by
  constructor
  · intro h
    rw [h.ofText_eq .sensitive]
    exact String.ofList_toList
  · intro h
    rw [← h]
    exact canonical_key .sensitive text

end Canonical

/-- A key is empty for the empty text only, has the form of keys, starts at a root if its text does,
and is its own key. -/
theorem ofText_canonical (rule : CaseRule) (text : String) :
    (ofText rule text = "" ↔ text = "") ∧ Canonical (ofText rule text) ∧
      ((ofText rule text).toList.head? = some '/' ↔
        text.toList.head? = some '/' ∨ text.toList.head? = some '\\') ∧
      ofText rule (ofText rule text) = ofText rule text :=
  ⟨ofText_eq_empty_iff rule text, canonical_key rule text, head?_ofText rule text,
    ofText_ofText rule text⟩

example : ofText .insensitive "\\Work//a/./../Proj\\" = "/work/proj" := by decide +kernel

end IndexSync.PathKey
