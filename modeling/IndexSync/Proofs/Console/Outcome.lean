import IndexSync.Proofs.Console.StatusLine

/-!
# The report of a result

The program tells how an activation ended by some lines and by its exit code. The paths of the
project are printed as they are, though the console takes the text for marked-up text. Hence the
report is right just if there is nothing in the paths that can be taken for markup.

* `told` — what is to be told of a result, line by line;
* `Report.Tells` — a report tells a result;
* `resultReport_tells_iff` — when it does, and what is right about it even if it does not.
-/

namespace IndexSync.Cli

/-! ### Reports -/

/-- What is told of a result, line by line. -/
def told (r : Activation.Result) : List String :=
  Markup.statusText r.status
    :: (match r.project with
        | some p => ["  Project: " ++ p.root.text, "  Manifest: " ++ p.manifest.text]
        | none => [])
    ++ (match r.decision with
        | some d => ["  Action: " ++ d.name]
        | none => [])

/-- The text of lines that are printed. -/
def printedText (shown : List String) : String := String.join (shown.map (· ++ "\n"))

/-- A report tells a result on a console of some columns: nothing fails, the exit code tells whether
everything was dispatched, and all lines are shown faithfully. -/
structure Report.Tells (width : Nat) (report : Report) (r : Activation.Result) : Prop where
  /-- Nothing fails. -/
  completed : report.failure = none
  /-- The exit code tells whether everything was dispatched. -/
  exitCode : report.exitCode = if r.status = .dispatched then 0 else 1
  /-- Every line is shown faithfully. -/
  lines : ∃ shown, List.Forall₂ (Markup.Shows width) (told r) shown ∧ report.out = printedText shown

section Printing

variable {width : Nat} {lines shown : List String}

theorem printedText_cons (s : String) (shown : List String) :
    printedText (s :: shown) = s ++ "\n" ++ printedText shown := by
  simp [printedText]

/-- Lines are shown as texts on a console of some columns. -/
abbrev Rendered (width : Nat) (lines shown : List String) : Prop :=
  List.Forall₂ (fun line s => Markup.render width line = .ok s) lines shown

/-- All lines are printed, or those before the first one that cannot be shown. -/
theorem printLines_eq_or (width : Nat) (out : String) (lines : List String) :
    (∃ shown, Rendered width lines shown ∧
      (printLines width out lines).1 = .ok (out ++ printedText shown)) ∨
    ∃ front line rest shown e, lines = front ++ line :: rest ∧ Rendered width front shown ∧
      Markup.render width line = .error e ∧
        printLines width out lines = (.error e, out ++ printedText shown) := by
  induction lines generalizing out with
  | nil => exact Or.inl ⟨[], .nil, by simp [printLines, printedText]⟩
  | cons line lines ih =>
    cases hrender : Markup.render width line with
    | error e =>
      refine Or.inr ⟨[], line, lines, [], e, rfl, .nil, hrender, ?_⟩
      simp [printLines, hrender, printedText]
    | ok s =>
      -- A line that can be shown is printed, and the others follow it.
      have hnext : printLines width out (line :: lines) =
          printLines width (out ++ s ++ "\n") lines := by
        simp [printLines, hrender]
      have htext (shown : List String) :
          out ++ s ++ "\n" ++ printedText shown = out ++ printedText (s :: shown) := by
        rw [printedText_cons, String.append_assoc, String.append_assoc, String.append_assoc]
      rw [hnext]
      refine (ih (out ++ s ++ "\n")).imp ?_ ?_
      · rintro ⟨shown, hshown, hout⟩
        exact ⟨s :: shown, .cons hrender hshown, by rw [hout, htext]⟩
      · rintro ⟨front, bad, rest, shown, e, rfl, hshown, hbad, hout⟩
        exact ⟨line :: front, bad, rest, s :: shown, e, rfl, .cons hrender hshown, hbad,
          by rw [hout, htext]⟩

/-- Lines that are printed can all be shown. -/
theorem exists_ok_of_rendered (h : Rendered width lines shown) :
    ∀ line ∈ lines, ∃ s, Markup.render width line = .ok s := by
  induction h with
  | nil => simp
  | cons hline _ ih => exact List.forall_mem_cons.2 ⟨⟨_, hline⟩, ih⟩

theorem signs_printedText_cons (s : String) (shown : List String) :
    Markup.signs (printedText (s :: shown)).toList =
      Markup.signs s.toList + Markup.signs (printedText shown).toList := by
  have hbreak : Markup.signs "\n".toList = 0 := by decide
  rw [printedText_cons, String.toList_append, String.toList_append, Markup.signs_append,
    Markup.signs_append, hbreak, Nat.add_zero]

/-- Lines that are shown faithfully keep their signs. -/
theorem signs_printedText_of_shows (h : List.Forall₂ (Markup.Shows width) lines shown) :
    Markup.signs (printedText shown).toList = Markup.signs (printedText lines).toList := by
  induction h with
  | nil => rfl
  | cons hline _ ih => rw [signs_printedText_cons, signs_printedText_cons, ih, hline.signs_eq]

end Printing

/-- A text behind the name of what it is. -/
theorem unmarked_labelled (label : String) (hlabel : Markup.signs label.toList = 0)
    (text : String) :
    Markup.Unmarked (label ++ ": " ++ text).toList ↔ Markup.Unmarked text.toList := by
  rw [String.toList_append, String.toList_append, List.append_assoc]
  exact Markup.unmarked_label hlabel

/-- The lines that tell a result are unmarked if the paths of its project are. -/
theorem unmarked_told_iff (r : Activation.Result) :
    (∀ line ∈ told r, Markup.Unmarked line.toList) ↔
      ∀ p, r.project = some p →
        Markup.Unmarked p.root.text.toList ∧ Markup.Unmarked p.manifest.text.toList := by
  have hstatus := Markup.unmarked_of_signs_eq_zero (Markup.signs_statusText r.status)
  have hroot (text : String) : Markup.Unmarked ("  Project: " ++ text).toList ↔
      Markup.Unmarked text.toList := unmarked_labelled "  Project" (by decide) text
  have hmanifest (text : String) : Markup.Unmarked ("  Manifest: " ++ text).toList ↔
      Markup.Unmarked text.toList := unmarked_labelled "  Manifest" (by decide) text
  have haction (d : Decision) : Markup.Unmarked ("  Action: " ++ d.name).toList := by
    refine (unmarked_labelled "  Action" (by decide) d.name).2 ?_
    refine Markup.unmarked_of_signs_eq_zero ?_
    cases d <;> decide +kernel
  rcases r with ⟨status, _ | p, _ | d⟩ <;>
    simp [told, hstatus, hroot, hmanifest, haction, -String.toList_append]

/-- What is shown of a line keeps its signs if the line is unmarked, and else has fewer of them. -/
def LosesMarks (line s : String) : Prop :=
  Markup.Unmarked line.toList ∧ Markup.signs s.toList = Markup.signs line.toList ∨
    Markup.signs s.toList < Markup.signs line.toList

/-- What is shown of lines has no more signs than they have, and if it has as many, all lines are
unmarked. -/
theorem unmarked_of_signs_le {lines shown : List String} (h : List.Forall₂ LosesMarks lines shown) :
    Markup.signs (printedText shown).toList ≤ Markup.signs (printedText lines).toList ∧
      (Markup.signs (printedText lines).toList ≤ Markup.signs (printedText shown).toList →
        ∀ line ∈ lines, Markup.Unmarked line.toList) := by
  induction h with
  | nil => simp
  | cons hline _ ih =>
    obtain ⟨hle, hunmarked⟩ := ih
    rw [signs_printedText_cons, signs_printedText_cons, List.forall_mem_cons]
    rcases hline with ⟨hline, hsigns⟩ | hlt
    · exact ⟨by omega, fun hsum => ⟨hline, hunmarked (by omega)⟩⟩
    · exact ⟨by omega, fun hsum => by omega⟩

/-- What is printed of a result: all lines, or those before one that cannot be shown. -/
theorem resultReport_eq_or (width : Nat) (r : Activation.Result) :
    (∃ shown, Rendered width (resultLines r) shown ∧
      resultReport width (some (.ok (.activation (some r)))) =
        .printed (resultCode r) (printedText shown)) ∨
    ∃ front line rest shown e, resultLines r = front ++ line :: rest ∧ Rendered width front shown ∧
      Markup.render width line = .error e ∧
        resultReport width (some (.ok (.activation (some r)))) =
          { Report.failed e with out := printedText shown } := by
  rw [resultReport, printing]
  rcases printLines_eq_or width "" (resultLines r) with ⟨shown, hshown, hout⟩ |
    ⟨front, line, rest, shown, e, hlines, hshown, herror, hout⟩
  · refine Or.inl ⟨shown, hshown, ?_⟩
    generalize printLines width "" (resultLines r) = printed at hout
    obtain ⟨outcome, out⟩ := printed
    obtain rfl : outcome = _ := hout
    simp
  · refine Or.inr ⟨front, line, rest, shown, e, hlines, hshown, herror, ?_⟩
    rw [hout]
    simp

/-- Only markup keeps a line from being shown. -/
theorem exists_of_render_eq_error {width : Nat} {line : String} {e : Failure}
    (h : Markup.render width line = .error e) : ∃ fault, e = .markup fault := by
  rw [Markup.render] at h
  split at h
  · cases h
  · next fault _ => exact ⟨fault, (Except.error.inj h).symm⟩

/-- The lines of a result are the line of its status, given with its markup, and the other lines as
they are. -/
theorem resultLines_eq (r : Activation.Result) :
    resultLines r = statusLine r.status :: (told r).tail := rfl

section Showing

variable {width : Nat} {r : Activation.Result}

/-- The status is shown first. -/
theorem exists_of_rendered {s : Activation.Status} {lines shown : List String}
    (h : Rendered width (statusLine s :: lines) shown) :
    ∃ first rest, shown = first :: rest ∧ Markup.render width (Markup.statusText s) = .ok first ∧
      Rendered width lines rest := by
  cases h with
  | cons hfirst hrest =>
    rw [Markup.render_statusLine] at hfirst
    exact ⟨_, _, rfl, hfirst, hrest⟩

/-- What is told is shown as its markup has it. -/
theorem forall₂_told {R : String → String → Prop} {shown : List String}
    (h : Rendered width (resultLines r) shown)
    (hline : ∀ line ∈ told r, ∀ s, Markup.render width line = .ok s → R line s) :
    List.Forall₂ R (told r) shown := by
  obtain ⟨first, rest, rfl, hfirst, hrest⟩ := exists_of_rendered h
  have htold : Rendered width (told r) (first :: rest) := .cons hfirst hrest
  exact ((List.forall₂_and_left _ _).2 ⟨hline, htold⟩).imp fun line s h => h.1 s h.2

/-- A status that is shown is shown faithfully, and as it is if it fits. -/
theorem status_shown {s : Activation.Status} {first : String}
    (hfirst : Markup.render width (Markup.statusText s) = .ok first) :
    Markup.Shows width (Markup.statusText s) first ∧
      (Screen.Fits width (Markup.statusText s).toList → first = Markup.statusText s) := by
  have hshows := (Markup.unmarked_statusText s).shows hfirst
  refine ⟨hshows, hshows.eq_of_fits ?_⟩
  cases s <;> decide

/-- A report that is complete tells its result just if all lines are unmarked. -/
theorem tells_iff_of_rendered {shown : List String} {report : Report}
    (hshown : Rendered width (resultLines r) shown) (hcompleted : report.failure = none)
    (hcode : report.exitCode = resultCode r) (hout : report.out = printedText shown) :
    report.Tells width r ↔ ∀ line ∈ told r, Markup.Unmarked line.toList := by
  constructor
  · rintro ⟨-, -, shown', hfaithful, hout'⟩
    have hloses : List.Forall₂ LosesMarks (told r) shown :=
      forall₂_told hshown fun line _ s hrender =>
        (Markup.unmarked_or_signs_lt hrender).imp_left fun h => ⟨h, (h.shows hrender).signs_eq⟩
    refine (unmarked_of_signs_le hloses).2 ?_
    rw [← hout, hout', signs_printedText_of_shows hfaithful]
  · intro h
    refine ⟨hcompleted, hcode, shown, forall₂_told hshown ?_, hout⟩
    exact fun line hline s hrender => (h line hline).shows hrender

/-- A line that cannot be shown is not the line of the status, and it is not unmarked. -/
theorem exists_marked_of_error {front rest shown : List String}
    {line : String} {e : Failure} (hlines : resultLines r = front ++ line :: rest)
    (hshown : Rendered width front shown) (herror : Markup.render width line = .error e) :
    (∃ line ∈ told r, ¬Markup.Unmarked line.toList) ∧
      ∃ first shown', shown = first :: shown' ∧
        Markup.render width (Markup.statusText r.status) = .ok first := by
  rw [resultLines_eq] at hlines
  cases hshown with
  | nil =>
    obtain ⟨rfl, -⟩ := List.cons.inj hlines
    rw [Markup.render_statusLine, Markup.render_of_tagFree (Markup.unmarked_statusText _).tags]
      at herror
    cases herror
  | cons hfirst hrest =>
    obtain ⟨rfl, htail⟩ := List.cons.inj hlines
    obtain ⟨first, shown', heq, hstatus, -⟩ := exists_of_rendered (.cons hfirst hrest)
    refine ⟨⟨line, List.mem_of_mem_tail ?_, fun hunmarked => ?_⟩, first, shown', heq, hstatus⟩
    · rw [htail]
      simp
    · rw [Markup.render_of_tagFree hunmarked.tags] at herror
      cases herror

/-- A path whose first tag is a closing one makes a line that cannot be shown. -/
theorem exists_error_of_firstTagCloses {p : Project} (width : Nat)
    (hp : r.project = some p)
    (h : Markup.FirstTagCloses p.root.text.toList ∨ Markup.FirstTagCloses p.manifest.text.toList) :
    ∃ line ∈ resultLines r, ∃ e, Markup.render width line = .error e := by
  have hline (label text : String) (hbracket : '[' ∉ label.toList)
      (hbackslash : '\\' ∉ label.toList) (htext : Markup.FirstTagCloses text.toList) :
      ∃ e, Markup.render width (label ++ text) = .error e := by
    have hcloses : Markup.FirstTagCloses (label ++ text).toList := by
      rw [String.toList_append]
      exact htext.label hbracket hbackslash
    obtain ⟨fault, hfault⟩ := Markup.render_of_firstTagCloses hcloses
    exact ⟨_, hfault⟩
  rw [resultLines, hp]
  rcases h with h | h
  · exact ⟨"  Project: " ++ p.root.text, by simp, hline _ _ (by decide) (by decide) h⟩
  · exact ⟨"  Manifest: " ++ p.manifest.text, by simp, hline _ _ (by decide) (by decide) h⟩

end Showing

/-- The program reports a result as it is, on a console of any width, just if the paths of its
project are unmarked. Whatever they are, the status is told first, nothing but markup can make the
report fail, and the exit code tells whether everything was dispatched and could be told. A path
whose first tag is a closing one always makes the report fail. -/
theorem resultReport_tells_iff (width : Nat) (r : Activation.Result) (verbose : Bool)
    (trace : Trace) :
    let report := (resultReport width (some (.ok (.activation (some r))))).afterTrace verbose trace
    (report.Tells width r ↔ ∀ p, r.project = some p →
      Markup.Unmarked p.root.text.toList ∧ Markup.Unmarked p.manifest.text.toList) ∧
    (report.exitCode = 0 ↔ r.status = .dispatched ∧ report.failure = none) ∧
    (report.exitCode = 0 ∨ report.exitCode = 1) ∧
    (report.failure = none ∨ ∃ fault, report.failure = some (.markup fault)) ∧
    (∃ first rest, report.out = first ++ "\n" ++ rest ∧
      Markup.Shows width (Markup.statusText r.status) first ∧
      (Screen.Fits width (Markup.statusText r.status).toList →
        first = Markup.statusText r.status)) ∧
    ∀ p, r.project = some p →
      Markup.FirstTagCloses p.root.text.toList ∨ Markup.FirstTagCloses p.manifest.text.toList →
        report.failure ≠ none := by
  intro report
  rw [← unmarked_told_iff]
  rcases resultReport_eq_or width r with ⟨shown, hshown, heq⟩ |
    ⟨front, line, rest, shown, e, hlines, hshown, herror, heq⟩
  · have hcompleted : report.failure = none := by simp only [report, heq]; rfl
    have hcode : report.exitCode = resultCode r := by simp only [report, heq]; rfl
    have hout : report.out = printedText shown := by simp only [report, heq]; rfl
    refine ⟨tells_iff_of_rendered hshown hcompleted hcode hout, ?_, ?_, Or.inl hcompleted, ?_, ?_⟩
    · rw [hcode, resultCode]
      split <;> simp_all
    · rw [hcode, resultCode]
      split <;> simp
    · obtain ⟨first, rest, rfl, hfirst, -⟩ := exists_of_rendered hshown
      exact ⟨first, _, hout.trans (printedText_cons _ _), status_shown hfirst⟩
    · intro p hp hcloses
      obtain ⟨line, hline, e, herror⟩ := exists_error_of_firstTagCloses width hp hcloses
      obtain ⟨s, hok⟩ := exists_ok_of_rendered hshown line hline
      rw [herror] at hok
      cases hok
  · obtain ⟨⟨bad, hbad, hmarked⟩, first, shown', rfl, hfirst⟩ :=
      exists_marked_of_error hlines hshown herror
    obtain ⟨fault, rfl⟩ := exists_of_render_eq_error herror
    have hfailure : report.failure = some (.markup fault) := by simp only [report, heq]; rfl
    have hcode : report.exitCode = 1 := by simp only [report, heq]; rfl
    have hout : report.out = printedText (first :: shown') := by
      simp only [report, heq]; rfl
    refine ⟨?_, ?_, Or.inr hcode, Or.inr ⟨fault, hfailure⟩,
      ⟨first, _, hout.trans (printedText_cons _ _), status_shown hfirst⟩,
      fun _ _ _ => by simp [hfailure]⟩
    · refine iff_of_false (fun h => ?_) fun h => hmarked (h bad hbad)
      have hcompleted := h.completed
      rw [hfailure] at hcompleted
      cases hcompleted
    · rw [hcode, hfailure]
      simp

/-- A project in a directory whose name is an opening tag, and one where it is a closing tag. -/
def bracketed (name : String) : Activation.Result :=
  { status := .dispatched
    project := some (.ofManifest ⟨.root, ["w", name, "a.uproject"]⟩)
    decision := some .registerFirst }

/-- The report of a dispatched activation leaves the name of the directory out, or it fails. -/
theorem resultReport_tells_iff_bracketed :
    (∃ p, (bracketed "[x]").project = some p ∧ p.root.text = "/w/[x]") ∧
      ¬((resultReport 80 (some (.ok (.activation (some (bracketed "[x]")))))).afterTrace
        false []).Tells 80 (bracketed "[x]") ∧
      ((resultReport 80 (some (.ok (.activation (some (bracketed "[/x]")))))).afterTrace
        false []).exitCode = 1 ∧
      ((resultReport 80 (some (.ok (.activation (some (bracketed "x")))))).afterTrace
        false []).Tells 80 (bracketed "x") := by
  have hroot (name : String) : (bracketed name).project =
      some ⟨⟨.root, ["w", name]⟩, ⟨.root, ["w", name, "a.uproject"]⟩⟩ := rfl
  refine ⟨⟨_, hroot _, by decide +kernel⟩, fun h => ?_, ?_, ?_⟩
  · have hunmarked := ((resultReport_tells_iff _ _ _ _).1.1 h _ (hroot _)).1
    have htag := hunmarked.tags "[x]".toList ⟨"/w/".toList, by decide +kernel⟩
    exact absurd htag (by decide)
  · have hbase : Markup.FirstTagCloses "[/x]".toList := by
      refine ⟨[], _, ['x'], [], rfl, by decide, by simp, fun part hpart hsuffix => ?_⟩
      exact absurd (List.suffix_nil.1 hsuffix) hpart
    have hcloses : Markup.FirstTagCloses ("/w/".toList ++ "[/x]".toList) :=
      hbase.label (by decide) (by decide)
    obtain ⟨-, hzero, hcode, -, -, hfails⟩ := resultReport_tells_iff 80 (bracketed "[/x]") false []
    refine hcode.resolve_left fun h => ?_
    exact hfails _ (hroot _) (Or.inl hcloses) (hzero.1 h).2
  · refine (resultReport_tells_iff _ _ _ _).1.2 fun p hp => ?_
    rw [hroot] at hp
    obtain rfl := Option.some.inj hp
    exact ⟨Markup.unmarked_of_signs_eq_zero (by decide +kernel),
      Markup.unmarked_of_signs_eq_zero (by decide +kernel)⟩

end IndexSync.Cli
