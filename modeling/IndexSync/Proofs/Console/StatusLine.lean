import IndexSync.Cli.Basic
import IndexSync.Proofs.Console.Rendering

/-!
# The line of a status

The status of an activation is shown in a style, between an opening tag and a closing one. Both name
the style by the same word, so that they match, and the line is shown without them.

* `Style.Simple` — a style that is given by one word, which is its own normal form;
* `Style.simple_statusStyle` — the styles of statuses are such styles;
* `Markup.render_statusLine` — the line of a status is shown as what it tells is.
-/

namespace IndexSync.Cli

open Activation (Status)

namespace Style

/-- A word that is no colour by number or by parts is the name of a colour or nothing. -/
theorem colour_eq_or {word : String} (hlower : Text.lower word = word)
    (hsharp : word.toList.head? ≠ some '#') (hnumber : argument? "color" word.toList = none)
    (hparts : argument? "rgb" word.toList = none) :
    colour word = .ok word ∨ colour word = .error .unknown := by
  have hcheck : checkColour word = .ok () ∨ checkColour word = .error .unknown := by
    by_cases hname : word = "default" ∨ colourNames.contains word = true
    · exact Or.inl (if_pos hname)
    · rw [checkColour, if_neg hname, if_neg hsharp, hnumber, hparts]
      exact Or.inr rfl
  rw [colour, hlower]
  exact hcheck.imp (fun h => by rw [h]; rfl) fun h => by rw [h]; rfl

/-- A style that is given by one word, which is its own normal form. -/
def Simple (word : String) : Prop :=
  normalize word.toList = .ok word ∧ parse word.toList ≠ .error .emptyPart

theorem simple_of_colour {word : String}
    (hwords : (Text.words word.toList).map String.ofList = [word]) (hnone : word ≠ "none")
    (hlower : Text.lower word = word) (hstrip : Text.strip word = word)
    (hattribute : Attribute.ofName? word = none)
    (hcolour : colour word = .ok word ∨ colour word = .error .unknown) : Simple word := by
  have hparse : parse word.toList = (colour word).map fun c => { foreground := some c } := by
    rw [parse, hwords]
    split
    · next h => exact absurd (List.singleton_inj.1 h) hnone
    · rw [ofWords, hlower, hattribute]
      cases colour word <;> rfl
  rcases hcolour with hcolour | hcolour
  · rw [hcolour] at hparse
    refine ⟨?_, by rw [hparse]; simp [Except.map]⟩
    have htext : Style.text { foreground := some word } = word := by
      have hwords : Style.words { foreground := some word } = [word] := rfl
      rw [Style.text, hwords, if_neg (by simp), String.intercalate_singleton]
    rw [normalize, hparse]
    exact congrArg Except.ok htext
  · rw [hcolour] at hparse
    refine ⟨?_, by rw [hparse]; simp [Except.map]⟩
    rw [normalize, hparse]
    simp [Except.map, hstrip, hlower]

/-- The styles in which statuses are shown are given by one word. -/
theorem simple_statusStyle (s : Status) : Simple (statusStyle s) := by
  cases s with
  | alreadyInFlight => exact ⟨by decide, by decide⟩
  | _ =>
    refine simple_of_colour ?_ ?_ ?_ ?_ ?_ (colour_eq_or ?_ ?_ ?_ ?_) <;> decide +kernel

end Style

namespace Markup

/-- What is told of a status. -/
def statusText (s : Status) : String := "Bootstrap " ++ s.name

/-- The line of a status is a text between an opening and a closing tag. -/
theorem pieces_statusLine (s : Status) :
    pieces (statusLine s).toList =
      [.tag 0 (statusStyle s).toList, .text (statusText s).toList,
        .tag ((statusStyle s).length + (statusText s).length + 2)
          ('/' :: (statusStyle s).toList)] := by
  simp only [statusLine, statusText, String.toList_append, String.length_append]
  cases s <;> decide +kernel

/-- The tag that is opened in the line of a status. -/
def statusTag (s : Status) : Opened := ⟨0, statusStyle s, none⟩

theorem open_statusTag (s : Status) :
    Draft.open {} (statusStyle s).toList = .ok { opened := [statusTag s] } := by
  have hsplit : splitTag (statusStyle s).toList = ((statusStyle s).toList, none) := by
    cases s <;> decide +kernel
  rw [Draft.open, hsplit]
  dsimp only
  rw [(Style.simple_statusStyle s).1]
  rfl

theorem close_statusTag (s : Status) {d : Draft} (hd : d.opened = [statusTag s]) (position : Nat) :
    d.close position ('/' :: (statusStyle s).toList) =
      .ok { d with opened := [], spans := (statusTag s).span d.length :: d.spans } := by
  have hname : Text.trimList Text.isBlank ((splitTag ('/' :: (statusStyle s).toList)).1.drop 1) =
      (statusStyle s).toList := by cases s <;> decide +kernel
  have hne : (statusStyle s).toList ≠ [] := by cases s <;> decide +kernel
  have hhandler : (statusTag s).isHandler = false := by cases s <;> decide +kernel
  rw [Draft.close, hname]
  split
  · next h => exact absurd h hne
  · have htake : takeNamed? (statusStyle s) [statusTag s] = some (statusTag s, []) := if_pos rfl
    rw [(Style.simple_statusStyle s).1, hd, styleFault]
    simp only [bind, Except.bind, htake, Draft.finish, hhandler]
    rfl

theorem isBroken_statusTag (s : Status) (stop : Nat) :
    ((statusTag s).span stop).isBroken = false := by
  rw [Span.isBroken]
  split
  · next h => exact absurd h (Style.simple_statusStyle s).2
  · rfl

/-- The line of a status makes a draft of its text, with one style. -/
theorem foldlM_statusLine (s : Status) :
    (pieces (statusLine s).toList).foldlM Draft.add {} =
      .ok
        { shown := [plainText (statusText s).toList]
          length := 0 + (plainText (statusText s).toList).length
          spans := [(statusTag s).span (0 + (plainText (statusText s).toList).length)] } := by
  have hfirst : (statusStyle s).toList.head? ≠ some '/' := by cases s <;> decide +kernel
  have hopen : Draft.add {} (.tag 0 (statusStyle s).toList) = .ok { opened := [statusTag s] } := by
    rw [Draft.add]
    · exact open_statusTag s
    · intro rest h
      exact hfirst (by rw [h]; rfl)
  have hbind (d : Draft) (f : Draft → Except MarkupFault Draft) : (Except.ok d >>= f) = f d := rfl
  rw [pieces_statusLine, List.foldlM_cons, hopen, hbind, List.foldlM_cons, Draft.add, hbind,
    List.foldlM_cons, Draft.add, close_statusTag s rfl, hbind]
  rfl

theorem signs_statusText (s : Status) : signs (statusText s).toList = 0 := by
  cases s <;> decide +kernel

/-- What is told of a status is unmarked. -/
theorem unmarked_statusText (s : Status) : Unmarked (statusText s).toList :=
  unmarked_of_signs_eq_zero (signs_statusText s)

/-- The line of a status is shown without its tags. -/
theorem render_statusLine (width : Nat) (s : Status) :
    render width (statusLine s) = render width (statusText s) := by
  have hlines : (pieces (statusLine s).toList).foldlM Draft.add {} >>= Draft.lines width =
      .ok (Screen.lines width (plainText (statusText s).toList)) := by
    rw [foldlM_statusLine]
    simp [bind, Except.bind, Draft.lines, Draft.allSpans, Draft.text, isBroken_statusTag]
  rw [render_of_tagFree (unmarked_statusText s).tags, render, hlines]

end Markup

end IndexSync.Cli
