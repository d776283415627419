import IndexSync.Proofs.Digits
import IndexSync.Text.Fields
import IndexSync.Text.Lower
import Mathlib.Algebra.Ring.Nat

/-!
# Lower case and the marks of paths

What the lower-case mapping does to the texts of paths. The marks that paths are made of, the two
separators and the dot, are kept and never produced, no letter looks beyond a slash, and a text that
was mapped once is not changed again.

* `length_lowerList_append_lt` — a longer text has a longer lower-case form;
* `mem_lowerList_iff` — the marks of a text are those of its lower-case form;
* `lowerList_eq_dots_iff` — only dots become dots;
* `lowerList_joinFields` — the parts between slashes are mapped one by one;
* `lowerList_lowerList` — lower-case forms are their own lower-case forms.
-/

namespace IndexSync.Text

/-! ### Length -/

/-- The number of characters that the lower-case form of a character has. -/
def lowerWidth (c : Char) : Nat := if c = 'İ' then 2 else 1

theorem length_lowerChar (c : Char) : (lowerChar c).length = lowerWidth c := by
  unfold lowerChar lowerWidth
  split
  · rfl
  · split <;> rfl

/-- How many characters a lower-case form has does not depend on what precedes it. -/
theorem length_lowerAfter (before cs : List Char) :
    (lowerAfter before cs).length = (cs.map lowerWidth).sum := by
  induction cs generalizing before with
  | nil => rfl
  | cons c cs ih =>
    rw [lowerAfter, List.length_append, ih, List.map_cons, List.sum_cons]
    congr 1
    split
    · next hsigma =>
      rw [hsigma]
      rfl
    · exact length_lowerChar c

/-- A longer text has a longer lower-case form. -/
theorem length_lowerList_append_lt (cs : List Char) {rest : List Char} (h : rest ≠ []) :
    (lowerList cs).length < (lowerList (cs ++ rest)).length := by
  rw [lowerList, lowerList, length_lowerAfter, length_lowerAfter, List.map_append, List.sum_append]
  cases rest with
  | nil => exact absurd rfl h
  | cons c rest =>
    have hwidth : 0 < lowerWidth c := by unfold lowerWidth; split <;> decide
    rw [List.map_cons, List.sum_cons]
    omega

/-! ### Marks -/

/-- A character with a meaning in paths: a separator or the dot. -/
def isMark (c : Char) : Bool := c == '/' || c == '\\' || c == '.'

/-- All capital letters of the table have lower-case letters above the backslash. -/
theorem caseRuns_above : ∀ r ∈ caseRuns, (0x5c : Int) < r.first + r.shift := by decide +kernel

/-- Marks are no letters. -/
theorem lowerChar_of_isMark {m : Char} (h : isMark m = true) : lowerChar m = [m] := by
  simp only [isMark, Bool.or_eq_true, beq_iff_eq] at h
  rcases h with (rfl | rfl) | rfl <;> decide +kernel

/-- A character with a number above that of the backslash is no mark. -/
theorem isMark_ofNat {n : Nat} (h : 0x5c < n) : isMark (Char.ofNat n) = false := by
  by_cases hvalid : n.isValidChar
  · have hnumber := toNat_ofNat hvalid
    simp only [isMark, Bool.or_eq_false_iff, beq_eq_false_iff_ne]
    refine ⟨⟨?_, ?_⟩, ?_⟩ <;> intro heq <;> rw [heq] at hnumber <;> subst hnumber <;>
      exact absurd h (by decide)
  · rw [ofNat_of_not_isValidChar hvalid]
    decide

/-- A character that is no mark does not become one. -/
theorem isMark_of_mem_lowerChar {c d : Char} (hc : isMark c = false) (hd : d ∈ lowerChar c) :
    isMark d = false := by
  unfold lowerChar at hd
  split at hd
  · rcases List.mem_cons.1 hd with rfl | hd
    · decide
    · rw [List.mem_singleton.1 hd]
      decide
  · split at hd
    · next r hr =>
      have habove := caseRuns_above r (List.mem_of_find?_eq_some hr)
      have hfirst : r.first ≤ c.toNat := by
        have hcontains := List.find?_some hr
        simp only [CaseRun.contains, Bool.and_eq_true, decide_eq_true_eq] at hcontains
        exact hcontains.1.1
      rw [List.mem_singleton.1 hd]
      exact isMark_ofNat (by omega)
    · rwa [List.mem_singleton.1 hd]

/-- What a character becomes, given what precedes it, nearest first, and what follows it. -/
def lowerAt (before : List Char) (c : Char) (after : List Char) : List Char :=
  if c = 'Σ' then [if endsWord before after then 'ς' else 'σ'] else lowerChar c

theorem lowerAfter_cons (before : List Char) (c : Char) (cs : List Char) :
    lowerAfter before (c :: cs) = lowerAt before c cs ++ lowerAfter (c :: before) cs := rfl

theorem lowerAt_of_isMark {m : Char} (h : isMark m = true) (before after : List Char) :
    lowerAt before m after = [m] := by
  have hsigma : m ≠ 'Σ' := by
    rintro rfl
    exact absurd h (by decide)
  rw [lowerAt, if_neg hsigma, lowerChar_of_isMark h]

theorem isMark_of_mem_lowerAt {c d : Char} {before after : List Char} (hc : isMark c = false)
    (hd : d ∈ lowerAt before c after) : isMark d = false := by
  unfold lowerAt at hd
  split at hd
  · rw [List.mem_singleton.1 hd]
    split <;> decide
  · exact isMark_of_mem_lowerChar hc hd

theorem lowerAt_ne_nil (before : List Char) (c : Char) (after : List Char) :
    lowerAt before c after ≠ [] := by
  unfold lowerAt lowerChar
  split
  · simp
  · split
    · simp
    · split <;> simp

/-- The marks of a text are those of its lower-case form. -/
theorem mem_lowerAfter_iff {m : Char} (h : isMark m = true) (before cs : List Char) :
    m ∈ lowerAfter before cs ↔ m ∈ cs := by
  induction cs generalizing before with
  | nil => rfl
  | cons c cs ih =>
    have hat : m ∈ lowerAt before c cs ↔ m = c := by
      cases hc : isMark c with
      | true => rw [lowerAt_of_isMark hc, List.mem_singleton]
      | false =>
        constructor
        · intro hm
          rw [isMark_of_mem_lowerAt hc hm] at h
          cases h
        · rintro rfl
          rw [h] at hc
          cases hc
    rw [lowerAfter_cons, List.mem_append, List.mem_cons, ih, hat]

theorem mem_lowerList_iff {m : Char} (h : isMark m = true) (cs : List Char) :
    m ∈ lowerList cs ↔ m ∈ cs := mem_lowerAfter_iff h [] cs

/-- Only dots become dots. -/
theorem lowerAfter_eq_dots_iff (before cs : List Char) (n : Nat) :
    lowerAfter before cs = List.replicate n '.' ↔ cs = List.replicate n '.' := by
  induction cs generalizing before n with
  | nil => rfl
  | cons c cs ih =>
    rw [lowerAfter_cons]
    cases hc : isMark c with
    | true =>
      rw [lowerAt_of_isMark hc, List.singleton_append]
      cases n with
      | zero => simp
      | succ n => rw [List.replicate_succ, List.cons.injEq, List.cons.injEq, ih]
    | false =>
      -- A letter leaves something that is no dot, and a letter it is.
      constructor
      · intro heq
        obtain ⟨-, hat, -⟩ := List.append_eq_replicate_iff.1 heq
        obtain ⟨d, hd⟩ := List.exists_mem_of_ne_nil _ (lowerAt_ne_nil before c cs)
        have hdot : d = '.' := by
          rw [hat] at hd
          exact List.eq_of_mem_replicate hd
        have hmark := isMark_of_mem_lowerAt hc hd
        rw [hdot] at hmark
        exact absurd hmark (by decide)
      · intro heq
        have hdot : c = '.' := List.eq_of_mem_replicate (heq ▸ List.mem_cons_self)
        rw [hdot] at hc
        exact absurd hc (by decide)

theorem lowerList_eq_dots_iff (cs : List Char) (n : Nat) :
    lowerList cs = List.replicate n '.' ↔ cs = List.replicate n '.' :=
  lowerAfter_eq_dots_iff [] cs n

/-! ### Segments -/

/-- The search for a letter that matters to case ends at a slash. -/
theorem meetsCased_slash (cs more : List Char) :
    meetsCased (cs ++ '/' :: more) = meetsCased cs := by
  have hskip : caseIgnorableRanges.covers '/' = false := by decide +kernel
  have hcased : casedRanges.covers '/' = false := by decide +kernel
  unfold meetsCased
  induction cs with
  | nil => simp [hskip, hcased]
  | cons c cs ih =>
    rw [List.cons_append, List.dropWhile_cons, List.dropWhile_cons]
    cases caseIgnorableRanges.covers c with
    | true => exact ih
    | false => rfl

/-- What precedes a slash does not matter after it. -/
theorem lowerAfter_slash (before older cs : List Char) :
    lowerAfter (before ++ '/' :: older) cs = lowerAfter before cs := by
  induction cs generalizing before with
  | nil => rfl
  | cons c cs ih =>
    have hcons := ih (c :: before)
    rw [List.cons_append] at hcons
    rw [lowerAfter_cons, lowerAfter_cons, hcons, lowerAt, lowerAt, endsWord, endsWord,
      meetsCased_slash]

/-- The parts before and after a slash are mapped one by one. -/
theorem lowerAfter_append_slash (before part rest : List Char) :
    lowerAfter before (part ++ '/' :: rest) = lowerAfter before part ++ '/' :: lowerList rest := by
  induction part generalizing before with
  | nil =>
    rw [List.nil_append, lowerAfter_cons, lowerAt_of_isMark (by decide)]
    -- All that precedes the rest is beyond the slash.
    exact congrArg _ (lowerAfter_slash [] before rest)
  | cons c part ih =>
    rw [List.cons_append, lowerAfter_cons, lowerAfter_cons, ih, List.append_assoc, lowerAt, lowerAt,
      endsWord, endsWord, meetsCased_slash]

/-- The parts between slashes are mapped one by one. -/
theorem lowerList_joinFields (parts : List (List Char)) :
    lowerList (joinFields '/' parts) = joinFields '/' (parts.map lowerList) := by
  induction parts with
  | nil => rfl
  | cons part parts ih =>
    cases parts with
    | nil => rfl
    | cons next parts =>
      rw [joinFields, lowerList, lowerAfter_append_slash, ih]
      rfl

/-! ### Lower-case forms of lower-case forms -/

/-- A character that is its own lower-case form, wherever it stands. -/
def Settled (c : Char) : Prop := c ≠ 'Σ' ∧ lowerChar c = [c]

theorem lowerAfter_eq_self {cs : List Char} (h : ∀ c ∈ cs, Settled c) (before : List Char) :
    lowerAfter before cs = cs := by
  induction cs generalizing before with
  | nil => rfl
  | cons c cs ih =>
    obtain ⟨⟨hsigma, hchar⟩, hcs⟩ := List.forall_mem_cons.1 h
    rw [lowerAfter_cons, lowerAt, if_neg hsigma, hchar, ih hcs, List.singleton_append]

namespace CaseRun

/-- The lower-case letter of the first capital of a run. -/
def lowest (r : CaseRun) : Nat := (r.first + r.shift).toNat

/-- The lower-case letter of the last capital of a run. -/
def highest (r : CaseRun) : Nat := (r.last + r.shift).toNat

/-- No lower-case letter of one run is a capital of another: they are in different places, or every
second character is a lower-case letter of the one and those between them are the capitals of the
other. -/
def apart (r q : CaseRun) : Bool :=
  bif Nat.ble q.first r.highest then
    bif Nat.ble r.lowest q.last then
      q.step == 2 && (r.step == 2 || r.first == r.last) && (r.lowest + q.first) % 2 == 1
    else true
  else true

end CaseRun

/-- All capital letters. -/
def capitalRuns : List CaseRun := ⟨0x130, 0x130, 1, 0⟩ :: ⟨0x3a3, 0x3a3, 1, 0⟩ :: caseRuns

/-- No capital letter is a lower-case letter. -/
theorem caseRuns_apart :
    (caseRuns.all fun r => capitalRuns.all fun q => r.apart q) = true := by decide +kernel

/-- The lower-case letters of a run are not the capitals of one that is apart. -/
theorem CaseRun.not_contains_of_apart {r q : CaseRun} (h : r.apart q = true)
    (habove : (0x5c : Int) < r.first + r.shift) {n : Nat} (hn : r.contains n = true) :
    q.contains ((n : Int) + r.shift).toNat = false := by
  rw [Bool.eq_false_iff]
  intro hq
  simp only [contains, Bool.and_eq_true, decide_eq_true_eq, beq_iff_eq] at hn hq
  obtain ⟨⟨hfirst, hlast⟩, hstep⟩ := hn
  obtain ⟨⟨hqfirst, hqlast⟩, hqstep⟩ := hq
  have hhigh : Nat.ble q.first r.highest = true := by
    rw [Nat.ble_eq, highest]
    omega
  have hlow : Nat.ble r.lowest q.last = true := by
    rw [Nat.ble_eq, lowest]
    omega
  simp only [apart, hhigh, hlow, cond_true, Bool.and_eq_true, Bool.or_eq_true, beq_iff_eq] at h
  obtain ⟨⟨hqtwo, hstride⟩, hodd⟩ := h
  -- The capitals of the other run are an even distance from its first one.
  rw [hqtwo] at hqstep
  rw [lowest] at hodd
  rcases hstride with htwo | hsingle
  · rw [htwo] at hstep
    omega
  · omega

/-- A character that is no capital letter is settled. -/
theorem settled_of_forall {c : Char} (h : ∀ q ∈ capitalRuns, q.contains c.toNat = false) :
    Settled c := by
  obtain ⟨hdotted, h⟩ := List.forall_mem_cons.1 h
  obtain ⟨hsigma, h⟩ := List.forall_mem_cons.1 h
  have hnone : caseRuns.find? (·.contains c.toNat) = none :=
    List.find?_eq_none.2 fun q hq => by simp [h q hq]
  refine ⟨?_, ?_⟩
  · rintro rfl
    exact absurd hsigma (by decide)
  · rw [lowerChar, if_neg, hnone]
    rintro rfl
    exact absurd hdotted (by decide)

/-- Lower-case letters are settled. -/
theorem settled_of_mem_lowerAt {c d : Char} {before after : List Char}
    (hd : d ∈ lowerAt before c after) : Settled d := by
  unfold lowerAt at hd
  split at hd
  · rw [List.mem_singleton.1 hd]
    split <;> exact ⟨by decide, by decide +kernel⟩
  · next hsigma =>
    unfold lowerChar at hd
    split at hd
    · rcases List.mem_cons.1 hd with rfl | hd
      · exact ⟨by decide, by decide +kernel⟩
      · rw [List.mem_singleton.1 hd]
        exact ⟨by decide, by decide +kernel⟩
    · next hdotted =>
      split at hd
      · next r hr =>
        have hrun := List.mem_of_find?_eq_some hr
        have hcontains := List.find?_some hr
        have hapart := List.all_eq_true.1 (List.all_eq_true.1 caseRuns_apart r hrun)
        rw [List.mem_singleton.1 hd]
        -- The letter is moved by the shift of its run, and no run is moved onto another one.
        by_cases hvalid : ((c.toNat : Int) + r.shift).toNat.isValidChar
        · apply settled_of_forall
          intro q hq
          rw [toNat_ofNat hvalid]
          exact CaseRun.not_contains_of_apart (hapart q hq) (caseRuns_above r hrun)
            hcontains
        · rw [ofNat_of_not_isValidChar hvalid]
          exact ⟨by decide, by decide +kernel⟩
      · next hnone =>
        rw [List.mem_singleton.1 hd]
        exact ⟨hsigma, by rw [lowerChar, if_neg hdotted, hnone]⟩

theorem settled_of_mem_lowerAfter {before cs : List Char} {d : Char}
    (hd : d ∈ lowerAfter before cs) : Settled d := by
  induction cs generalizing before with
  | nil => cases hd
  | cons c cs ih =>
    rcases List.mem_append.1 hd with hd | hd
    · exact settled_of_mem_lowerAt hd
    · exact ih hd

/-- Lower-case forms are their own lower-case forms. -/
theorem lowerList_lowerList (cs : List Char) : lowerList (lowerList cs) = lowerList cs :=
  lowerAfter_eq_self (fun _ => settled_of_mem_lowerAfter) []

end IndexSync.Text
