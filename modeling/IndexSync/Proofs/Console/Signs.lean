import IndexSync.Cli.Markup
import IndexSync.Proofs.Console.Rows
import IndexSync.Proofs.Digits
import Mathlib.Data.List.Infix

/-!
# Signs

A few characters are more than themselves to the console: brackets and backslashes, as tags are made
of them, colons, as the names of pictographs stand between them, tabs and control characters. Each
step on the way from a marked-up text to what is shown leaves the text alone or takes signs away.

* `Markup.signs` — the number of signs in a text;
* `Markup.Tame f` — what `f` changes has fewer signs afterwards;
* `Markup.TagFree` — there is no tag in a text;
* `Markup.tame_plainText` — replacing names and dropping characters is tame;
* `Markup.plainText_eq_iff` — what a text must not contain to be left alone by that;
* `Markup.scan_eq_or_lt` — the pieces of a text: one if there is no tag, and else fewer signs.
-/

namespace IndexSync.Cli

namespace Markup

/-- A character that is more than itself to the console. -/
def isSign (c : Char) : Bool :=
  c == '[' || c == '\\' || c == ':' || c == '\t' || isControl c

/-- The number of signs in a text. -/
def signs (cs : List Char) : Nat := cs.countP isSign

@[simp]
theorem signs_nil : signs [] = 0 := rfl

@[simp]
theorem signs_cons (c : Char) (cs : List Char) :
    signs (c :: cs) = signs cs + if isSign c then 1 else 0 := List.countP_cons

@[simp]
theorem signs_append (cs cs' : List Char) : signs (cs ++ cs') = signs cs + signs cs' :=
  List.countP_append

@[simp]
theorem signs_reverse (cs : List Char) : signs cs.reverse = signs cs := List.countP_reverse

/-- A text is left alone, or it has fewer signs afterwards. -/
def Tame (f : List Char → List Char) : Prop := ∀ cs, f cs = cs ∨ signs (f cs) < signs cs

section Tame

variable {f g : List Char → List Char}

theorem Tame.signs_le (h : Tame f) (cs : List Char) : signs (f cs) ≤ signs cs := by
  rcases h cs with heq | hlt
  · rw [heq]
  · exact Nat.le_of_lt hlt

/-- Two tame steps leave a text alone just if each of them does. -/
theorem Tame.comp_eq_iff (hf : Tame f) (hg : Tame g) (cs : List Char) :
    g (f cs) = cs ↔ f cs = cs ∧ g cs = cs := by
  refine ⟨fun h => ?_, fun ⟨hfcs, hgcs⟩ => by rw [hfcs, hgcs]⟩
  rcases hf cs with heq | hlt
  · exact ⟨heq, by rwa [heq] at h⟩
  · have hle := hg.signs_le (f cs)
    rw [h] at hle
    omega

theorem Tame.comp (hf : Tame f) (hg : Tame g) : Tame fun cs => g (f cs) := by
  intro cs
  dsimp only
  rcases hf cs with heq | hlt
  · rw [heq]
    exact hg cs
  · exact Or.inr (Nat.lt_of_le_of_lt (hg.signs_le _) hlt)

end Tame

/-! ### Plain text -/

/-- The backslashes before opening brackets are dropped, and nothing else. -/
theorem unescape_eq_or_lt (cs : List Char) :
    unescape cs = cs ∧ ¬['\\', '['] <:+: cs ∨
      signs (unescape cs) < signs cs ∧ ['\\', '['] <:+: cs := by
  induction cs using unescape.induct with
  | case1 rest ih =>
    -- The backslash was a sign, and the rest has no more signs than before.
    have hle : signs (unescape rest) ≤ signs rest := by
      rcases ih with ⟨heq, -⟩ | ⟨hlt, -⟩
      · rw [heq]
      · exact Nat.le_of_lt hlt
    refine Or.inr ⟨?_, (List.prefix_append ['\\', '['] rest).isInfix⟩
    simp [unescape, isSign]
    omega
  | case2 c rest hno ih =>
    rw [unescape]
    · rcases ih with ⟨heq, hinside⟩ | ⟨hlt, hinside⟩
      · refine Or.inl ⟨by rw [heq], fun h => ?_⟩
        rcases List.infix_cons_iff.1 h with ⟨rest', hrest⟩ | h
        · injection hrest with hc hrest
          exact hno rest' hc.symm hrest.symm
        · exact hinside h
      · exact Or.inr ⟨by simpa using hlt, List.infix_cons hinside⟩
    · exact hno
  | case3 => exact Or.inl ⟨rfl, by simp⟩

theorem tame_unescape : Tame unescape := fun cs => (unescape_eq_or_lt cs).imp And.left And.left

/-- A text is left alone if in it no backslash stands before an opening bracket. -/
theorem unescape_eq_iff {cs : List Char} : unescape cs = cs ↔ ¬['\\', '['] <:+: cs := by
  rcases unescape_eq_or_lt cs with ⟨heq, hinside⟩ | ⟨hlt, hinside⟩
  · exact iff_of_true heq hinside
  · refine iff_of_false (fun heq => ?_) (not_not_intro hinside)
    rw [heq] at hlt
    exact Nat.lt_irrefl _ hlt

/-- The signs are below the digits, or they are the colon, the bracket and the backslash. -/
theorem isSign_ofNat {n : Nat} (h : 93 ≤ n ∨ 14 ≤ n ∧ n < 58) : isSign (Char.ofNat n) = false := by
  by_cases hn : n.isValidChar
  · have hne (c : Char) (hc : c.toNat < 14 ∨ 58 ≤ c.toNat ∧ c.toNat < 93) : Char.ofNat n ≠ c := by
      rintro rfl
      rw [Text.toNat_ofNat hn] at hc
      omega
    simp [isSign, isControl, hne]
  · rw [Text.ofNat_of_not_isValidChar hn]
    rfl

/-- No pictograph has a sign. -/
theorem signs_find? {name cs : List Char} (h : Pictograph.find? name = some cs) : signs cs = 0 := by
  -- The table is long, so only numbers are compared when it is gone through.
  have htable : (Pictograph.table.all fun entry =>
      entry.2.all fun n => Nat.ble 93 n || (Nat.ble 14 n && Nat.blt n 58)) = true := by
    decide +kernel
  obtain ⟨entry, hentry, rfl⟩ := Option.map_eq_some_iff.1 h
  have hcodes := List.all_eq_true.1 htable entry (List.mem_of_find?_eq_some hentry)
  refine List.countP_eq_zero.2 fun c hc => ?_
  obtain ⟨n, hn, rfl⟩ := List.mem_map.1 hc
  have hbounds : 93 ≤ n ∨ 14 ≤ n ∧ n < 58 := by
    simpa [Nat.ble_eq, Nat.blt_eq] using List.all_eq_true.1 hcodes n hn
  simp [isSign_ofNat hbounds]

theorem signs_presentation (name : List Char) :
    signs (Pictograph.splitPresentation name).2 = 0 := by
  rw [Pictograph.splitPresentation]
  split
  · next suffix c hfind =>
    have hmem := List.mem_of_find?_eq_some hfind
    simp only [Pictograph.presentations, List.mem_cons, Prod.mk.injEq, List.not_mem_nil,
      or_false] at hmem
    rcases hmem with ⟨-, rfl⟩ | ⟨-, rfl⟩ <;> rfl
  · rfl

/-- What a name stands for has no signs. -/
theorem signs_expand? {name cs : List Char} (h : Pictograph.expand? name = some cs) :
    signs cs = 0 := by
  have hmap : (Pictograph.find? (Text.lowerList (Pictograph.splitPresentation name).1)).map
      (· ++ (Pictograph.splitPresentation name).2) = some cs := h
  obtain ⟨pictograph, hfind, rfl⟩ := Option.map_eq_some_iff.1 hmap
  rw [signs_append, signs_find? hfind, signs_presentation]

/-- A name between colons is replaced if it stands for something. -/
theorem replaceWithin_name {rest after : List Char}
    (h : rest.dropWhile Pictograph.inName = ':' :: after) (bound : Nat) :
    Pictograph.replaceWithin (bound + 1) (':' :: rest) =
      (Pictograph.expand? (rest.takeWhile Pictograph.inName)).getD
          (':' :: rest.takeWhile Pictograph.inName ++ [':']) ++
        Pictograph.replaceWithin bound after := by
  simp only [Pictograph.replaceWithin, Text.drop_length_takeWhile, h, if_true]

/-- Other characters are left alone. -/
theorem replaceWithin_cons {c : Char} {rest : List Char}
    (h : c = ':' → ∀ after, rest.dropWhile Pictograph.inName ≠ ':' :: after) (bound : Nat) :
    Pictograph.replaceWithin (bound + 1) (c :: rest) =
      c :: Pictograph.replaceWithin bound rest := by
  by_cases hc : c = ':'
  · have hno := h hc
    subst hc
    simp only [Pictograph.replaceWithin, Text.drop_length_takeWhile, if_true]
  · simp only [Pictograph.replaceWithin, if_neg hc]

/-- Names between colons are left alone or replaced by something without signs. -/
theorem replaceWithin_eq_or_lt (bound : Nat) (cs : List Char) :
    Pictograph.replaceWithin bound cs = cs ∨
      signs (Pictograph.replaceWithin bound cs) < signs cs := by
  induction bound generalizing cs with
  | zero => exact Or.inl rfl
  | succ bound ih =>
    cases cs with
    | nil => exact Or.inl rfl
    | cons c rest =>
      by_cases h : c = ':' → ∀ after, rest.dropWhile Pictograph.inName ≠ ':' :: after
      · rw [replaceWithin_cons h]
        exact (ih rest).imp (by simp) (by simp)
      · push Not at h
        obtain ⟨rfl, after, hafter⟩ := h
        have hrest : rest.takeWhile Pictograph.inName ++ ':' :: after = rest := by
          rw [← hafter, List.takeWhile_append_dropWhile]
        rw [replaceWithin_name hafter]
        -- A name between colons: if it is known, both colons go, and a pictograph has no signs.
        generalize rest.takeWhile Pictograph.inName = name at hrest
        subst hrest
        cases hexpand : Pictograph.expand? name with
        | none => exact (ih after).imp (by simp) (by simp)
        | some pictograph =>
          refine Or.inr ?_
          have hpictograph := signs_expand? hexpand
          have hle : signs (Pictograph.replaceWithin bound after) ≤ signs after :=
            (ih after).elim (fun heq => by rw [heq]) Nat.le_of_lt
          simp only [Option.getD_some, signs_append, signs_cons]
          have hcolon : (if isSign ':' = true then 1 else 0) = 1 := rfl
          omega

theorem tame_replace : Tame Pictograph.replace := fun cs => replaceWithin_eq_or_lt cs.length cs

theorem tame_dropControl : Tame fun cs => cs.filter fun c => !isControl c := by
  intro cs
  dsimp only
  induction cs with
  | nil => exact Or.inl rfl
  | cons c cs ih =>
    cases hc : isControl c with
    | false =>
      rw [List.filter_cons_of_pos (by simp [hc])]
      exact ih.imp (by simp) (by simp)
    | true =>
      have hsign : isSign c = true := by simp [isSign, hc]
      have hle : signs (cs.filter fun c => !isControl c) ≤ signs cs :=
        ih.elim (fun heq => by rw [heq]) Nat.le_of_lt
      rw [List.filter_cons_of_neg (by simp [hc]), signs_cons, hsign]
      exact Or.inr (Nat.lt_succ_of_le hle)

/-- Showing plain text is tame. -/
theorem tame_plainText : Tame plainText := (tame_unescape.comp tame_replace).comp tame_dropControl

/-- Plain text is shown as it is if no backslash in it stands before an opening bracket, no name of
a pictograph between colons, and no control character anywhere. -/
theorem plainText_eq_iff {cs : List Char} :
    plainText cs = cs ↔
      ¬['\\', '['] <:+: cs ∧ Pictograph.replace cs = cs ∧ ∀ c ∈ cs, isControl c = false := by
  rw [← unescape_eq_iff]
  refine ((tame_unescape.comp tame_replace).comp_eq_iff tame_dropControl cs).trans ?_
  rw [tame_unescape.comp_eq_iff tame_replace, and_assoc]
  simp [List.filter_eq_self]

/-! ### Tabs -/

/-- Parts that are joined have the signs of the parts and those between them. -/
theorem signs_joinFields (sep : Char) (parts : List (List Char)) :
    signs (Text.joinFields sep parts) =
      signs parts.flatten + if isSign sep then parts.length - 1 else 0 := by
  induction parts with
  | nil => simp [Text.joinFields]
  | cons part parts ih =>
    cases parts with
    | nil => simp [Text.joinFields]
    | cons next parts =>
      rw [Text.joinFields, signs_append, signs_cons, ih, List.flatten_cons, signs_append]
      split <;> simp
      omega

/-- The blanks that stand for tabs are no signs. -/
theorem signs_joinTabbed (column : Nat) (parts : List (List Char)) :
    signs (Screen.joinTabbed column parts) = signs parts.flatten := by
  induction parts generalizing column with
  | nil => rfl
  | cons part parts ih =>
    cases parts with
    | nil => simp [Screen.joinTabbed]
    | cons next parts =>
      have hblanks (n : Nat) : signs (List.replicate n ' ') = 0 := by
        simp [signs, List.countP_replicate, isSign, isControl]
      have hblank : isSign ' ' = false := rfl
      rw [Screen.joinTabbed]
      · rw [signs_append, signs_append, hblanks, ih, List.flatten_cons, signs_append, signs_append]
        simp [hblank]
      · simp

/-- Tabs are replaced. -/
theorem signs_expandTabs_lt {line : List Char} (h : '\t' ∈ line) :
    signs (Screen.expandTabs line) < signs line := by
  have hjoin := Text.joinFields_fields '\t' line
  have hparts := Text.not_mem_of_mem_fields '\t' line
  rw [Screen.expandTabs, signs_joinTabbed]
  generalize Text.fields '\t' line = parts at hjoin hparts
  subst hjoin
  rcases parts with _ | ⟨part, _ | ⟨next, parts⟩⟩
  · simp [Text.joinFields] at h
  · exact absurd h (hparts part (List.mem_singleton_self part))
  · have htab : isSign '\t' = true := rfl
    rw [signs_joinFields, htab, if_pos rfl]
    simp

theorem signs_expandTabs_le (line : List Char) : signs (Screen.expandTabs line) ≤ signs line := by
  by_cases h : '\t' ∈ line
  · exact Nat.le_of_lt (signs_expandTabs_lt h)
  · rw [Screen.expandTabs_of_not_mem h]

/-! ### Tags -/

/-- No tag starts anywhere in a text. -/
def TagFree (cs : List Char) : Prop := ∀ behind, behind <:+ cs → tag? behind = none

/-- A tag is made of brackets and what stands between them. -/
theorem eq_of_tag? {cs body after : List Char} (h : tag? cs = some (body, after)) :
    cs = '[' :: body ++ ']' :: after := by
  rw [tag?.eq_def] at h
  split at h
  · next c rest =>
    split at h
    · split at h
      · next after' hafter =>
        obtain ⟨rfl, rfl⟩ := Prod.mk.inj (Option.some.inj h)
        rw [← hafter]
        simp
      · cases h
    · cases h
  · cases h

/-- Only an opening bracket starts a tag. -/
theorem tag?_cons_of_ne {c : Char} (hc : c ≠ '[') (rest : List Char) : tag? (c :: rest) = none := by
  rw [tag?]
  intro d rest' h
  exact absurd (List.cons.inj h).1 hc

@[simp]
theorem tagFree_nil : TagFree [] := by
  intro behind h
  rw [List.suffix_nil.1 h]
  rfl

theorem tagFree_cons {c : Char} {rest : List Char} :
    TagFree (c :: rest) ↔ tag? (c :: rest) = none ∧ TagFree rest := by
  simp only [TagFree, List.suffix_cons_iff, forall_eq_or_imp]

/-- Backslashes do not make tags. -/
theorem tagFree_backslashes (n : Nat) (behind : List Char) :
    TagFree (List.replicate n '\\' ++ behind) ↔ TagFree behind := by
  induction n with
  | zero => rfl
  | succ n ih =>
    rw [List.replicate_succ, List.cons_append, tagFree_cons, ih]
    exact and_iff_right (tag?_cons_of_ne (by decide) _)

/-- Where a tag starts, backslashes before it or not, a text is not free of tags. -/
theorem not_tagFree {behind body after : List Char} (h : tag? behind = some (body, after))
    (n : Nat) : ¬TagFree (List.replicate n '\\' ++ behind) := by
  rw [tagFree_backslashes]
  intro hfree
  rw [hfree behind (List.suffix_refl _)] at h
  cases h

/-- Backslashes at the front of a text are split off. -/
theorem takeBackslashes_eq {cs behind : List Char} {n : Nat}
    (h : takeBackslashes cs = (n, behind)) : cs = List.replicate n '\\' ++ behind := by
  obtain ⟨rfl, rfl⟩ := Prod.mk.inj h
  have hall : cs.takeWhile (· == '\\') =
      List.replicate (cs.takeWhile (· == '\\')).length '\\' :=
    List.eq_replicate_iff.2 ⟨rfl, fun c hc => by
      simpa using List.all_eq_true.1 List.all_takeWhile c hc⟩
  rw [← hall, List.takeWhile_append_dropWhile]

/-- The text of a piece; a tag has none. -/
def Piece.plain : Piece → List Char
  | .text cs => cs
  | .tag _ _ => []

/-- The texts of pieces, put together as they are. -/
def plainOf (ps : List Piece) : List Char := ps.flatMap Piece.plain

@[simp]
theorem plainOf_append (ps ps' : List Piece) : plainOf (ps ++ ps') = plainOf ps ++ plainOf ps' :=
  List.flatMap_append

@[simp]
theorem plainOf_text (cs : List Char) : plainOf [.text cs] = cs := List.append_nil cs

@[simp]
theorem plainOf_tag (position : Nat) (body : List Char) : plainOf [.tag position body] = [] := rfl

@[simp]
theorem plainOf_flush (pending : List Char) : plainOf (flush pending) = pending.reverse := by
  rw [flush]
  split
  · next h => rw [h, List.reverse_nil, plainOf, List.flatMap_nil]
  · exact plainOf_text _

/-- A tag is taken out of the text, or else a backslash before it. -/
theorem signs_taggedPieces_lt (position backslashes : Nat) (body : List Char) :
    signs (plainOf (taggedPieces position backslashes body)) <
      signs (List.replicate backslashes '\\' ++ '[' :: body ++ [']']) := by
  have hbackslashes (n : Nat) : signs (List.replicate n '\\') = n := by
    simp [signs, List.countP_replicate, isSign]
  have hbracket : isSign '[' = true := rfl
  have hshown : plainOf (if backslashes < 2 then []
      else [Piece.text (List.replicate (backslashes / 2) '\\')]) =
        List.replicate (backslashes / 2) '\\' := by
    split
    · next h =>
      rw [Nat.div_eq_of_lt h]
      rfl
    · exact plainOf_text _
  rw [taggedPieces]
  split
  · rw [plainOf_append, hshown, plainOf_text]
    simp only [signs_append, signs_cons, hbackslashes, hbracket, if_true]
    omega
  · rw [plainOf_append, hshown, plainOf_tag]
    simp only [signs_append, signs_cons, signs_nil, hbackslashes, hbracket, if_true]
    omega

/-- Signs are taken away at a tag, if none come in by the pieces of what follows it. -/
theorem signs_tagged_lt {position backslashes : Nat} {pending behind body after : List Char}
    {rest : List Piece} (htag : tag? behind = some (body, after))
    (hrest : signs (plainOf rest) ≤ signs after) :
    signs (plainOf (flush pending ++ taggedPieces position backslashes body ++ rest)) <
      signs pending + signs (List.replicate backslashes '\\' ++ behind) := by
  have hpieces := signs_taggedPieces_lt position backslashes body
  rw [eq_of_tag? htag]
  simp only [plainOf_append, plainOf_flush, signs_append, signs_reverse, signs_cons,
    signs_nil] at hpieces ⊢
  omega

/-- A text without tags is one piece; from other texts signs are taken away. -/
theorem scan_eq_or_lt (bound position : Nat) (pending cs : List Char)
    (hbound : cs.length ≤ bound) :
    TagFree cs ∧ scan bound position pending cs = flush (cs.reverse ++ pending) ∨
      ¬TagFree cs ∧
        signs (plainOf (scan bound position pending cs)) < signs pending + signs cs := by
  induction bound generalizing position pending cs with
  | zero =>
    obtain rfl := List.length_eq_zero_iff.1 (Nat.le_zero.1 hbound)
    exact Or.inl ⟨tagFree_nil, rfl⟩
  | succ bound ih =>
    cases cs with
    | nil => exact Or.inl ⟨tagFree_nil, rfl⟩
    | cons c rest =>
      rw [scan]
      generalize htake : takeBackslashes (c :: rest) = taken
      obtain ⟨backslashes, behind⟩ := taken
      have heq := takeBackslashes_eq htake
      have hlength := congrArg List.length heq
      simp only [List.length_cons, List.length_append, List.length_replicate] at hlength hbound
      dsimp only
      split
      · next body after htag =>
        -- There is a tag here, whatever comes behind it.
        refine Or.inr ⟨?_, ?_⟩
        · rw [heq]
          exact not_tagFree htag _
        · have hbehind := congrArg List.length (eq_of_tag? htag)
          simp only [List.length_append, List.length_cons] at hbehind
          rw [heq]
          refine signs_tagged_lt htag ?_
          rcases ih (position + backslashes + body.length + 2) [] after (by omega) with
            ⟨-, hscan⟩ | ⟨-, hlt⟩
          · simp [hscan]
          · simpa using Nat.le_of_lt hlt
      · next htag =>
        -- There is no tag here, so a character or the backslashes before it become pending.
        split
        · next hzero =>
          subst hzero
          have hfree : TagFree (c :: rest) ↔ TagFree rest := by
            rw [tagFree_cons]
            refine and_iff_right ?_
            rwa [heq]
          have hnext := ih (position + 1) (c :: pending) rest (Nat.le_of_succ_le_succ hbound)
          rw [hfree]
          simpa [Nat.add_assoc, Nat.add_comm, Nat.add_left_comm] using hnext
        · next hsome =>
          have hfree : TagFree (c :: rest) ↔ TagFree behind := by
            rw [heq, tagFree_backslashes]
          have hnext := ih (position + backslashes) (List.replicate backslashes '\\' ++ pending)
            behind (by omega)
          rw [hfree, heq]
          simpa [Nat.add_assoc, Nat.add_comm, Nat.add_left_comm] using hnext

end Markup

end IndexSync.Cli
