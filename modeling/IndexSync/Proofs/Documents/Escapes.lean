import IndexSync.Json.Printer
import IndexSync.Json.Reader
import IndexSync.Proofs.Digits
import Mathlib.Tactic.SplitIfs

/-!
# Escaped texts

A document holds a text as escaped ASCII characters between quotes. The reader gives the text back,
whatever characters it has: a character is written as itself, as a short escape, as one code unit,
or as a pair of code units that are read as one.

* `Json.Yields` — a reader returns something and stops before given characters;
* `Json.Escaped` — the ways in which a character is written;
* `Json.readText_writeText` — a text is read back.
-/

namespace IndexSync

namespace Text

/-- The last hexadecimal digit of a number that is written in at least two digits. -/
theorem hexDigits_succ {width n : Nat} (hwidth : 0 < width) :
    hexDigits (width + 1) n = hexDigits width (n / 16) ++ [Nat.digitChar (n % 16)] := by
  simp only [hexDigits]
  rw [Nat.toDigits_eq_if (b := 16) (n := n) (by decide)]
  split
  · next h =>
    rw [Nat.div_eq_of_lt h, Nat.mod_eq_of_lt h, Nat.toDigits_zero, List.length_singleton,
      List.length_singleton, Nat.add_sub_cancel, show ['0'] = List.replicate 1 '0' from rfl,
      List.replicate_append_replicate, Nat.sub_add_cancel hwidth]
  · rw [List.length_append, List.length_singleton, Nat.add_sub_add_right, List.append_assoc]

/-- A code unit in hexadecimal digits. -/
theorem hexDigits_four {n : Nat} (h : n < 0x10000) :
    hexDigits 4 n = [Nat.digitChar (n / 16 / 16 / 16), Nat.digitChar (n / 16 / 16 % 16),
      Nat.digitChar (n / 16 % 16), Nat.digitChar (n % 16)] := by
  have hone : hexDigits 1 (n / 16 / 16 / 16) = [Nat.digitChar (n / 16 / 16 / 16)] := by
    simp [hexDigits, Nat.toDigits_of_lt_base (show n / 16 / 16 / 16 < 16 by omega)]
  rw [hexDigits_succ (by decide), hexDigits_succ (by decide), hexDigits_succ (by decide), hone]
  rfl

/-- A text has no code points that need a replacement. -/
theorem CodePoints.lossy_codePoints (s : String) : CodePoints.lossy (codePoints s) = s := by
  have hchars : (codePoints s).map CodePoints.charOf = s.toList := by
    rw [codePoints, List.map_map, List.map_congr_left (g := id), List.map_id]
    exact fun c _ => by simp [CodePoints.charOf, isHalf_toNat]
  rw [CodePoints.lossy, hchars, String.ofList_toList]

/-- The code points of a text are those of no other sequence. -/
theorem CodePoints.text?_codePoints (s : String) : CodePoints.text? (codePoints s) = some s := by
  have hwhole : (codePoints s).any isHalf = false := by simp [codePoints, isHalf_toNat]
  rw [CodePoints.text?, hwhole, if_neg Bool.false_ne_true, lossy_codePoints]

end Text

/-- The value of the code points of a text is the text. -/
theorem Value.ofCodePoints_codePoints (s : String) : ofCodePoints (Text.codePoints s) = .str s := by
  rw [ofCodePoints, Text.CodePoints.text?_codePoints]

namespace Json

/-- A reader returns `a` and stops before the characters `rest`. -/
def Yields {α : Type} (r : Read α) (a : α) (rest : List Char) : Prop :=
  ∃ index, r = .ok (a, ⟨index, rest⟩)

/-- The characters from a place on are read as the code points `codes` up to a closing quote, with
`rest` behind it. Where in the document the place is does not matter. -/
def TextAt (start : Nat) (cs : List Char) (codes : Text.CodePoints) (rest : List Char) : Prop :=
  ∀ index, Yields (readChars start index cs) codes rest

variable {start : Nat} {cs rest : List Char} {codes : Text.CodePoints}

/-- The closing quote ends a text. -/
theorem textAt_quote : TextAt start ('"' :: rest) [] rest := by
  intro index
  rw [readChars.eq_def]
  exact ⟨_, rfl⟩

/-- A character that needs no escape stands for itself. -/
theorem TextAt.plain (h : TextAt start cs codes rest) {c : Char} (hquote : c ≠ '"')
    (hback : c ≠ '\\') (hcontrol : 0x20 ≤ c.toNat) :
    TextAt start (c :: cs) (c.toNat :: codes) rest := by
  intro index
  obtain ⟨stop, hrest⟩ := h (index + 1)
  rw [readChars.eq_def]
  simp only [if_neg hquote, if_neg hback, if_neg (Nat.not_lt.2 hcontrol), hrest]
  exact ⟨stop, rfl⟩

/-- A backslash and a letter stand for a character. -/
theorem TextAt.short (h : TextAt start cs codes rest) {e c : Char} (he : e ≠ 'u')
    (hc : unescape? e = some c) : TextAt start ('\\' :: e :: cs) (c.toNat :: codes) rest := by
  intro index
  obtain ⟨stop, hrest⟩ := h (index + 2)
  rw [readChars, if_neg (by decide), if_pos rfl]
  simp only [if_neg he, hc, hrest]
  exact ⟨stop, rfl⟩

/-- What follows a backslash and the letter u is read as a code point of a number of characters. -/
theorem TextAt.point {code : Nat} (unit : List Char) (h : TextAt start cs codes rest)
    (hcode : ∀ index, readCodePoint index (unit ++ cs) = .ok (code, unit.length)) :
    TextAt start ('\\' :: 'u' :: unit ++ cs) (code :: codes) rest := by
  intro index
  obtain ⟨stop, hrest⟩ := h (index + 2 + unit.length)
  rw [List.cons_append, List.cons_append, readChars, if_neg (by decide), if_pos rfl]
  simp only [if_pos, hcode, List.drop_left, hrest]
  exact ⟨stop, rfl⟩

/-- A hexadecimal digit has its value. -/
theorem hexValue?_digitChar {d : Nat} (h : d < 16) : hexValue? (Nat.digitChar d) = some d := by
  have hall : ∀ d < 16, hexValue? (Nat.digitChar d) = some d := by decide
  exact hall d h

/-- A code unit is read back. -/
theorem hex4?_hexDigits {n : Nat} (h : n < 0x10000) (cs : List Char) :
    hex4? (Text.hexDigits 4 n ++ cs) = some n := by
  rw [Text.hexDigits_four h]
  simp only [List.cons_append, hex4?, hexValue?_digitChar (show n / 16 / 16 / 16 < 16 by omega),
    hexValue?_digitChar (show n / 16 / 16 % 16 < 16 by omega),
    hexValue?_digitChar (show n / 16 % 16 < 16 by omega),
    hexValue?_digitChar (show n % 16 < 16 by omega), Option.bind_eq_bind, Option.bind_some,
    Option.pure_def, Option.some.injEq]
  omega

theorem length_hexDigits_four {n : Nat} (h : n < 0x10000) : (Text.hexDigits 4 n).length = 4 := by
  rw [Text.hexDigits_four h]
  rfl

/-- A code unit that starts no pair is a code point by itself. -/
theorem readCodePoint_unit {n : Nat} (h : n < 0x10000) (hhigh : isHighUnit n = false)
    (hcs : cs ≠ [])
    (index : Nat) :
    readCodePoint index (Text.hexDigits 4 n ++ cs) = .ok (n, (Text.hexDigits 4 n).length) := by
  have hdrop : (Text.hexDigits 4 n ++ cs).drop 4 = cs :=
    List.drop_left' (length_hexDigits_four h)
  have hmore : cs.isEmpty = false := by simpa using hcs
  rw [readCodePoint, hdrop, hmore, if_neg Bool.false_ne_true, hex4?_hexDigits h]
  simp [hhigh, length_hexDigits_four h]

/-- A pair of code units is one code point. -/
theorem readCodePoint_pair {hi lo : Nat} (hhi : isHighUnit hi = true) (hlo : isLowUnit lo = true)
    (hcs : cs ≠ []) (index : Nat) :
    readCodePoint index (Text.hexDigits 4 hi ++ unitEscape lo ++ cs) =
      .ok (0x10000 + (hi - 0xd800) * 0x400 + (lo - 0xdc00),
        (Text.hexDigits 4 hi ++ unitEscape lo).length) := by
  have hhi' : hi < 0x10000 := by
    simp only [isHighUnit, Bool.and_eq_true, decide_eq_true_eq] at hhi
    omega
  have hlo' : lo < 0x10000 := by
    simp only [isLowUnit, Bool.and_eq_true, decide_eq_true_eq] at hlo
    omega
  have hlength : (Text.hexDigits 4 hi ++ unitEscape lo).length = 10 := by
    simp [unitEscape, length_hexDigits_four hhi', length_hexDigits_four hlo']
  have hdrop : (Text.hexDigits 4 hi ++ unitEscape lo ++ cs).drop 4 = unitEscape lo ++ cs := by
    rw [List.append_assoc]
    exact List.drop_left' (length_hexDigits_four hhi')
  have hmore : ((Text.hexDigits 4 hi ++ unitEscape lo ++ cs).drop 10).isEmpty = false := by
    rw [List.drop_left' hlength]
    simpa using hcs
  have hhex : hex4? (Text.hexDigits 4 hi ++ unitEscape lo ++ cs) = some hi := by
    rw [List.append_assoc, hex4?_hexDigits hhi']
  rw [readCodePoint, hmore, hdrop, hhex, hlength]
  simp [unitEscape, hhi, hlo, hex4?_hexDigits hlo']

/-- How a character is written: by a short escape, as itself, or by one or two code units. -/
inductive Escaped (c : Char) : List Char → Prop where
  | short {e : Char} (he : e ≠ 'u') (hc : unescape? e = some c) : Escaped c ['\\', e]
  | plain (hquote : c ≠ '"') (hback : c ≠ '\\') (hlow : 0x20 ≤ c.toNat) (hhigh : c.toNat < 0x7f) :
    Escaped c [c]
  | unit (h : c.toNat < 0x10000) : Escaped c (unitEscape c.toNat)
  | pair {hi lo : Nat} (hhi : isHighUnit hi = true) (hlo : isLowUnit lo = true)
    (hcode : 0x10000 + (hi - 0xd800) * 0x400 + (lo - 0xdc00) = c.toNat) :
    Escaped c (unitEscape hi ++ unitEscape lo)

theorem escaped_escapeChar (c : Char) : Escaped c (escapeChar c) := by
  have hvalid : c.toNat.isValidChar := c.valid
  simp only [Nat.isValidChar] at hvalid
  unfold escapeChar
  split_ifs with h₁ h₂ h₃ h₄ h₅ h₆ h₇ hplain hsmall
  · exact .short (by decide) (by rw [h₁]; rfl)
  · exact .short (by decide) (by rw [h₂]; rfl)
  · exact .short (by decide) (by rw [h₃]; rfl)
  · exact .short (by decide) (by rw [h₄]; rfl)
  · exact .short (by decide) (by rw [h₅]; rfl)
  · exact .short (by decide) (by rw [h₆]; rfl)
  · exact .short (by decide) (by rw [h₇]; rfl)
  · exact .plain h₁ h₂ hplain.1 hplain.2
  · exact .unit hsmall
  · -- The two units of a pair carry the upper and the lower ten bits.
    refine .pair ?_ ?_ ?_
    · simp only [isHighUnit, Bool.and_eq_true, decide_eq_true_eq]
      omega
    · simp only [isLowUnit, Bool.and_eq_true, decide_eq_true_eq]
      omega
    · omega

/-- An escaped character is read back. Something follows it, at least the closing quote. -/
theorem TextAt.escaped (h : TextAt start cs codes rest) (hcs : cs ≠ []) {c : Char}
    {written : List Char} (hc : Escaped c written) :
    TextAt start (written ++ cs) (c.toNat :: codes) rest := by
  cases hc with
  | short he hc => exact h.short he hc
  | plain hquote hback hlow => exact h.plain hquote hback hlow
  | unit hsmall =>
    have hvalid : c.toNat.isValidChar := c.valid
    have hhigh : isHighUnit c.toNat = false := by
      simp only [Nat.isValidChar] at hvalid
      simp only [isHighUnit, Bool.and_eq_false_iff, decide_eq_false_iff_not]
      omega
    exact h.point _ (readCodePoint_unit hsmall hhigh hcs)
  | pair hhi hlo hcode => exact h.point _ fun index => hcode ▸ readCodePoint_pair hhi hlo hcs index

/-- Escaped characters up to a closing quote are read back. -/
theorem textAt_escaped (start : Nat) (cs rest : List Char) :
    TextAt start (cs.flatMap escapeChar ++ '"' :: rest) (cs.map Char.toNat) rest := by
  induction cs with
  | nil => exact textAt_quote
  | cons c cs ih =>
    rw [List.flatMap_cons, List.append_assoc, List.map_cons]
    exact ih.escaped (by simp) (escaped_escapeChar c)

/-- A text is read back. -/
theorem readText_writeText (s : String) (index : Nat) (rest : List Char) :
    Yields (readText ⟨index, writeText s ++ rest⟩) (.str s) rest := by
  have hcs : (writeText s ++ rest).drop 1 = s.toList.flatMap escapeChar ++ '"' :: rest := by
    simp [writeText]
  obtain ⟨stop, htext⟩ := textAt_escaped index s.toList rest (index + 1)
  rw [readText, hcs, htext]
  exact ⟨stop, by rw [← Value.ofCodePoints_codePoints]; rfl⟩

end Json

end IndexSync
