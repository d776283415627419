import IndexSync.Config.File
import IndexSync.Proofs.Documents.RoundTrip

/-!
# The bytes of documents

A document that is written by lines consists of printable ASCII characters and line feeds, whatever
texts it holds. Such characters are one byte each, and a file of them is read as the text that was
written: nothing is lost in the encoding, and no end of a line is changed.

* `Json.plain_write` — a document by lines is plain;
* `Config.decodeFile_encode` — a plain text is read from the file it was written to.
-/

namespace IndexSync

namespace Json

/-- A printable ASCII character or a line feed. -/
def isPlain (c : Char) : Bool := c == '\n' || (decide (0x20 ≤ c.toNat) && decide (c.toNat < 0x7f))

/-- A text of printable ASCII characters and line feeds. -/
def Plain (cs : List Char) : Prop := ∀ c ∈ cs, isPlain c = true

theorem Plain.append {cs ds : List Char} (hcs : Plain cs) (hds : Plain ds) : Plain (cs ++ ds) :=
  fun c hc => (List.mem_append.1 hc).elim (hcs c) (hds c)

theorem Plain.cons {c : Char} {cs : List Char} (hc : isPlain c = true) (hcs : Plain cs) :
    Plain (c :: cs) := List.forall_mem_cons.2 ⟨hc, hcs⟩

theorem plain_replicate {c : Char} (hc : isPlain c = true) (n : Nat) : Plain (List.replicate n c) :=
  fun _ hmem => (List.eq_of_mem_replicate hmem).symm ▸ hc

theorem Numeral.plain {cs : List Char} (h : Numeral cs) : Plain cs := by
  intro c hc
  have hnumeral := h c hc
  simp only [isNumeral, isDigit, Bool.or_eq_true, Bool.and_eq_true, decide_eq_true_eq,
    beq_iff_eq] at hnumeral
  rcases hnumeral with ((((⟨hlow, hhigh⟩ | rfl) | rfl) | rfl) | rfl) | rfl
  · have hlow' : 0x30 ≤ c.toNat := hlow
    have hhigh' : c.toNat ≤ 0x39 := hhigh
    simp only [isPlain, Bool.or_eq_true, Bool.and_eq_true, decide_eq_true_eq]
    omega
  all_goals rfl

theorem plain_hexDigits (width n : Nat) : Plain (Text.hexDigits width n) := by
  refine (plain_replicate rfl _).append fun c hc => ?_
  obtain ⟨d, hd, rfl⟩ := Text.exists_digitChar (by decide) hc
  have hall : ∀ d < 16, isPlain (Nat.digitChar d) = true := by decide
  exact hall d hd

theorem plain_unitEscape (n : Nat) : Plain (unitEscape n) :=
  .cons rfl (.cons rfl (plain_hexDigits 4 n))

/-- An escaped character is plain. -/
theorem Escaped.toPlain {c : Char} {written : List Char} (h : Escaped c written) :
    Plain written := by
  cases h with
  | @short e he hc =>
    refine .cons rfl (.cons ?_ nofun)
    unfold unescape? at hc
    split at hc <;> first | rfl | cases hc
  | plain hquote hback hlow hhigh =>
    refine .cons ?_ nofun
    simp only [isPlain, Bool.or_eq_true, Bool.and_eq_true, decide_eq_true_eq]
    exact .inr ⟨hlow, hhigh⟩
  | unit h => exact plain_unitEscape _
  | pair => exact (plain_unitEscape _).append (plain_unitEscape _)

theorem plain_writeText (s : String) : Plain (writeText s) := by
  refine .append (.cons rfl fun c hc => ?_) (.cons rfl nofun)
  obtain ⟨c', -, hc⟩ := List.mem_flatMap.1 hc
  exact (escaped_escapeChar c').toPlain c hc

theorem plain_lineBreak (d : Nat) : Plain (lineBreak d) := .cons rfl (plain_replicate rfl _)

/-- Items after the first one are plain if each of them is. -/
theorem plain_writeItems {d : Nat} {items : List Value}
    (h : ∀ v ∈ items, Plain (write .indented (d + 1) v)) :
    Plain (writeItems .indented d items) := by
  induction items with
  | nil => exact nofun
  | cons item items ih =>
    obtain ⟨hitem, hitems⟩ := List.forall_mem_cons.1 h
    rw [writeItems]
    exact ((Plain.cons rfl (plain_lineBreak _)).append hitem).append (ih hitems)

/-- Members after the first one are plain if each of their values is. -/
theorem plain_writeEntries {d : Nat} {members : Options}
    (h : ∀ m ∈ members, Plain (write .indented (d + 1) m.2)) :
    Plain (writeEntries .indented d (entriesOf members)) := by
  induction members with
  | nil => exact nofun
  | cons m members ih =>
    obtain ⟨hm, hmembers⟩ := List.forall_mem_cons.1 h
    rw [entriesOf, List.map_cons, writeEntries]
    exact (((Plain.cons rfl (plain_lineBreak _)).append (plain_writeText _)).append
      (.cons rfl (.cons rfl hm))).append (ih hmembers)

/-- A document by lines is plain. -/
theorem plain_write {depth : Nat} {v : Value} (h : Writable depth v) (d : Nat) :
    Plain (write .indented d v) := by
  induction h generalizing d with
  | null => exact show Plain ['n', 'u', 'l', 'l'] by simp [Plain, isPlain]
  | bool b =>
    cases b with
    | false => exact show Plain ['f', 'a', 'l', 's', 'e'] by simp [Plain, isPlain]
    | true => exact show Plain ['t', 'r', 'u', 'e'] by simp [Plain, isPlain]
  | @int _ n => exact (numeral_integer n).plain
  | float h => exact (numeral_render h.finite).plain
  | str s => exact plain_writeText s
  -- Brackets, commas and line breaks are plain, and so are the items, by induction.
  | @list _ items _ ih =>
    cases items with
    | nil => exact .cons rfl (.cons rfl nofun)
    | cons item items =>
      obtain ⟨hitem, hitems⟩ := List.forall_mem_cons.1 ih
      rw [write]
      exact ((((Plain.cons rfl (plain_lineBreak _)).append (hitem _)).append
        (plain_writeItems fun v hv => hitems v hv _)).append (plain_lineBreak _)).append
        (.cons rfl nofun)
  | @map _ members _ _ ih =>
    cases members with
    | nil => exact .cons rfl (.cons rfl nofun)
    | cons m members =>
      obtain ⟨hm, hmembers⟩ := List.forall_mem_cons.1 ih
      rw [Value.ofOptions, List.map_cons, write]
      exact (((((Plain.cons rfl (plain_lineBreak _)).append (plain_writeText _)).append
        (.cons rfl (.cons rfl (hm _)))).append
        (plain_writeEntries fun m' hm' => hmembers m' hm' _)).append (plain_lineBreak _)).append
        (.cons rfl nofun)

end Json

open Json (Plain)

namespace Text.Utf8

/-- A plain text is decoded from its bytes. -/
theorem decodeFrom_plain {cs : List Char} (h : Plain cs) (pos : Nat) :
    decodeFrom pos (cs.flatMap encodeChar) = .ok cs := by
  induction cs generalizing pos with
  | nil => rw [List.flatMap_nil, decodeFrom]
  | cons c cs ih =>
    obtain ⟨hc, hcs⟩ := List.forall_mem_cons.1 h
    -- Plain characters are below the first code that takes more than one byte.
    have hsmall : c.toNat < 0x80 := by
      simp only [Json.isPlain, Bool.or_eq_true, Bool.and_eq_true, decide_eq_true_eq,
        beq_iff_eq] at hc
      rcases hc with rfl | hc
      · decide
      · omega
    have hbyte : c.toNat.toUInt8.toNat = c.toNat := by
      simp only [Nat.toUInt8, UInt8.toNat_ofNat']
      omega
    have hlead : lead? c.toNat.toUInt8 = some (c.toNat, []) := by
      rw [lead?, hbyte]
      simp only [hsmall, ↓reduceIte]
    rw [List.flatMap_cons, encodeChar]
    simp only [hsmall, ↓reduceIte, List.cons_append, List.nil_append]
    rw [decodeFrom]
    simp only [hlead, continuation, List.length_nil, ih hcs, Char.ofNat_toNat]

end Text.Utf8

namespace Config

/-- A plain text has no end of a line that is changed. -/
theorem unifyLines_plain {cs : List Char} (h : Plain cs) : unifyLines cs = cs := by
  induction cs with
  | nil => rfl
  | cons c cs ih =>
    obtain ⟨hc, hcs⟩ := List.forall_mem_cons.1 h
    have hreturn : c ≠ '\r' := by
      rintro rfl
      cases hc
    rw [unifyLines.eq_3 _ _ (fun _ heq _ => hreturn heq) hreturn, ih hcs]

/-- A plain text is read from the file it was written to. -/
theorem decodeFile_encode {s : String} (h : Plain s.toList) :
    decodeFile (Text.Utf8.encode s) = .ok s := by
  rw [decodeFile, Text.Utf8.decode, Text.Utf8.encode, Text.Utf8.decodeFrom_plain h]
  simp [Except.map, unifyLines_plain h]

end Config

end IndexSync
