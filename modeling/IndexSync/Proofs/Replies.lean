import IndexSync.Proofs.Documents.Numerals
import IndexSync.Rpc.Response

/-!
# Replies and their copies

A reply that comes over a connection is copied before the connection is closed. In the copy every
key of a mapping is replaced by its text, so that different keys may come to share an entry. The
module shows that nothing of the sort happens to a word that the program looks up.

* `Value.Built` — the values that a service can reply with;
* `Value.eq_str_of_textKey_eq` — no key but a word itself has the word as its text;
* `Value.get?_plainEntries` — what a copy has at a text that no two keys share is the copy of what
  the mapping has there;
* `Value.lookup?_plain` — the same at a word;
* `Value.truthy_plain` — a copy counts as true if the value does;
* `Response.Affirms` — when a reply says that all is well;
* `Response.ok_ofValue_plain` — its copy is taken for a success just in that case.
-/

namespace IndexSync

open Decimal (Double Layout)

namespace Value

/-- A value is made of mappings, sequences and scalars. -/
inductive Built : Value → Prop where
  | null : Built .null
  | bool (b : Bool) : Built (.bool b)
  | int (n : Int) : Built (.int n)
  | float (x : Double) : Built (.float x)
  | str (s : String) : Built (.str s)
  /-- A text that is not made of characters alone. -/
  | unpaired {codes : Text.CodePoints} :
      (∃ n ∈ codes, Text.isHalf n = true) → Built (.unpaired codes)
  | list {items : List Value} : (∀ v ∈ items, Built v) → Built (.list items)
  | tuple {items : List Value} : (∀ v ∈ items, Built v) → Built (.tuple items)
  /-- A mapping has no key twice. -/
  | map {entries : Entries} : (∀ e ∈ entries, Built e.1) → (∀ e ∈ entries, Built e.2) →
      entries.Pairwise (fun e e' => e.1.sameKey e'.1 = false) → Built (.map entries)

/-- A text, be it one with unpaired surrogates. -/
def isString : Value → Bool
  | .str _ => true
  | .unpaired _ => true
  | _ => false

/-! ### Words -/

/-- A character of a word. -/
def inWord (c : Char) : Bool := c.isLower || c == '_'

/-- A text of small letters and underscores that is not the text of a number. -/
def IsWord (text : String) : Prop :=
  text.toList.all inWord = true ∧ text.toList.all Json.isNumeral = false ∧
    text ≠ "inf" ∧ text ≠ "nan"

instance (text : String) : Decidable (IsWord text) := inferInstanceAs (Decidable (_ ∧ _))

section Words

variable {text : String}

/-- A word has no characters but small letters and underscores. -/
theorem IsWord.not_mem (h : IsWord text) {c : Char} (hc : inWord c = false) :
    c ∉ text.toList := fun hmem => absurd (List.all_eq_true.1 h.1 c hmem) (by simp [hc])

/-- A word has a character that is in no number. -/
theorem IsWord.not_numeral (h : IsWord text) : ¬Json.Numeral text.toList := by
  intro hnumeral
  have hall : text.toList.all Json.isNumeral = true := List.all_eq_true.2 hnumeral
  rw [h.2.1] at hall
  cases hall

/-- Finite numbers have the same text in messages and in documents. -/
theorem render_message_finite (negative : Bool) (m : Nat) (e : Int) :
    Layout.message.render (.finite negative m e) =
      Layout.document.render (.finite negative m e) := by
  simp only [Layout.render, Layout.message, Layout.document]
  rfl

/-- The text of a number is no word. -/
theorem not_isWord_render (x : Double) : ¬IsWord (Layout.message.render x) := by
  intro h
  match x with
  | .nan => exact h.2.2.2 rfl
  | .infinite true => exact absurd h (by decide)
  | .infinite false => exact h.2.2.1 rfl
  | .finite negative m e =>
    rw [render_message_finite] at h
    exact h.not_numeral (Json.numeral_render ⟨negative, m, e, rfl⟩)

/-- The text of a value that is no text itself is no word. -/
theorem not_isWord_literal {v : Value} (hstring : v.isString = false) (hpath : ∀ p, v ≠ .path p) :
    ¬IsWord v.literal := by
  intro h
  cases v with
  | null => exact absurd h (by decide)
  | bool b => cases b <;> exact absurd h (by decide)
  | int n => exact h.not_numeral (Json.numeral_integer n)
  | float x => exact not_isWord_render x h
  | str s => cases hstring
  | unpaired codes => cases hstring
  | path p => exact hpath p rfl
  | list items => exact h.not_mem (c := '[') rfl (by simp [literal])
  | map entries => exact h.not_mem (c := '\x7b') rfl (by simp [literal])
  | tuple items =>
    refine h.not_mem (c := '(') rfl ?_
    match items with
    | [] => simp [literal]
    | [item] => simp [literal]
    | first :: second :: items => simp [literal]

/-- No value but a word itself has the word as its text. -/
theorem eq_str_of_textKey_eq {v : Value} (hv : v.Built) (hword : IsWord text)
    (h : v.textKey = .str text) : v = .str text := by
  cases hv with
  | str s => exact h
  | unpaired _ => cases h
  | _ =>
    obtain rfl := Value.str.inj h
    exact absurd hword (not_isWord_literal rfl (by simp))

end Words

/-! ### Copies -/

/-- The value that a mapping has at a key. -/
def get? (entries : Entries) (key : Value) : Option Value :=
  (entries.find? fun e => e.1.sameKey key).map Prod.snd

section Copies

variable {entries : Entries} {key : Value}

/-- Only a text is the same key as a text. -/
theorem sameKey_iff (hkey : key.isString = true) {k : Value} : k.sameKey key = true ↔ k = key := by
  cases key with
  | str s => cases k <;> simp [sameKey, asInteger?]
  | unpaired codes => cases k <;> simp [sameKey, asInteger?]
  | _ => cases hkey

theorem sameKey_eq_false_iff (hkey : key.isString = true) {k : Value} :
    k.sameKey key = false ↔ k ≠ key := by
  rw [← Bool.not_eq_true, sameKey_iff hkey]

@[simp]
theorem isString_textKey (v : Value) : v.textKey.isString = true := by cases v <;> rfl

/-- A text stands for itself. -/
theorem textKey_of_isString {v : Value} (h : v.isString = true) : v.textKey = v := by
  cases v with
  | str s => rfl
  | unpaired codes => rfl
  | _ => cases h

theorem get?_cons (k v : Value) :
    get? ((k, v) :: entries) key = if k.sameKey key then some v else get? entries key := by
  unfold get?
  rw [List.find?_cons]
  split <;> simp_all

/-- No entry has the key. -/
theorem get?_eq_none (h : ∀ e ∈ entries, e.1.sameKey key = false) : get? entries key = none := by
  rw [get?, List.find?_eq_none.2 fun e he => by simp [h e he], Option.map_none]

/-- What a mapping has at a text. -/
theorem lookup?_eq_get? (text : String) : lookup? entries text = get? entries (.str text) := by
  induction entries with
  | nil => rfl
  | cons e entries ih =>
    obtain ⟨k, v⟩ := e
    rw [get?_cons, ← ih]
    cases k <;> simp [lookup?, sameKey, asInteger?]

/-- Setting a text key changes no other. -/
theorem get?_insert {other : Value} (hother : other.isString = true) (hkey : key.isString = true)
    (entries : Entries) (v : Value) :
    get? (insert entries other v) key =
      if other.sameKey key then some v else get? entries key := by
  induction entries with
  | nil => exact get?_cons other v
  | cons e entries ih =>
    obtain ⟨k, w⟩ := e
    rw [insert]
    split
    · next hsame =>
      obtain rfl := (sameKey_iff hother).1 hsame
      rw [get?_cons, get?_cons]
      split <;> rfl
    · next hdiffer =>
      rw [sameKey_iff hother] at hdiffer
      rw [get?_cons, get?_cons, ih]
      by_cases hk : k.sameKey key = true
      · obtain rfl := (sameKey_iff hkey).1 hk
        rw [if_pos hk, if_neg (mt (sameKey_iff hkey).1 (Ne.symm hdiffer)), if_pos hk]
      · rw [if_neg hk, if_neg hk]

/-- What a copy has at a text is the copy of what the mapping has there, if no other key has the
text. -/
theorem get?_plainEntries (hkey : key.isString = true)
    (hkeys : ∀ e ∈ entries, e.1.textKey = key → e.1 = key)
    (hdistinct : entries.Pairwise fun e e' => e.1.sameKey e'.1 = false) (done : Entries) :
    get? (plainEntries done entries) key =
      ((get? entries key).map plain).or (get? done key) := by
  induction entries generalizing done with
  | nil => rfl
  | cons e entries ih =>
    obtain ⟨k, v⟩ := e
    obtain ⟨hfirst, hkeys⟩ := List.forall_mem_cons.1 hkeys
    obtain ⟨hother, hdistinct⟩ := List.pairwise_cons.1 hdistinct
    rw [plainEntries, ih hkeys hdistinct, get?_insert (isString_textKey k) hkey, get?_cons]
    by_cases htext : k.textKey = key
    · -- No later entry has the same key, so its copy does not replace the one of this entry.
      obtain rfl : k = key := hfirst htext
      have hself : k.sameKey k = true := (sameKey_iff hkey).2 rfl
      have hnone : get? entries k = none := by
        refine get?_eq_none fun e he => (sameKey_eq_false_iff hkey).2 fun heq => ?_
        have hsame : k.sameKey e.1 = true := by rw [heq, hself]
        rw [hother e he] at hsame
        cases hsame
      simp [hnone, htext, hself]
    · have hk : k ≠ key := by
        rintro rfl
        exact htext (textKey_of_isString hkey)
      rw [if_neg (mt (sameKey_iff hkey).1 htext), if_neg (mt (sameKey_iff hkey).1 hk)]

/-- What a copy has at a word is the copy of what the mapping has there. -/
theorem lookup?_plain {word : String} (h : (Value.map entries).Built) (hword : IsWord word) :
    lookup? (plainEntries [] entries) word = (lookup? entries word).map plain := by
  cases h with
  | map hkeys _ hdistinct =>
    rw [lookup?_eq_get?, lookup?_eq_get?,
      get?_plainEntries rfl (fun e he => eq_str_of_textKey_eq (hkeys e he) hword) hdistinct]
    simp [get?]

@[simp]
theorem isEmpty_insert (entries : Entries) (k v : Value) :
    (insert entries k v).isEmpty = false := by
  cases entries with
  | nil => rfl
  | cons e entries =>
    rw [insert]
    split <;> rfl

@[simp]
theorem isEmpty_plainEntries (done : Entries) :
    (plainEntries done entries).isEmpty = (done.isEmpty && entries.isEmpty) := by
  induction entries generalizing done with
  | nil => simp [plainEntries]
  | cons e entries ih => simp [plainEntries, ih]

@[simp]
theorem isEmpty_plainItems (items : List Value) : (plainItems items).isEmpty = items.isEmpty := by
  cases items <;> rfl

/-- A copy counts as true if the value does. -/
@[simp]
theorem truthy_plain (v : Value) : v.plain.truthy = v.truthy := by
  cases v <;> simp [plain, truthy]

end Copies

end Value

namespace Response

/-- A copy is a text if the value is. -/
@[simp]
theorem isText_plain (text : String) (v : Value) : isText text v.plain = isText text v := by
  cases v <;> rfl

/-- A copy of a mapping says that all is well if the mapping does. -/
theorem isOk_plain {entries : Entries} (h : (Value.map entries).Built) :
    isOk (Value.plainEntries [] entries) = isOk entries := by
  rw [isOk, isOk, Value.lookup?_plain h (by decide), Value.lookup?_plain h (by decide)]
  cases Value.lookup? entries "ok" with
  | some v => simp
  | none => cases Value.lookup? entries "status" <;> simp

theorem isText_eq_true {text : String} {v : Value} : isText text v = true ↔ v = .str text := by
  cases v <;> simp [isText]

/-- A value is a mapping that says that all is well, by a flag or, if it has no flag, by its
status. -/
def Affirms (v : Value) : Prop :=
  ∃ entries, v = .map entries ∧
    ((∃ flag, Value.lookup? entries "ok" = some flag ∧ flag.truthy = true) ∨
      (Value.lookup? entries "ok" = none ∧
        Value.lookup? entries "status" = some (.str "ok")))

/-- A mapping is taken for a success if it says that all is well. -/
theorem isOk_eq_true {entries : Entries} : isOk entries = true ↔ Affirms (.map entries) := by
  simp only [Affirms, Value.map.injEq, exists_eq_left', isOk]
  cases Value.lookup? entries "ok" with
  | some v => simp
  | none => cases Value.lookup? entries "status" <;> simp [isText_eq_true]

/-- A value is taken for a success if it says that all is well. -/
theorem ok_ofValue {v : Value} : (ofValue v).ok = true ↔ Affirms v := by
  cases v with
  | map entries => exact isOk_eq_true
  | _ => simp [ofValue, failure, Affirms]

/-- The copy of a value is taken for a success if the value says that all is well. -/
theorem ok_ofValue_plain {v : Value} (h : v.Built) :
    (ofValue v.plain).ok = true ↔ Affirms v := by
  cases v with
  | map entries => rw [← isOk_eq_true, ← isOk_plain h]; rfl
  | _ => simp [Value.plain, ofValue, failure, Affirms]

end Response

end IndexSync
