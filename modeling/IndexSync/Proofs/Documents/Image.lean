import IndexSync.Proofs.Documents.Numerals

/-!
# The values of documents

Not every value comes from a document: no document holds a path or a tuple, and an integer of a
document has at most as many digits as the reader converts.

* `Json.Document` — the values that documents hold;
* `Json.read_document` — what a document is read as is such a value.
-/

namespace IndexSync

/-- Digits make a number below the power of ten of their count. -/
theorem Text.ofDigits_lt {ds : List Nat} (h : ∀ d ∈ ds, d < 10) : ofDigits ds < 10 ^ ds.length := by
  have hfrom : ∀ (ds : List Nat) (n : Nat), (∀ d ∈ ds, d < 10) →
      ds.foldl (fun n d => n * 10 + d) n < (n + 1) * 10 ^ ds.length := by
    intro ds
    induction ds with
    | nil => intro n _; simp
    | cons d ds ih =>
      intro n hds
      obtain ⟨hd, hds⟩ := List.forall_mem_cons.1 hds
      calc (d :: ds).foldl (fun n d => n * 10 + d) n
          < (n * 10 + d + 1) * 10 ^ ds.length := ih (n * 10 + d) hds
        _ ≤ ((n + 1) * 10) * 10 ^ ds.length := Nat.mul_le_mul_right _ (by omega)
        _ = (n + 1) * 10 ^ (d :: ds).length := by
          rw [List.length_cons, Nat.pow_succ', Nat.mul_assoc]
  simpa [ofDigits] using hfrom ds 0 h

namespace Json

/-- A value that a document can hold. -/
inductive Document : Value → Prop where
  | null : Document .null
  | bool (b : Bool) : Document (.bool b)
  | int {n : Int} (h : Sized n) : Document (.int n)
  | float (x : Decimal.Double) : Document (.float x)
  | str (s : String) : Document (.str s)
  | unpaired (codes : Text.CodePoints) : Document (.unpaired codes)
  | list {items : List Value} (h : ∀ v ∈ items, Document v) : Document (.list items)
  | map {entries : Entries} (h : ∀ e ∈ entries, Document e.2) : Document (.map entries)

/-- A member of a document's mapping is what the document holds under its name. -/
theorem Document.lookup? {entries : Entries} (h : ∀ e ∈ entries, Document e.2) {name : String}
    {v : Value} (hv : Value.lookup? entries name = some v) : Document v := by
  fun_induction Value.lookup? entries name with
  | case1 => cases hv
  | case2 => exact Option.some.inj hv ▸ h _ List.mem_cons_self
  | case3 _ _ _ _ ih => exact ih (fun e he => h e (List.mem_cons_of_mem _ he)) hv
  | case4 _ _ _ ih => exact ih (fun e he => h e (List.mem_cons_of_mem _ he)) hv

/-- Setting a member keeps the members documents. -/
theorem Document.insert {entries : Entries} (h : ∀ e ∈ entries, Document e.2) (key : Value)
    {v : Value} (hv : Document v) : ∀ e ∈ Value.insert entries key v, Document e.2 := by
  induction entries with
  | nil => exact List.forall_mem_singleton.2 hv
  | cons entry entries ih =>
    obtain ⟨hentry, hentries⟩ := List.forall_mem_cons.1 h
    rw [Value.insert]
    split
    · exact List.forall_mem_cons.2 ⟨hv, hentries⟩
    · exact List.forall_mem_cons.2 ⟨hentry, ih hentries⟩

/-- A number with a sign is as long as without. -/
theorem sized_signed {n : Nat} (h : n < 10 ^ Text.maxDigits) (negative : Bool) :
    Sized (Text.signed negative n) := by
  cases negative <;> simpa [Sized, Text.signed] using h

theorem isDigit_of_mem_wholePart {cs : List Char} {c : Char} (h : c ∈ wholePart cs) :
    isDigit c = true := by
  unfold wholePart at h
  split at h
  · rw [List.mem_singleton.1 h]
    rfl
  · exact List.mem_takeWhile_imp h

/-- What is read behind a sign is a value of documents. -/
theorem document_of_magnitude? {negative : Bool} {body : List Char} {v : Value} {n : Nat}
    (h : magnitude? negative body = some (.ok v, n)) : Document v := by
  -- The number of digits bounds an integer only if each of them is a decimal one.
  have hdigits : ∀ d ∈ digitValues (wholePart body), d < 10 := by
    intro d hd
    obtain ⟨c, hc, rfl⟩ := List.mem_map.1 hd
    have hdigit := isDigit_of_mem_wholePart hc
    simp only [isDigit, Bool.and_eq_true, decide_eq_true_eq] at hdigit
    have hhigh : c.toNat ≤ 0x39 := hdigit.2
    omega
  unfold magnitude? at h
  dsimp only at h
  split at h
  · cases h
  · split at h
    · split at h
      · split at h
        · next hlength =>
          cases h
          refine .int (sized_signed (Nat.lt_of_lt_of_le (Text.ofDigits_lt hdigits) ?_) negative)
          rw [digitValues, List.length_map]
          exact Nat.pow_le_pow_right (by decide) hlength
        · cases h
      · cases h
        exact .float _
    · cases h
      exact .float _

/-- A number that is read is a value of documents. -/
theorem document_of_readNumber? {c : Cursor} {v : Value} {cur : Cursor}
    (h : readNumber? c = some (.ok (v, cur))) : Document v := by
  rw [readNumber?_eq, Option.map_eq_some_iff] at h
  obtain ⟨⟨r, n⟩, hmagnitude, hread⟩ := h
  cases r with
  | error e => cases hread
  | ok v =>
    cases hread
    exact document_of_magnitude? hmagnitude

/-- The words stand for values of documents. -/
theorem document_of_readWord? {c : Cursor} {v : Value} {cur : Cursor}
    (h : readWord? c = some (v, cur)) : Document v := by
  rw [readWord?, Option.map_eq_some_iff] at h
  obtain ⟨⟨w, v⟩, hfind, heq⟩ := h
  cases heq
  have hall : ∀ entry ∈ words, Document entry.2 := by
    simp only [words, List.forall_mem_cons]
    exact ⟨.null, .bool _, .bool _, .float _, .float _, .float _, List.forall_mem_nil _⟩
  exact hall _ (List.mem_of_find?_eq_some hfind)

/-- A text that is read is a value of documents. -/
theorem document_of_readText {c : Cursor} {v : Value} {cur : Cursor}
    (h : readText c = .ok (v, cur)) : Document v := by
  unfold readText at h
  split at h
  · cases h
    unfold Value.ofCodePoints
    split
    · exact .str _
    · exact .unpaired _
  · cases h

/-- What the reader has with some fuel are values of documents. -/
structure Reads (fuel : Nat) : Prop where
  value : ∀ {depth : Nat} {c cur : Cursor} {v : Value},
    readValue fuel depth c = .ok (v, cur) → Document v
  items : ∀ {depth : Nat} {c cur : Cursor} {items : List Value},
    readItems fuel depth c = .ok (items, cur) → ∀ v ∈ items, Document v
  members : ∀ {depth : Nat} {done members : Entries} {c cur : Cursor},
    (∀ e ∈ done, Document e.2) → readMembers fuel depth done c = .ok (members, cur) →
      ∀ e ∈ members, Document e.2

theorem Reads.value_succ {fuel : Nat} (h : Reads fuel) {depth : Nat} {c cur : Cursor} {v : Value}
    (hread : readValue (fuel + 1) depth c = .ok (v, cur)) : Document v := by
  -- By what the value starts with: a text, a list, a mapping, a word or a number.
  unfold readValue at hread
  split at hread
  · exact document_of_readText hread
  · cases hread
  · dsimp only at hread
    split at hread
    · cases hread
      exact .list (List.forall_mem_nil _)
    · split at hread
      · next hitems =>
        cases hread
        exact .list (h.items hitems)
      · cases hread
  · cases hread
  · dsimp only at hread
    split at hread
    · cases hread
      exact .map (List.forall_mem_nil _)
    · split at hread
      · next hmembers =>
        cases hread
        exact .map (h.members (List.forall_mem_nil _) hmembers)
      · cases hread
  · split at hread
    · next hword =>
      cases hread
      exact document_of_readWord? hword
    · cases hnumber : readNumber? c with
      | none => rw [hnumber] at hread; cases hread
      | some r =>
        rw [hnumber] at hread
        obtain rfl : r = .ok (v, cur) := hread
        exact document_of_readNumber? hnumber

theorem Reads.items_succ {fuel : Nat} (h : Reads fuel) {depth : Nat} {c cur : Cursor}
    {items : List Value} (hread : readItems (fuel + 1) depth c = .ok (items, cur)) :
    ∀ v ∈ items, Document v := by
  rw [readItems.eq_2] at hread
  split at hread
  · cases hread
  · next item _ hitem =>
    dsimp only at hread
    split at hread
    · cases hread
      exact List.forall_mem_singleton.2 (h.value hitem)
    · split at hread
      · next hitems =>
        cases hread
        exact List.forall_mem_cons.2 ⟨h.value hitem, h.items hitems⟩
      · cases hread
    · cases hread

theorem Reads.members_succ {fuel : Nat} (h : Reads fuel) {depth : Nat} {done members : Entries}
    {c cur : Cursor} (hdone : ∀ e ∈ done, Document e.2)
    (hread : readMembers (fuel + 1) depth done c = .ok (members, cur)) :
    ∀ e ∈ members, Document e.2 := by
  rw [readMembers.eq_2] at hread
  split at hread
  · split at hread
    · cases hread
    · next name _ _ =>
      dsimp only at hread
      split at hread
      · split at hread
        · cases hread
        · next hvalue =>
          have hall := Document.insert hdone name (h.value hvalue)
          split at hread
          · cases hread
            exact hall
          · exact h.members hall hread
          · cases hread
      · cases hread
  · cases hread

/-- The reader has values of documents only. The induction is on its fuel. -/
theorem reads (fuel : Nat) : Reads fuel := by
  induction fuel with
  | zero =>
    refine ⟨fun h => ?_, fun h => ?_, fun _ h => ?_⟩
    · rw [readValue] at h
      cases h
    · rw [readItems] at h
      cases h
    · rw [readMembers] at h
      cases h
  | succ fuel ih => exact ⟨ih.value_succ, ih.items_succ, ih.members_succ⟩

/-- What a document is read as is a value of documents. -/
theorem read_document {text : String} {v : Value} (h : read text = .ok v) : Document v := by
  unfold Json.read at h
  dsimp only at h
  split at h
  · cases h
  · split at h
    · cases h
    · next hvalue =>
      split at h
      · obtain rfl := Except.ok.inj h
        exact (reads _).value hvalue
      · cases h

end Json

end IndexSync
