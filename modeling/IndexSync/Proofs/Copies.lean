import IndexSync.Proofs.Replies
import IndexSync.Registry.Record

/-!
# Copies of values

A copy is made of lists, of mappings whose keys are texts, and of scalars. Keys that differ may have
the same text, and then they share one entry of the copy; everything else is found in the copy where
it is in the value.

* `Value.Plain` — the values that copies are made of;
* `Value.Built.plain` — every copy is such a value, and `Value.Plain.plain_eq` — such a value is its
  own copy;
* `Value.at?` — what is at the end of a path, and `Value.ClearPath` — no key on a path shares its
  text with another;
* `Value.at?_plain` — at the end of a clear path, the copy has the copy of what the value has;
* `Record.ofValue?_plain` — an entry of the project list and its copy give the same record.
-/

namespace IndexSync

namespace Value

/-- A value without parts, as a service can reply with. -/
def isScalar : Value → Bool
  | .null => true
  | .bool _ => true
  | .int _ => true
  | .float _ => true
  | .str _ => true
  | .unpaired _ => true
  | _ => false

/-- A scalar is its own copy. -/
theorem plain_of_isScalar {v : Value} (h : v.isScalar = true) : v.plain = v := by
  cases v with
  | list items => cases h
  | tuple items => cases h
  | map entries => cases h
  | _ => rfl

/-! ### What copies are made of -/

/-- A mapping has no key twice. -/
def Distinct (entries : Entries) : Prop :=
  entries.Pairwise fun e e' => e.1.sameKey e'.1 = false

/-- A value is made of lists, mappings whose keys are texts, and scalars. -/
inductive Plain : Value → Prop where
  | scalar {v : Value} : v.isScalar = true → Plain v
  | list {items : List Value} : (∀ v ∈ items, Plain v) → Plain (.list items)
  | map {entries : Entries} : (∀ e ∈ entries, e.1.isString = true) → (∀ e ∈ entries, Plain e.2) →
      Distinct entries → Plain (.map entries)

theorem plainItems_eq_map (items : List Value) : plainItems items = items.map plain := by
  induction items with
  | nil => rfl
  | cons item items ih => rw [plainItems, ih, List.map_cons]

section Entries

variable {entries : Entries} {key v : Value}

/-- The keys of a mapping in which a key was set are that key and the old ones. -/
theorem key_of_mem_insert {e : Value × Value} (h : e ∈ insert entries key v) :
    e.1 = key ∨ ∃ e' ∈ entries, e'.1 = e.1 := by
  induction entries with
  | nil => exact Or.inl (congrArg Prod.fst (List.mem_singleton.1 h))
  | cons first entries ih =>
    obtain ⟨k, w⟩ := first
    rw [insert] at h
    split at h
    · rcases List.mem_cons.1 h with rfl | h
      · exact Or.inr ⟨_, List.mem_cons_self, rfl⟩
      · exact Or.inr ⟨e, List.mem_cons_of_mem _ h, rfl⟩
    · rcases List.mem_cons.1 h with rfl | h
      · exact Or.inr ⟨_, List.mem_cons_self, rfl⟩
      · rcases ih h with heq | ⟨e', he', heq⟩
        · exact Or.inl heq
        · exact Or.inr ⟨e', List.mem_cons_of_mem _ he', heq⟩

/-- The values of a mapping in which a key was set are the new one and old ones. -/
theorem value_of_mem_insert {e : Value × Value} (h : e ∈ insert entries key v) :
    e.2 = v ∨ e ∈ entries := by
  induction entries with
  | nil => exact Or.inl (congrArg Prod.snd (List.mem_singleton.1 h))
  | cons first entries ih =>
    obtain ⟨k, w⟩ := first
    rw [insert] at h
    split at h
    · rcases List.mem_cons.1 h with rfl | h
      · exact Or.inl rfl
      · exact Or.inr (List.mem_cons_of_mem _ h)
    · rcases List.mem_cons.1 h with rfl | h
      · exact Or.inr List.mem_cons_self
      · exact (ih h).imp_right (List.mem_cons_of_mem _)

/-- Setting a key keeps the keys apart. -/
theorem Distinct.insert (h : Distinct entries) : Distinct (insert entries key v) := by
  induction entries with
  | nil => exact List.pairwise_singleton _ _
  | cons first entries ih =>
    obtain ⟨k, w⟩ := first
    obtain ⟨hfirst, hrest⟩ := List.pairwise_cons.1 h
    rw [Value.insert]
    split
    · exact List.pairwise_cons.2 ⟨hfirst, hrest⟩
    · next hdiffer =>
      refine List.pairwise_cons.2 ⟨fun e he => ?_, ih hrest⟩
      rcases key_of_mem_insert he with heq | ⟨e', he', heq⟩
      · simpa [heq] using hdiffer
      · rw [← heq]
        exact hfirst e' he'

/-- A new key goes to the end. -/
theorem insert_of_distinct (h : ∀ e ∈ entries, e.1.sameKey key = false) :
    insert entries key v = entries ++ [(key, v)] := by
  induction entries with
  | nil => rfl
  | cons first entries ih =>
    obtain ⟨k, w⟩ := first
    obtain ⟨hfirst, hrest⟩ := List.forall_mem_cons.1 h
    rw [insert, hfirst, if_neg Bool.false_ne_true, ih hrest, List.cons_append]

/-- The copies of plain entries, added to plain entries, are plain entries. -/
theorem Plain.plainEntries {done : Entries} (hdone : (Value.map done).Plain)
    (h : ∀ e ∈ entries, e.2.plain.Plain) : (Value.map (plainEntries done entries)).Plain := by
  induction entries generalizing done with
  | nil => exact hdone
  | cons first entries ih =>
    obtain ⟨k, w⟩ := first
    obtain ⟨hfirst, hrest⟩ := List.forall_mem_cons.1 h
    refine ih ?_ hrest
    cases hdone with
    | scalar h => cases h
    | map hkeys hvalues hdistinct =>
      refine .map (fun e he => ?_) (fun e he => ?_) hdistinct.insert
      · rcases key_of_mem_insert he with heq | ⟨e', he', heq⟩
        · rw [heq, isString_textKey]
        · rw [← heq]
          exact hkeys e' he'
      · rcases value_of_mem_insert he with heq | he
        · rwa [heq]
        · exact hvalues e he

/-- Entries that are their own copies, with different texts for keys, are copied as they are. -/
theorem plainEntries_eq_append (done : Entries) (hkeys : ∀ e ∈ entries, e.1.isString = true)
    (hvalues : ∀ e ∈ entries, e.2.plain = e.2) (hdistinct : Distinct (done ++ entries)) :
    plainEntries done entries = done ++ entries := by
  induction entries generalizing done with
  | nil => exact (List.append_nil done).symm
  | cons first entries ih =>
    obtain ⟨k, w⟩ := first
    obtain ⟨hkey, hkeys⟩ := List.forall_mem_cons.1 hkeys
    obtain ⟨hvalue, hvalues⟩ := List.forall_mem_cons.1 hvalues
    have hnew : ∀ e ∈ done, e.1.sameKey k = false :=
      fun e he => (List.pairwise_append.1 hdistinct).2.2 e he _ List.mem_cons_self
    have happend : done ++ (k, w) :: entries = done ++ [(k, w)] ++ entries := by simp
    rw [happend] at hdistinct ⊢
    rw [Value.plainEntries, textKey_of_isString hkey, hvalue, insert_of_distinct hnew,
      ih _ hkeys hvalues hdistinct]

end Entries

/-- A copy is made of lists, mappings whose keys are texts, and scalars. -/
theorem Built.plain {v : Value} (h : v.Built) : v.plain.Plain := by
  have hitems {items : List Value} (ih : ∀ v ∈ items, v.plain.Plain) :
      (Value.list (plainItems items)).Plain := by
    refine .list fun w hw => ?_
    rw [plainItems_eq_map] at hw
    obtain ⟨v, hv, rfl⟩ := List.mem_map.1 hw
    exact ih v hv
  induction h with
  | list _ ih => exact hitems ih
  | tuple _ ih => exact hitems ih
  | map _ _ _ _ ih => exact Plain.plainEntries (.map (by simp) (by simp) .nil) ih
  | _ => exact .scalar rfl

/-- What is made of lists, mappings whose keys are texts, and scalars is its own copy. -/
theorem Plain.plain_eq {v : Value} (h : v.Plain) : v.plain = v := by
  induction h with
  | scalar h => exact plain_of_isScalar h
  | list _ ih => rw [Value.plain, plainItems_eq_map, List.map_congr_left ih, List.map_id']
  | map hkeys _ hdistinct ih =>
    rw [Value.plain, plainEntries_eq_append [] hkeys ih hdistinct, List.nil_append]

/-! ### What is found in a copy -/

/-- A step into a value. -/
inductive Step where
  /-- To the item at a position of a sequence. -/
  | position (i : Nat)
  /-- To what a mapping has at a key. -/
  | key (k : Value)

/-- What a step leads to. -/
def part? : Value → Step → Option Value
  | .list items, .position i => items[i]?
  | .tuple items, .position i => items[i]?
  | .map entries, .key k => get? entries k
  | _, _ => none

/-- What is at the end of a path. -/
def at? (v : Value) : List Step → Option Value
  | [] => some v
  | step :: steps => (v.part? step).bind fun w => w.at? steps

/-- A step leads to a position, or it goes by a key that is a text, and no other key of the mapping
has that text. -/
def Clear : Value → Step → Prop
  | .map entries, .key k => k.isString = true ∧ ∀ e ∈ entries, e.1.textKey = k → e.1 = k
  | _, _ => True

/-- All steps of a path are clear. -/
def ClearPath (v : Value) : List Step → Prop
  | [] => True
  | step :: steps => v.Clear step ∧ ∀ w, v.part? step = some w → w.ClearPath steps

section Paths

variable {v : Value}

/-- The parts of a value are values of the same kind. -/
theorem Built.of_part? (h : v.Built) {step : Step} {w : Value} (hw : v.part? step = some w) :
    w.Built := by
  cases h with
  | list hitems =>
    cases step with
    | position i => exact hitems w (List.mem_of_getElem? hw)
    | key k => cases hw
  | tuple hitems =>
    cases step with
    | position i => exact hitems w (List.mem_of_getElem? hw)
    | key k => cases hw
  | map _ hvalues _ =>
    cases step with
    | position i => cases hw
    | key k =>
      obtain ⟨e, he, rfl⟩ := Option.map_eq_some_iff.1 hw
      exact hvalues e (List.mem_of_find?_eq_some he)
  | _ => cases hw

/-- A clear step leads to the copy of what it leads to in the value. -/
theorem part?_plain (h : v.Built) {step : Step} (hclear : v.Clear step) :
    v.plain.part? step = (v.part? step).map plain := by
  cases h with
  | list _ =>
    cases step with
    | position i => simp [plain, part?, plainItems_eq_map]
    | key k => rfl
  | tuple _ =>
    cases step with
    | position i => simp [plain, part?, plainItems_eq_map]
    | key k => rfl
  | map _ _ hdistinct =>
    cases step with
    | position i => rfl
    | key k =>
      obtain ⟨hk, hkeys⟩ := hclear
      exact (get?_plainEntries hk hkeys hdistinct []).trans (by simp [part?, get?])
  | _ => rfl

/-- At the end of a clear path, the copy has the copy of what the value has. -/
theorem at?_plain (h : v.Built) {steps : List Step} (hclear : v.ClearPath steps) :
    v.plain.at? steps = (v.at? steps).map plain := by
  induction steps generalizing v with
  | nil => rfl
  | cons step steps ih =>
    obtain ⟨hstep, hpath⟩ := hclear
    rw [at?, at?, part?_plain h hstep]
    cases hw : v.part? step with
    | none => rfl
    | some w => exact ih (h.of_part? hw) (hpath w hw)

/-- What is at the end of a clear path counts as true in the copy just if it does in the value. -/
theorem truthy_at?_plain (h : v.Built) {steps : List Step} (hclear : v.ClearPath steps) :
    (v.plain.at? steps).map truthy = (v.at? steps).map truthy := by
  rw [at?_plain h hclear, Option.map_map]
  exact congrArg (Option.map · _) (funext truthy_plain)

end Paths

end Value

/-! ### Responses and records -/

namespace Response

/-- The copy of a value is taken for a success just if the value is. -/
theorem ok_plain {v : Value} (h : v.Built) : (ofValue v.plain).ok = (ofValue v).ok := by
  cases v with
  | map entries => exact isOk_plain h
  | _ => rfl

end Response

namespace Record

open Value (IsWord)

/-- The root and the fingerprint of an entry of the project list are scalars, as far as it has
them. -/
def ScalarFields : Value → Prop
  | .map entries =>
    (∀ root, Value.lookup? entries "root" = some root → root.isScalar = true) ∧
      ∀ fingerprint,
        (Value.lookup? entries "vcs_fingerprint").or (Value.lookup? entries "vcs_hash") =
          some fingerprint → fingerprint.isScalar = true
  | _ => True

/-- A scalar that may be absent is its own copy. -/
theorem map_plain_of_isScalar {v? : Option Value} (h : ∀ v, v? = some v → v.isScalar = true) :
    v?.map Value.plain = v? := by
  cases v? with
  | none => rfl
  | some v => rw [Option.map_some, Value.plain_of_isScalar (h v rfl)]

/-- An entry of the project list and its copy give the same record. -/
theorem ofValue?_plain {v : Value} (h : v.Built) (hfields : ScalarFields v) :
    ofValue? v.plain = ofValue? v := by
  cases v with
  | map entries =>
    obtain ⟨hroot, hfingerprint⟩ := hfields
    have hfind {word : String} (hword : IsWord word) := Value.lookup?_plain h hword
    have hstored :
        storedFingerprint (Value.plainEntries [] entries) = storedFingerprint entries := by
      rw [storedFingerprint, hfind (by decide), hfind (by decide), ← Option.map_or,
        map_plain_of_isScalar hfingerprint, storedFingerprint]
    simp only [Value.plain, ofValue?, hfind (show IsWord "root" by decide),
      map_plain_of_isScalar hroot, hstored]
  | _ => rfl

end Record

end IndexSync
