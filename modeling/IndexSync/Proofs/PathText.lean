import IndexSync.PathKey
import IndexSync.Proofs.Digits

/-!
# Paths and their texts

A path goes over the wire, into documents and to the file system as its text. A path that is made of
names, as every path is that was read from a text, is what its text reads as.

* `FsPath.Proper` — all names of a path are names: none is empty or a dot, none holds a slash;
* `FsPath.parse_text` — a proper path is what its text reads as;
* `PathKey.indexFile_proper` — the file of an index is proper if the directory of the indexes is.
-/

namespace IndexSync

namespace FsPath

/-- A text that stands for itself between two slashes of a path. -/
def ProperName (name : String) : Prop := isName name.toList = true ∧ '/' ∉ name.toList

instance (name : String) : Decidable (ProperName name) :=
  inferInstanceAs (Decidable (isName name.toList = true ∧ '/' ∉ name.toList))

/-- A path whose names are names. -/
def Proper (p : FsPath) : Prop := ∀ name ∈ p.names, ProperName name

instance (p : FsPath) : Decidable p.Proper :=
  inferInstanceAs (Decidable (∀ name ∈ p.names, ProperName name))

/-- Paths that are read from texts are proper. -/
theorem parse_proper (s : String) : (parse s).Proper := by
  intro name hname
  obtain ⟨field, hfield, rfl⟩ := List.mem_map.1 hname
  obtain ⟨hmem, hname⟩ := List.mem_filter.1 hfield
  rw [ProperName, String.toList_ofList]
  exact ⟨hname, Text.not_mem_of_mem_fields '/' _ field hmem⟩

/-- A proper path stays proper below further names. -/
theorem Proper.append {p : FsPath} (h : p.Proper) {names : List String}
    (hnames : ∀ name ∈ names, ProperName name) : Proper { p with names := p.names ++ names } := by
  intro name hname
  rcases List.mem_append.1 hname with hname | hname
  · exact h name hname
  · exact hnames name hname

/-- Proper names are the names that their text is read as. -/
theorem namesOf_joinFields {names : List String} (h : ∀ name ∈ names, ProperName name) :
    namesOf (Text.joinFields '/' (names.map String.toList)) = names := by
  cases names with
  | nil => rfl
  | cons first rest =>
    have hsep : ∀ part ∈ (first :: rest).map String.toList, '/' ∉ part := by
      intro part hpart
      obtain ⟨name, hname, rfl⟩ := List.mem_map.1 hpart
      exact (h name hname).2
    have hname : ∀ part ∈ (first :: rest).map String.toList, isName part = true := by
      intro part hpart
      obtain ⟨name, hname, rfl⟩ := List.mem_map.1 hpart
      exact (h name hname).1
    have hfields := Text.fields_joinFields (by simp) hsep
    rw [namesOf, hfields, List.filter_eq_self.2 hname, List.map_map]
    simp [Function.comp_def]

/-- A slash in front of a text adds no name. -/
theorem namesOf_slash (cs : List Char) : namesOf ('/' :: cs) = namesOf cs := by
  simp [namesOf, Text.fields, isName]

/-- A text of proper names does not start with a slash. -/
theorem head_joinFields {names : List String} (h : ∀ name ∈ names, ProperName name)
    (rest : List Char) : Text.joinFields '/' (names.map String.toList) ≠ '/' :: rest := by
  cases names with
  | nil => simp [Text.joinFields]
  | cons first names =>
    obtain ⟨hname, hsep⟩ := h first List.mem_cons_self
    cases hfirst : first.toList with
    | nil => simp [hfirst, isName] at hname
    | cons c cs =>
      have hc : c ≠ '/' := by
        rintro rfl
        exact hsep (by rw [hfirst]; exact List.mem_cons_self)
      intro heq
      refine hc ?_
      cases names with
      | nil => simpa [Text.joinFields, hfirst] using congrArg List.head? heq
      | cons next names => simpa [Text.joinFields, hfirst] using congrArg List.head? heq

/-- Where the names start from can be told from the slashes before them. -/
theorem anchorOf_text {names : List Char} (h : ∀ rest, names ≠ '/' :: rest) (a : Anchor) :
    anchorOf (a.text.toList ++ names) = a := by
  cases a with
  | relative =>
    cases names with
    | nil => rfl
    | cons c rest =>
      have hc : c ≠ '/' := fun hc => h rest (by rw [hc])
      simp [Anchor.text, anchorOf, hc]
  | root =>
    cases names with
    | nil => rfl
    | cons c rest =>
      have hc : c ≠ '/' := fun hc => h rest (by rw [hc])
      simp [Anchor.text, anchorOf, hc]
  | doubleRoot =>
    cases names with
    | nil => rfl
    | cons c rest => simp [Anchor.text, anchorOf]

/-- A proper path is what its text reads as. -/
theorem parse_text {p : FsPath} (h : p.Proper) : parse p.text = p := by
  obtain ⟨anchor, names⟩ := p
  have htext : ∀ a : Anchor, parse (a.text ++ Text.joinText '/' names) = ⟨a, names⟩ := by
    intro a
    rw [parse, Text.joinText, String.toList_append, String.toList_ofList,
      anchorOf_text (head_joinFields h), FsPath.mk.injEq]
    refine ⟨rfl, ?_⟩
    cases a with
    | relative => exact namesOf_joinFields h
    | root => exact (namesOf_slash _).trans (namesOf_joinFields h)
    | doubleRoot =>
      exact (namesOf_slash _).trans ((namesOf_slash _).trans (namesOf_joinFields h))
  rw [text]
  split
  · next hdot =>
    obtain ⟨rfl, rfl⟩ := hdot
    decide
  · exact htext anchor

end FsPath

namespace PathKey

/-- A digest has no slash. -/
theorem slash_not_mem_hexDigest (message : List UInt8) : '/' ∉ Sha256.hexDigest message := by
  intro hmem
  obtain ⟨w, -, hc⟩ := List.mem_flatMap.1 hmem
  rcases List.mem_append.1 hc with hc | hc
  · exact absurd (List.eq_of_mem_replicate hc) (by decide)
  · obtain ⟨d, -, hd⟩ := Text.exists_digitChar (by decide) hc
    exact Nat.digitChar_ne '/' (by decide) hd.symm

/-- The file of an index is proper if the directory of the indexes is. -/
theorem indexFile_proper {rule : CaseRule} {dir : FsPath} (h : dir.Proper) (root : String) :
    (indexFile rule dir root).Proper := by
  refine h.append fun name hname => ?_
  rw [List.mem_singleton.1 hname, FsPath.ProperName, hash, String.toList_append,
    String.toList_ofList]
  refine ⟨?_, fun hmem => ?_⟩
  · -- The ending makes it a name, whatever the digits before it are.
    generalize List.take 16 _ = digits
    rcases digits with - | ⟨c, digits⟩
    · decide
    · simp [FsPath.isName]
  · rcases List.mem_append.1 hmem with hmem | hmem
    · exact slash_not_mem_hexDigest _ (List.mem_of_mem_take hmem)
    · exact absurd hmem (by decide)

end PathKey

end IndexSync
