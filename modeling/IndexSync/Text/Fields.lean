/-!
# Separated fields

Splitting at every occurrence of a separator, and its inverse. A text without separator has one
field, which may be empty.
-/

namespace IndexSync.Text

/-- The parts of a list between the separators. There is always at least one part. -/
def fields {α : Type} [DecidableEq α] (sep : α) : List α → List (List α)
  | [] => [[]]
  | c :: rest =>
    if c = sep then [] :: fields sep rest
    else match fields sep rest with
      | [] => [[c]]
      | part :: parts => (c :: part) :: parts

/-- Put one separator between neighbouring parts. -/
def joinFields (sep : Char) : List (List Char) → List Char
  | [] => []
  | [part] => part
  | part :: next :: parts => part ++ sep :: joinFields sep (next :: parts)

/-- The fields of a text, as texts. -/
def splitText (sep : Char) (s : String) : List String := (fields sep s.toList).map String.ofList

/-- The texts with one separator between neighbours. -/
def joinText (sep : Char) (parts : List String) : String :=
  String.ofList (joinFields sep (parts.map String.toList))

theorem fields_ne_nil {α : Type} [DecidableEq α] (sep : α) (cs : List α) : fields sep cs ≠ [] := by
  cases cs with
  | nil => simp [fields]
  | cons c rest =>
    rw [fields]
    split
    · simp
    · split <;> simp

/-- Joining the fields gives back the text. -/
theorem joinFields_fields (sep : Char) (cs : List Char) : joinFields sep (fields sep cs) = cs := by
  induction cs with
  | nil => rfl
  | cons c rest ih =>
    have hne := fields_ne_nil sep rest
    rw [fields]
    cases hf : fields sep rest with
    | nil => exact absurd hf hne
    | cons part parts =>
      rw [hf] at ih
      by_cases hc : c = sep
      · simp [hc, joinFields, ih]
      · cases parts with
        | nil => simp [hc, joinFields] at ih ⊢; exact ih
        | cons q qs => simp [hc, joinFields] at ih ⊢; exact ih

/-- No field contains the separator. -/
theorem not_mem_of_mem_fields (sep : Char) (cs part : List Char) (h : part ∈ fields sep cs) :
    sep ∉ part := by
  induction cs generalizing part with
  | nil => simp [fields] at h; simp [h]
  | cons c rest ih =>
    rw [fields] at h
    by_cases hc : c = sep
    · rw [if_pos hc] at h
      rcases List.mem_cons.1 h with rfl | h
      · simp
      · exact ih part h
    · rw [if_neg hc] at h
      cases hf : fields sep rest with
      | nil => exact absurd hf (fields_ne_nil sep rest)
      | cons p ps =>
        rw [hf] at h
        have hp : sep ∉ p := ih p (by simp [hf])
        rcases List.mem_cons.1 h with rfl | h
        · simp [hp, Ne.symm hc]
        · exact ih part (by simp [hf, h])

/-- A character that separates no fields is in one of them. -/
theorem mem_flatten_fields {α : Type} [DecidableEq α] {sep c : α} {cs : List α} (h : c ∈ cs)
    (hc : c ≠ sep) : c ∈ (fields sep cs).flatten := by
  induction cs with
  | nil => cases h
  | cons d cs ih =>
    rw [fields]
    split
    · next hd => exact ih ((List.mem_cons.1 h).resolve_left (hd ▸ hc))
    · cases hfields : fields sep cs with
      | nil => exact absurd hfields (fields_ne_nil sep cs)
      | cons part parts =>
        rw [hfields] at ih
        rcases List.mem_cons.1 h with rfl | h
        · exact List.mem_cons_self
        · exact List.mem_cons_of_mem _ (ih h)

/-- Fields are made of characters of the text. -/
theorem mem_of_mem_fields {α : Type} [DecidableEq α] {sep c : α} {cs part : List α}
    (hpart : part ∈ fields sep cs) (hc : c ∈ part) : c ∈ cs := by
  induction cs generalizing part with
  | nil =>
    obtain rfl := List.mem_singleton.1 hpart
    cases hc
  | cons d cs ih =>
    rw [fields] at hpart
    split at hpart
    · rcases List.mem_cons.1 hpart with rfl | hpart
      · cases hc
      · exact List.mem_cons_of_mem _ (ih hpart hc)
    · cases hfields : fields sep cs with
      | nil => exact absurd hfields (fields_ne_nil sep cs)
      | cons first parts =>
        rw [hfields] at hpart ih
        rcases List.mem_cons.1 hpart with rfl | hpart
        · rcases List.mem_cons.1 hc with rfl | hc
          · exact List.mem_cons_self
          · exact List.mem_cons_of_mem _ (ih List.mem_cons_self hc)
        · exact List.mem_cons_of_mem _ (ih (List.mem_cons_of_mem _ hpart) hc)

/-- A list without the separator is one field. -/
theorem fields_of_not_mem {α : Type} [DecidableEq α] {sep : α} {part : List α} (h : sep ∉ part) :
    fields sep part = [part] := by
  induction part with
  | nil => rfl
  | cons c rest ih =>
    obtain ⟨hc, hrest⟩ := not_or.1 (mt List.mem_cons.2 h)
    rw [fields, if_neg (Ne.symm hc), ih hrest]

/-- The first field ends at the first separator. -/
theorem fields_append {α : Type} [DecidableEq α] {sep : α} {part : List α} (h : sep ∉ part)
    (rest : List α) : fields sep (part ++ sep :: rest) = part :: fields sep rest := by
  induction part with
  | nil => rw [List.nil_append, fields, if_pos rfl]
  | cons c part ih =>
    obtain ⟨hc, hpart⟩ := not_or.1 (mt List.mem_cons.2 h)
    rw [List.cons_append, fields, if_neg (Ne.symm hc), ih hpart]

/-- The fields of joined parts are the parts, if no part holds the separator. -/
theorem fields_joinFields {sep : Char} {parts : List (List Char)} (hne : parts ≠ [])
    (h : ∀ part ∈ parts, sep ∉ part) : fields sep (joinFields sep parts) = parts := by
  induction parts with
  | nil => exact absurd rfl hne
  | cons part parts ih =>
    have hpart := h part List.mem_cons_self
    cases parts with
    | nil => exact fields_of_not_mem hpart
    | cons next parts =>
      rw [joinFields, fields_append hpart,
        ih (List.cons_ne_nil _ _) fun q hq => h q (List.mem_cons_of_mem _ hq)]

end IndexSync.Text
