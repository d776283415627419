import IndexSync.Proofs.Documents.Numerals

/-!
# Documents read back

What is written as a document is read back, whatever the layout, as long as the layout puts nothing
but gaps around the parts of a container. A value is written and read by recursion on its
containers; the reader spends one unit of its fuel on every value and every part, and a document has
more characters than half of them.

* `Json.Style.Spaced` — the layouts that add nothing but gaps;
* `Json.Writable` — the values that can be read back with a number of nested containers;
* `Json.readValue_write` — a written value is read back in front of other characters;
* `Json.read_write` — a written document is read back.
-/

namespace IndexSync.Json

open Decimal (Double Layout)

/-- Characters that may all stand between the parts of a document. -/
def Gap (cs : List Char) : Prop := ∀ c ∈ cs, isGap c = true

/-- Characters that do not go on with a gap in front of them. -/
def Solid (cs : List Char) : Prop := ∀ c ∈ cs.head?, isGap c = false

theorem solid_cons {c : Char} (hc : isGap c = false) (cs : List Char) : Solid (c :: cs) :=
  fun _ hfirst => Option.some.inj hfirst ▸ hc

theorem solid_text (s : String) (rest : List Char) : Solid (writeText s ++ rest) :=
  solid_cons rfl _

/-- A gap is skipped up to what is no gap. -/
theorem skip_gap {gap rest : List Char} (hgap : Gap gap) (hrest : Solid rest) (i : Nat) :
    Cursor.skip ⟨i, gap ++ rest⟩ = ⟨i + gap.length, rest⟩ := by
  have htake : (gap ++ rest).takeWhile isGap = gap := by
    rw [List.takeWhile_append_of_pos hgap]
    cases rest with
    | nil => simp
    | cons c tail => simp [hrest c rfl]
  rw [Cursor.skip, htake, Cursor.advance, List.drop_left]

/-- Where there is no gap, nothing is skipped. -/
theorem skip_solid {rest : List Char} (hrest : Solid rest) (i : Nat) :
    Cursor.skip ⟨i, rest⟩ = ⟨i, rest⟩ :=
  skip_gap (show Gap [] from nofun) hrest i

/-- A layout that adds nothing but gaps to the parts of a container and the signs between them. -/
structure Style.Spaced (style : Style) : Prop where
  opening : ∀ d, Gap (style.opening d)
  between : ∀ d, ∃ gap, style.between d = ',' :: gap ∧ Gap gap
  closing : ∀ d, Gap (style.closing d)

theorem gap_lineBreak (d : Nat) : Gap (lineBreak d) :=
  List.forall_mem_cons.2 ⟨rfl, fun _ hc => (List.eq_of_mem_replicate hc).symm ▸ rfl⟩

theorem Style.spaced_line : Style.line.Spaced where
  opening _ := nofun
  between _ := ⟨[' '], rfl, List.forall_mem_singleton.2 rfl⟩
  closing _ := nofun

theorem Style.spaced_indented : Style.indented.Spaced where
  opening d := gap_lineBreak (d + 1)
  between d := ⟨_, rfl, gap_lineBreak (d + 1)⟩
  closing d := gap_lineBreak d

/-- A value that a document can give back with at most `depth` containers inside one another: its
numbers can be read, its keys are texts, and no key occurs twice in a mapping. -/
inductive Writable : Nat → Value → Prop where
  | null {depth : Nat} : Writable depth .null
  | bool {depth : Nat} (b : Bool) : Writable depth (.bool b)
  | int {depth : Nat} {n : Int} (h : Sized n) : Writable depth (.int n)
  | float {depth : Nat} {x : Double} (h : Legible x) : Writable depth (.float x)
  | str {depth : Nat} (s : String) : Writable depth (.str s)
  | list {depth : Nat} {items : List Value} (h : ∀ v ∈ items, Writable depth v) :
    Writable (depth + 1) (.list items)
  | map {depth : Nat} {members : Options} (hnames : (members.map Prod.fst).Nodup)
    (h : ∀ m ∈ members, Writable depth m.2) : Writable (depth + 1) (.ofOptions members)

/-! ### The start of a written value -/

/-- What a document starts with: no gap, nothing that ends a list, and no mark. -/
def Starts (cs : List Char) : Prop :=
  ∃ first tail, cs = first :: tail ∧ isGap first = false ∧ first ≠ ']' ∧ first ≠ '\ufeff'

theorem Starts.solid {cs : List Char} (h : Starts cs) (rest : List Char) : Solid (cs ++ rest) := by
  obtain ⟨first, tail, rfl, hgap, -⟩ := h
  exact fun c hc => Option.some.inj hc ▸ hgap

theorem Starts.ne_bracket {cs : List Char} (h : Starts cs) (rest tail : List Char) :
    cs ++ rest ≠ ']' :: tail := by
  obtain ⟨first, more, rfl, -, hbracket, -⟩ := h
  exact fun heq => hbracket (List.cons.inj heq).1

/-- A number starts like a value. -/
theorem starts_number {i : Nat} {cs : List Char} {r : Read Value}
    (h : readNumber? ⟨i, cs⟩ = some r) : Starts cs := by
  obtain ⟨c, tail, hc, hcs⟩ := starts_of_readNumber? h
  rcases hcs with rfl | rfl
  · refine ⟨c, tail, rfl, ?_, ?_, ?_⟩
    · by_contra hgap
      simp only [isGap, Bool.not_eq_false, Bool.or_eq_true, beq_iff_eq] at hgap
      rcases hgap with ((rfl | rfl) | rfl) | rfl <;> cases hc
    · rintro rfl
      cases hc
    · rintro rfl
      cases hc
  · exact ⟨'-', c :: tail, rfl, by decide, by decide, by decide⟩

/-- A written value starts like a value. -/
theorem starts_write (style : Style) (d : Nat) {depth : Nat} {v : Value} (h : Writable depth v) :
    Starts (write style d v) := by
  cases h with
  | null => exact ⟨'n', _, rfl, by decide, by decide, by decide⟩
  | bool b =>
    cases b with
    | false => exact ⟨'f', _, rfl, by decide, by decide, by decide⟩
    | true => exact ⟨'t', _, rfl, by decide, by decide, by decide⟩
  | int h =>
    obtain ⟨stop, hread⟩ := readNumber?_integer h 0
    exact starts_number hread
  | float h =>
    obtain ⟨stop, hread⟩ := h.readNumber?
    exact starts_number hread
  | str s => exact ⟨'"', _, rfl, by decide, by decide, by decide⟩
  | @list _ items =>
    cases items with
    | nil => exact ⟨'[', _, rfl, by decide, by decide, by decide⟩
    | cons item items =>
      rw [write]
      exact ⟨'[', _, rfl, by decide, by decide, by decide⟩
  | @map _ members =>
    cases members with
    | nil => exact ⟨'\x7b', _, rfl, by decide, by decide, by decide⟩
    | cons m members =>
      rw [Value.ofOptions, List.map_cons, write]
      exact ⟨'\x7b', _, rfl, by decide, by decide, by decide⟩

/-! ### Values -/

/-- A word is read back in front of other characters. -/
theorem readValue_word {fuel depth i : Nat} {w rest : List Char} {v : Value}
    (hfirst : ∀ first tail, w ++ rest = first :: tail →
      first ≠ '"' ∧ first ≠ '[' ∧ first ≠ '\x7b')
    (h : ∀ rest, readWord? ⟨i, w ++ rest⟩ = some (v, ⟨i + w.length, rest⟩)) :
    Yields (readValue (fuel + 1) depth ⟨i, w ++ rest⟩) v rest := by
  rw [readValue_scalar hfirst, h]
  exact ⟨_, rfl⟩

/-- A number is read back in front of other characters. -/
theorem yields_number {fuel depth i : Nat} {cs rest : List Char} {v : Value}
    (h : ∃ stop, readNumber? ⟨i, cs ++ rest⟩ = some (.ok (v, ⟨stop, rest⟩))) :
    Yields (readValue (fuel + 1) depth ⟨i, cs ++ rest⟩) v rest := by
  obtain ⟨stop, hread⟩ := h
  exact ⟨stop, readValue_number hread⟩

theorem ends_cons {c : Char} (hc : isNumeral c = false) (cs : List Char) : Ends (c :: cs) :=
  fun _ hfirst => Option.some.inj hfirst ▸ hc

/-- What starts with a gap and goes on with no part of a number ends a number. -/
theorem ends_gap {gap rest : List Char} {c : Char} (hgap : Gap gap) (hc : isNumeral c = false) :
    Ends (gap ++ c :: rest) := by
  cases gap with
  | nil => exact ends_cons hc rest
  | cons g gap =>
    refine ends_cons ?_ _
    have hg := hgap g List.mem_cons_self
    simp only [isGap, Bool.or_eq_true, beq_iff_eq] at hg
    rcases hg with ((rfl | rfl) | rfl) | rfl <;> rfl

section Containers

variable {style : Style} {depth d : Nat}

/-- A written value is read back with fuel for twice its characters, wherever it is, in front of
characters that do not go on with a number. -/
def ReadsBack (style : Style) (depth d : Nat) (v : Value) : Prop :=
  ∀ (fuel i : Nat) (rest : List Char), Ends rest → 2 * (write style d v).length ≤ fuel →
    Yields (readValue fuel depth ⟨i, write style d v ++ rest⟩) v rest

/-- Written items are read back up to the closing bracket. -/
theorem readItems_write (hstyle : style.Spaced) {item : Value} {items : List Value}
    (hitems : ∀ v ∈ item :: items, Writable depth v ∧ ReadsBack style depth (d + 1) v)
    (fuel i : Nat) (rest : List Char)
    (hfuel : 2 * (write style (d + 1) item ++ writeItems style d items ++ [']']).length ≤ fuel) :
    Yields (readItems fuel depth ⟨i, write style (d + 1) item ++ (writeItems style d items
      ++ (style.closing d ++ ']' :: rest))⟩) (item :: items) rest := by
  induction items generalizing item fuel i with
  | nil =>
    have hends : Ends (style.closing d ++ ']' :: rest) := ends_gap (hstyle.closing d) rfl
    simp only [writeItems, List.append_nil, List.length_append, List.length_singleton] at hfuel
    obtain ⟨fuel, rfl⟩ : ∃ n, fuel = n + 1 := ⟨fuel - 1, by omega⟩
    obtain ⟨j, hitem⟩ := (hitems item List.mem_cons_self).2 fuel i _ hends (by omega)
    have hskip := skip_gap (hstyle.closing d) (solid_cons (c := ']') rfl rest) j
    rw [writeItems, List.nil_append, readItems.eq_2, hitem]
    dsimp only
    rw [hskip]
    exact ⟨_, rfl⟩
  | cons next items ih =>
    -- Behind the item, a comma and a gap lead to the next one; each step costs one unit of fuel.
    obtain ⟨gap, hbetween, hgap⟩ := hstyle.between d
    have hnext := hitems next (by simp)
    have hends : Ends (writeItems style d (next :: items) ++ (style.closing d ++ ']' :: rest)) := by
      rw [writeItems, hbetween]
      exact ends_cons rfl _
    simp only [writeItems, hbetween, List.length_append, List.length_cons, List.length_nil] at hfuel
    obtain ⟨fuel, rfl⟩ : ∃ n, fuel = n + 1 := ⟨fuel - 1, by omega⟩
    obtain ⟨j, hitem⟩ := (hitems item List.mem_cons_self).2 fuel i _ hends (by omega)
    have hsolid : Solid (write style (d + 1) next
        ++ (writeItems style d items ++ (style.closing d ++ ']' :: rest))) :=
      (starts_write style (d + 1) hnext.1).solid _
    obtain ⟨k, hrest⟩ := ih (fun v hv => hitems v (List.mem_cons_of_mem _ hv))
      fuel (j + 1 + gap.length) (by simp; omega)
    rw [readItems.eq_2, hitem]
    dsimp only
    rw [writeItems, hbetween]
    simp only [List.cons_append, List.append_assoc]
    rw [skip_solid (solid_cons rfl _)]
    simp only [Cursor.advance, List.drop_succ_cons, List.drop_zero]
    rw [skip_gap hgap hsolid, hrest]
    exact ⟨k, rfl⟩

/-- The entries of a mapping with text keys. -/
def entriesOf (members : Options) : Entries := members.map fun (k, v) => (.str k, v)

/-- Members that are set one after the other. -/
def setAll (done : Entries) (members : Options) : Entries :=
  members.foldl (fun acc m => Value.insert acc (.str m.1) m.2) done

/-- A new key goes to the end. -/
theorem insert_fresh {name : String} {members : Options} (h : name ∉ members.map Prod.fst)
    (v : Value) :
    Value.insert (entriesOf members) (.str name) v = entriesOf (members ++ [(name, v)]) := by
  induction members with
  | nil => rfl
  | cons m members ih =>
    obtain ⟨hne, hrest⟩ := not_or.1 (mt List.mem_cons.2 h)
    have hkey : (Value.str m.1).sameKey (.str name) = false := by
      simpa [Value.sameKey] using Ne.symm hne
    change Value.insert ((.str m.1, m.2) :: entriesOf members) (.str name) v = _
    rw [Value.insert, hkey, if_neg Bool.false_ne_true, ih hrest]
    rfl

/-- Members with different names go behind the members that are there. -/
theorem setAll_fresh {before members : Options}
    (h : ((before ++ members).map Prod.fst).Nodup) :
    setAll (entriesOf before) members = entriesOf (before ++ members) := by
  induction members generalizing before with
  | nil => rw [List.append_nil]; rfl
  | cons m members ih =>
    have hfresh : m.1 ∉ before.map Prod.fst := by
      rw [List.map_append, List.map_cons] at h
      exact fun hmem => (List.nodup_append.1 h).2.2 _ hmem _ List.mem_cons_self rfl
    have happend : before ++ m :: members = before ++ [m] ++ members := by simp
    rw [happend] at h ⊢
    rw [← ih h, setAll, List.foldl_cons, insert_fresh hfresh]
    rfl

/-- Members with different names make the mapping that has them. -/
theorem setAll_nodup {members : Options} (h : (members.map Prod.fst).Nodup) :
    setAll [] members = entriesOf members :=
  setAll_fresh (show (([] ++ members : Options).map Prod.fst).Nodup from h)

/-- One member is read, and the reader goes on with what stands behind it. -/
theorem readMembers_member {m : String × Value} (hm : Writable depth m.2)
    (hread : ReadsBack style depth (d + 1) m.2) (fuel : Nat) {after : List Char}
    (hafter : Ends after)
    (hfuel : 2 * (write style (d + 1) m.2).length ≤ fuel) (i : Nat) (done : Entries) :
    ∃ j, readMembers (fuel + 1) depth done
        ⟨i, writeText m.1 ++ (':' :: ' ' :: (write style (d + 1) m.2 ++ after))⟩ =
      match (Cursor.skip ⟨j, after⟩).rest with
      | '\x7d' :: _ =>
        .ok (Value.insert done (.str m.1) m.2, (Cursor.skip ⟨j, after⟩).advance 1)
      | ',' :: _ =>
        readMembers fuel depth (Value.insert done (.str m.1) m.2)
          ((Cursor.skip ⟨j, after⟩).advance 1).skip
      | _ => refuse .comma (Cursor.skip ⟨j, after⟩).index := by
  obtain ⟨k, hname⟩ := readText_writeText m.1 i (':' :: ' ' :: (write style (d + 1) m.2 ++ after))
  obtain ⟨j, hvalue⟩ := hread fuel (k + 1 + 1) after hafter hfuel
  have hsolid := (starts_write style (d + 1) hm).solid after
  have hblank : Gap [' '] := List.forall_mem_singleton.2 rfl
  refine ⟨j, ?_⟩
  rw [readMembers.eq_2]
  split
  · rw [hname]
    dsimp only
    rw [skip_solid (solid_cons rfl _)]
    simp only [Cursor.advance, List.drop_succ_cons, List.drop_zero]
    rewrite [show ' ' :: (write style (d + 1) m.2 ++ after) =
      [' '] ++ (write style (d + 1) m.2 ++ after) from rfl, skip_gap hblank hsolid,
      List.length_singleton, hvalue]
    rfl
  · next hquote => exact absurd rfl (hquote _)

/-- Written members are read back up to the closing brace, after those that were read before. -/
theorem readMembers_write (hstyle : style.Spaced) {m : String × Value} {members : Options}
    (hmembers : ∀ m' ∈ m :: members, Writable depth m'.2 ∧ ReadsBack style depth (d + 1) m'.2)
    (fuel i : Nat) (done : Entries) (rest : List Char)
    (hfuel : 2 * (write style (d + 1) m.2 ++ writeEntries style d (entriesOf members)
      ++ ['\x7d']).length ≤ fuel) :
    Yields (readMembers fuel depth done ⟨i, writeText m.1 ++ (':' :: ' ' :: (write style (d + 1) m.2
      ++ (writeEntries style d (entriesOf members) ++ (style.closing d ++ '\x7d' :: rest))))⟩)
      (setAll done (m :: members)) rest := by
  induction members generalizing m fuel i done with
  | nil =>
    obtain ⟨hm, hread⟩ := hmembers m List.mem_cons_self
    have hends : Ends (style.closing d ++ '\x7d' :: rest) := ends_gap (hstyle.closing d) rfl
    simp only [entriesOf, List.map_nil, writeEntries, List.append_nil, List.length_append,
      List.length_singleton] at hfuel
    obtain ⟨fuel, rfl⟩ : ∃ n, fuel = n + 1 := ⟨fuel - 1, by omega⟩
    obtain ⟨j, hmember⟩ := readMembers_member hm hread fuel hends (by omega) i done
    rw [entriesOf, List.map_nil, writeEntries, List.nil_append, hmember,
      skip_gap (hstyle.closing d) (solid_cons rfl _)]
    exact ⟨_, rfl⟩
  | cons next members ih =>
    obtain ⟨gap, hbetween, hgap⟩ := hstyle.between d
    obtain ⟨hm, hread⟩ := hmembers m List.mem_cons_self
    -- Behind the member, a comma and a gap lead to the name of the next one.
    have hentries : writeEntries style d (entriesOf (next :: members)) =
        ',' :: (gap ++ (writeText next.1 ++ (':' :: ' ' :: (write style (d + 1) next.2
          ++ writeEntries style d (entriesOf members))))) := by
      rw [entriesOf, List.map_cons, writeEntries, hbetween]
      simp [entriesOf]
    rw [hentries] at hfuel ⊢
    simp only [List.length_append, List.length_cons, List.length_nil] at hfuel
    obtain ⟨fuel, rfl⟩ : ∃ n, fuel = n + 1 := ⟨fuel - 1, by omega⟩
    obtain ⟨j, hmember⟩ := readMembers_member hm hread fuel (ends_cons (c := ',') rfl _)
      (by omega) i done
    obtain ⟨k, hrest⟩ := ih (fun m' hm' => hmembers m' (List.mem_cons_of_mem _ hm'))
      fuel (j + 1 + gap.length) (Value.insert done (.str m.1) m.2) (by simp; omega)
    rw [List.cons_append, hmember, skip_solid (solid_cons rfl _)]
    simp only [Cursor.advance, List.drop_succ_cons, List.drop_zero, List.append_assoc,
      List.cons_append]
    rw [skip_gap hgap (solid_text _ _), hrest]
    exact ⟨k, rfl⟩

end Containers

/-- Every written value has a character, so there is fuel to read it. -/
theorem readsBack_of_succ {style : Style} {depth d : Nat} {v : Value} (h : Writable depth v)
    (hread : ∀ (fuel i : Nat) (rest : List Char), Ends rest →
      2 * (write style d v).length ≤ fuel + 1 →
      Yields (readValue (fuel + 1) depth ⟨i, write style d v ++ rest⟩) v rest) :
    ReadsBack style depth d v := by
  intro fuel i rest hrest hfuel
  obtain ⟨first, tail, hfirst, -⟩ := starts_write style d h
  have hlength : 0 < (write style d v).length := by simp [hfirst]
  obtain ⟨fuel, rfl⟩ : ∃ n, fuel = n + 1 := ⟨fuel - 1, by omega⟩
  exact hread fuel i rest hrest hfuel

/-- A written list is read back if its items are. -/
theorem readsBack_list {style : Style} (hstyle : style.Spaced) {depth d : Nat} {items : List Value}
    (h : ∀ v ∈ items, Writable depth v) (hread : ∀ v ∈ items, ReadsBack style depth (d + 1) v) :
    ReadsBack style (depth + 1) d (.list items) := by
  refine readsBack_of_succ (.list h) fun fuel i rest hrest hfuel => ?_
  cases items with
  | nil =>
    rw [write, readValue.eq_4 _ _ _ _ rfl]
    exact ⟨_, rfl⟩
  | cons item items =>
    rw [write] at hfuel ⊢
    simp only [List.length_append, List.length_cons, List.length_nil] at hfuel
    have hitem := starts_write style (d + 1) (h item List.mem_cons_self)
    obtain ⟨k, hitems⟩ := readItems_write (d := d) hstyle (fun v hv => ⟨h v hv, hread v hv⟩) fuel
      (i + 1 + (style.opening d).length) rest (by simp; omega)
    simp only [List.cons_append, List.append_assoc, List.nil_append]
    rw [readValue.eq_4 _ _ _ _ rfl, Cursor.advance, List.drop_succ_cons, List.drop_zero,
      skip_gap (hstyle.opening d) (hitem.solid _)]
    split
    · next hclose => exact absurd hclose (hitem.ne_bracket _ _)
    · rw [hitems]
      exact ⟨k, rfl⟩

/-- A written mapping is read back if its members are. -/
theorem readsBack_map {style : Style} (hstyle : style.Spaced) {depth d : Nat} {members : Options}
    (hnames : (members.map Prod.fst).Nodup) (h : ∀ m ∈ members, Writable depth m.2)
    (hread : ∀ m ∈ members, ReadsBack style depth (d + 1) m.2) :
    ReadsBack style (depth + 1) d (.ofOptions members) := by
  refine readsBack_of_succ (.map hnames h) fun fuel i rest hrest hfuel => ?_
  cases members with
  | nil =>
    rw [Value.ofOptions, List.map_nil, write, readValue.eq_6 _ _ _ _ rfl]
    exact ⟨_, rfl⟩
  | cons m members =>
    have hwrite : write style d (.ofOptions (m :: members)) =
        '\x7b' :: (style.opening d ++ (writeText m.1 ++ (':' :: ' ' :: (write style (d + 1) m.2
          ++ (writeEntries style d (entriesOf members) ++ (style.closing d ++ ['\x7d'])))))) := by
      rw [Value.ofOptions, List.map_cons, write]
      simp [entriesOf]
    rw [hwrite] at hfuel ⊢
    simp only [List.length_append, List.length_cons, List.length_nil] at hfuel
    obtain ⟨k, hmembers⟩ := readMembers_write (d := d) hstyle
      (fun m' hm' => ⟨h m' hm', hread m' hm'⟩) fuel (i + 1 + (style.opening d).length) [] rest
      (by simp; omega)
    -- Names are not repeated, so that no member overwrites another.
    rw [setAll_nodup hnames] at hmembers
    simp only [List.cons_append, List.append_assoc, List.nil_append]
    rw [readValue.eq_6 _ _ _ _ rfl, Cursor.advance, List.drop_succ_cons, List.drop_zero,
      skip_gap (hstyle.opening d) (solid_text _ _)]
    split
    · next hclose => cases hclose
    · rw [hmembers]
      exact ⟨k, rfl⟩

/-- A written value is read back. -/
theorem readValue_write {style : Style} (hstyle : style.Spaced) {depth : Nat} {v : Value}
    (h : Writable depth v) (d : Nat) : ReadsBack style depth d v := by
  have hv := h
  -- On the value, with its line indented to any depth. Twice the length of the text is fuel enough.
  induction h generalizing d with
  | null =>
    refine readsBack_of_succ hv fun _ _ _ _ _ => ?_
    exact readValue_word (w := ['n', 'u', 'l', 'l']) (by rintro _ _ ⟨⟩; decide) fun rest => rfl
  | bool b =>
    refine readsBack_of_succ hv fun _ _ _ _ _ => ?_
    cases b with
    | false =>
      exact readValue_word (w := ['f', 'a', 'l', 's', 'e']) (by rintro _ _ ⟨⟩; decide)
        fun rest => rfl
    | true =>
      exact readValue_word (w := ['t', 'r', 'u', 'e']) (by rintro _ _ ⟨⟩; decide) fun rest => rfl
  | int h =>
    refine readsBack_of_succ hv fun _ i _ hrest _ => ?_
    obtain ⟨stop, hread⟩ := readNumber?_integer h i
    exact yields_number (readNumber?_append hrest hread i)
  | float h =>
    exact readsBack_of_succ hv fun _ _ _ hrest _ => yields_number (h.readNumber?_render hrest _)
  | str s =>
    refine readsBack_of_succ hv fun _ i rest _ _ => ?_
    rw [readValue.eq_2 _ _ _ _ rfl]
    exact readText_writeText s i rest
  | list h ih => exact readsBack_list hstyle h fun v hv => ih v hv (d + 1) (h v hv)
  | map hnames h ih => exact readsBack_map hstyle hnames h fun m hm => ih m hm (d + 1) (h m hm)

/-- A written document is read back. -/
theorem read_write {style : Style} (hstyle : style.Spaced) {v : Value} (h : Writable maxDepth v) :
    read (String.ofList (write style 0 v)) = .ok v := by
  have hstarts := starts_write style 0 h
  obtain ⟨first, tail, hfirst, hgap, -, hmark⟩ := hstarts
  obtain ⟨k, hread⟩ := readValue_write hstyle h 0 (2 * (write style 0 v).length + 2) 0 []
    (by rintro c ⟨⟩) (by omega)
  rw [List.append_nil] at hread
  have hsolid : Solid (write style 0 v) := hfirst ▸ solid_cons hgap tail
  rw [Json.read, String.toList_ofList]
  dsimp only
  split
  · next tail' heq => exact absurd (List.cons.inj (hfirst.symm.trans heq)).1 hmark
  · rw [skip_solid hsolid, hread]
    rfl

/-- A document with every part on a line of its own is read back. -/
theorem read_pretty {v : Value} (h : Writable maxDepth v) : read (pretty v) = .ok v :=
  read_write Style.spaced_indented h

/-- A document on one line is read back. -/
theorem read_compact {v : Value} (h : Writable maxDepth v) : read (compact v) = .ok v :=
  read_write Style.spaced_line h

end IndexSync.Json
