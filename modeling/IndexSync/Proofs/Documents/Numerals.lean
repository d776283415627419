import IndexSync.Json.Printer
import IndexSync.Json.Reader
import IndexSync.Proofs.Digits
import IndexSync.Proofs.Documents.Escapes
import Mathlib.Algebra.Group.Nat.Defs
import Mathlib.Data.List.TakeWhile

/-!
# Numbers in documents

Where a number ends is seen from the characters behind it. In front of characters that cannot go on
with it, a number is read as it is read alone.

* `Json.readNumber?_append` — what follows a number does not change it;
* `Json.readNumber?_integer` — a written integer is read back, unless it has too many digits;
* `Json.Legible` — a double whose written form is read back by itself;
* `Json.Legible.readNumber?_render` — so it is in front of other characters.
-/

namespace IndexSync.Json

open Decimal (Double Layout)

/-- A character that may go on with a number. -/
def isNumeral (c : Char) : Bool :=
  isDigit c || c == '.' || c == 'e' || c == 'E' || c == '+' || c == '-'

/-- Characters that do not go on with a number in front of them. -/
def Ends (rest : List Char) : Prop := ∀ c ∈ rest.head?, isNumeral c = false

/-- What follows a number differs from every character that goes on with it. -/
theorem Ends.ne {c d : Char} {rest : List Char} (h : Ends (c :: rest)) (hd : isNumeral d = true) :
    c ≠ d := by
  rintro rfl
  rw [h c rfl] at hd
  exact Bool.false_ne_true hd

/-! ### The parts of a number -/

section Parts

variable {rest : List Char} (hrest : Ends rest)

include hrest

theorem leadingDigits_append (cs : List Char) : leadingDigits (cs ++ rest) = leadingDigits cs := by
  have hnone : leadingDigits rest = [] := by
    cases rest with
    | nil => rfl
    | cons c tail =>
      have hc := hrest c rfl
      simp only [isNumeral, Bool.or_eq_false_iff] at hc
      simp [leadingDigits, hc]
  induction cs with
  | nil => exact hnone
  | cons c cs ih =>
    simp only [leadingDigits, List.cons_append, List.takeWhile_cons] at ih ⊢
    rw [ih]

theorem wholePart_append (cs : List Char) : wholePart (cs ++ rest) = wholePart cs := by
  cases cs with
  | nil =>
    have hdigits := leadingDigits_append hrest []
    cases rest with
    | nil => rfl
    | cons c tail =>
      have hc : c ≠ '0' := hrest.ne (by decide)
      simpa [wholePart, hc] using hdigits
  | cons c cs =>
    by_cases hc : c = '0'
    · rw [hc]
      rfl
    · simpa [wholePart, hc] using leadingDigits_append hrest (c :: cs)

theorem decimals_append (cs : List Char) : decimals (cs ++ rest) = decimals cs := by
  cases cs with
  | nil =>
    cases rest with
    | nil => rfl
    | cons c tail =>
      have hc : c ≠ '.' := hrest.ne (by decide)
      simp [decimals, hc]
  | cons c cs =>
    by_cases hc : c = '.'
    · rw [hc]
      exact leadingDigits_append hrest cs
    · simp [decimals, hc]

theorem takeSign_append (cs : List Char) :
    Text.takeSign (cs ++ rest) = ((Text.takeSign cs).1, (Text.takeSign cs).2 ++ rest) := by
  cases cs with
  | nil =>
    cases rest with
    | nil => rfl
    | cons c tail =>
      have hminus : c ≠ '-' := hrest.ne (by decide)
      have hplus : c ≠ '+' := hrest.ne (by decide)
      simp [Text.takeSign, hminus, hplus]
  | cons c cs =>
    by_cases hminus : c = '-'
    · simp [Text.takeSign, hminus]
    · by_cases hplus : c = '+'
      · simp [Text.takeSign, hplus]
      · simp [Text.takeSign, hminus, hplus]

theorem powerPart_append (cs : List Char) : powerPart (cs ++ rest) = powerPart cs := by
  cases cs with
  | nil =>
    cases rest with
    | nil => rfl
    | cons c tail =>
      have hlower : c ≠ 'e' := hrest.ne (by decide)
      have hupper : c ≠ 'E' := hrest.ne (by decide)
      simp [powerPart, hlower, hupper]
  | cons c cs =>
    rw [List.cons_append, powerPart, powerPart]
    simp only [takeSign_append hrest, leadingDigits_append hrest, List.length_append,
      Nat.add_sub_add_right]

end Parts

/-! ### Numbers in front of other characters -/

theorem length_leadingDigits_le (cs : List Char) : (leadingDigits cs).length ≤ cs.length :=
  (List.takeWhile_sublist _).length_le

theorem length_wholePart_le (cs : List Char) : (wholePart cs).length ≤ cs.length := by
  unfold wholePart
  split
  · simp
  · exact length_leadingDigits_le cs

/-- The point and the digits behind it lie within the characters they are read from. -/
theorem length_decimals_le (cs : List Char) :
    (if (decimals cs).isEmpty then 0 else (decimals cs).length + 1) ≤ cs.length := by
  unfold decimals
  split
  · split
    · exact Nat.zero_le _
    · exact Nat.succ_le_succ (length_leadingDigits_le _)
  · exact Nat.zero_le _

theorem length_powerPart_le {cs ds : List Char} {minus : Bool} {n : Nat}
    (h : powerPart cs = some (minus, ds, n)) : n ≤ cs.length := by
  cases cs with
  | nil => cases h
  | cons c cs =>
    have hbody : (Text.takeSign cs).2.length ≤ cs.length := by
      unfold Text.takeSign
      split <;> simp
    rw [powerPart] at h
    split at h
    · dsimp only at h
      split at h
      · cases h
      · cases h
        have hdigits := length_leadingDigits_le (Text.takeSign cs).2
        rw [List.length_cons]
        omega
    · cases h

/-- What is read behind the sign of a number, and how many characters it takes. -/
def magnitude? (negative : Bool) (body : List Char) : Option (Except Error Value × Nat) :=
  let whole := wholePart body
  let places := decimals (body.drop whole.length)
  let placesLength := if places.isEmpty then 0 else places.length + 1
  if whole.isEmpty then none
  else match powerPart ((body.drop whole.length).drop placesLength) with
    | none =>
      if places.isEmpty then
        if whole.length ≤ Text.maxDigits then
          some (.ok (.int (Text.signed negative (Text.ofDigits (digitValues whole)))), whole.length)
        else some (.error (.tooLong whole.length), 0)
      else
        let f : Decimal.Fraction :=
          ⟨negative, digitValues (whole ++ places), -(places.length : Int)⟩
        some (.ok (.float f.toDouble), whole.length + placesLength)
    | some (minus, ds, n) =>
      let exponent := Text.signed minus (Text.ofDigits (digitValues ds))
      let f : Decimal.Fraction :=
        ⟨negative, digitValues (whole ++ places), exponent - (places.length : Int)⟩
      some (.ok (.float f.toDouble), whole.length + placesLength + n)

/-- The sign of a number: whether there is one, what stands behind it, and how long it is. -/
def takeMinus : List Char → Bool × List Char × Nat
  | '-' :: body => (true, body, 1)
  | cs => (false, cs, 0)

/-- A number is a sign and what is read behind it. -/
theorem readNumber?_eq (c : Cursor) :
    readNumber? c =
      (magnitude? (takeMinus c.rest).1 (takeMinus c.rest).2.1).map fun found =>
        found.1.map (·, c.advance ((takeMinus c.rest).2.2 + found.2)) := by
  obtain ⟨index, cs⟩ := c
  unfold readNumber? magnitude?
  dsimp only
  split
  -- With and without a minus, the rest is read in the same way.
  case' h_1 => rw [takeMinus.eq_1]
  case' h_2 hcs => rw [takeMinus.eq_2 _ hcs]
  all_goals
    dsimp only
    cases (wholePart _).isEmpty with
    | true => rfl
    | false =>
      simp only [Bool.false_eq_true, ↓reduceIte]
      cases powerPart _ with
      | some power => simp [Except.map, Cursor.advance, Nat.add_assoc]
      | none =>
        cases hplaces : (decimals _).isEmpty with
        | true =>
          simp only [Option.isNone_none, Bool.and_true, ↓reduceIte]
          split
          · simp [Except.map]
          · rfl
        | false => simp [Except.map, Cursor.advance, Nat.add_assoc]

/-- A number lies within the characters it is read from. -/
theorem magnitude?_length_le {negative : Bool} {body : List Char} {r : Except Error Value} {n : Nat}
    (h : magnitude? negative body = some (r, n)) : n ≤ body.length := by
  have hwhole := length_wholePart_le body
  have hplaces := length_decimals_le (body.drop (wholePart body).length)
  unfold magnitude? at h
  dsimp only at h
  -- The parts of a number follow each other, so that their lengths add up.
  rw [List.length_drop] at hplaces
  split at h
  · cases h
  · split at h
    · split at h
      · split at h
        · cases h
          exact hwhole
        · cases h
          exact Nat.zero_le _
      · next hsome =>
        cases h
        rw [if_neg hsome] at hplaces
        omega
    · next hpower =>
      cases h
      have hle := length_powerPart_le hpower
      rw [List.length_drop, List.length_drop] at hle
      omega

/-- What follows a number does not change what is read. -/
theorem magnitude?_append {rest : List Char} (hrest : Ends rest) (negative : Bool)
    (body : List Char) : magnitude? negative (body ++ rest) = magnitude? negative body := by
  have hwhole := length_wholePart_le body
  have hplaces := length_decimals_le (body.drop (wholePart body).length)
  unfold magnitude?
  rw [wholePart_append hrest]
  dsimp only
  rw [List.drop_append_of_le_length hwhole, decimals_append hrest,
    List.drop_append_of_le_length hplaces, powerPart_append hrest]

theorem takeMinus_append {rest : List Char} (hrest : Ends rest) (cs : List Char) :
    takeMinus (cs ++ rest) =
      ((takeMinus cs).1, (takeMinus cs).2.1 ++ rest, (takeMinus cs).2.2) := by
  cases cs with
  | nil =>
    cases rest with
    | nil => rfl
    | cons c tail =>
      have hc : c ≠ '-' := hrest.ne (by decide)
      simp [takeMinus, hc]
  | cons c cs =>
    by_cases hc : c = '-'
    · simp [takeMinus, hc]
    · simp [takeMinus, hc]

theorem takeMinus_length (cs : List Char) :
    (takeMinus cs).2.2 + (takeMinus cs).2.1.length = cs.length := by
  unfold takeMinus
  split
  · simp [Nat.add_comm]
  · simp

/-- A number is read in front of other characters as it is read alone, wherever it is. -/
theorem readNumber?_append {cs rest tail : List Char} (hrest : Ends rest) {v : Value}
    {i stop : Nat} (h : readNumber? ⟨i, cs⟩ = some (.ok (v, ⟨stop, tail⟩))) (j : Nat) :
    ∃ stop', readNumber? ⟨j, cs ++ rest⟩ = some (.ok (v, ⟨stop', tail ++ rest⟩)) := by
  rw [readNumber?_eq, Option.map_eq_some_iff] at h
  obtain ⟨⟨r, n⟩, hmagnitude, hread⟩ := h
  cases r with
  | error e => cases hread
  | ok v =>
    have hlength := magnitude?_length_le hmagnitude
    have hsign := takeMinus_length cs
    simp only [Except.map, Cursor.advance, Except.ok.injEq, Prod.mk.injEq, Cursor.mk.injEq] at hread
    obtain ⟨rfl, -, htail⟩ := hread
    dsimp only at hmagnitude hlength
    refine ⟨j + ((takeMinus cs).2.2 + n), ?_⟩
    rw [readNumber?_eq]
    simp only [takeMinus_append hrest, magnitude?_append hrest, hmagnitude, Option.map_some,
      Except.map, Cursor.advance]
    rw [List.drop_append_of_le_length (by omega), htail]

/-- A number starts with a digit, or with a minus and a digit. -/
theorem starts_of_readNumber? {i : Nat} {cs : List Char} {r : Read Value}
    (h : readNumber? ⟨i, cs⟩ = some r) :
    ∃ c tail, isDigit c = true ∧ (cs = c :: tail ∨ cs = '-' :: c :: tail) := by
  -- Without a digit in front there is no whole part, and without that there is no number.
  have hbody : ∀ {negative : Bool} {body : List Char} {found : Except Error Value × Nat},
      magnitude? negative body = some found → ∃ c tail, isDigit c = true ∧ body = c :: tail := by
    intro negative body found hfound
    cases body with
    | nil => cases hfound
    | cons c tail =>
      cases hc : isDigit c with
      | true => exact ⟨c, tail, hc, rfl⟩
      | false =>
        have hzero : c ≠ '0' := by
          rintro rfl
          cases hc
        have hempty : wholePart (c :: tail) = [] := by
          simp [wholePart, leadingDigits, hzero, hc]
        simp [magnitude?, hempty] at hfound
  rw [readNumber?_eq, Option.map_eq_some_iff] at h
  obtain ⟨found, hmagnitude, -⟩ := h
  obtain ⟨c, tail, hc, hcs⟩ := hbody hmagnitude
  refine ⟨c, tail, hc, ?_⟩
  rw [← hcs]
  dsimp only
  unfold takeMinus
  split
  · exact .inr rfl
  · exact .inl rfl

/-- A number is none of the words. -/
theorem readWord?_of_readNumber? {i : Nat} {cs : List Char} {r : Read Value}
    (h : readNumber? ⟨i, cs⟩ = some r) : readWord? ⟨i, cs⟩ = none := by
  obtain ⟨c, tail, hc, hcs⟩ := starts_of_readNumber? h
  have hne : ∀ d, isDigit d = false → d ≠ c := by
    rintro d hd rfl
    rw [hd] at hc
    exact Bool.false_ne_true hc
  rcases hcs with rfl | rfl
  · simp [readWord?, words, List.isPrefixOf, hne 'n' rfl, hne 't' rfl, hne 'f' rfl, hne 'N' rfl,
      hne 'I' rfl, hne '-' rfl]
  · simp [readWord?, words, List.isPrefixOf, hne 'I' rfl]

/-- What is neither a text nor a container is a word or a number. -/
theorem readValue_scalar {fuel depth : Nat} {c : Cursor}
    (h : ∀ first tail, c.rest = first :: tail → first ≠ '"' ∧ first ≠ '[' ∧ first ≠ '\x7b') :
    readValue (fuel + 1) depth c =
      match readWord? c with
      | some found => .ok found
      | none => (readNumber? c).getD (refuse .value c.index) :=
  readValue.eq_7 c fuel depth (fun _ heq => (h _ _ heq).1 rfl) (fun _ heq _ => (h _ _ heq).2.1 rfl)
    (fun _ _ heq _ => (h _ _ heq).2.1 rfl) (fun _ heq _ => (h _ _ heq).2.2 rfl)
    (fun _ _ heq _ => (h _ _ heq).2.2 rfl)

/-- Where a number starts, it is the value that is read. -/
theorem readValue_number {fuel depth i : Nat} {cs : List Char} {r : Read Value}
    (h : readNumber? ⟨i, cs⟩ = some r) : readValue (fuel + 1) depth ⟨i, cs⟩ = r := by
  have hfirst : ∀ first tail, cs = first :: tail →
      first ≠ '"' ∧ first ≠ '[' ∧ first ≠ '\x7b' := by
    rintro first tail rfl
    obtain ⟨c, digits, hc, hcs⟩ := starts_of_readNumber? h
    rcases hcs with heq | heq
    · obtain ⟨rfl, -⟩ := List.cons.inj heq
      refine ⟨?_, ?_, ?_⟩ <;> (rintro rfl; cases hc)
    · obtain ⟨rfl, -⟩ := List.cons.inj heq
      decide
  rw [readValue_scalar hfirst, readWord?_of_readNumber? h, h]
  rfl

/-! ### Integers -/

/-- A written number consists of digits of a document. -/
theorem isDigit_of_mem_toDigits {n : Nat} {c : Char} (h : c ∈ Nat.toDigits 10 n) :
    isDigit c = true := by
  obtain ⟨d, hd, rfl⟩ := Text.exists_digitChar (by decide) h
  have hall : ∀ d < 10, isDigit (Nat.digitChar d) = true := by decide
  exact hall d hd

/-- Only zero is written with a zero in front. -/
theorem toDigits_head {n : Nat} {tail : List Char} (h : Nat.toDigits 10 n = '0' :: tail) :
    tail = [] := by
  have hpos : ∀ m, 0 < m → ∀ tail, Nat.toDigits 10 m ≠ '0' :: tail := by
    intro m
    -- The first digit of a number is that of its tenth, unless it has one digit only.
    induction m using Nat.strongRecOn with
    | ind m ih =>
      intro hm tail
      rw [Nat.toDigits_eq_if (by decide)]
      split
      · next hlt =>
        have hall : ∀ d < 10, 0 < d → Nat.digitChar d ≠ '0' := by decide
        exact fun heq => hall m hlt hm (List.cons.inj heq).1
      · next hge =>
        have hquotient := ih (m / 10) (Nat.div_lt_self hm (by decide)) (by omega)
        cases hdigits : Nat.toDigits 10 (m / 10) with
        | nil => exact absurd hdigits Nat.toDigits_ne_nil
        | cons c cs =>
          intro heq
          exact hquotient cs (by rw [hdigits, (List.cons.inj heq).1])
  rcases Nat.eq_zero_or_pos n with rfl | hn
  · exact (List.cons.inj h).2.symm
  · exact absurd h (hpos n hn tail)

/-- The whole part of a written number is all of it. -/
theorem wholePart_toDigits (n : Nat) : wholePart (Nat.toDigits 10 n) = Nat.toDigits 10 n := by
  unfold wholePart
  split
  · next hzero => rw [hzero, toDigits_head hzero]
  · exact List.takeWhile_eq_self_iff.2 fun c hc => isDigit_of_mem_toDigits hc

/-- A written number has the value it was written for. -/
theorem ofDigits_toDigits (n : Nat) : Text.ofDigits (digitValues (Nat.toDigits 10 n)) = n := by
  have h := Nat.ofDigitChars_ten_toDigits (n := n)
  rw [Nat.ofDigitChars_eq_foldl] at h
  rw [Text.ofDigits, digitValues, List.foldl_map]
  simpa [Nat.mul_comm] using h

/-- An integer that is not too long to be read. -/
def Sized (n : Int) : Prop := n.natAbs < 10 ^ Text.maxDigits

/-- A power can be read if the digits of its base, taken as often, are not too many. -/
theorem sized_pow {base n : Nat} (digits : Nat) (hbase : base < 10 ^ digits) (hn : n ≠ 0)
    (h : digits * n ≤ Text.maxDigits) : Sized (base ^ n : Nat) := by
  have hlt : base ^ n < 10 ^ (digits * n) := by
    rw [Nat.pow_mul]
    exact Nat.pow_lt_pow_left hbase hn
  exact Nat.lt_of_lt_of_le hlt (Nat.pow_le_pow_right (by decide) h)

/-- A written magnitude is read back. -/
theorem magnitude?_toDigits {n : Nat} (h : n < 10 ^ Text.maxDigits) (negative : Bool) :
    magnitude? negative (Nat.toDigits 10 n) =
      some (.ok (.int (Text.signed negative n)), (Nat.toDigits 10 n).length) := by
  have hlength : (Nat.toDigits 10 n).length ≤ Text.maxDigits :=
    (Nat.length_toDigits_le_iff (by decide) (by decide)).2 h
  have hsome : (Nat.toDigits 10 n).isEmpty = false := by simp [Nat.toDigits_ne_nil]
  unfold magnitude?
  rw [wholePart_toDigits]
  dsimp only
  rw [hsome, List.drop_length, ofDigits_toDigits]
  simp [decimals, powerPart, hlength]

theorem toList_toString_ofNat (n : Nat) :
    (toString (Int.ofNat n)).toList = Nat.toDigits 10 n := by
  change (toString n).toList = _
  rw [Nat.toString_eq_ofList_toDigits, String.toList_ofList]

theorem toList_toString_negSucc (n : Nat) :
    (toString (Int.negSucc n)).toList = '-' :: Nat.toDigits 10 (n + 1) := by
  change ("-" ++ toString (n + 1)).toList = _
  rw [Nat.toString_eq_ofList_toDigits, String.toList_append]
  simp

/-- A written integer is read back. -/
theorem readNumber?_integer {n : Int} (h : Sized n) (i : Nat) :
    ∃ stop, readNumber? ⟨i, (toString n).toList⟩ = some (.ok (.int n, ⟨stop, []⟩)) := by
  cases n with
  | ofNat n =>
    have hminus : takeMinus (Nat.toDigits 10 n) = (false, Nat.toDigits 10 n, 0) := by
      refine takeMinus.eq_2 _ fun body heq => ?_
      have hdigit := isDigit_of_mem_toDigits (heq ▸ List.mem_cons_self)
      exact absurd hdigit (by decide)
    have hmagnitude := magnitude?_toDigits (n := n) h false
    rw [readNumber?_eq, toList_toString_ofNat]
    dsimp only
    rw [hminus, hmagnitude]
    simp [Except.map, Cursor.advance, Text.signed]
  | negSucc n =>
    have hmagnitude := magnitude?_toDigits (n := n + 1) h true
    rw [readNumber?_eq, toList_toString_negSucc]
    dsimp only
    rw [takeMinus, hmagnitude]
    simp [Except.map, Cursor.advance, Text.signed, Int.negSucc_eq, Nat.add_comm]

/-! ### Doubles -/

/-- Characters that may all go on with a number. -/
def Numeral (cs : List Char) : Prop := ∀ c ∈ cs, isNumeral c = true

theorem Numeral.append {cs ds : List Char} (hcs : Numeral cs) (hds : Numeral ds) :
    Numeral (cs ++ ds) := fun c hc => (List.mem_append.1 hc).elim (hcs c) (hds c)

theorem Numeral.cons {c : Char} {cs : List Char} (hc : isNumeral c = true) (hcs : Numeral cs) :
    Numeral (c :: cs) := List.forall_mem_cons.2 ⟨hc, hcs⟩

theorem numeral_zeros (n : Nat) : Numeral (List.replicate n '0') :=
  fun _ hc => (List.eq_of_mem_replicate hc).symm ▸ rfl

theorem numeral_toDigits (n : Nat) : Numeral (Nat.toDigits 10 n) := by
  intro c hc
  simp [isNumeral, isDigit_of_mem_toDigits hc]

/-- A written integer has characters of numbers only. -/
theorem numeral_integer (n : Int) : Numeral (toString n).toList := by
  cases n with
  | ofNat n => exact toList_toString_ofNat n ▸ numeral_toDigits n
  | negSucc n => exact toList_toString_negSucc n ▸ .cons rfl (numeral_toDigits (n + 1))

theorem Numeral.stripZeros {ds : List Char} (h : Numeral ds) : Numeral (Decimal.stripZeros ds) := by
  unfold Decimal.stripZeros
  split
  · exact numeral_zeros 1
  · intro c hc
    have hmem := (List.dropWhile_sublist _).subset (List.mem_reverse.1 hc)
    exact h c (List.mem_reverse.1 hmem)

theorem Numeral.positional {ds : List Char} (h : Numeral ds) (point : Int) :
    Numeral (Decimal.positional ds point) := by
  unfold Decimal.positional
  split
  · exact .cons rfl (.cons rfl ((numeral_zeros _).append h))
  · split
    · exact (h.append (numeral_zeros _)).append (.cons rfl (.cons rfl nofun))
    · exact .append (fun c hc => h c (List.mem_of_mem_take hc))
        (.cons rfl fun c hc => h c (List.mem_of_mem_drop hc))

theorem Numeral.withPower {ds : List Char} (h : Numeral ds) (width : Nat) (power : Int) :
    Numeral (Decimal.withPower width ds power) := by
  unfold Decimal.withPower
  refine .append ?_ (.cons rfl (.cons ?_ ((numeral_zeros _).append (numeral_toDigits _))))
  · split
    · exact numeral_zeros 1
    · exact h
    · obtain ⟨hd, hrest⟩ := List.forall_mem_cons.1 h
      exact .cons hd (.cons rfl hrest)
  · split <;> rfl

/-- A double is finite. -/
def Finite (x : Double) : Prop := ∃ negative m e, x = .finite negative m e

/-- The written form of a finite double has characters of numbers only. -/
theorem numeral_render {x : Double} (h : Finite x) : Numeral (Layout.document.render x).toList := by
  obtain ⟨negative, m, e, rfl⟩ := h
  -- Zero, the positional form and the one with a power, all without the sign.
  have hbody : Numeral (if m = 0 then ['0', '.', '0']
      else
        let x := Decimal.shortest m e
        let ds := Nat.toDigits 10 x.digits
        let point : Int := ds.length + x.exponent
        if -Layout.document.maxZeros < point ∧ point ≤ Layout.document.maxWhole then
          Decimal.positional (Decimal.stripZeros ds) point
        else
          Decimal.withPower Layout.document.powerWidth (Decimal.stripZeros ds) (point - 1)) := by
    split
    · exact .cons rfl (.cons rfl (numeral_zeros 1))
    · dsimp only
      split
      · exact (numeral_toDigits _).stripZeros.positional _
      · exact (numeral_toDigits _).stripZeros.withPower _ _
  rw [Layout.render, String.toList_ofList]
  split
  · exact .cons rfl hbody
  · exact hbody

/-- A finite double whose written form is read back as the double. -/
structure Legible (x : Double) : Prop where
  finite : Finite x
  read : read (Layout.document.render x) = .ok (.float x)

/-- There is no gap in front of characters of numbers. -/
theorem Numeral.skip {cs : List Char} (h : Numeral cs) (i : Nat) :
    Cursor.skip ⟨i, cs⟩ = ⟨i, cs⟩ := by
  cases cs with
  | nil => rfl
  | cons c cs =>
    have hgap : isGap c = false := by
      have hc := h c List.mem_cons_self
      by_contra hgap
      simp only [isGap, Bool.not_eq_false, Bool.or_eq_true, beq_iff_eq] at hgap
      rcases hgap with ((rfl | rfl) | rfl) | rfl <;> exact absurd hc (by decide)
    simp [Cursor.skip, Cursor.advance, hgap]

/-- The words are no finite doubles. -/
theorem readWord?_finite {c : Cursor} {x : Double} (h : Finite x) {cur : Cursor} :
    readWord? c ≠ some (.float x, cur) := by
  intro hword
  rw [readWord?, Option.map_eq_some_iff] at hword
  obtain ⟨⟨w, v⟩, hfind, heq⟩ := hword
  have hv : v = .float x := congrArg Prod.fst heq
  have hmem := List.mem_of_find?_eq_some hfind
  obtain ⟨negative, m, e, rfl⟩ := h
  simp [words, hv] at hmem

/-- What is left behind a number is the end of what the number is read from. -/
theorem readNumber?_rest {i : Nat} {cs : List Char} {v : Value} {cur : Cursor}
    (h : readNumber? ⟨i, cs⟩ = some (.ok (v, cur))) : cur.rest ⊆ cs := by
  rw [readNumber?_eq, Option.map_eq_some_iff] at h
  obtain ⟨⟨r, n⟩, -, hread⟩ := h
  cases r with
  | error e => cases hread
  | ok v =>
    simp only [Except.map, Except.ok.injEq, Prod.mk.injEq] at hread
    rw [← hread.2]
    exact List.drop_subset _ _

/-- A legible double is read back by itself. -/
theorem Legible.readNumber? {x : Double} (h : Legible x) :
    ∃ stop, Json.readNumber? ⟨0, (Layout.document.render x).toList⟩ =
      some (.ok (.float x, ⟨stop, []⟩)) := by
  have hnumeral := numeral_render h.finite
  have hread := h.read
  rw [Json.read] at hread
  generalize (Layout.document.render x).toList = cs at hnumeral hread ⊢
  dsimp only at hread
  rw [hnumeral.skip] at hread
  -- A numeral starts neither a text nor a list nor a mapping, and it is no word.
  have hfirst : ∀ first tail, cs = first :: tail →
      first ≠ '"' ∧ first ≠ '[' ∧ first ≠ '\x7b' := by
    rintro first tail rfl
    have hc := hnumeral first List.mem_cons_self
    refine ⟨?_, ?_, ?_⟩ <;> (rintro rfl; exact absurd hc (by decide))
  rw [readValue_scalar hfirst] at hread
  split at hread
  · cases hread
  · cases hword : readWord? ⟨0, cs⟩ with
    | some found =>
      obtain ⟨v, cur⟩ := found
      simp only [hword] at hread
      split at hread
      · exact absurd (Except.ok.inj hread ▸ hword) (readWord?_finite h.finite)
      · cases hread
    | none =>
      simp only [hword] at hread
      cases hnumber : Json.readNumber? ⟨0, cs⟩ with
      | none =>
        simp only [hnumber] at hread
        cases hread
      | some r =>
        simp only [hnumber, Option.getD_some] at hread
        cases r with
        | error e => cases hread
        | ok found =>
          obtain ⟨v, index, rest⟩ := found
          -- What is left has no blanks to be skipped, and so there is nothing left.
          have hrest : Numeral rest := fun c hc => hnumeral c (readNumber?_rest hnumber hc)
          simp only [hrest.skip] at hread
          split at hread
          · next hempty =>
            obtain rfl := Except.ok.inj hread
            obtain rfl := List.isEmpty_iff.1 hempty
            exact ⟨index, rfl⟩
          · cases hread

/-- A legible double is read back in front of other characters, wherever it is. -/
theorem Legible.readNumber?_render {x : Double} (h : Legible x) {rest : List Char}
    (hrest : Ends rest) (i : Nat) :
    ∃ stop, Json.readNumber? ⟨i, (Layout.document.render x).toList ++ rest⟩ =
      some (.ok (.float x, ⟨stop, rest⟩)) := by
  obtain ⟨stop, hread⟩ := h.readNumber?
  exact readNumber?_append hrest hread i

end IndexSync.Json
