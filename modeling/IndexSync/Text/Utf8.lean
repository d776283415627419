import IndexSync.Text.Quoted

/-!
# UTF-8

Encoding of a text as bytes and strict decoding. Decoding refuses at the first malformed sequence
and reports where it starts, how many bytes of it were acceptable, and why it is malformed.
-/

namespace IndexSync.Text.Utf8

/-- The bytes of one character. -/
def encodeChar (c : Char) : List UInt8 :=
  let n := c.toNat
  if n < 0x80 then [n.toUInt8]
  else if n < 0x800 then [(0xc0 + n / 64).toUInt8, (0x80 + n % 64).toUInt8]
  else if n < 0x10000 then
    [(0xe0 + n / 4096).toUInt8, (0x80 + n / 64 % 64).toUInt8, (0x80 + n % 64).toUInt8]
  else
    [(0xf0 + n / 262144).toUInt8, (0x80 + n / 4096 % 64).toUInt8, (0x80 + n / 64 % 64).toUInt8,
     (0x80 + n % 64).toUInt8]

/-- The bytes of a text. -/
def encode (s : String) : List UInt8 := s.toList.flatMap encodeChar

/-- Why a byte sequence is no UTF-8. -/
inductive Reason where
  /-- The byte cannot begin a character. -/
  | invalidStart
  /-- A byte inside a character does not continue it. -/
  | invalidContinuation
  /-- The data ends inside a character. -/
  | unexpectedEnd
  deriving DecidableEq, Repr

/-- The wording of a reason. -/
def Reason.message : Reason → String
  | .invalidStart => "invalid start byte"
  | .invalidContinuation => "invalid continuation byte"
  | .unexpectedEnd => "unexpected end of data"

/-- A malformed sequence in a byte string. -/
structure Error where
  /-- Index of the first byte of the sequence. -/
  start : Nat
  /-- Number of bytes of the sequence, at least one. -/
  length : Nat
  /-- The first byte of the sequence. -/
  byte : UInt8
  /-- What is wrong with it. -/
  reason : Reason
  deriving DecidableEq, Repr

/-- The wording of a decoding error. -/
def Error.message (e : Error) : String :=
  if e.length = 1 then
    "'utf-8' codec can't decode byte 0x" ++ String.ofList (hexDigits 2 e.byte.toNat)
      ++ " in position " ++ toString e.start ++ ": " ++ e.reason.message
  else
    "'utf-8' codec can't decode bytes in position " ++ toString e.start ++ "-"
      ++ toString (e.start + e.length - 1) ++ ": " ++ e.reason.message

/-- What a first byte announces: the bits it contributes and the ranges of the bytes to follow. -/
def lead? (b : UInt8) : Option (Nat × List (Nat × Nat)) :=
  let n := b.toNat
  if n < 0x80 then some (n, [])
  -- Bytes below this continue a character, or would write an ASCII one in two bytes.
  else if n < 0xc2 then none
  else if n < 0xe0 then some (n - 0xc0, [(0x80, 0xbf)])
  else if n = 0xe0 then some (0, [(0xa0, 0xbf), (0x80, 0xbf)])
  -- The halves of surrogate pairs are left out.
  else if n = 0xed then some (0xd, [(0x80, 0x9f), (0x80, 0xbf)])
  else if n < 0xf0 then some (n - 0xe0, [(0x80, 0xbf), (0x80, 0xbf)])
  else if n = 0xf0 then some (0, [(0x90, 0xbf), (0x80, 0xbf), (0x80, 0xbf)])
  else if n < 0xf4 then some (n - 0xf0, [(0x80, 0xbf), (0x80, 0xbf), (0x80, 0xbf)])
  -- Nothing above the last code point.
  else if n = 0xf4 then some (4, [(0x80, 0x8f), (0x80, 0xbf), (0x80, 0xbf)])
  else none

/-- Read the bytes that continue a character. The count is of bytes accepted before a failure. -/
def continuation (acc : Nat) : List (Nat × Nat) → List UInt8 →
    Except (Nat × Reason) (Nat × List UInt8)
  | [], bytes => .ok (acc, bytes)
  | _ :: _, [] => .error (0, .unexpectedEnd)
  | r :: ranges, b :: bytes =>
    if r.1 ≤ b.toNat ∧ b.toNat ≤ r.2 then
      match continuation (acc * 64 + (b.toNat - 0x80)) ranges bytes with
      | .ok result => .ok result
      | .error (n, why) => .error (n + 1, why)
    else .error (0, .invalidContinuation)

theorem continuation_length {acc : Nat} {ranges : List (Nat × Nat)} {bytes rest : List UInt8}
    {n : Nat} (h : continuation acc ranges bytes = .ok (n, rest)) :
    rest.length ≤ bytes.length := by
  induction ranges generalizing acc bytes with
  | nil => simp [continuation] at h; simp [h.2]
  | cons r ranges ih =>
    cases bytes with
    | nil => simp [continuation] at h
    | cons b bytes =>
      rw [continuation] at h
      split at h
      · split at h
        · next result hr =>
          cases h
          have := ih hr
          simp; omega
        · cases h
      · cases h

/-- Decode from the byte at index `pos` on. -/
def decodeFrom (pos : Nat) (bytes : List UInt8) : Except Error (List Char) :=
  match bytes with
  | [] => .ok []
  | b :: rest =>
    match lead? b with
    | none => .error ⟨pos, 1, b, .invalidStart⟩
    | some (bits, ranges) =>
      match h : continuation bits ranges rest with
      | .error (n, why) => .error ⟨pos, n + 1, b, why⟩
      | .ok (code, rest') =>
        match decodeFrom (pos + 1 + ranges.length) rest' with
        | .ok cs => .ok (Char.ofNat code :: cs)
        | .error e => .error e
  termination_by bytes.length
  decreasing_by
    have := continuation_length h
    simp; omega

/-- Decode a byte string; the error is the first malformed sequence. -/
def decode (bytes : List UInt8) : Except Error String :=
  (decodeFrom 0 bytes).map String.ofList

end IndexSync.Text.Utf8
