/-!
# Scripts

A script answers questions in order. Once its last answer has been reached, that answer is given
ever after, so a script never runs dry.
-/

namespace IndexSync

/-- Answers given one per question, the last one repeating. -/
structure Script (α : Type) where
  /-- The answer to the next question. -/
  next : α
  /-- The answers to the questions after it. -/
  later : List α := []

namespace Script

variable {α : Type}

/-- The script that gives one answer ever after. -/
def always (a : α) : Script α := ⟨a, []⟩

/-- The script of a list of answers. -/
def ofList? : List α → Option (Script α)
  | [] => none
  | a :: rest => some ⟨a, rest⟩

/-- The script after one question. -/
def rest (s : Script α) : Script α :=
  match s.later with
  | [] => s
  | a :: more => ⟨a, more⟩

/-- The answer to the next question, and the script after it. -/
def take (s : Script α) : α × Script α := (s.next, s.rest)

/-- The answer to the question with the given number, counted from zero. -/
def answer (s : Script α) : Nat → α
  | 0 => s.next
  | n + 1 => s.rest.answer n

@[simp] theorem take_fst (s : Script α) : s.take.1 = s.next := rfl

@[simp] theorem take_snd (s : Script α) : s.take.2 = s.rest := rfl

@[simp] theorem rest_always (a : α) : (always a).rest = always a := rfl

@[simp] theorem answer_always (a : α) (n : Nat) : (always a).answer n = a := by
  induction n with
  | zero => rfl
  | succ n ih => simpa [answer] using ih

end Script

end IndexSync
