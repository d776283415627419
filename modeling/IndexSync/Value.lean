import IndexSync.Decimal.Layout
import IndexSync.FsPath
import IndexSync.Text.Unpaired

/-!
# Dynamic values

What a service replies and what a host passes along has no fixed shape. A `Value` is such a thing:
a scalar, a sequence or a mapping whose keys may be any scalar or tuple. The module also gives the
text of a value in messages and the copy of a reply into string-keyed mappings and lists.

Every integer has a text here, though one of more than 4300 digits cannot be written out or sent.
In a text by itself, halves of surrogate pairs become replacement characters.
-/

namespace IndexSync

open Decimal (Double Layout)

/-- A dynamic value. -/
inductive Value where
  /-- Nothing. -/
  | null
  /-- A truth value. -/
  | bool (b : Bool)
  /-- An integer of any size. -/
  | int (n : Int)
  /-- A floating point number. -/
  | float (x : Double)
  /-- A text. -/
  | str (s : String)
  /-- A text with unpaired surrogates. -/
  | unpaired (codes : Text.CodePoints)
  /-- A list. -/
  | list (items : List Value)
  /-- A sequence of fixed length. -/
  | tuple (items : List Value)
  /-- A mapping, in order of insertion. -/
  | map (entries : List (Value × Value))
  /-- A file path. -/
  | path (p : FsPath)

/-- The entries of a mapping. -/
abbrev Entries := List (Value × Value)

/-- The settings that a host passes to an action, in order of insertion. -/
abbrev Options := List (String × Value)

namespace Value

/-- A value counts as true unless it is nothing, a zero or empty. -/
def truthy : Value → Bool
  | .null => false
  | .bool b => b
  | .int n => n != 0
  | .float x => !x.isZero
  | .str s => s != ""
  | .unpaired codes => !codes.isEmpty
  | .list items => !items.isEmpty
  | .tuple items => !items.isEmpty
  | .map entries => !entries.isEmpty
  | .path _ => true

/-- The name of a value's type in messages. -/
def typeName : Value → String
  | .null => "NoneType"
  | .bool _ => "bool"
  | .int _ => "int"
  | .float _ => "float"
  | .str _ => "str"
  | .unpaired _ => "str"
  | .list _ => "list"
  | .tuple _ => "tuple"
  | .map _ => "dict"
  | .path _ => "PosixPath"

/-- Put a comma and a blank between texts. -/
def commaList (texts : List String) : String := ", ".intercalate texts

mutual

/-- The text of a value inside other values: texts are quoted. -/
def literal : Value → String
  | .null => "None"
  | .bool b => if b then "True" else "False"
  | .int n => toString n
  | .float x => Layout.message.render x
  | .str s => Text.quote s
  | .unpaired codes => codes.quote
  | .list items => "[" ++ commaList (literals items) ++ "]"
  | .tuple [] => "()"
  | .tuple [item] => "(" ++ literal item ++ ",)"
  | .tuple (first :: items) => "(" ++ commaList (literal first :: literals items) ++ ")"
  | .map entries => "\x7b" ++ commaList (entryLiterals entries) ++ "\x7d"
  | .path p => "PosixPath(" ++ Text.quote p.text ++ ")"

/-- The texts of the items of a sequence. -/
def literals : List Value → List String
  | [] => []
  | item :: items => literal item :: literals items

/-- The texts of the entries of a mapping. -/
def entryLiterals : List (Value × Value) → List String
  | [] => []
  | (key, value) :: entries => (literal key ++ ": " ++ literal value) :: entryLiterals entries

end

/-- The value of a sequence of code points. -/
def ofCodePoints (codes : Text.CodePoints) : Value :=
  match codes.text? with
  | some s => .str s
  | none => .unpaired codes

/-- The text of a value by itself: a text stands for itself. -/
def text : Value → String
  | .str s => s
  | .unpaired codes => codes.lossy
  | .path p => p.text
  | v => v.literal

/-- The text of a key, as a key. A text stands for itself, be it one with unpaired surrogates. -/
def textKey : Value → Value
  | .unpaired codes => .unpaired codes
  | v => .str v.text

/-- The value as an integer, where truth values and integral numbers count as integers. -/
def asInteger? : Value → Option Int
  | .bool b => some (if b then 1 else 0)
  | .int n => some n
  | .float x => x.toInt?
  | _ => none

mutual

/-- Two values are the same key of a mapping. Numbers are compared by what they denote. -/
def sameKey : Value → Value → Bool
  | .null, .null => true
  | .str s, .str t => s == t
  | .unpaired a, .unpaired b => a == b
  | .path p, .path q => p == q
  | .tuple xs, .tuple ys => sameKeys xs ys
  | .float x, .float y => (x == y && x != .nan) || (x.isZero && y.isZero)
  | v, w => match v.asInteger?, w.asInteger? with
    | some m, some n => m == n
    | _, _ => false

/-- Two tuples are the same key. -/
def sameKeys : List Value → List Value → Bool
  | [], [] => true
  | x :: xs, y :: ys => sameKey x y && sameKeys xs ys
  | _, _ => false

end

/-- The value that a mapping has at a text key. -/
def lookup? (entries : Entries) (key : String) : Option Value :=
  match entries with
  | [] => none
  | (.str k, v) :: rest => if k = key then some v else lookup? rest key
  | _ :: rest => lookup? rest key

/-- Set a key of a mapping. A new key goes to the end, an old one keeps its place and spelling. -/
def insert (entries : Entries) (key value : Value) : Entries :=
  match entries with
  | [] => [(key, value)]
  | (k, v) :: rest => if k.sameKey key then (k, value) :: rest else (k, v) :: insert rest key value

/-- The mapping made by setting keys one after the other. -/
def ofEntries (entries : Entries) : Value :=
  .map (entries.foldl (fun acc e => insert acc e.1 e.2) [])

/-- A mapping with text keys. -/
def ofOptions (options : Options) : Value := .map (options.map fun (k, v) => (.str k, v))

mutual

/-- A copy of a value in which every key is a text and every sequence a list. -/
def plain : Value → Value
  | .list items => .list (plainItems items)
  | .tuple items => .list (plainItems items)
  | .map entries => .map (plainEntries [] entries)
  | v => v

/-- The copies of the items of a sequence. -/
def plainItems : List Value → List Value
  | [] => []
  | item :: items => plain item :: plainItems items

/-- Add the copies of entries to the copies made so far; equal texts of keys share one entry. -/
def plainEntries (done : Entries) : List (Value × Value) → Entries
  | [] => done
  | (key, value) :: entries => plainEntries (insert done key.textKey (plain value)) entries

end

end Value

namespace Options

/-- The setting with the given name. -/
def get? (options : Options) (key : String) : Option Value := options.lookup key

/-- Change a setting in place, or add it at the end. -/
def put (options : Options) (key : String) (value : Value) : Options :=
  match options with
  | [] => [(key, value)]
  | (k, v) :: rest => if k = key then (k, value) :: rest else (k, v) :: put rest key value

/-- Remove a setting. -/
def erase (options : Options) (key : String) : Options := options.filter fun (k, _) => k != key

/-- Changing a setting changes no other. -/
theorem get?_put (options : Options) (key other : String) (value : Value) :
    (options.put key value).get? other =
      if other = key then some value else options.get? other := by
  unfold get?
  induction options with
  | nil => grind [put]
  | cons entry rest ih => grind [put]

/-- Removing a setting removes no other. -/
theorem get?_erase (options : Options) (key other : String) :
    (options.erase key).get? other = if other = key then none else options.get? other := by
  unfold get? erase
  induction options with
  | nil => simp
  | cons entry rest ih => grind

end Options

end IndexSync
