import CoinConsole.Document.Reader

/-!
# The grammar of documents

How a document is spelled, said without the reader: what spells a character, an integer, a sequence
of things between commas, and from these a document with at most so many levels of arrays and
objects (`Spells`). A text holds a document if it spells it between layout (`Holds`). The numbers of
this grammar are integers that are short enough to be read, with their minus sign or without
(`IsReadable`).

The characters of a text are Unicode characters, so an escape of half a surrogate pair spells none.
-/

namespace CoinConsole.Document

/-! ## Layout -/

/-- The characters stand between the parts of a document and mean nothing. -/
def IsLayout (chars : List Char) : Prop := ∀ c ∈ chars, isLayout c = true

theorem isLayout_nil : IsLayout [] := fun _ h => absurd h List.not_mem_nil

section

variable {α : Type}

/-- An item with layout around it. -/
inductive Padded (item : α → List Char → Prop) (value : α) : List Char → Prop
  | intro {front chars back : List Char} (hfront : IsLayout front) (h : item value chars)
    (hback : IsLayout back) : Padded item value (front ++ (chars ++ back))

theorem padded_self {item : α → List Char → Prop} {value : α} {chars : List Char}
    (h : item value chars) : Padded item value chars := by
  simpa using Padded.intro isLayout_nil h isLayout_nil

/-! ## Sequences -/

/-- The items follow each other with nothing between them. -/
inductive Joined (item : α → List Char → Prop) : List α → List Char → Prop
  | nil : Joined item [] []
  | cons {value : α} {values : List α} {chars others : List Char} (h : item value chars)
    (hothers : Joined item values others) : Joined item (value :: values) (chars ++ others)

/-- The items, at least one, follow each other with commas between them. -/
inductive Listed (item : α → List Char → Prop) : List α → List Char → Prop
  | single {value : α} {chars : List Char} (h : Padded item value chars) :
    Listed item [value] chars
  | cons {value : α} {values : List α} {chars others : List Char} (h : Padded item value chars)
    (hothers : Listed item values others) : Listed item (value :: values) (chars ++ ',' :: others)

/-- The items follow each other with commas between them; there may be none. -/
inductive Sequence (item : α → List Char → Prop) : List α → List Char → Prop
  | empty {chars : List Char} (h : IsLayout chars) : Sequence item [] chars
  | listed {values : List α} {chars : List Char} (h : Listed item values chars) :
    Sequence item values chars

end

/-! ## Characters of a text -/

/-- Whether `c` stands for itself in a text. -/
def isPlain (c : Char) : Bool := c != '"' && c != '\\' && 0x20 ≤ c.toNat

/-- The letters of the one-letter escapes, and the characters they stand for. -/
def shortEscapes : List (Char × Char) :=
  [('"', '"'), ('\\', '\\'), ('/', '/'), ('b', '\x08'), ('f', '\x0c'), ('n', '\n'), ('r', '\r'),
    ('t', '\t')]

/-- The UTF-16 units of a character: one, or a surrogate pair beyond the first plane. -/
def units (c : Char) : List Nat :=
  if c.toNat < 0x10000 then [c.toNat]
  else [0xD800 + (c.toNat - 0x10000) / 0x400, 0xDC00 + (c.toNat - 0x10000) % 0x400]

/-- The character `c` is the hexadecimal digit `n`, in either case. -/
structure IsHexDigit (n : Nat) (c : Char) : Prop where
  lt : n < 16
  eq_or : c = n.digitChar ∨ c = n.digitChar.toUpper

/-- The escape of a unit: four hexadecimal digits behind a backslash and a `u`. -/
inductive SpellsUnit : Nat → List Char → Prop
  | intro {n₁ n₂ n₃ n₄ : Nat} {c₁ c₂ c₃ c₄ : Char} (h₁ : IsHexDigit n₁ c₁) (h₂ : IsHexDigit n₂ c₂)
    (h₃ : IsHexDigit n₃ c₃) (h₄ : IsHexDigit n₄ c₄) :
    SpellsUnit (((n₁ * 16 + n₂) * 16 + n₃) * 16 + n₄) ['\\', 'u', c₁, c₂, c₃, c₄]

/-- A character of a text stands for itself or is escaped. -/
inductive SpellsChar : Char → List Char → Prop
  | plain {c : Char} (h : isPlain c = true) : SpellsChar c [c]
  | short {letter c : Char} (h : (letter, c) ∈ shortEscapes) : SpellsChar c ['\\', letter]
  | escaped {c : Char} {chars : List Char} (h : Joined SpellsUnit (units c) chars) :
    SpellsChar c chars

/-- A text stands between quotes. -/
inductive SpellsText : String → List Char → Prop
  | intro {text : String} {chars : List Char} (h : Joined SpellsChar text.toList chars) :
    SpellsText text ('"' :: (chars ++ ['"']))

/-! ## Integers -/

/-- The integer has no more decimal digits than a document may hold. A minus sign counts as one of
them, or it does not. -/
def IsReadable (signCounts : Bool) (value : Int) : Prop :=
  signDigits signCounts (decide (value < 0)) + (Nat.toDigits 10 value.natAbs).length ≤
    maxWholeDigits

instance decidableIsReadable (signCounts : Bool) (value : Int) :
    Decidable (IsReadable signCounts value) :=
  inferInstanceAs (Decidable (_ ≤ _))

variable (signCounts : Bool)

/-- An integer is spelled by its digits, without a zero in front of others. Zero may have a sign. -/
inductive SpellsInteger : Int → List Char → Prop
  | unsigned {n : Nat} (h : IsReadable signCounts n) : SpellsInteger n (Nat.toDigits 10 n)
  | negative {n : Nat} (h : IsReadable signCounts (-n)) :
    SpellsInteger (-n) ('-' :: Nat.toDigits 10 n)

/-! ## Documents -/

/-- A document that is no array and no object. -/
inductive SpellsScalar : Document → List Char → Prop
  | null : SpellsScalar null "null".toList
  | true : SpellsScalar (boolean true) "true".toList
  | false : SpellsScalar (boolean false) "false".toList
  | integer {value : Int} {chars : List Char} (h : SpellsInteger signCounts value chars) :
    SpellsScalar (integer value) chars
  | string {text : String} {chars : List Char} (h : SpellsText text chars) :
    SpellsScalar (string text) chars

/-- A member of an object: its name, a colon and its value. -/
inductive SpellsMember (value : Document → List Char → Prop) :
    String × Document → List Char → Prop
  | intro {name : String} {document : Document} {nameChars front back chars : List Char}
    (hname : SpellsText name nameChars) (hfront : IsLayout front) (hback : IsLayout back)
    (h : value document chars) :
    SpellsMember value (name, document) (nameChars ++ (front ++ ':' :: (back ++ chars)))

/-- An array or an object of given values. -/
inductive SpellsCompound (value : Document → List Char → Prop) : Document → List Char → Prop
  | array {items : List Document} {chars : List Char} (h : Sequence value items chars) :
    SpellsCompound value (array items) ('[' :: (chars ++ [']']))
  | object {members : List (String × Document)} {chars : List Char}
    (h : Sequence (SpellsMember value) members chars) :
    SpellsCompound value (object members) ('\x7b' :: (chars ++ ['\x7d']))

/-- A document with at most `depth` levels of arrays and objects. -/
def Spells : Nat → Document → List Char → Prop
  | 0, document, chars => SpellsScalar signCounts document chars
  | depth + 1, document, chars =>
    SpellsScalar signCounts document chars ∨ SpellsCompound (Spells depth) document chars

variable {signCounts}

theorem spells_scalar (depth : Nat) {document : Document} {chars : List Char}
    (h : SpellsScalar signCounts document chars) : Spells signCounts depth document chars := by
  cases depth with
  | zero => exact h
  | succ depth => exact Or.inl h

/-- The text spells the document, with nothing but layout around it. -/
def Holds (signCounts : Bool) (depth : Nat) (document : Document) (text : String) : Prop :=
  Padded (Spells signCounts depth) document text.toList

end CoinConsole.Document
