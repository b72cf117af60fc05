import CoinConsole.Document.Basic

/-!
# Reading documents

A reader of JSON texts. It takes what the standard allows and two things more: `NaN` and
`Infinity`, the latter also with a minus sign, are numbers. Texts may not hold control characters
or escapes of half a surrogate pair, whole numbers have a greatest length, and so has the nesting
of arrays and objects. Whether a minus sign adds to the length of a number is up to the caller.

Every routine takes the characters that are left and gives back what it has read together with
the characters behind it, or nothing if the text is no document.
-/

namespace CoinConsole.Document

/-- A routine that reads a value off the front of a text. -/
abbrev Reader (α : Type) := List Char → Option (α × List Char)

/-- The most digits the whole part of a number may have. -/
def maxWholeDigits : Nat := 4300

/-- The digits that the sign of a number counts for. -/
def signDigits (signCounts negative : Bool) : Nat := if signCounts && negative then 1 else 0

/-- The greatest depth of nested arrays and objects that hold something. -/
def maxDepth : Nat := 200

/-! ## Layout and fixed words -/

/-- Whether `c` may stand between the parts of a document. -/
def isLayout (c : Char) : Bool := c == ' ' || c == '\n' || c == '\r' || c == '\t'

/-- The text without the layout in front of it. -/
def skipLayout (cs : List Char) : List Char := cs.dropWhile isLayout

/-- Takes the characters of `word`. -/
def takeWord : List Char → List Char → Option (List Char)
  | [], cs => some cs
  | _ :: _, [] => none
  | w :: word, c :: cs => if w = c then takeWord word cs else none

/-- Reads the fixed word `word`, which stands for `value`. -/
def readWord (word : String) (value : Document) : Reader Document := fun cs =>
  (takeWord word.toList cs).map fun rest => (value, rest)

/-! ## Numbers -/

/-- The number with the given digits. -/
def digitsValue (digits : List Char) : Nat :=
  digits.foldl (fun n c => 10 * n + (c.toNat - '0'.toNat)) 0

/-- Takes an exponent, if one starts here. -/
def skipExponent : List Char → Option (List Char)
  | [] => some []
  | c :: cs =>
    if c = 'e' ∨ c = 'E' then
      let digits := match cs with
        | '+' :: rest => rest
        | '-' :: rest => rest
        | rest => rest
      if digits.head?.any Char.isDigit then some (digits.dropWhile Char.isDigit) else none
    else some (c :: cs)

/-- Takes a fraction and an exponent, if they start here. -/
def skipFraction : List Char → Option (List Char)
  | '.' :: digits =>
    if digits.head?.any Char.isDigit then skipExponent (digits.dropWhile Char.isDigit) else none
  | cs => skipExponent cs

/-- Whether a fraction or an exponent starts here. -/
def startsFraction : List Char → Bool
  | c :: _ => c == '.' || c == 'e' || c == 'E'
  | [] => false

/-- Reads a number without its sign. -/
def readUnsigned (signCounts negative : Bool) (cs : List Char) : Option (Document × List Char) :=
  let digits := cs.takeWhile Char.isDigit
  let rest := cs.dropWhile Char.isDigit
  if digits = [] then none
  else if digits.head? = some '0' ∧ 1 < digits.length then none
  else if maxWholeDigits < signDigits signCounts negative + digits.length then none
  else if startsFraction rest then (skipFraction rest).map fun rest => (fraction, rest)
  else
    let value : Int := digitsValue digits
    some (integer (if negative then -value else value), rest)

/-- Reads a number. -/
def readNumber (signCounts : Bool) : Reader Document
  | '-' :: 'I' :: rest => readWord "Infinity" fraction ('I' :: rest)
  | '-' :: rest => readUnsigned signCounts true rest
  | rest => readUnsigned signCounts false rest

/-! ## Texts -/

/-- The value of a hexadecimal digit. -/
def hexValue? (c : Char) : Option Nat :=
  if c.isDigit then some (c.toNat - '0'.toNat)
  else if 'a' ≤ c ∧ c ≤ 'f' then some (c.toNat - 'a'.toNat + 10)
  else if 'A' ≤ c ∧ c ≤ 'F' then some (c.toNat - 'A'.toNat + 10)
  else none

/-- Reads four hexadecimal digits. -/
def readHex4 : Reader Nat
  | a :: b :: c :: d :: rest =>
    match hexValue? a, hexValue? b, hexValue? c, hexValue? d with
    | some a, some b, some c, some d => some (((a * 16 + b) * 16 + c) * 16 + d, rest)
    | _, _, _, _ => none
  | _ => none

/-- Whether `n` is the first half of a surrogate pair. -/
def isHighHalf (n : Nat) : Bool := 0xD800 ≤ n && n ≤ 0xDBFF

/-- Whether `n` is the second half of a surrogate pair. -/
def isLowHalf (n : Nat) : Bool := 0xDC00 ≤ n && n ≤ 0xDFFF

/-- Reads the character written by code point behind a backslash and a `u`; characters beyond
the first plane take two such escapes. -/
def readCodePoint (cs : List Char) : Option (Char × List Char) :=
  match readHex4 cs with
  | none => none
  | some (high, rest) =>
    if isHighHalf high then
      match rest with
      | '\\' :: 'u' :: rest =>
        match readHex4 rest with
        | none => none
        | some (low, rest) =>
          if isLowHalf low then
            some (Char.ofNat (0x10000 + (high - 0xD800) * 0x400 + (low - 0xDC00)), rest)
          else none
      | _ => none
    else if isLowHalf high then none
    else some (Char.ofNat high, rest)

/-- The character a one-letter escape stands for. -/
def shortEscape? : Char → Option Char
  | '"' => some '"'
  | '\\' => some '\\'
  | '/' => some '/'
  | 'b' => some '\x08'
  | 'f' => some '\x0c'
  | 'n' => some '\n'
  | 'r' => some '\r'
  | 't' => some '\t'
  | _ => none

/-- Reads the characters of a text up to its closing quote. The first argument bounds the number
of steps; the length of the text is enough. -/
def readTextChars : Nat → Reader (List Char)
  | 0, _ => none
  | _ + 1, [] => none
  | _ + 1, '"' :: rest => some ([], rest)
  | steps + 1, '\\' :: 'u' :: rest =>
    match readCodePoint rest with
    | none => none
    | some (c, rest) => (readTextChars steps rest).map fun (cs, rest) => (c :: cs, rest)
  | steps + 1, '\\' :: e :: rest =>
    match shortEscape? e with
    | none => none
    | some c => (readTextChars steps rest).map fun (cs, rest) => (c :: cs, rest)
  | steps + 1, c :: rest =>
    if c = '\\' ∨ c.toNat < 0x20 then none
    else (readTextChars steps rest).map fun (cs, rest) => (c :: cs, rest)

/-- Reads a text behind its opening quote. -/
def readText (cs : List Char) : Option (String × List Char) :=
  (readTextChars (cs.length + 1) cs).map fun (text, rest) => (String.ofList text, rest)

/-! ## Sequences -/

/-- Reads `item`s between commas up to `close`, the first of them being due now. The first
argument bounds the number of items; the length of the text is enough. -/
def readItems {α : Type} (item : Reader α) (close : Char) : Nat → Reader (List α)
  | 0, _ => none
  | steps + 1, cs =>
    match item (skipLayout cs) with
    | none => none
    | some (value, rest) =>
      match skipLayout rest with
      | [] => none
      | c :: rest =>
        if c = close then some ([value], rest)
        else if c = ',' then
          (readItems item close steps rest).map fun (values, rest) => (value :: values, rest)
        else none

/-- Reads `item`s between commas up to `close`; there may be none. -/
def readSequence {α : Type} (item : Reader α) (close : Char) : Reader (List α) := fun cs =>
  match skipLayout cs with
  | [] => none
  | c :: rest => if c = close then some ([], rest) else readItems item close (cs.length + 1) cs

/-- Reads `close`, behind which `value` is complete without any items. -/
def readClosed (value : Document) (close : Char) : Reader Document := fun cs =>
  match skipLayout cs with
  | [] => none
  | c :: rest => if c = close then some (value, rest) else none

/-- Reads a key, a colon and a value. -/
def readMember (value : Reader Document) : Reader (String × Document)
  | '"' :: rest =>
    match readText rest with
    | none => none
    | some (key, rest) =>
      match skipLayout rest with
      | ':' :: rest => (value (skipLayout rest)).map fun (value, rest) => ((key, value), rest)
      | _ => none
  | _ => none

/-! ## Values -/

/-- Reads a value that may hold `depth` levels of arrays and objects. One that holds nothing takes
no level. -/
def readValue (signCounts : Bool) : Nat → Reader Document
  | depth, '[' :: rest =>
    match depth with
    | 0 => readClosed (array []) ']' rest
    | depth + 1 =>
      (readSequence (readValue signCounts depth) ']' rest).map fun (items, rest) =>
        (array items, rest)
  | depth, '\x7b' :: rest =>
    match depth with
    | 0 => readClosed (object []) '\x7d' rest
    | depth + 1 =>
      (readSequence (readMember (readValue signCounts depth)) '\x7d' rest).map
        fun (members, rest) => (object members, rest)
  | _, '"' :: rest => (readText rest).map fun (value, rest) => (string value, rest)
  | _, 't' :: rest => readWord "true" (boolean true) ('t' :: rest)
  | _, 'f' :: rest => readWord "false" (boolean false) ('f' :: rest)
  | _, 'n' :: rest => readWord "null" null ('n' :: rest)
  | _, 'N' :: rest => readWord "NaN" fraction ('N' :: rest)
  | _, 'I' :: rest => readWord "Infinity" fraction ('I' :: rest)
  | _, cs => readNumber signCounts cs

/-- The document a text holds, with nothing but layout around it. -/
def read (signCounts : Bool) (text : String) : Option Document :=
  match readValue signCounts maxDepth (skipLayout text.toList) with
  | none => none
  | some (document, rest) => if skipLayout rest = [] then some document else none

end CoinConsole.Document
