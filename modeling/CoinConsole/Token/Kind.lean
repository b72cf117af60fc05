/-!
# Kinds of tokens

A command line is made of names, integers and four marks. A seventh kind, `endOfInput`, stands
for the end of the line in error messages; reading a line never produces a token of it.
-/

namespace CoinConsole

/-- The kinds of tokens. -/
inductive TokenKind
  | endOfInput
  | keyword
  | integer
  | comma
  | dot
  | leftParen
  | rightParen
deriving DecidableEq

namespace TokenKind

/-- All kinds, in the order of their numbers. -/
def all : List TokenKind := [endOfInput, keyword, integer, comma, dot, leftParen, rightParen]

/-- The label of a kind in token listings. -/
def label : TokenKind → String
  | endOfInput => "EOF"
  | keyword => "KEYWORD"
  | integer => "INT"
  | comma => "COMMA"
  | dot => "DOT"
  | leftParen => "LPAREN"
  | rightParen => "RPAREN"

/-- The kind with a given label. -/
def ofLabel? (text : String) : Option TokenKind := all.find? fun kind => kind.label == text

/-- The number of a kind. -/
def number : TokenKind → Nat
  | endOfInput => 1
  | keyword => 20
  | integer => 22
  | comma => 42
  | dot => 43
  | leftParen => 64
  | rightParen => 65

/-- The mark a kind stands for, if it is one. -/
def mark? : TokenKind → Option Char
  | comma => some ','
  | dot => some '.'
  | leftParen => some '('
  | rightParen => some ')'
  | _ => none

/-- The kind of a mark. -/
def ofMark? : Char → Option TokenKind
  | ',' => some comma
  | '.' => some dot
  | '(' => some leftParen
  | ')' => some rightParen
  | _ => none

/-- How error messages name a kind. -/
def display : TokenKind → String
  | endOfInput => "end of input"
  | keyword => "keyword"
  | integer => "integer"
  | comma => ","
  | dot => "."
  | leftParen => "("
  | rightParen => ")"

theorem ofMark?_eq_some_iff {c : Char} {kind : TokenKind} :
    ofMark? c = some kind ↔ kind.mark? = some c := by
  constructor
  · intro h
    unfold ofMark? at h
    split at h <;> simp_all [mark?] <;> subst h <;> rfl
  · intro h
    cases kind <;> simp [mark?] at h <;> subst h <;> rfl

end TokenKind

end CoinConsole
