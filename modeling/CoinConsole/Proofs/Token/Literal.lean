import Mathlib
import CoinConsole.Proofs.Text.Numerals
import CoinConsole.Proofs.Token.MaximalMunch

/-!
# Numbers in a line

A number is read from the whole run of characters it is made of, or refused with the whole run. It
is read exactly if the run is a literal (`IsLiteral`): each underscore stands between two digits,
there are not too many digits, and the number they write, with its sign, fits in 64 bits. The
conditions are stated on the characters of the run, and `NumberRun.readLiteral_eq_some_iff` says
that the reader of numerals checks just these. That the scanner comes to a number is said by a cut
of what stands in front of it (`NumberAt`). Every number token and every refused number comes from
such a place.
-/

namespace CoinConsole

/-! ## Digits and underscores -/

def StartsWithDigit (cs : List Char) : Prop := ∃ d ∈ cs.head?, d.isDigit = true

def EndsWithDigit (cs : List Char) : Prop := ∃ d ∈ cs.getLast?, d.isDigit = true

/-- Each underscore stands between two digits. -/
def UnderscoresApart (cs : List Char) : Prop :=
  ∀ before behind, cs = before ++ '_' :: behind → EndsWithDigit before ∧ StartsWithDigit behind

/-- The digits among the characters. -/
def digitsOf (cs : List Char) : List Char := cs.filter Char.isDigit

section

variable {c d : Char} {cs : List Char}

theorem startsWithDigit_cons : StartsWithDigit (c :: cs) ↔ c.isDigit = true := by
  simp [StartsWithDigit]

theorem not_startsWithDigit_nil : ¬ StartsWithDigit [] := by
  simp [StartsWithDigit]

theorem not_endsWithDigit_nil : ¬ EndsWithDigit [] := by
  simp [EndsWithDigit]

theorem endsWithDigit_singleton : EndsWithDigit [c] ↔ c.isDigit = true := by
  simp [EndsWithDigit]

theorem endsWithDigit_cons (hne : cs ≠ []) : EndsWithDigit (c :: cs) ↔ EndsWithDigit cs := by
  rw [EndsWithDigit, EndsWithDigit, List.getLast?_cons_of_ne_nil hne]

theorem EndsWithDigit.cons (h : EndsWithDigit cs) : EndsWithDigit (c :: cs) := by
  refine (endsWithDigit_cons ?_).mpr h
  rintro rfl
  exact not_endsWithDigit_nil h

theorem underscoresApart_nil : UnderscoresApart [] := by
  intro before behind heq
  simp at heq

/-- A character that is neither an underscore nor in front of one does not matter. -/
theorem underscoresApart_cons (hc : c ≠ '_') (hnext : cs.head? ≠ some '_') :
    UnderscoresApart (c :: cs) ↔ UnderscoresApart cs := by
  constructor
  · intro h before behind heq
    obtain ⟨hbefore, hbehind⟩ := h (c :: before) behind (congrArg (c :: ·) heq)
    have hne : before ≠ [] := by
      rintro rfl
      exact hnext (by rw [heq]; rfl)
    exact ⟨(endsWithDigit_cons hne).mp hbefore, hbehind⟩
  · intro h before behind heq
    cases before with
    | nil => exact absurd (List.cons.inj heq).1 hc
    | cons b before =>
      obtain ⟨hbefore, hbehind⟩ := h before behind (List.cons.inj heq).2
      exact ⟨hbefore.cons, hbehind⟩

/-- Behind a digit and an underscore the characters have to start with a digit again. -/
theorem underscoresApart_cons_underscore (hc : c.isDigit = true) :
    UnderscoresApart (c :: '_' :: cs) ↔ StartsWithDigit cs ∧ UnderscoresApart cs := by
  constructor
  · intro h
    refine ⟨(h [c] cs rfl).2, fun before behind heq => ?_⟩
    obtain ⟨hbefore, hbehind⟩ := h (c :: '_' :: before) behind (congrArg (c :: '_' :: ·) heq)
    rw [endsWithDigit_cons (List.cons_ne_nil _ _)] at hbefore
    have hne : before ≠ [] := by
      rintro rfl
      exact absurd (endsWithDigit_singleton.mp hbefore) (by decide)
    exact ⟨(endsWithDigit_cons hne).mp hbefore, hbehind⟩
  · rintro ⟨hnext, h⟩ before behind heq
    match before with
    | [] => exact absurd (List.cons.inj heq).1 (Text.ne_underscore_of_isDigit hc)
    | [b] =>
      have hb : c = b := (List.cons.inj heq).1
      have hbehind : cs = behind := (List.cons.inj (List.cons.inj heq).2).2
      exact ⟨endsWithDigit_singleton.mpr (hb ▸ hc), hbehind ▸ hnext⟩
    | b :: u :: before =>
      obtain ⟨hbefore, hbehind⟩ := h before behind (List.cons.inj (List.cons.inj heq).2).2
      exact ⟨hbefore.cons.cons, hbehind⟩

theorem digitsOf_cons (hc : c.isDigit = true) : digitsOf (c :: cs) = c :: digitsOf cs :=
  List.filter_cons_of_pos hc

theorem digitsOf_cons_of_not (hc : c.isDigit = false) : digitsOf (c :: cs) = digitsOf cs :=
  List.filter_cons_of_neg (by simp [hc])

/-- Of the characters of a number the reader of numerals takes just the digits. -/
theorem isDigit_of_decimalDigit? {n : Nat} (hc : isNumberChar c = true)
    (h : Text.decimalDigit? c = some n) : c.isDigit = true ∧ n = c.toNat - 48 := by
  rw [isNumberChar, Bool.or_eq_true, beq_iff_eq] at hc
  rcases hc with hdigit | rfl
  · rw [Text.decimalDigit?_of_isDigit hdigit] at h
    exact ⟨hdigit, (Option.some.inj h).symm⟩
  · have hnone : Text.decimalDigit? '_' = none := by decide
    rw [hnone] at h
    cases h

end

/-! ## Numerals -/

theorem map_eq_some_iff_of_iff {α β : Type} {x : Option α} {a : α} {p : Prop} (f : α → β)
    (h : ∀ {b}, x = some b ↔ p ∧ b = a) {b : β} : x.map f = some b ↔ p ∧ b = f a := by
  rw [Option.map_eq_some_iff]
  constructor
  · rintro ⟨a', ha', rfl⟩
    obtain ⟨hp, rfl⟩ := h.mp ha'
    exact ⟨hp, rfl⟩
  · rintro ⟨hp, rfl⟩
    exact ⟨a, h.mpr ⟨hp, rfl⟩, rfl⟩

/-- The reader takes the digits of a run that starts with a digit and has its underscores apart. -/
theorem readDigits_eq_some_iff {cs : List Char} (h : ∀ c ∈ cs, isNumberChar c = true)
    {digits : List Nat} :
    Text.readDigits cs = some digits ↔ (StartsWithDigit cs ∧ UnderscoresApart cs) ∧
      digits = (digitsOf cs).map fun d => d.toNat - 48 := by
  fun_induction Text.readDigits cs generalizing digits with
  | case1 => exact iff_of_false (by simp) fun hrun => not_startsWithDigit_nil hrun.1.1
  | case2 c rest hnone =>
    refine iff_of_false (by simp) fun hrun => ?_
    rw [Text.decimalDigit?_of_isDigit (startsWithDigit_cons.mp hrun.1.1)] at hnone
    cases hnone
  | case3 c n hsome =>
    obtain ⟨hdigit, rfl⟩ := isDigit_of_decimalDigit? (h c List.mem_cons_self) hsome
    have hapart : UnderscoresApart [c] :=
      (underscoresApart_cons (Text.ne_underscore_of_isDigit hdigit) (by simp)).mpr
        underscoresApart_nil
    rw [startsWithDigit_cons, digitsOf_cons hdigit, Option.some.injEq, eq_comm]
    exact (and_iff_right ⟨hdigit, hapart⟩).symm
  | case4 c n rest hsome ih =>
    obtain ⟨hdigit, rfl⟩ := isDigit_of_decimalDigit? (h c List.mem_cons_self) hsome
    have hrest := @ih fun d hd => h d (List.mem_cons_of_mem _ (List.mem_cons_of_mem _ hd))
    rw [map_eq_some_iff_of_iff _ hrest, startsWithDigit_cons, and_iff_right hdigit,
      underscoresApart_cons_underscore hdigit, digitsOf_cons hdigit,
      digitsOf_cons_of_not (by decide), List.map_cons]
  | case5 c n rest hne hunderscore hsome ih =>
    obtain ⟨hdigit, rfl⟩ := isDigit_of_decimalDigit? (h c List.mem_cons_self) hsome
    obtain ⟨d, rest, rfl⟩ := List.exists_cons_of_ne_nil hne
    have hd : d ≠ '_' := by
      rintro rfl
      exact hunderscore rest rfl
    have hnext : StartsWithDigit (d :: rest) := by
      have hnumber := h d (List.mem_cons_of_mem _ List.mem_cons_self)
      rw [isNumberChar, Bool.or_eq_true, beq_iff_eq, or_iff_left hd] at hnumber
      exact startsWithDigit_cons.mpr hnumber
    have hrest := @ih fun d hd => h d (List.mem_cons_of_mem _ hd)
    rw [map_eq_some_iff_of_iff _ hrest, and_iff_right hnext, startsWithDigit_cons,
      and_iff_right hdigit, digitsOf_cons hdigit, List.map_cons,
      underscoresApart_cons (Text.ne_underscore_of_isDigit hdigit) (by simpa)]

/-- The number that the digits of a run write, negative behind a minus sign. -/
def literalValue (run : List Char) : Int :=
  let size := Nat.ofDigitChars 10 (digitsOf run) 0
  if run.head? = some '-' then -(size : Int) else size

/-- The run is a numeral of 64 bits with the value. -/
structure IsLiteral (run : List Char) (value : Int) : Prop where
  apart : UnderscoresApart run
  digits_le : (digitsOf run).length ≤ Text.maxNumeralDigits
  value_eq : value = literalValue run
  least : -2 ^ 63 ≤ value
  greatest : value ≤ 2 ^ 63 - 1

theorem readNatural_eq_some_iff {d : Char} {ds : List Char} (head : d.isDigit = true)
    (tail : ∀ c ∈ ds, isNumberChar c = true) {n : Nat} :
    Text.readNatural (d :: ds) = some n ↔
      (UnderscoresApart (d :: ds) ∧ (digitsOf (d :: ds)).length ≤ Text.maxNumeralDigits) ∧
        n = Nat.ofDigitChars 10 (digitsOf (d :: ds)) 0 := by
  have hnumber : ∀ c ∈ d :: ds, isNumberChar c = true := by
    intro c hc
    rcases List.mem_cons.mp hc with rfl | hc
    · rw [isNumberChar, head, Bool.true_or]
    · exact tail c hc
  have hdigits := @readDigits_eq_some_iff _ hnumber
  simp only [startsWithDigit_cons, head, true_and] at hdigits
  rw [Text.readNatural]
  cases hread : Text.readDigits (d :: ds) with
  | none =>
    refine iff_of_false (by simp) fun hrun => ?_
    rw [hdigits.mpr ⟨hrun.1.1, rfl⟩] at hread
    cases hread
  | some digits =>
    obtain ⟨hapart, rfl⟩ := hdigits.mp hread
    simp only [List.length_map, Text.ofDigits_map_eq_ofDigitChars, hapart, true_and]
    by_cases hlength : (digitsOf (d :: ds)).length ≤ Text.maxNumeralDigits
    · rw [if_pos hlength, Option.some.injEq, eq_comm, and_iff_right hlength]
    · rw [if_neg hlength]
      exact iff_of_false (by simp) fun hrun => hlength hrun.1

theorem NumberRun.readInteger_eq_some_iff {run : List Char} (h : NumberRun run) {value : Int} :
    Text.readInteger (String.ofList run) = some value ↔
      (UnderscoresApart run ∧ (digitsOf run).length ≤ Text.maxNumeralDigits) ∧
        value = literalValue run := by
  have htrim : Text.trimEnds Text.isNumeralBlank run = run := by
    refine Text.trimEnds_eq_self fun c hc => ?_
    rw [Text.isNumeralBlank, h.isBlank_of_mem hc, Bool.false_and]
  rw [Text.readInteger, String.toList_ofList, htrim]
  obtain ⟨sign, d, ds, rfl | rfl, head, tail⟩ := h
  · have hminus : d ≠ '-' := by
      rintro rfl
      exact absurd head (by decide)
    rw [List.nil_append, Text.readSigned_of_isDigit head, literalValue,
      if_neg (by simpa using hminus)]
    exact map_eq_some_iff_of_iff _ (readNatural_eq_some_iff head tail)
  · have hnext : (d :: ds).head? ≠ some '_' := by
      simpa using Text.ne_underscore_of_isDigit head
    rw [List.singleton_append, Text.readSigned_minus, literalValue, if_pos List.head?_cons,
      underscoresApart_cons (by decide) hnext, digitsOf_cons_of_not (by decide)]
    exact map_eq_some_iff_of_iff _ (readNatural_eq_some_iff head tail)

/-- Among the runs of number characters, just the literals have a value. -/
theorem NumberRun.readLiteral_eq_some_iff {run : List Char} (h : NumberRun run) {value : Int} :
    readLiteral (String.ofList run) = some value ↔ IsLiteral run value := by
  rw [CoinConsole.readLiteral_eq_some_iff, h.readInteger_eq_some_iff]
  constructor
  · rintro ⟨⟨⟨hapart, hdigits⟩, hvalue⟩, hleast, hgreatest⟩
    exact ⟨hapart, hdigits, hvalue, hleast, hgreatest⟩
  · rintro ⟨hapart, hdigits, hvalue, hleast, hgreatest⟩
    exact ⟨⟨⟨hapart, hdigits⟩, hvalue⟩, hleast, hgreatest⟩

theorem NumberRun.readLiteral_eq_none_iff {run : List Char} (h : NumberRun run) :
    readLiteral (String.ofList run) = none ↔ ∀ value, ¬ IsLiteral run value := by
  simp only [Option.eq_none_iff_forall_ne_some, ne_eq, h.readLiteral_eq_some_iff]

/-! ## Where a number starts -/

/-- The scanner gets through `front` to a number, made of `run`, with `rest` behind it. -/
structure NumberAt (text : String) (front : Cut) (run rest : List Char) : Prop where
  text_eq : text.toList = front.text ++ (run ++ rest)
  reaches : front.Reaches (run ++ rest)
  number : NumberRun run
  stops : StopsAt isNumberChar rest

/-- A number starts where the scanner looks for one, and its run is all it is made of. -/
theorem numberAt_of_startsNumber {text : String} {front : Cut} {c : Char} {cs : List Char}
    (htext : text.toList = front.text ++ c :: cs) (hreaches : front.Reaches (c :: cs))
    (hstarts : startsNumber c cs = true) :
    NumberAt text front (c :: cs.takeWhile isNumberChar) (cs.dropWhile isNumberChar) := by
  have hcut : c :: cs.takeWhile isNumberChar ++ cs.dropWhile isNumberChar = c :: cs := by
    rw [List.cons_append, List.takeWhile_append_dropWhile]
  refine ⟨?_, ?_, numberRun_of_startsNumber hstarts, stopsAt_dropWhile isNumberChar cs⟩
  · rw [hcut, htext]
  · rwa [hcut]

/-- The token of a whole run that starts at `position`. -/
def numberToken (position : Nat) (run : List Char) (value : Int) : Token :=
  { kind := .integer, span := .ofLength position run.length
    text := String.ofList run, value := some value }

/-- What the scanner answers about the text behind a number. -/
def scanBehind (front : Cut) (run rest : List Char) : Except LexError (List Token) × Lexer :=
  scan (front.text.length + run.length) rest

namespace NumberAt

variable {text : String} {front : Cut} {run rest : List Char}

theorem tokenize_eq (h : NumberAt text front run rest) :
    (Lexer.ofText text).tokenize =
      ((scan front.text.length (run ++ rest)).1.map (front.tokens 0 ++ ·),
        (scan front.text.length (run ++ rest)).2) := by
  rw [Lexer.tokenize, Lexer.ofText, h.text_eq, h.reaches.scan_append, Nat.zero_add]

/-- A literal is read as one token, and the scanner goes on behind it. -/
theorem tokenize_of_isLiteral (h : NumberAt text front run rest) {value : Int}
    (hvalue : IsLiteral run value) :
    (Lexer.ofText text).tokenize =
      ((scanBehind front run rest).1.map fun tokens =>
          front.tokens 0 ++ numberToken front.text.length run value :: tokens,
        (scanBehind front run rest).2) := by
  rw [h.tokenize_eq, scan_numberRun _ h.number h.stops,
    h.number.readLiteral_eq_some_iff.mpr hvalue, map_map]
  rfl

/-- Any other number ends the reading: it is refused with the whole run, and so is the line. -/
theorem tokenize_of_not_isLiteral (h : NumberAt text front run rest)
    (hnone : ∀ value, ¬ IsLiteral run value) :
    (Lexer.ofText text).tokenize =
      (.error (.badNumber front.text.length (String.ofList run)),
        { position := front.text.length + run.length, rest }) := by
  rw [h.tokenize_eq, scan_numberRun _ h.number h.stops,
    h.number.readLiteral_eq_none_iff.mpr hnone]
  rfl

/-- A line is refused for the number exactly if the number is no literal: what is refused behind a
literal stands behind all of it. -/
theorem tokenize_error_iff (h : NumberAt text front run rest) :
    tokenize text = .error (.badNumber front.text.length (String.ofList run)) ↔
      ∀ value, ¬ IsLiteral run value := by
  constructor
  · intro herror value hvalue
    rw [tokenize, h.tokenize_of_isLiteral hvalue, map_eq_error_iff] at herror
    obtain ⟨cut, fault, -, -, hrefused⟩ := exists_cut_of_scan_error herror
    have hposition : front.text.length = front.text.length + run.length + cut.text.length :=
      hrefused.position_eq
    have hlength := List.length_pos_iff.mpr h.number.ne_nil
    omega
  · intro hnone
    rw [tokenize, h.tokenize_of_not_isLiteral hnone]

/-- In a line that is read, the number is a literal, and the one token that has characters in common
with it is the token of all of it. -/
theorem token_eq_of_overlap (h : NumberAt text front run rest) {tokens : List Token}
    (hok : tokenize text = .ok tokens) :
    ∃ value, IsLiteral run value ∧ ∀ token, token ∈ tokens ∧
      token.span.start < front.text.length + run.length ∧ front.text.length < token.span.stop ↔
        token = numberToken front.text.length run value := by
  obtain ⟨value, hvalue⟩ : ∃ value, IsLiteral run value := by
    cases hread : readLiteral (String.ofList run) with
    | none =>
      have hnone := h.number.readLiteral_eq_none_iff.mp hread
      rw [h.tokenize_error_iff.mpr hnone] at hok
      cases hok
    | some value => exact ⟨value, h.number.readLiteral_eq_some_iff.mp hread⟩
  refine ⟨value, hvalue, fun token => ?_⟩
  rw [tokenize, h.tokenize_of_isLiteral hvalue, map_eq_ok_iff] at hok
  obtain ⟨later, hlater, rfl⟩ := hok
  obtain ⟨cut, -, -, rfl⟩ := exists_cut_of_scan hlater
  have hlength := List.length_pos_iff.mpr h.number.ne_nil
  constructor
  · rintro ⟨hmem, hstart, hstop⟩
    rcases List.mem_append.mp hmem with hmem | hmem
    · -- a token in front of the number stops where the number starts
      have hspan := Cut.span_of_mem_tokens hmem
      omega
    · rcases List.mem_cons.mp hmem with rfl | hmem
      · rfl
      · have hspan := Cut.span_of_mem_tokens hmem
        omega
  · rintro rfl
    refine ⟨List.mem_append_right _ List.mem_cons_self, ?_, ?_⟩
    · exact Nat.lt_add_of_pos_right hlength
    · exact Nat.lt_add_of_pos_right hlength

end NumberAt

/-- Every number token of a line comes from a place where a literal starts. -/
theorem exists_numberAt_of_mem_tokens {text : String} {tokens : List Token} {token : Token}
    (h : tokenize text = .ok tokens) (hmem : token ∈ tokens) (hkind : token.kind = .integer) :
    ∃ front run rest value, NumberAt text front run rest ∧ IsLiteral run value ∧
      token = numberToken front.text.length run value := by
  obtain ⟨cut, hmunch, htext, rfl⟩ := exists_cut_of_tokenize h
  obtain ⟨front, lexeme, rest, hfront, hreaches, hmaximal, rfl⟩ :=
    (Cut.reaches_nil_iff.mpr hmunch).exists_front_of_mem_tokens hmem
  rw [List.append_nil, htext] at hfront
  rw [Nat.zero_add]
  obtain ⟨kind, chars, value, spelled⟩ := lexeme
  cases spelled with
  | name => cases hkind
  | number number numeral least greatest =>
    have hvalue := readLiteral_eq_some_iff.mpr ⟨numeral, least, greatest⟩
    exact ⟨front, _, rest, _, ⟨hfront, hreaches, number, hmaximal⟩,
      number.readLiteral_eq_some_iff.mp hvalue, rfl⟩
  | mark mark =>
    obtain rfl : _ = TokenKind.integer := hkind
    cases mark

/-- Every refused number comes from a place where a number starts that is no literal. -/
theorem exists_numberAt_of_badNumber {text raw : String} {position : Nat}
    (h : tokenize text = .error (.badNumber position raw)) :
    ∃ front run rest, NumberAt text front run rest ∧ (∀ value, ¬ IsLiteral run value) ∧
      position = front.text.length ∧ raw = String.ofList run := by
  obtain ⟨cut, fault, htext, hreaches, hposition, hrefused⟩ := exists_cut_of_tokenize_error h
  cases hrefused with
  | badNumber number stops refused =>
    exact ⟨cut, _, _, ⟨htext, hreaches, number, stops⟩,
      number.readLiteral_eq_none_iff.mp refused, hposition, rfl⟩

/-! ## Main result -/

/-- Numbers are read whole or refused whole. Where the scanner comes to the start of a number it
takes the longest run. If the run is a literal, the next token is the run with the value of the
literal, and the scanner goes on behind it. If not, and only then, the line is refused for the run,
from its start to its end. In a line that is read no other token has characters of the run. No
number token and no refused number comes from anywhere else. -/
theorem tokenize_number_whole_or_refused (text : String) :
    (∀ front c cs, text.toList = front.text ++ c :: cs → front.Reaches (c :: cs) →
      startsNumber c cs = true →
      NumberAt text front (c :: cs.takeWhile isNumberChar) (cs.dropWhile isNumberChar)) ∧
    (∀ front run rest, NumberAt text front run rest →
      (∀ value, IsLiteral run value → (Lexer.ofText text).tokenize =
        ((scanBehind front run rest).1.map fun tokens =>
            front.tokens 0 ++ numberToken front.text.length run value :: tokens,
          (scanBehind front run rest).2)) ∧
      ((∀ value, ¬ IsLiteral run value) → (Lexer.ofText text).tokenize =
        (.error (.badNumber front.text.length (String.ofList run)),
          { position := front.text.length + run.length, rest })) ∧
      (tokenize text = .error (.badNumber front.text.length (String.ofList run)) ↔
        ∀ value, ¬ IsLiteral run value) ∧
      ∀ tokens, tokenize text = .ok tokens → ∃ value, IsLiteral run value ∧
        ∀ token, token ∈ tokens ∧ token.span.start < front.text.length + run.length ∧
          front.text.length < token.span.stop ↔
            token = numberToken front.text.length run value) ∧
    (∀ tokens token, tokenize text = .ok tokens → token ∈ tokens → token.kind = .integer →
      ∃ front run rest value, NumberAt text front run rest ∧ IsLiteral run value ∧
        token = numberToken front.text.length run value) ∧
    ∀ position raw, tokenize text = .error (.badNumber position raw) →
      ∃ front run rest, NumberAt text front run rest ∧ (∀ value, ¬ IsLiteral run value) ∧
        position = front.text.length ∧ raw = String.ofList run := by
  refine ⟨?_, ?_, ?_, ?_⟩
  · intro front c cs htext hreaches hstarts
    exact numberAt_of_startsNumber htext hreaches hstarts
  · intro front run rest h
    exact ⟨fun value => h.tokenize_of_isLiteral, h.tokenize_of_not_isLiteral,
      h.tokenize_error_iff, fun tokens => h.token_eq_of_overlap⟩
  · intro tokens token htokens hmem hkind
    exact exists_numberAt_of_mem_tokens htokens hmem hkind
  · intro position raw herror
    exact exists_numberAt_of_badNumber herror

/-- The least integer of 64 bits is a literal; its size alone is none. -/
theorem tokenize_number_whole_or_refused_bounds :
    (tokenize "-9223372036854775808" =
        .ok [numberToken 0 "-9223372036854775808".toList (-2 ^ 63)] ∧
      IsLiteral "-9223372036854775808".toList (-2 ^ 63)) ∧
    (tokenize "9223372036854775808" = .error (.badNumber 0 "9223372036854775808") ∧
      ∀ value, ¬ IsLiteral "9223372036854775808".toList value) := by
  have hleast : tokenize "-9223372036854775808" =
      .ok [numberToken 0 "-9223372036854775808".toList (-2 ^ 63)] := by cbv
  have hsize : tokenize "9223372036854775808" =
      .error (.badNumber 0 "9223372036854775808") := by cbv
  have hminus : NumberAt "-9223372036854775808" (.last []) "-9223372036854775808".toList [] :=
    ⟨rfl, List.forall_mem_nil _, .mk ['-'] '9' _ (Or.inr rfl) rfl (List.all_eq_true.mp rfl),
      stopsAt_nil _⟩
  have hplain : NumberAt "9223372036854775808" (.last []) "9223372036854775808".toList [] :=
    ⟨rfl, List.forall_mem_nil _, .mk [] '9' _ (Or.inl rfl) rfl (List.all_eq_true.mp rfl),
      stopsAt_nil _⟩
  obtain ⟨-, hread, -⟩ := tokenize_number_whole_or_refused "-9223372036854775808"
  obtain ⟨-, hrefused, -⟩ := tokenize_number_whole_or_refused "9223372036854775808"
  refine ⟨⟨hleast, ?_⟩, hsize, (hrefused _ _ _ hplain).2.2.1.mp hsize⟩
  obtain ⟨value, hvalue, htoken⟩ := (hread _ _ _ hminus).2.2.2 _ hleast
  obtain ⟨hmem, -⟩ := (htoken _).mpr rfl
  have hsame := List.mem_singleton.mp hmem
  obtain rfl : value = -2 ^ 63 := Option.some.inj (congrArg Token.value hsame)
  exact hvalue

end CoinConsole
