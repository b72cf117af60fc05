import CoinConsole.Proofs.Text.Classes
import CoinConsole.Token.Scan

/-!
# Lexemes

What a token is read from, said without the scanner: a name, a number or a mark, as a predicate on
characters (`Spelled`). A text starts with nothing, a blank, a lexeme that cannot be made longer,
a number that is refused, or a character that starts nothing (`front`), and for each of the five
there is one equation of the scanner. Everything about the scanner follows from these equations
and the induction over texts that goes with them (`front_induction`). The last two of the five are
the faults of a text, each with the error it is refused with (`RefusedWith`).
-/

namespace CoinConsole

/-! ## Spelling -/

/-- The characters a number is made of: a minus sign or none, a digit, digits and underscores. -/
inductive NumberRun : List Char → Prop
  | mk (sign : List Char) (d : Char) (ds : List Char) (sign_eq : sign = [] ∨ sign = ['-'])
      (head : d.isDigit = true) (tail : ∀ c ∈ ds, isNumberChar c = true) :
      NumberRun (sign ++ d :: ds)

/-- The characters of a lexeme of each kind, and the value it has. -/
inductive Spelled : TokenKind → List Char → Option Int → Prop
  | name {c : Char} {cs : List Char} (head : Text.isLetter c = true)
      (tail : ∀ d ∈ cs, Text.isNameChar d = true) : Spelled .keyword (c :: cs) none
  | number {cs : List Char} {value : Int} (run : NumberRun cs)
      (numeral : Text.readInteger (String.ofList cs) = some value)
      (least : minInteger ≤ value) (greatest : value ≤ maxInteger) :
      Spelled .integer cs (some value)
  | mark {kind : TokenKind} {c : Char} (mark : kind.mark? = some c) : Spelled kind [c] none

theorem NumberRun.ne_nil {run : List Char} (h : NumberRun run) : run ≠ [] := by
  cases h
  simp

/-- A lexeme of some kind. -/
structure Lexeme where
  kind : TokenKind
  chars : List Char
  value : Option Int
  spelled : Spelled kind chars value

/-- Whether a lexeme of the kind would take in `c` if it came next. -/
def TokenKind.growsBy : TokenKind → Char → Bool
  | keyword, c => Text.isNameChar c
  | integer, c => isNumberChar c
  | _, _ => false

namespace Lexeme

/-- The lexeme takes in nothing of the text behind it. -/
def IsMaximal (lexeme : Lexeme) (rest : List Char) : Prop :=
  ∀ c ∈ rest.head?, lexeme.kind.growsBy c = false

/-- The token of a lexeme that starts at `position`. -/
def token (lexeme : Lexeme) (position : Nat) : Token :=
  { kind := lexeme.kind, span := .ofLength position lexeme.chars.length
    text := String.ofList lexeme.chars, value := lexeme.value }

theorem chars_ne_nil (lexeme : Lexeme) : lexeme.chars ≠ [] := by
  obtain ⟨kind, chars, value, spelled⟩ := lexeme
  cases spelled with
  | name => exact List.cons_ne_nil _ _
  | number run => exact run.ne_nil
  | mark => exact List.cons_ne_nil _ _

end Lexeme

/-! ## Characters of lexemes -/

theorem isBlank_eq_false_of_isNameChar {c : Char} (h : Text.isNameChar c = true) :
    Text.isBlank c = false := by
  rw [← Bool.not_eq_true]
  intro hblank
  rw [Text.isNameChar_eq_false_of_isBlank hblank] at h
  cases h

theorem isBlank_eq_false_of_isNumberChar {c : Char} (h : isNumberChar c = true) :
    Text.isBlank c = false := by
  rw [isNumberChar, Bool.or_eq_true, beq_iff_eq] at h
  rcases h with hdigit | rfl
  · exact Text.isBlank_eq_false_of_isDigit hdigit
  · decide

theorem NumberRun.isBlank_of_mem {run : List Char} (h : NumberRun run) {c : Char} (hc : c ∈ run) :
    Text.isBlank c = false := by
  obtain ⟨sign, d, ds, hsign, head, tail⟩ := h
  rcases List.mem_append.mp hc with hc | hc
  · have hminus : c = '-' := by
      rcases hsign with rfl | rfl
      · cases hc
      · exact List.mem_singleton.mp hc
    rw [hminus]
    decide
  · rcases List.mem_cons.mp hc with rfl | hc
    · exact Text.isBlank_eq_false_of_isDigit head
    · exact isBlank_eq_false_of_isNumberChar (tail c hc)

theorem Lexeme.isBlank_of_mem (lexeme : Lexeme) {c : Char} (hc : c ∈ lexeme.chars) :
    Text.isBlank c = false := by
  obtain ⟨kind, chars, value, spelled⟩ := lexeme
  cases spelled with
  | name head tail =>
    rcases List.mem_cons.mp hc with rfl | hc
    · exact Text.isBlank_eq_false_of_isLetter head
    · exact isBlank_eq_false_of_isNameChar (tail c hc)
  | number run => exact run.isBlank_of_mem hc
  | mark mark =>
    obtain rfl := List.mem_singleton.mp hc
    cases kind <;> simp only [TokenKind.mark?, Option.some.injEq, reduceCtorEq] at mark <;>
      subst mark <;> decide

/-- No lexeme goes on with a blank. -/
theorem TokenKind.growsBy_eq_false_of_isBlank (kind : TokenKind) {c : Char}
    (h : Text.isBlank c = true) : kind.growsBy c = false := by
  have hdigit : c.isDigit = false := by
    cases hc : c.isDigit with
    | false => rfl
    | true => exact absurd h (by simp [Text.isBlank_eq_false_of_isDigit hc])
  have hunderscore : c ≠ '_' := by
    rintro rfl
    exact absurd h (by decide)
  cases kind <;>
    simp [growsBy, Text.isNameChar_eq_false_of_isBlank h, isNumberChar, hdigit, hunderscore]

/-! ## Values -/

theorem readLiteral_eq_some_iff {text : String} {value : Int} :
    readLiteral text = some value ↔
      Text.readInteger text = some value ∧ minInteger ≤ value ∧ value ≤ maxInteger := by
  rw [readLiteral]
  cases Text.readInteger text with
  | none => simp
  | some v =>
    by_cases h : minInteger ≤ v ∧ v ≤ maxInteger
    · simp only [if_pos h, Option.some.injEq]
      exact ⟨fun hv => ⟨hv, hv ▸ h⟩, fun hv => hv.1⟩
    · simp only [if_neg h, Option.some.injEq]
      exact ⟨fun hv => absurd hv (by simp), fun hv => absurd (hv.1 ▸ hv.2) h⟩

/-! ## Runs -/

/-- The text does not go on with a character of the class. -/
def StopsAt (p : Char → Bool) (rest : List Char) : Prop := ∀ c ∈ rest.head?, p c = false

theorem stopsAt_nil (p : Char → Bool) : StopsAt p [] := by
  intro c hc
  exact absurd hc (by simp)

theorem stopsAt_cons {p : Char → Bool} {c : Char} {rest : List Char} (h : p c = false) :
    StopsAt p (c :: rest) := by
  intro d hd
  obtain rfl := Option.some.inj hd
  exact h

theorem stopsAt_dropWhile (p : Char → Bool) (cs : List Char) : StopsAt p (cs.dropWhile p) := by
  intro c hc
  have h := List.head?_dropWhile_not p cs
  rw [Option.mem_def.mp hc] at h
  exact h

theorem StopsAt.takeWhile_eq_nil {p : Char → Bool} {rest : List Char} (h : StopsAt p rest) :
    rest.takeWhile p = [] := by
  cases rest with
  | nil => rfl
  | cons c rest => rw [List.takeWhile_cons_of_neg (by simp [h c rfl])]

theorem StopsAt.dropWhile_eq_self {p : Char → Bool} {rest : List Char} (h : StopsAt p rest) :
    rest.dropWhile p = rest := by
  cases rest with
  | nil => rfl
  | cons c rest => rw [List.dropWhile_cons_of_neg (by simp [h c rfl])]

theorem takeWhile_append_of_stopsAt {p : Char → Bool} {cs rest : List Char}
    (h : ∀ c ∈ cs, p c = true) (hrest : StopsAt p rest) : (cs ++ rest).takeWhile p = cs := by
  rw [List.takeWhile_append_of_pos h, hrest.takeWhile_eq_nil, List.append_nil]

theorem dropWhile_append_of_stopsAt {p : Char → Bool} {cs rest : List Char}
    (h : ∀ c ∈ cs, p c = true) (hrest : StopsAt p rest) : (cs ++ rest).dropWhile p = rest := by
  rw [List.dropWhile_append_of_pos h, hrest.dropWhile_eq_self]

theorem mem_takeWhile_imp {p : Char → Bool} {cs : List Char} {c : Char} (h : c ∈ cs.takeWhile p) :
    p c = true :=
  List.all_eq_true.mp List.all_takeWhile c h

/-! ## How a text starts -/

/-- The five ways in which a text can start. -/
inductive Front : List Char → Prop
  | nothing : Front []
  | blank {c : Char} {rest : List Char} (blank : Text.isBlank c = true) : Front (c :: rest)
  | lexeme (lexeme : Lexeme) {rest : List Char} (maximal : lexeme.IsMaximal rest) :
      Front (lexeme.chars ++ rest)
  | badNumber {run rest : List Char} (number : NumberRun run) (stops : StopsAt isNumberChar rest)
      (refused : readLiteral (String.ofList run) = none) : Front (run ++ rest)
  | unknown {c : Char} {rest : List Char} (blank : Text.isBlank c = false)
      (letter : Text.isLetter c = false) (number : startsNumber c rest = false)
      (mark : TokenKind.ofMark? c = none) : Front (c :: rest)

theorem growsBy_of_mark? {kind : TokenKind} {c d : Char} (h : kind.mark? = some c) :
    kind.growsBy d = false := by
  cases kind <;> first | rfl | exact absurd h (by simp [TokenKind.mark?])

theorem front_of_isLetter {c : Char} {rest : List Char} (h : Text.isLetter c = true) :
    Front (c :: rest) := by
  have hlexeme : Spelled .keyword (c :: rest.takeWhile Text.isNameChar) none :=
    Spelled.name h fun d hd => mem_takeWhile_imp hd
  have hfront := Front.lexeme ⟨_, _, _, hlexeme⟩ (stopsAt_dropWhile Text.isNameChar rest)
  rwa [List.cons_append, List.takeWhile_append_dropWhile] at hfront

/-- A number that starts in front of `rest` is made of a run and stops behind it. -/
theorem numberRun_of_startsNumber {c : Char} {rest : List Char} (h : startsNumber c rest = true) :
    NumberRun (c :: rest.takeWhile isNumberChar) := by
  rw [startsNumber, Bool.or_eq_true, Bool.and_eq_true] at h
  rcases h with hdigit | ⟨hminus, hdigit⟩
  · exact NumberRun.mk [] c _ (Or.inl rfl) hdigit fun d hd => mem_takeWhile_imp hd
  · cases rest with
    | nil => exact absurd hdigit (by simp)
    | cons d rest =>
      have hd : d.isDigit = true := by simpa using hdigit
      have hnumber : isNumberChar d = true := by rw [isNumberChar, hd, Bool.true_or]
      rw [beq_iff_eq.mp hminus, List.takeWhile_cons_of_pos hnumber]
      exact NumberRun.mk ['-'] d _ (Or.inr rfl) hd fun d hd => mem_takeWhile_imp hd

theorem front_of_startsNumber {c : Char} {rest : List Char} (h : startsNumber c rest = true) :
    Front (c :: rest) := by
  have hrun := numberRun_of_startsNumber h
  have hstops := stopsAt_dropWhile isNumberChar rest
  rw [← List.takeWhile_append_dropWhile (p := isNumberChar) (l := rest), ← List.cons_append]
  cases hread : readLiteral (String.ofList (c :: rest.takeWhile isNumberChar)) with
  | none => exact Front.badNumber hrun hstops hread
  | some value =>
    obtain ⟨hvalue, hleast, hgreatest⟩ := readLiteral_eq_some_iff.mp hread
    exact Front.lexeme ⟨_, _, _, .number hrun hvalue hleast hgreatest⟩ hstops

/-- Every text starts in one of the five ways. -/
theorem front (cs : List Char) : Front cs := by
  cases cs with
  | nil => exact Front.nothing
  | cons c rest =>
    cases hblank : Text.isBlank c with
    | true => exact Front.blank hblank
    | false =>
      cases hletter : Text.isLetter c with
      | true => exact front_of_isLetter hletter
      | false =>
        cases hnumber : startsNumber c rest with
        | true => exact front_of_startsNumber hnumber
        | false =>
          cases hmark : TokenKind.ofMark? c with
          | none => exact Front.unknown hblank hletter hnumber hmark
          | some kind =>
            have hkind := TokenKind.ofMark?_eq_some_iff.mp hmark
            exact Front.lexeme ⟨kind, [c], none, .mark hkind⟩ fun _ _ => growsBy_of_mark? hkind

/-- Induction over texts by how they start. -/
theorem front_induction {motive : List Char → Prop} (nothing : motive [])
    (blank : ∀ c rest, Text.isBlank c = true → motive rest → motive (c :: rest))
    (lexeme : ∀ (lexeme : Lexeme) rest, lexeme.IsMaximal rest → motive rest →
      motive (lexeme.chars ++ rest))
    (badNumber : ∀ run rest, NumberRun run → StopsAt isNumberChar rest →
      readLiteral (String.ofList run) = none → motive (run ++ rest))
    (unknown : ∀ c rest, Text.isBlank c = false → Text.isLetter c = false →
      startsNumber c rest = false → TokenKind.ofMark? c = none → motive (c :: rest))
    (cs : List Char) : motive cs := by
  induction h : cs.length using Nat.strongRecOn generalizing cs with
  | _ n ih =>
    subst h
    cases front cs with
    | nothing => exact nothing
    | @blank c rest hblank => exact blank c rest hblank (ih rest.length (by simp) rest rfl)
    | @lexeme l rest hmaximal =>
      have hpos := List.length_pos_iff.mpr l.chars_ne_nil
      refine lexeme l rest hmaximal (ih rest.length ?_ rest rfl)
      rw [List.length_append]
      omega
    | badNumber hnumber hstops hrefused => exact badNumber _ _ hnumber hstops hrefused
    | unknown hblank hletter hnumber hmark => exact unknown _ _ hblank hletter hnumber hmark

/-! ## The scanner on each start of a text -/

theorem scan_nil (position : Nat) : scan position [] = (.ok [], { position, rest := [] }) := by
  rw [scan]

theorem scan_of_isBlank (position : Nat) {c : Char} {rest : List Char}
    (h : Text.isBlank c = true) : scan position (c :: rest) = scan (position + 1) rest := by
  rw [scan, if_pos h]

theorem scan_name (position : Nat) {c : Char} {cs rest : List Char}
    (head : Text.isLetter c = true) (tail : ∀ d ∈ cs, Text.isNameChar d = true)
    (stops : StopsAt Text.isNameChar rest) :
    let later := scan (position + (c :: cs).length) rest
    scan position (c :: cs ++ rest) =
      (later.1.map
        (⟨.keyword, .ofLength position (c :: cs).length, String.ofList (c :: cs), none⟩ :: ·),
        later.2) := by
  intro later
  have hblank := Text.isBlank_eq_false_of_isLetter head
  rw [List.cons_append, scan, if_neg (by simp [hblank]), if_pos head]
  simp only [takeWhile_append_of_stopsAt tail stops, dropWhile_append_of_stopsAt tail stops]
  rfl

/-- A run of number characters is taken whole, and refused whole if it is no 64-bit numeral. -/
theorem scan_numberRun (position : Nat) {run rest : List Char} (number : NumberRun run)
    (stops : StopsAt isNumberChar rest) :
    let later := scan (position + run.length) rest
    scan position (run ++ rest) =
      match readLiteral (String.ofList run) with
      | none => (.error (.badNumber position (String.ofList run)),
          { position := position + run.length, rest })
      | some value =>
        (later.1.map
          (⟨.integer, .ofLength position run.length, String.ofList run, some value⟩ :: ·),
          later.2) := by
  intro later
  obtain ⟨sign, d, ds, sign_eq, head, tail⟩ := number
  have hdigit : isNumberChar d = true := by rw [isNumberChar, head, Bool.true_or]
  rcases sign_eq with rfl | rfl
  · have hblank := Text.isBlank_eq_false_of_isDigit head
    have hletter := Text.isLetter_eq_false_of_isDigit head
    have hstarts : startsNumber d (ds ++ rest) = true := by rw [startsNumber, head, Bool.true_or]
    rw [List.nil_append, List.cons_append, scan, if_neg (by simp [hblank]),
      if_neg (by simp [hletter]), if_pos hstarts]
    simp only [takeWhile_append_of_stopsAt tail stops, dropWhile_append_of_stopsAt tail stops]
    rfl
  · have htail : ∀ c ∈ d :: ds, isNumberChar c = true := by
      intro c hc
      rcases List.mem_cons.mp hc with rfl | hc
      · exact hdigit
      · exact tail c hc
    have hstarts : startsNumber '-' (d :: ds ++ rest) = true := by simp [startsNumber, head]
    rw [List.singleton_append, List.cons_append, scan, if_neg (by decide), if_neg (by decide),
      if_pos hstarts]
    simp only [takeWhile_append_of_stopsAt htail stops, dropWhile_append_of_stopsAt htail stops]
    rfl

theorem scan_mark (position : Nat) {kind : TokenKind} {c : Char} {rest : List Char}
    (mark : kind.mark? = some c) :
    let later := scan (position + 1) rest
    scan position (c :: rest) =
      (later.1.map (⟨kind, .ofLength position 1, String.singleton c, none⟩ :: ·), later.2) := by
  intro later
  have hkind := TokenKind.ofMark?_eq_some_iff.mpr mark
  have hplain : Text.isBlank c = false ∧ Text.isLetter c = false ∧ c.isDigit = false ∧ c ≠ '-' := by
    cases kind <;> simp only [TokenKind.mark?, Option.some.injEq, reduceCtorEq] at mark <;>
      subst mark <;> decide
  obtain ⟨hblank, hletter, hdigit, hminus⟩ := hplain
  have hstarts : startsNumber c rest = false := by simp [startsNumber, hdigit, hminus]
  rw [scan, if_neg (by simp [hblank]), if_neg (by simp [hletter]), if_neg (by simp [hstarts])]
  simp only [hkind]
  rfl

/-- A lexeme that cannot be made longer is read as its token. -/
theorem scan_lexeme (position : Nat) (lexeme : Lexeme) {rest : List Char}
    (maximal : lexeme.IsMaximal rest) :
    let later := scan (position + lexeme.chars.length) rest
    scan position (lexeme.chars ++ rest) =
      (later.1.map (lexeme.token position :: ·), later.2) := by
  obtain ⟨kind, chars, value, spelled⟩ := lexeme
  cases spelled with
  | name head tail => exact scan_name position head tail maximal
  | number run numeral least greatest =>
    have hread := readLiteral_eq_some_iff.mpr ⟨numeral, least, greatest⟩
    have hscan := scan_numberRun position run maximal
    rw [hread] at hscan
    exact hscan
  | mark mark => exact scan_mark position mark

theorem scan_badNumber (position : Nat) {run rest : List Char} (number : NumberRun run)
    (stops : StopsAt isNumberChar rest) (refused : readLiteral (String.ofList run) = none) :
    scan position (run ++ rest) = (.error (.badNumber position (String.ofList run)),
      { position := position + run.length, rest }) := by
  have hscan := scan_numberRun position number stops
  rwa [refused] at hscan

theorem scan_unknown (position : Nat) {c : Char} {rest : List Char}
    (blank : Text.isBlank c = false) (letter : Text.isLetter c = false)
    (number : startsNumber c rest = false) (mark : TokenKind.ofMark? c = none) :
    scan position (c :: rest) =
      (.error (.unknownCharacter position (String.singleton c)),
        { position, rest := c :: rest }) := by
  rw [scan, if_neg (by simp [blank]), if_neg (by simp [letter]), if_neg (by simp [number])]
  simp only [mark]

/-! ## Faults -/

/-- Neither a blank nor a token starts with `c` in front of `rest`. -/
structure StartsNothing (c : Char) (rest : List Char) : Prop where
  blank : Text.isBlank c = false
  letter : Text.isLetter c = false
  digit : c.isDigit = false
  mark : c ∉ ['(', ')', '.', ',']
  minus : c = '-' → ∀ d ∈ rest.head?, d.isDigit = false

/-- The error a text is refused with at its very start, which is at `position`. -/
inductive RefusedWith (position : Nat) : List Char → LexError → Prop
  | unknown {c : Char} {rest : List Char} (nothing : StartsNothing c rest) :
      RefusedWith position (c :: rest) (.unknownCharacter position (String.singleton c))
  | badNumber {run rest : List Char} (number : NumberRun run) (stops : StopsAt isNumberChar rest)
      (refused : readLiteral (String.ofList run) = none) :
      RefusedWith position (run ++ rest) (.badNumber position (String.ofList run))

section

variable {c : Char} {rest : List Char}

theorem startsNumber_eq_false_iff :
    startsNumber c rest = false ↔
      c.isDigit = false ∧ (c = '-' → ∀ d ∈ rest.head?, d.isDigit = false) := by
  rw [startsNumber, Bool.or_eq_false_iff, Bool.and_eq_false_imp, beq_iff_eq]
  cases rest.head? <;> simp

theorem ofMark?_eq_none_iff : TokenKind.ofMark? c = none ↔ c ∉ ['(', ')', '.', ','] := by
  unfold TokenKind.ofMark?
  split <;> simp_all

/-- The scanner refuses a character in front of which it finds no other way to go on. -/
theorem startsNothing_iff :
    StartsNothing c rest ↔ Text.isBlank c = false ∧ Text.isLetter c = false ∧
      startsNumber c rest = false ∧ TokenKind.ofMark? c = none := by
  rw [startsNumber_eq_false_iff, ofMark?_eq_none_iff]
  constructor
  · rintro ⟨blank, letter, digit, mark, minus⟩
    exact ⟨blank, letter, ⟨digit, minus⟩, mark⟩
  · rintro ⟨blank, letter, ⟨digit, minus⟩, mark⟩
    exact ⟨blank, letter, digit, mark, minus⟩

/-- A number starts with a digit, or with a minus sign in front of one. -/
theorem NumberRun.not_startsNothing {run later : List Char} (h : NumberRun run)
    (heq : run ++ later = c :: rest) : ¬ StartsNothing c rest := by
  rintro ⟨-, -, hdigit, -, hminus⟩
  obtain ⟨sign, d, ds, rfl | rfl, head, -⟩ := h
  · cases heq
    rw [head] at hdigit
    cases hdigit
  · cases heq
    rw [hminus rfl d rfl] at head
    cases head

end

theorem RefusedWith.ne_nil {position : Nat} {cs : List Char} {error : LexError}
    (h : RefusedWith position cs error) : cs ≠ [] := by
  cases h with
  | unknown nothing => exact List.cons_ne_nil _ _
  | badNumber number => exact List.append_ne_nil_of_left_ne_nil number.ne_nil _

theorem RefusedWith.position_eq {position : Nat} {cs : List Char} {error : LexError}
    (h : RefusedWith position cs error) : error.position = position := by
  cases h <;> rfl

theorem RefusedWith.scan_eq {position : Nat} {cs : List Char} {error : LexError}
    (h : RefusedWith position cs error) : (scan position cs).1 = .error error := by
  cases h with
  | unknown nothing =>
    obtain ⟨hblank, hletter, hnumber, hmark⟩ := startsNothing_iff.mp nothing
    rw [scan_unknown position hblank hletter hnumber hmark]
  | badNumber number stops refused => rw [scan_badNumber position number stops refused]

end CoinConsole
