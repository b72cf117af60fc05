import CoinConsole.Proofs.Outcome
import CoinConsole.Proofs.Token.Lexeme

/-!
# Maximal munch

Reading a text finds the one way to cut it into lexemes, each as long as it can be, with nothing
but blanks around them (`Cut.IsMaximalMunch`). The scanner succeeds on exactly the texts that can
be cut like that (`exists_cut_of_scan`) and answers with the tokens of the cut
(`Cut.IsMaximalMunch.scan_text`). More generally it gets through any cut of what stands in front,
provided that the lexemes cannot be made longer with what stands behind either (`Cut.Reaches`). A
text has at most one such cut, and the tokens stand in order,
apart from each other, and leave out only blanks.
-/

namespace CoinConsole

/-! ## Cuts -/

/-- A text in pieces: lexemes with the characters in front of each, and those behind the last. -/
inductive Cut
  | last (gap : List Char)
  | piece (gap : List Char) (lexeme : Lexeme) (later : Cut)

namespace Cut

/-- The pieces put together again. -/
def text : Cut → List Char
  | last gap => gap
  | piece gap lexeme later => gap ++ (lexeme.chars ++ later.text)

/-- The tokens of the lexemes, in a text that starts at `position`. -/
def tokens (position : Nat) : Cut → List Token
  | last _ => []
  | piece gap lexeme later =>
    lexeme.token (position + gap.length) ::
      later.tokens (position + gap.length + lexeme.chars.length)

/-- The gaps are blank, and each lexeme takes in as much as it can. -/
def IsMaximalMunch : Cut → Prop
  | last gap => ∀ c ∈ gap, Text.isBlank c = true
  | piece gap lexeme later =>
    (∀ c ∈ gap, Text.isBlank c = true) ∧ lexeme.IsMaximal later.text ∧ later.IsMaximalMunch

/-- The cut is a maximal munch in front of `rest`: no lexeme goes on with what stands behind it. -/
def Reaches (rest : List Char) : Cut → Prop
  | last gap => ∀ c ∈ gap, Text.isBlank c = true
  | piece gap lexeme later =>
    (∀ c ∈ gap, Text.isBlank c = true) ∧ lexeme.IsMaximal (later.text ++ rest) ∧
      later.Reaches rest

theorem reaches_nil_iff {cut : Cut} : cut.Reaches [] ↔ cut.IsMaximalMunch := by
  induction cut with
  | last gap => exact Iff.rfl
  | piece gap lexeme later ih => simp only [Reaches, IsMaximalMunch, List.append_nil, ih]

theorem Reaches.isMaximalMunch {cut : Cut} {rest : List Char} (h : cut.Reaches rest) :
    cut.IsMaximalMunch := by
  induction cut with
  | last gap => exact h
  | piece gap lexeme later ih =>
    obtain ⟨hgap, hmaximal, hlater⟩ := h
    refine ⟨hgap, fun c hc => hmaximal c ?_, ih hlater⟩
    rw [List.head?_append, Option.mem_def.mp hc]
    rfl

/-- The cut with `c` in front of its text. -/
def indent (c : Char) : Cut → Cut
  | last gap => last (c :: gap)
  | piece gap lexeme later => piece (c :: gap) lexeme later

theorem text_indent (c : Char) (cut : Cut) : (cut.indent c).text = c :: cut.text := by
  cases cut <;> rfl

theorem Reaches.indent {c : Char} {cut : Cut} {rest : List Char} (hc : Text.isBlank c = true)
    (h : cut.Reaches rest) : (cut.indent c).Reaches rest := by
  have hgap : ∀ {gap : List Char}, (∀ d ∈ gap, Text.isBlank d = true) →
      ∀ d ∈ c :: gap, Text.isBlank d = true := by
    intro gap hgap d hd
    rcases List.mem_cons.mp hd with rfl | hd
    · exact hc
    · exact hgap d hd
  cases cut with
  | last gap => exact hgap h
  | piece gap lexeme later => exact ⟨hgap h.1, h.2⟩

end Cut

/-! ## The scanner and cuts -/

theorem scan_gap (position : Nat) {gap : List Char} (rest : List Char)
    (h : ∀ c ∈ gap, Text.isBlank c = true) :
    scan position (gap ++ rest) = scan (position + gap.length) rest := by
  induction gap generalizing position with
  | nil => rfl
  | cons c gap ih =>
    rw [List.cons_append, scan_of_isBlank position (h c (by simp)),
      ih (position + 1) fun d hd => h d (List.mem_cons_of_mem c hd), List.length_cons]
    congr 1
    omega

/-- The scanner gets through a cut that reaches to `rest`, finds its lexemes and goes on there. -/
theorem Cut.Reaches.scan_append {cut : Cut} {rest : List Char} (h : cut.Reaches rest)
    (position : Nat) :
    let later := scan (position + cut.text.length) rest
    scan position (cut.text ++ rest) = (later.1.map (cut.tokens position ++ ·), later.2) := by
  induction cut generalizing position with
  | last gap =>
    rw [text, scan_gap position rest h]
    exact Prod.ext (congrFun Except.map_id _).symm rfl
  | piece gap lexeme later ih =>
    obtain ⟨hgap, hmaximal, hlater⟩ := h
    rw [text, List.append_assoc, scan_gap position _ hgap, List.append_assoc,
      scan_lexeme _ lexeme hmaximal, ih hlater, map_map]
    simp only [List.length_append, Nat.add_assoc, tokens]
    rfl

/-- The scanner reads a maximal munch to the end and finds its lexemes. -/
theorem Cut.IsMaximalMunch.scan_text {cut : Cut} (h : cut.IsMaximalMunch) (position : Nat) :
    scan position cut.text =
      (.ok (cut.tokens position), { position := position + cut.text.length, rest := [] }) := by
  have hscan := (reaches_nil_iff.mpr h).scan_append position
  simpa only [List.append_nil, scan_nil, Except.map] using hscan

/-- Every text is cut by maximal munch up to its end, or up to the first fault. -/
theorem exists_cut (cs : List Char) (position : Nat) :
    ∃ (cut : Cut) (rest : List Char), cs = cut.text ++ rest ∧ cut.Reaches rest ∧
      (rest = [] ∨ ∃ error, RefusedWith (position + cut.text.length) rest error) := by
  have hnothing : (Cut.last []).Reaches cs := List.forall_mem_nil _
  induction cs using front_induction generalizing position with
  | nothing => exact ⟨.last [], [], rfl, hnothing, Or.inl rfl⟩
  | blank c rest hblank ih =>
    obtain ⟨cut, later, rfl, hreaches, hlater⟩ := ih (position + 1) (List.forall_mem_nil _)
    refine ⟨cut.indent c, later, ?_, hreaches.indent hblank, ?_⟩
    · rw [cut.text_indent, List.cons_append]
    · rwa [cut.text_indent, List.length_cons, Nat.add_comm cut.text.length, ← Nat.add_assoc]
  | lexeme lexeme rest hmaximal ih =>
    obtain ⟨cut, later, rfl, hreaches, hlater⟩ :=
      ih (position + lexeme.chars.length) (List.forall_mem_nil _)
    refine ⟨.piece [] lexeme cut, later, ?_, ⟨List.forall_mem_nil _, hmaximal, hreaches⟩, ?_⟩
    · rw [Cut.text, List.nil_append, List.append_assoc]
    · rwa [Cut.text, List.nil_append, List.length_append, ← Nat.add_assoc]
  | badNumber run rest hnumber hstops hrefused =>
    exact ⟨.last [], _, rfl, hnothing, Or.inr ⟨_, .badNumber hnumber hstops hrefused⟩⟩
  | unknown c rest hblank hletter hnumber hmark =>
    have hstarts := startsNothing_iff.mpr ⟨hblank, hletter, hnumber, hmark⟩
    exact ⟨.last [], _, rfl, hnothing, Or.inr ⟨_, .unknown hstarts⟩⟩

/-- Where the scanner succeeds, its tokens are those of a maximal munch. -/
theorem exists_cut_of_scan {cs : List Char} {position : Nat} {tokens : List Token}
    (h : (scan position cs).1 = .ok tokens) :
    ∃ cut : Cut, cut.IsMaximalMunch ∧ cut.text = cs ∧ cut.tokens position = tokens := by
  obtain ⟨cut, rest, rfl, hreaches, rfl | ⟨error, herror⟩⟩ := exists_cut cs position
  · have hmunch := hreaches.isMaximalMunch
    rw [List.append_nil] at h ⊢
    rw [hmunch.scan_text] at h
    exact ⟨cut, hmunch, rfl, Except.ok.inj h⟩
  · rw [hreaches.scan_append, herror.scan_eq] at h
    cases h

/-- Where the scanner fails, there is a maximal munch of what stands in front of the fault. -/
theorem exists_cut_of_scan_error {cs : List Char} {position : Nat} {error : LexError}
    (h : (scan position cs).1 = .error error) :
    ∃ (cut : Cut) (rest : List Char), cs = cut.text ++ rest ∧ cut.Reaches rest ∧
      RefusedWith (position + cut.text.length) rest error := by
  obtain ⟨cut, rest, rfl, hreaches, rfl | ⟨other, hother⟩⟩ := exists_cut cs position
  · rw [List.append_nil, hreaches.isMaximalMunch.scan_text] at h
    cases h
  · have hscan := hreaches.scan_append position
    rw [hscan, hother.scan_eq] at h
    obtain rfl := Except.error.inj h
    exact ⟨cut, rest, rfl, hreaches, hother⟩

/-- The tokens of a line are those of a maximal munch of it. -/
theorem exists_cut_of_tokenize {text : String} {tokens : List Token}
    (h : tokenize text = .ok tokens) :
    ∃ cut : Cut, cut.IsMaximalMunch ∧ cut.text = text.toList ∧ cut.tokens 0 = tokens :=
  exists_cut_of_scan h

/-- In front of the fault that a line is refused for, it is cut by maximal munch. -/
theorem exists_cut_of_tokenize_error {text : String} {error : LexError}
    (h : tokenize text = .error error) :
    ∃ (cut : Cut) (rest : List Char), text.toList = cut.text ++ rest ∧ cut.Reaches rest ∧
      error.position = cut.text.length ∧ RefusedWith error.position rest error := by
  obtain ⟨cut, rest, htext, hreaches, hrefused⟩ := exists_cut_of_scan_error h
  have hposition : error.position = cut.text.length :=
    hrefused.position_eq.trans (Nat.zero_add cut.text.length)
  exact ⟨cut, rest, htext, hreaches, hposition, hrefused.position_eq.symm ▸ hrefused⟩

/-- A line is read by any maximal munch of it. -/
theorem Cut.IsMaximalMunch.tokenize_eq {cut : Cut} (h : cut.IsMaximalMunch) {text : String}
    (htext : cut.text = text.toList) : tokenize text = .ok (cut.tokens 0) := by
  rw [tokenize, Lexer.tokenize, Lexer.ofText, ← htext, h.scan_text]

/-! ## One cut only -/

theorem Lexeme.eq_of_token_eq {l m : Lexeme} {p q : Nat} (h : l.token p = m.token q) : l = m := by
  obtain ⟨kind, chars, value, spelled⟩ := l
  obtain ⟨kind', chars', value', spelled'⟩ := m
  simp only [token, Token.mk.injEq] at h
  obtain ⟨rfl, -, htext, rfl⟩ := h
  obtain rfl : chars = chars' := by
    rw [← String.toList_ofList (l := chars), htext, String.toList_ofList]
  rfl

/-- A text and the tokens read from it fix the cut. -/
theorem Cut.eq_of_tokens_eq {cut other : Cut} {position : Nat} (htext : cut.text = other.text)
    (htokens : cut.tokens position = other.tokens position) : cut = other := by
  induction cut generalizing other position with
  | last gap =>
    cases other with
    | last gap' => rw [show gap = gap' from htext]
    | piece gap' lexeme' later' => exact absurd htokens (by simp [tokens])
  | piece gap lexeme later ih =>
    cases other with
    | last gap' => exact absurd htokens (by simp [tokens])
    | piece gap' lexeme' later' =>
      rw [tokens, tokens, List.cons.injEq] at htokens
      obtain ⟨htoken, hlater⟩ := htokens
      obtain rfl := Lexeme.eq_of_token_eq htoken
      have hstart : position + gap.length = position + gap'.length :=
        congrArg (fun token => token.span.start) htoken
      obtain ⟨rfl, hrest⟩ := List.append_inj htext (by omega)
      rw [ih (List.append_cancel_left hrest) hlater]

/-! ## Where the tokens stand -/

/-- A span covers the characters it is made for. -/
theorem Span.slice_ofLength (before chars rest : List Char) :
    (Span.ofLength before.length chars.length).slice (before ++ (chars ++ rest)) = chars := by
  simp only [slice, ofLength, length, Nat.add_sub_cancel_left, List.drop_left, List.take_left]

/-- Each token covers its own characters in a text that has the cut behind `before`. -/
theorem Cut.slice_of_mem_tokens {cut : Cut} {token : Token} (before : List Char)
    (h : token ∈ cut.tokens before.length) :
    token.span.slice (before ++ cut.text) = token.text.toList := by
  induction cut generalizing before with
  | last gap => exact absurd h List.not_mem_nil
  | piece gap lexeme later ih =>
    rw [tokens] at h
    rcases List.mem_cons.mp h with rfl | h
    · rw [text, ← List.append_assoc, Lexeme.token, ← List.length_append, Span.slice_ofLength,
        String.toList_ofList]
    · have hbefore : before.length + gap.length + lexeme.chars.length
          = (before ++ gap ++ lexeme.chars).length := by simp only [List.length_append]
      rw [hbefore] at h
      have hslice := ih (before ++ gap ++ lexeme.chars) h
      rw [text]
      simpa only [List.append_assoc] using hslice

/-- Tokens are not empty and stay within the text of the cut. -/
theorem Cut.span_of_mem_tokens {cut : Cut} {position : Nat} {token : Token}
    (h : token ∈ cut.tokens position) :
    position ≤ token.span.start ∧ token.span.start < token.span.stop ∧
      token.span.stop ≤ position + cut.text.length := by
  induction cut generalizing position with
  | last gap => exact absurd h List.not_mem_nil
  | piece gap lexeme later ih =>
    have hlength : (piece gap lexeme later).text.length
        = gap.length + (lexeme.chars.length + later.text.length) := by
      rw [text, List.length_append, List.length_append]
    rw [tokens] at h
    rcases List.mem_cons.mp h with rfl | h
    · have hpos := List.length_pos_iff.mpr lexeme.chars_ne_nil
      simp only [Lexeme.token, Span.ofLength]
      omega
    · have hspan := ih h
      omega

/-- In front of a token stands a cut that reaches to its lexeme. -/
theorem Cut.Reaches.exists_front_of_mem_tokens {cut : Cut} {behind : List Char}
    (h : cut.Reaches behind) {position : Nat} {token : Token} (hmem : token ∈ cut.tokens position) :
    ∃ (front : Cut) (lexeme : Lexeme) (rest : List Char),
      cut.text ++ behind = front.text ++ (lexeme.chars ++ rest) ∧
      front.Reaches (lexeme.chars ++ rest) ∧ lexeme.IsMaximal rest ∧
      token = lexeme.token (position + front.text.length) := by
  induction cut generalizing position with
  | last gap => exact absurd hmem List.not_mem_nil
  | piece gap first later ih =>
    obtain ⟨hgap, hmaximal, hlater⟩ := h
    rw [tokens] at hmem
    rcases List.mem_cons.mp hmem with rfl | hmem
    · refine ⟨.last gap, first, later.text ++ behind, ?_, hgap, hmaximal, rfl⟩
      rw [text, text, List.append_assoc, List.append_assoc]
    · obtain ⟨front, lexeme, rest, htext, hfront, hlast, rfl⟩ := ih hlater hmem
      refine ⟨.piece gap first front, lexeme, rest, ?_, ⟨hgap, htext ▸ hmaximal, hfront⟩, hlast, ?_⟩
      · rw [text, text, List.append_assoc, List.append_assoc, List.append_assoc,
          List.append_assoc, htext]
      · rw [text, List.length_append, List.length_append, ← Nat.add_assoc, ← Nat.add_assoc]

/-- Each token ends before the next one starts. -/
theorem Cut.pairwise_tokens (cut : Cut) (position : Nat) :
    (cut.tokens position).Pairwise fun a b => a.span.stop ≤ b.span.start := by
  induction cut generalizing position with
  | last gap => exact List.Pairwise.nil
  | piece gap lexeme later ih =>
    refine List.pairwise_cons.mpr ⟨fun token htoken => ?_, ih _⟩
    exact (span_of_mem_tokens htoken).1

/-- What no token covers is blank. -/
theorem Cut.IsMaximalMunch.isBlank_of_not_covered {cut : Cut} (h : cut.IsMaximalMunch)
    (position : Nat) {i : Nat} {c : Char} (hc : cut.text[i]? = some c)
    (hcover : ∀ token ∈ cut.tokens position,
      ¬ (token.span.start ≤ position + i ∧ position + i < token.span.stop)) :
    Text.isBlank c = true := by
  induction cut generalizing position i with
  | last gap => exact h c (List.mem_of_getElem? hc)
  | piece gap lexeme later ih =>
    obtain ⟨hgap, -, hlater⟩ := h
    rw [text] at hc
    by_cases hi : i < gap.length
    · rw [List.getElem?_append_left hi] at hc
      exact hgap c (List.mem_of_getElem? hc)
    · -- the lexeme covers its own characters, so the place is behind it
      have hfirst := hcover (lexeme.token (position + gap.length)) (by simp [tokens])
      have hbehind : gap.length + lexeme.chars.length ≤ i := by
        simp only [Lexeme.token, Span.ofLength] at hfirst
        omega
      rw [List.getElem?_append_right (by omega), List.getElem?_append_right (by omega)] at hc
      refine ih hlater (position + gap.length + lexeme.chars.length) hc ?_
      intro token htoken
      have hposition : position + gap.length + lexeme.chars.length
          + (i - gap.length - lexeme.chars.length) = position + i := by omega
      rw [hposition]
      exact hcover token (List.mem_cons_of_mem _ htoken)

/-! ## Main result -/

/-- Reading a text is cutting it by maximal munch: it succeeds exactly if there is such a cut,
which is then the only one, and the tokens are those of its lexemes. They cover their own
characters, stand one after the other, and leave out only blanks. -/
theorem tokenize_eq_ok_iff_maximalMunch (text : String) :
    (∀ tokens, tokenize text = .ok tokens ↔
      ∃ cut : Cut, cut.IsMaximalMunch ∧ cut.text = text.toList ∧ cut.tokens 0 = tokens) ∧
    (∀ cut other : Cut, cut.IsMaximalMunch → other.IsMaximalMunch →
      cut.text = text.toList → other.text = text.toList → cut = other) ∧
    (∀ tokens, tokenize text = .ok tokens →
      (∀ token ∈ tokens, token.span.slice text.toList = token.text.toList ∧
        token.span.start < token.span.stop) ∧
      tokens.Pairwise (fun a b => a.span.stop ≤ b.span.start) ∧
      ∀ i c, text.toList[i]? = some c →
        (∀ token ∈ tokens, ¬ (token.span.start ≤ i ∧ i < token.span.stop)) →
        Text.isBlank c = true) := by
  have hcut : ∀ tokens, tokenize text = .ok tokens →
      ∃ cut : Cut, cut.IsMaximalMunch ∧ cut.text = text.toList ∧ cut.tokens 0 = tokens :=
    fun tokens h => exists_cut_of_tokenize h
  refine ⟨fun tokens => ⟨hcut tokens, ?_⟩, ?_, fun tokens htokens => ?_⟩
  · rintro ⟨cut, hmunch, htext, rfl⟩
    exact hmunch.tokenize_eq htext
  · intro cut other hmunch hother htext htextOther
    have htokens := (hmunch.tokenize_eq htext).symm.trans (hother.tokenize_eq htextOther)
    exact Cut.eq_of_tokens_eq (htext.trans htextOther.symm) (Except.ok.inj htokens)
  · obtain ⟨cut, hmunch, htext, rfl⟩ := hcut tokens htokens
    refine ⟨fun token htoken => ⟨?_, (Cut.span_of_mem_tokens htoken).2.1⟩,
      cut.pairwise_tokens 0, fun i c hc hcover => ?_⟩
    · have hslice := Cut.slice_of_mem_tokens [] htoken
      rwa [List.nil_append, htext] at hslice
    · rw [← htext] at hc
      refine hmunch.isBlank_of_not_covered 0 hc ?_
      simpa only [Nat.zero_add] using hcover

/-- A number needs no blank behind it: the name that follows is a lexeme of its own. -/
theorem tokenize_number_before_name :
    tokenize "12ab" = .ok
        [⟨.integer, .ofLength 0 2, "12", some 12⟩, ⟨.keyword, .ofLength 2 2, "ab", none⟩] ∧
      (∃ cut : Cut, cut.IsMaximalMunch ∧ cut.text = "12ab".toList ∧
        ∀ other : Cut, other.IsMaximalMunch → other.text = "12ab".toList → other = cut) ∧
      (Span.ofLength 0 2).slice "12ab".toList = "12".toList := by
  have hrun : NumberRun ['1', '2'] :=
    .mk [] '1' ['2'] (Or.inl rfl) rfl (List.forall_mem_singleton.mpr rfl)
  let number : Lexeme :=
    ⟨.integer, ['1', '2'], some 12, .number hrun rfl (by decide) (by decide)⟩
  let name : Lexeme :=
    ⟨.keyword, ['a', 'b'], none, .name rfl (List.forall_mem_singleton.mpr rfl)⟩
  let cut : Cut := .piece [] number (.piece [] name (.last []))
  have hmunch : cut.IsMaximalMunch :=
    ⟨by simp, stopsAt_cons rfl, by simp, stopsAt_nil _, by simp [Cut.IsMaximalMunch]⟩
  obtain ⟨hiff, hunique, hspans⟩ := tokenize_eq_ok_iff_maximalMunch "12ab"
  have htokens := (hiff _).mpr ⟨cut, hmunch, rfl, rfl⟩
  refine ⟨htokens, ⟨cut, hmunch, rfl, fun other hother htext => ?_⟩, ?_⟩
  · exact hunique other cut hother hmunch htext rfl
  · exact ((hspans _ htokens).1 _ List.mem_cons_self).1

end CoinConsole
