import CoinConsole.Proofs.Document.Grammar
import CoinConsole.Proofs.Text.Numerals

/-!
# Written documents

How the documents are written that this library writes: integers in decimal, and objects with a
member on each line. What is written spells the document (`spellsInteger_toString`,
`Written.spells_object`).
-/

namespace CoinConsole.Document

variable {signCounts : Bool}

/-- The decimal notation of an integer spells it. -/
theorem spellsInteger_toString {value : Int} (h : IsReadable signCounts value) :
    SpellsInteger signCounts value (toString value).toList := by
  rw [Text.toList_toString]
  by_cases hvalue : 0 ≤ value
  · have heq : (value.natAbs : Int) = value := Int.natAbs_of_nonneg hvalue
    rw [← heq] at h
    have hspells := SpellsInteger.unsigned h
    rwa [heq, ← if_pos (t := (Nat.toDigits 10 value.natAbs)) hvalue] at hspells
  · have heq : -(value.natAbs : Int) = value := by omega
    rw [← heq] at h
    have hspells := SpellsInteger.negative h
    rw [if_neg hvalue]
    rwa [heq] at hspells

theorem joined_plain {text : List Char} (h : text.all isPlain = true) :
    Joined SpellsChar text text := by
  induction text with
  | nil => exact .nil
  | cons c text ih =>
    obtain ⟨hc, htext⟩ := by simpa using h
    exact .cons (.plain hc) (ih (List.all_eq_true.mpr htext))

/-- The end of a line and the indentation of the next one. -/
def lineBreak (indent : Nat) : List Char := '\n' :: List.replicate indent ' '

theorem isLayout_lineBreak (indent : Nat) : IsLayout (lineBreak indent) := by
  intro c hc
  rcases List.mem_cons.mp hc with rfl | hc
  · decide
  · rw [List.eq_of_mem_replicate hc]
    decide

/-- A member of an object, and the characters of its value. -/
structure Written where
  key : String
  value : Document
  chars : List Char

namespace Written

/-- The member and its value as a pair. -/
def member (written : Written) : String × Document := (written.key, written.value)

/-- The line of a member. -/
def line (indent : Nat) (written : Written) : List Char :=
  lineBreak indent ++ '"' :: (written.key.toList ++ '"' :: ':' :: ' ' :: written.chars)

/-- The lines of the members, with commas between them. -/
def lines (indent : Nat) : List Written → List Char
  | [] => []
  | [written] => written.line indent
  | written :: others => written.line indent ++ ',' :: lines indent others

/-- An object with a member on each line. -/
def object (indent outdent : Nat) (members : List Written) : List Char :=
  '\x7b' :: (lines indent members ++ (lineBreak outdent ++ ['\x7d']))

/-- The characters of the member spell its value, and its key needs no escapes. -/
structure IsSpelled (signCounts : Bool) (depth : Nat) (written : Written) : Prop where
  key : written.key.toList.all isPlain = true
  value : Spells signCounts depth written.value written.chars

variable {depth : Nat} {written : Written}

/-- A line spells its member, whatever layout follows it. -/
theorem IsSpelled.padded_line (h : written.IsSpelled signCounts depth) (indent : Nat)
    {back : List Char} (hback : IsLayout back) :
    Padded (SpellsMember (Spells signCounts depth)) written.member
      (written.line indent ++ back) := by
  have hname : SpellsText written.key ('"' :: (written.key.toList ++ ['"'])) :=
    .intro (joined_plain h.key)
  have hspace : IsLayout [' '] := by simp [IsLayout, isLayout]
  have hmember := SpellsMember.intro hname isLayout_nil hspace h.value
  have hline := Padded.intro (isLayout_lineBreak indent) hmember hback
  have hchars : written.line indent ++ back = lineBreak indent ++
      ('"' :: (written.key.toList ++ ['"']) ++ ([] ++ ':' :: ([' '] ++ written.chars)) ++
        back) := by
    simp [line]
  rw [hchars]
  exact hline

theorem listed_lines (indent : Nat) {members : List Written}
    (h : ∀ written ∈ members, written.IsSpelled signCounts depth) (hne : members ≠ [])
    {back : List Char} (hback : IsLayout back) :
    Listed (SpellsMember (Spells signCounts depth)) (members.map member)
      (lines indent members ++ back) := by
  induction members with
  | nil => exact absurd rfl hne
  | cons written others ih =>
    have hfirst := h written List.mem_cons_self
    cases others with
    | nil => exact .single (hfirst.padded_line indent hback)
    | cons next others =>
      have hothers := ih (fun written hw => h written (List.mem_cons_of_mem _ hw))
        (List.cons_ne_nil _ _)
      have hline := hfirst.padded_line indent isLayout_nil
      rw [List.append_nil] at hline
      rw [lines, List.append_assoc, List.cons_append]
      · exact .cons hline hothers
      · exact List.cons_ne_nil _ _

/-- A written object spells the object of its members. -/
theorem spells_object (indent outdent : Nat) {members : List Written}
    (h : ∀ written ∈ members, written.IsSpelled signCounts depth) (hne : members ≠ []) :
    Spells signCounts (depth + 1) (.object (members.map member))
      (object indent outdent members) := by
  have hlisted := listed_lines indent h hne (isLayout_lineBreak outdent)
  have hchars : object indent outdent members =
      '\x7b' :: (lines indent members ++ lineBreak outdent ++ ['\x7d']) := by
    simp [object]
  rw [hchars]
  exact Or.inr (.object (.listed hlisted))

end Written

end CoinConsole.Document
