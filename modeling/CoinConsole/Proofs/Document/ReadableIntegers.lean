import CoinConsole.Proofs.Document.ReadBack

/-!
# Integers of a document

Every integer the reader takes out of a text is short enough to be read again, sign and all
(`gives_readValue`). What a routine gives is passed on by the routines built on it.
-/

namespace CoinConsole.Document

variable {signCounts : Bool}

/-! ## Digits -/

theorem toNat_sub_le_nine {c : Char} (h : c.isDigit = true) : c.toNat - '0'.toNat ≤ 9 :=
  Nat.sub_le_sub_right (Char.isDigit_iff_toNat.mp h).2 48

theorem length_toDigits_digit {n : Nat} (h : n ≤ 9) : (Nat.toDigits 10 n).length = 1 := by
  rw [Nat.toDigits_of_lt_base (Nat.lt_succ_of_le h), List.length_singleton]

/-- A number with a digit behind it has at most one digit more. -/
theorem length_toDigits_concat_le (n : Nat) {digit : Nat} (h : digit ≤ 9) :
    (Nat.toDigits 10 (10 * n + digit)).length ≤ (Nat.toDigits 10 n).length + 1 := by
  have hfront : (10 * n + digit) / 10 = n := by omega
  rw [Nat.toDigits_eq_if (by decide), hfront]
  split <;> simp

theorem length_toDigits_foldl_le {digits : List Char} (h : ∀ c ∈ digits, c.isDigit = true)
    (n : Nat) :
    (Nat.toDigits 10 (digits.foldl (fun n c => 10 * n + (c.toNat - '0'.toNat)) n)).length ≤
      (Nat.toDigits 10 n).length + digits.length := by
  induction digits generalizing n with
  | nil => simp
  | cons c digits ih =>
    have hrest := ih (fun d hd => h d (List.mem_cons_of_mem c hd)) (10 * n + (c.toNat - '0'.toNat))
    have hfirst := length_toDigits_concat_le n (toNat_sub_le_nine (h c List.mem_cons_self))
    rw [List.foldl_cons, List.length_cons]
    omega

/-- A number has no more digits than it has been written with. -/
theorem length_toDigits_digitsValue_le {digits : List Char} (hne : digits ≠ [])
    (h : ∀ c ∈ digits, c.isDigit = true) :
    (Nat.toDigits 10 (digitsValue digits)).length ≤ digits.length := by
  cases digits with
  | nil => exact absurd rfl hne
  | cons c digits =>
    have hfirst := length_toDigits_digit (toNat_sub_le_nine (h c List.mem_cons_self))
    have hrest := length_toDigits_foldl_le (fun d hd => h d (List.mem_cons_of_mem c hd))
      (10 * 0 + (c.toNat - '0'.toNat))
    rw [digitsValue, List.foldl_cons, List.length_cons]
    rw [Nat.mul_zero, Nat.zero_add] at hrest ⊢
    omega

section

variable (signCounts)

/-- All integers of the document can be read. -/
inductive HasReadableIntegers : Document → Prop
  | null : HasReadableIntegers null
  | boolean (value : Bool) : HasReadableIntegers (boolean value)
  | integer {value : Int} (h : IsReadable signCounts value) : HasReadableIntegers (integer value)
  | fraction : HasReadableIntegers fraction
  | string (value : String) : HasReadableIntegers (string value)
  | array {items : List Document} (h : ∀ item ∈ items, HasReadableIntegers item) :
    HasReadableIntegers (array items)
  | object {members : List (String × Document)}
    (h : ∀ member ∈ members, HasReadableIntegers member.2) : HasReadableIntegers (object members)

end

/-! ## What a routine gives -/

/-- Whatever the routine reads has the property. -/
def Reader.Gives {α : Type} (reader : Reader α) (P : α → Prop) : Prop :=
  ∀ cs value rest, reader cs = some (value, rest) → P value

section

variable {α β : Type} {item : Reader α} {P : α → Prop}

theorem gives_readItems (h : item.Gives P) (close : Char) (steps : Nat) :
    (readItems item close steps).Gives fun values => ∀ value ∈ values, P value := by
  induction steps with
  | zero => simp [Reader.Gives, readItems]
  | succ steps ih =>
    intro cs values rest hread
    rw [readItems] at hread
    split at hread
    · simp at hread
    · next value later hitem =>
      have hvalue : P value := h _ _ _ hitem
      split at hread
      · simp at hread
      · split at hread
        · obtain ⟨rfl, -⟩ := by simpa using hread
          simpa using hvalue
        · split at hread
          · obtain ⟨others, hothers, rfl⟩ := by simpa using hread
            simpa using ⟨hvalue, ih _ _ _ hothers⟩
          · simp at hread

theorem gives_readSequence (h : item.Gives P) (close : Char) :
    (readSequence item close).Gives fun values => ∀ value ∈ values, P value := by
  intro cs values rest hread
  rw [readSequence] at hread
  split at hread
  · simp at hread
  · split at hread
    · obtain ⟨rfl, -⟩ := by simpa using hread
      simp
    · exact gives_readItems h close _ _ _ _ hread

end

theorem gives_readMember {value : Reader Document} {P : Document → Prop} (h : value.Gives P) :
    (readMember value).Gives fun member => P member.2 := by
  intro cs member rest hread
  rw [readMember.eq_def] at hread
  split at hread
  · split at hread
    · simp at hread
    · split at hread
      · obtain ⟨document, hvalue, rfl⟩ := by simpa using hread
        exact h _ _ _ hvalue
      · simp at hread
  · simp at hread

theorem gives_readClosed {value : Document} {P : Document → Prop} (h : P value) (close : Char) :
    (readClosed value close).Gives P := by
  intro cs document rest hread
  rw [readClosed] at hread
  split at hread
  · simp at hread
  · split at hread
    · obtain ⟨rfl, -⟩ := by simpa using hread
      exact h
    · simp at hread

theorem gives_readWord {value : Document} (word : String) {P : Document → Prop} (h : P value) :
    (readWord word value).Gives P := by
  intro cs document rest hread
  obtain ⟨-, rfl⟩ := by simpa [readWord] using hread
  exact h

/-! ## Values -/

theorem signDigits_le_one (signCounts negative : Bool) : signDigits signCounts negative ≤ 1 := by
  rw [signDigits]
  split
  · exact Nat.le_refl 1
  · exact Nat.zero_le 1

/-- A number counts no digit for its sign that its numeral does not count. -/
theorem signDigits_le (negative : Bool) (n : Nat) :
    signDigits signCounts (decide ((if negative then -(n : Int) else n) < 0)) ≤
      signDigits signCounts negative := by
  cases negative with
  | false =>
    have hsign : decide ((n : Int) < 0) = false := by simp
    simp [hsign]
  | true =>
    -- a zero with a sign is written without one
    cases signCounts with
    | false => exact Nat.le_refl 0
    | true => exact signDigits_le_one _ _

theorem gives_readUnsigned (negative : Bool) :
    Reader.Gives (readUnsigned signCounts negative) (HasReadableIntegers signCounts) := by
  intro cs document rest hread
  simp only [readUnsigned] at hread
  split at hread
  · simp at hread
  · next hne =>
    split at hread
    · simp at hread
    · split at hread
      · simp at hread
      · next hlength =>
        split at hread
        · obtain ⟨-, rfl⟩ := by simpa using hread
          exact .fraction
        · obtain ⟨rfl, -⟩ := by simpa using hread
          have hvalue := length_toDigits_digitsValue_le hne fun _ hc => mem_takeWhile_imp hc
          refine .integer (Nat.le_trans ?_ (Nat.not_lt.mp hlength))
          exact Nat.add_le_add (signDigits_le _ _) (by cases negative <;> simpa using hvalue)

theorem gives_readNumber : (readNumber signCounts).Gives (HasReadableIntegers signCounts) := by
  intro cs document rest hread
  rw [readNumber.eq_def] at hread
  split at hread
  · exact gives_readWord _ .fraction _ _ _ hread
  · exact gives_readUnsigned _ _ _ _ hread
  · exact gives_readUnsigned _ _ _ _ hread

/-- Every integer that is read can be read. -/
theorem gives_readValue (depth : Nat) :
    (readValue signCounts depth).Gives (HasReadableIntegers signCounts) := by
  -- what stands in an array or an object is read with one level less
  induction depth using Nat.strongRecOn with
  | ind depth ih =>
    intro cs document rest hread
    rw [readValue.eq_def] at hread
    split at hread
    · split at hread
      · exact gives_readClosed (.array (by simp)) _ _ _ _ hread
      · next depth =>
        obtain ⟨items, hitems, rfl⟩ := by simpa using hread
        exact .array (gives_readSequence (ih depth (Nat.lt_succ_self _)) _ _ _ _ hitems)
    · split at hread
      · exact gives_readClosed (.object (by simp)) _ _ _ _ hread
      · next depth =>
        obtain ⟨members, hmembers, rfl⟩ := by simpa using hread
        have hmember := gives_readMember (ih depth (Nat.lt_succ_self _))
        exact .object (gives_readSequence hmember _ _ _ _ hmembers)
    · obtain ⟨text, -, rfl⟩ := by simpa using hread
      exact .string text
    · exact gives_readWord _ (.boolean true) _ _ _ hread
    · exact gives_readWord _ (.boolean false) _ _ _ hread
    · exact gives_readWord _ .null _ _ _ hread
    · exact gives_readWord _ .fraction _ _ _ hread
    · exact gives_readWord _ .fraction _ _ _ hread
    · exact gives_readNumber _ _ _ hread

/-- Every integer of a document that is read can be read. -/
theorem hasReadableIntegers_of_read {text : String} {document : Document}
    (h : read signCounts text = some document) : HasReadableIntegers signCounts document := by
  rw [read] at h
  split at h
  · simp at h
  · next document' rest hread =>
    obtain ⟨-, rfl⟩ := by simpa using h
    exact gives_readValue _ _ _ _ hread

end CoinConsole.Document
