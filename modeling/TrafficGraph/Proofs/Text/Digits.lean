import TrafficGraph.Text.Digit
import TrafficGraph.Text.Numeral
import TrafficGraph.Text.Split

/-!
# Reading back printed numbers and pieces

Numbers are read back from their digits, in base ten and in base sixteen, and the
pieces of a text that was joined from pieces without separators are those pieces.
-/

namespace TrafficGraph
namespace Text

/-! ## Digits -/

/-- Every character of a printed number is a digit of the base. -/
theorem exists_digit_of_mem_toDigits
    {base : Nat}
    (large : 1 < base)
    {number : Nat}
    {character : Char}
    (listed : character ∈ Nat.toDigits base number) :
    ∃ digit, digit < base ∧ character = Nat.digitChar digit := by
  induction number using Nat.strongRecOn with
  | ind number inductionHypothesis =>
      by_cases small : number < base
      · rw [Nat.toDigits_of_lt_base small, List.mem_singleton] at listed
        exact ⟨number, small, listed⟩
      · have reached := Nat.le_of_not_lt small
        rw [Nat.toDigits_of_base_le large reached, List.mem_append, List.mem_singleton] at listed
        have positive : 0 < base := Nat.lt_trans Nat.zero_lt_one large
        rcases listed with higher | lowest
        · have smaller : number / base < number :=
            Nat.div_lt_self (Nat.lt_of_lt_of_le positive reached) large
          exact inductionHypothesis (number / base) smaller higher
        · exact ⟨number % base, Nat.mod_lt number positive, lowest⟩

theorem isDigit_of_mem_decimal
    {number : Nat}
    {character : Char}
    (listed : character ∈ decimal number) :
    character.isDigit = true :=
  Nat.isDigit_of_mem_toDigits (by decide) (by decide) listed

theorem decimal_ne_nil (number : Nat) : decimal number ≠ [] :=
  Nat.toDigits_ne_nil

theorem decimal_injective
    {first second : Nat}
    (equality : decimal first = decimal second) :
    first = second := by
  have read := natural?_decimal first
  rw [equality, natural?_decimal] at read
  exact (Option.some.inj read).symm

/-- Only zero is printed with a zero in front. -/
theorem eq_zero_of_head?_decimal
    {number : Nat}
    (zero : (decimal number).head? = some '0') :
    number = 0 := by
  induction number using Nat.strongRecOn with
  | ind number inductionHypothesis =>
      by_cases small : number < 10
      · rw [decimal, Nat.toDigits_of_lt_base small, List.head?_cons] at zero
        have digits : ∀ digit < 10, some (Nat.digitChar digit) = some '0' → digit = 0 := by decide
        exact digits number small zero
      · have reached := Nat.le_of_not_lt small
        have shorter : (decimal (number / 10)).head? = some '0' := by
          rw [decimal, Nat.toDigits_of_base_le (by decide) reached, List.head?_append] at zero
          cases digits : decimal (number / 10) with
          | nil => exact absurd digits (decimal_ne_nil (number / 10))
          | cons digit others =>
              rw [decimal] at digits
              rw [digits] at zero
              exact zero
        have smaller : number / 10 < number := Nat.div_lt_self (by omega) (by decide)
        have := inductionHypothesis (number / 10) smaller shorter
        omega

/-- A number that is printed without a sign is read as an unsigned one. -/
theorem unsigned?_decimal
    {limit number : Nat}
    (small : number < limit) :
    unsigned? limit (decimal number) = some number := by
  unfold unsigned?
  split
  · next digits same =>
    have listed : '+' ∈ decimal number := by
      rw [same]
      exact List.mem_cons_self
    cases isDigit_of_mem_decimal listed
  · simp [small]

theorem word64?_decimal (word : UInt64) : word64? (decimal word.toNat) = some word := by
  rw [word64?, unsigned?_decimal word.toNat_lt, Option.map_some, UInt64.ofNat_toNat]

theorem ofDigits?_concat
    (base : Nat)
    (digits : List Char)
    (last : Char) :
    ofDigits? base (digits ++ [last]) =
      (ofDigits? base digits).bind fun number =>
        (digit? base last).map fun digit => number * base + digit := by
  unfold ofDigits?
  rw [List.mapM_append]
  cases digits.mapM (digit? base) with
  | none => rfl
  | some values =>
      cases lastEq : digit? base last with
      | none => simp [lastEq]
      | some digit => simp [lastEq]

theorem digit?_digitChar : ∀ digit < 16, digit? 16 (Nat.digitChar digit) = some digit := by
  decide

/-- The hexadecimal digits of a number read back as that number. -/
theorem hexadecimal?_toDigits (number : Nat) :
    hexadecimal? (Nat.toDigits 16 number) = some number := by
  unfold hexadecimal?
  induction number using Nat.strongRecOn with
  | ind number inductionHypothesis =>
      by_cases small : number < 16
      · have single := ofDigits?_concat 16 [] (Nat.digitChar number)
        rw [digit?_digitChar number small] at single
        rw [Nat.toDigits_of_lt_base small]
        simpa [ofDigits?] using single
      · have reached := Nat.le_of_not_lt small
        have smaller : number / 16 < number := Nat.div_lt_self (by omega) (by decide)
        rw [Nat.toDigits_of_base_le (by decide) reached, ofDigits?_concat,
          inductionHypothesis (number / 16) smaller,
          digit?_digitChar (number % 16) (Nat.mod_lt number (by decide))]
        simp only [Option.bind_some, Option.map_some, Option.some.injEq]
        omega

/-! ## Pieces -/

section Pieces

variable {α : Type} {separator : α}

theorem join_cons_cons (part next : List α) (parts : List (List α)) :
    join separator (part :: next :: parts) =
      part ++ separator :: join separator (next :: parts) := rfl

/-- What stands in joined pieces is a separator or stands in one of them. -/
theorem mem_join
    {item : α}
    {parts : List (List α)}
    (listed : item ∈ join separator parts) :
    item = separator ∨ ∃ part ∈ parts, item ∈ part := by
  induction parts with
  | nil => cases listed
  | cons part parts inductionHypothesis =>
      cases parts with
      | nil => exact Or.inr ⟨part, List.mem_cons_self, listed⟩
      | cons next parts =>
          rw [join_cons_cons, List.mem_append, List.mem_cons] at listed
          rcases listed with here | same | later
          · exact Or.inr ⟨part, List.mem_cons_self, here⟩
          · exact Or.inl same
          · rcases inductionHypothesis later with same | ⟨other, isOther, inside⟩
            · exact Or.inl same
            · exact Or.inr ⟨other, List.mem_cons_of_mem part isOther, inside⟩

variable [BEq α] [LawfulBEq α]

theorem pieces_of_not_mem
    {items : List α}
    (absent : separator ∉ items) :
    pieces separator items = [items] := by
  induction items with
  | nil => rfl
  | cons item items inductionHypothesis =>
      rw [List.mem_cons, not_or] at absent
      rw [pieces, if_neg (by simpa using fun same => absent.1 same.symm),
        inductionHypothesis absent.2]

theorem pieces_append_cons
    {items : List α}
    (absent : separator ∉ items)
    (rest : List α) :
    pieces separator (items ++ separator :: rest) = items :: pieces separator rest := by
  induction items with
  | nil => simp [pieces]
  | cons item items inductionHypothesis =>
      rw [List.mem_cons, not_or] at absent
      rw [List.cons_append, pieces, if_neg (by simpa using fun same => absent.1 same.symm),
        inductionHypothesis absent.2]

/-- No separator stands in a piece. -/
theorem not_mem_of_mem_pieces
    {items : List α}
    {part : List α}
    (isPart : part ∈ pieces separator items) :
    separator ∉ part := by
  induction items generalizing part with
  | nil =>
      rw [pieces_nil, List.mem_singleton] at isPart
      rw [isPart]
      exact List.not_mem_nil
  | cons item items inductionHypothesis =>
      rw [pieces] at isPart
      split at isPart
      · rcases List.mem_cons.1 isPart with rfl | later
        · exact List.not_mem_nil
        · exact inductionHypothesis later
      · next different =>
        split at isPart
        · next none => exact absurd none (pieces_ne_nil separator items)
        · next first others shape =>
          rw [shape] at inductionHypothesis
          rcases List.mem_cons.1 isPart with rfl | later
          · refine fun member => ?_
            rcases List.mem_cons.1 member with same | inside
            · exact different (beq_iff_eq.2 same.symm)
            · exact inductionHypothesis List.mem_cons_self inside
          · exact inductionHypothesis (List.mem_cons_of_mem first later)

/-- The pieces of joined pieces without separators are those pieces. -/
theorem pieces_join
    {parts : List (List α)}
    (nonempty : parts ≠ [])
    (absent : ∀ part ∈ parts, separator ∉ part) :
    pieces separator (join separator parts) = parts := by
  induction parts with
  | nil => contradiction
  | cons part parts inductionHypothesis =>
      obtain ⟨absentHere, absentLater⟩ := List.forall_mem_cons.1 absent
      cases parts with
      | nil => exact pieces_of_not_mem absentHere
      | cons next parts =>
          rw [join_cons_cons, pieces_append_cons absentHere,
            inductionHypothesis (List.cons_ne_nil next parts) absentLater]

end Pieces

end Text
end TrafficGraph
