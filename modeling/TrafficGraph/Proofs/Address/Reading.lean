import TrafficGraph.Address.Ip
import TrafficGraph.Proofs.Text.Digits

/-!
# Reading printed addresses

Every address is read back from its text.  Octets and groups are read back from their
digits, which have neither dots nor colons, so the pieces of a text are the printed
parts.  The longest stretch of zero groups, which a compressed text leaves out, is put
back because the groups before and after it are all there and make up the rest of
eight.
-/

namespace TrafficGraph
namespace Address
namespace Ip

/-! ## Octets -/

theorem digitChar_ne_zero : ∀ digit < 10, 0 < digit → Nat.digitChar digit ≠ '0' := by
  decide

/-- A positive number is printed without leading zeros. -/
theorem head?_decimal_ne_zero
    {number : Nat}
    (positive : 0 < number) :
    (Text.decimal number).head? ≠ some '0' := by
  unfold Text.decimal
  induction number using Nat.strongRecOn with
  | ind number inductionHypothesis =>
      by_cases small : number < 10
      · rw [Nat.toDigits_of_lt_base small, List.head?_cons]
        intro same
        exact digitChar_ne_zero number small positive (Option.some.inj same)
      · have higher := inductionHypothesis (number / 10) (by omega) (by omega)
        rw [Nat.toDigits_of_base_le (by decide) (Nat.le_of_not_lt small)]
        cases digits : Nat.toDigits 10 (number / 10) with
        | nil => exact absurd digits Nat.toDigits_ne_nil
        | cons first others =>
            rw [digits] at higher
            exact higher

theorem octet?_decimal (octet : UInt8) :
    octet? (Text.decimal octet.toNat) = some octet := by
  have bounded : octet.toNat < 256 := octet.toNat_lt
  have short : (Text.decimal octet.toNat).length ≤ 3 :=
    (Nat.length_toDigits_le_iff (by decide) (by decide)).2 (by omega)
  have leading : (Text.decimal octet.toNat).head? ≠ some '0' ∨
      (Text.decimal octet.toNat).length = 1 := by
    by_cases positive : 0 < octet.toNat
    · exact Or.inl (head?_decimal_ne_zero positive)
    · apply Or.inr
      rw [Nat.eq_zero_of_not_pos positive]
      rfl
  rw [octet?, if_pos ⟨short, leading⟩, Text.natural?_decimal]
  simp [bounded]

theorem not_mem_decimal
    {mark : Char}
    (isMark : mark.isDigit = false)
    (number : Nat) :
    mark ∉ Text.decimal number := by
  intro listed
  rw [Text.isDigit_of_mem_decimal listed] at isMark
  cases isMark

theorem octets?_print (first second third fourth : UInt8) :
    octets? (print (.v4 first second third fourth)) = some (first, second, third, fourth) := by
  rw [octets?, print, Text.pieces_join]
  · simp [octet?_decimal]
  · simp
  · intro part isPart
    obtain ⟨octet, _, rfl⟩ := List.mem_map.1 isPart
    exact not_mem_decimal rfl octet.toNat

/-- A text without dots is no dotted address. -/
theorem octets?_of_not_mem
    {text : List Char}
    (noDot : '.' ∉ text) :
    octets? text = none := by
  rw [octets?, Text.pieces_of_not_mem noDot]

/-! ## Groups -/

/-- The hexadecimal digits of a group. -/
def printGroup (group : UInt16) : List Char :=
  Nat.toDigits 16 group.toNat

theorem printGroups_eq (groups : List UInt16) :
    printGroups groups = Text.join ':' (groups.map printGroup) := rfl

theorem printGroup_ne_nil (group : UInt16) : printGroup group ≠ [] :=
  Nat.toDigits_ne_nil

theorem digitChar_ne_separator :
    ∀ digit < 16, Nat.digitChar digit ≠ ':' ∧ Nat.digitChar digit ≠ '.' := by
  decide

theorem not_mem_printGroup (group : UInt16) :
    ':' ∉ printGroup group ∧ '.' ∉ printGroup group := by
  constructor
  · intro listed
    obtain ⟨digit, small, same⟩ := Text.exists_digit_of_mem_toDigits (by decide) listed
    exact (digitChar_ne_separator digit small).1 same.symm
  · intro listed
    obtain ⟨digit, small, same⟩ := Text.exists_digit_of_mem_toDigits (by decide) listed
    exact (digitChar_ne_separator digit small).2 same.symm

theorem group?_printGroup (group : UInt16) :
    group? (printGroup group) = some group := by
  have bounded : group.toNat < 65536 := group.toNat_lt
  have short : (printGroup group).length ≤ 4 :=
    (Nat.length_toDigits_le_iff (by decide) (by decide)).2 (by omega)
  rw [group?, if_pos ⟨printGroup_ne_nil group, short⟩, printGroup, Text.hexadecimal?_toDigits,
    Option.map_some, UInt16.ofNat_toNat]

theorem groupsOfPieces?_map (groups : List UInt16) :
    groupsOfPieces? (groups.map printGroup) = some groups := by
  induction groups with
  | nil => rfl
  | cons group groups inductionHypothesis =>
      cases groups with
      | nil =>
          simp only [List.map_cons, List.map_nil, groupsOfPieces?]
          rw [octets?_of_not_mem (not_mem_printGroup group).2, group?_printGroup]
          rfl
      | cons next groups =>
          simp only [List.map_cons, groupsOfPieces?] at inductionHypothesis ⊢
          rw [group?_printGroup, inductionHypothesis]
          rfl

theorem pieces_printGroups
    {groups : List UInt16}
    (nonempty : groups ≠ []) :
    Text.pieces ':' (printGroups groups) = groups.map printGroup := by
  rw [printGroups_eq, Text.pieces_join]
  · simpa using nonempty
  · intro part isPart
    obtain ⟨group, _, rfl⟩ := List.mem_map.1 isPart
    exact (not_mem_printGroup group).1

theorem printGroups_cons_cons
    (group next : UInt16)
    (groups : List UInt16) :
    printGroups (group :: next :: groups) =
      printGroup group ++ ':' :: printGroups (next :: groups) := rfl

theorem printGroups_ne_nil
    {groups : List UInt16}
    (nonempty : groups ≠ []) :
    printGroups groups ≠ [] := by
  cases groups with
  | nil => contradiction
  | cons group groups =>
      cases groups with
      | nil => exact printGroup_ne_nil group
      | cons next groups => simp [printGroups_cons_cons]

theorem groups?_printGroups (groups : List UInt16) :
    groups? (printGroups groups) = some groups := by
  by_cases empty : groups = []
  · rw [empty]
    rfl
  · rw [groups?, if_neg (printGroups_ne_nil empty), pieces_printGroups empty,
      groupsOfPieces?_map]

theorem plainGroups?_printGroups (groups : List UInt16) :
    plainGroups? (printGroups groups) = some groups := by
  by_cases empty : groups = []
  · rw [empty]
    rfl
  · rw [plainGroups?, if_neg (printGroups_ne_nil empty), pieces_printGroups empty]
    clear empty
    induction groups with
    | nil => rfl
    | cons group groups inductionHypothesis =>
        rw [List.map_cons, List.mapM_cons, group?_printGroup, inductionHypothesis]
        rfl

/-! ## The double colon -/

theorem cutDoubleColon_cons
    {character : Char}
    (notColon : character ≠ ':')
    (rest : List Char) :
    cutDoubleColon (character :: rest) =
      (cutDoubleColon rest).map fun (front, back) => (character :: front, back) := by
  rw [cutDoubleColon]
  intro later same
  exact absurd same notColon

theorem cutDoubleColon_append
    {piece : List Char}
    (noColon : ':' ∉ piece)
    (rest : List Char) :
    cutDoubleColon (piece ++ rest) =
      (cutDoubleColon rest).map fun (front, back) => (piece ++ front, back) := by
  induction piece with
  | nil => simp
  | cons character piece inductionHypothesis =>
      rw [List.mem_cons, not_or] at noColon
      rw [List.cons_append, cutDoubleColon_cons fun same => noColon.1 same.symm,
        inductionHypothesis noColon.2, Option.map_map]
      rfl

/-- A colon before a group is a single one. -/
theorem cutDoubleColon_colon_append
    {piece : List Char}
    (nonempty : piece ≠ [])
    (noColon : ':' ∉ piece)
    (rest : List Char) :
    cutDoubleColon (':' :: (piece ++ rest)) =
      (cutDoubleColon (piece ++ rest)).map fun (front, back) => (':' :: front, back) := by
  cases piece with
  | nil => contradiction
  | cons character piece =>
      rw [List.mem_cons, not_or] at noColon
      rw [List.cons_append, cutDoubleColon]
      intro later _ same
      exact noColon.1 (List.cons.inj same).1.symm

theorem exists_printGroups_eq
    (group : UInt16)
    (groups : List UInt16) :
    ∃ rest, printGroups (group :: groups) = printGroup group ++ rest := by
  cases groups with
  | nil => exact ⟨[], (List.append_nil _).symm⟩
  | cons next groups => exact ⟨_, printGroups_cons_cons group next groups⟩

/-- Printed groups have no double colon. -/
theorem cutDoubleColon_printGroups_append
    (groups : List UInt16)
    (rest : List Char) :
    cutDoubleColon (printGroups groups ++ rest) =
      (cutDoubleColon rest).map fun (front, back) => (printGroups groups ++ front, back) := by
  induction groups with
  | nil => simp [printGroups, Text.join]
  | cons group groups inductionHypothesis =>
      cases groups with
      | nil => exact cutDoubleColon_append (not_mem_printGroup group).1 rest
      | cons next groups =>
          obtain ⟨others, others_eq⟩ := exists_printGroups_eq next groups
          have single := cutDoubleColon_colon_append (printGroup_ne_nil next)
            (not_mem_printGroup next).1 (others ++ rest)
          rw [← List.append_assoc, ← others_eq, inductionHypothesis] at single
          rw [printGroups_cons_cons, List.append_assoc,
            cutDoubleColon_append (not_mem_printGroup group).1, List.cons_append, single,
            Option.map_map, Option.map_map]
          apply congrArg (Option.map · (cutDoubleColon rest))
          funext parts
          simp

theorem cutDoubleColon_printGroups (groups : List UInt16) :
    cutDoubleColon (printGroups groups) = none := by
  have cut := cutDoubleColon_printGroups_append groups []
  rwa [List.append_nil] at cut

/-! ## The longest stretch of zeros -/

theorem take_zeroRun (groups : List UInt16) :
    groups.take (zeroRun groups) = List.replicate (zeroRun groups) 0 := by
  have front : groups.takeWhile (· == 0) = groups.take (zeroRun groups) :=
    List.prefix_iff_eq_take.1 (List.takeWhile_prefix _)
  rw [← front, List.eq_replicate_iff]
  refine ⟨rfl, ?_⟩
  intro group listed
  exact eq_of_beq (List.all_eq_true.1 List.all_takeWhile group listed)

theorem getElem?_zeroRuns
    {groups : List UInt16}
    {place run : Nat}
    (found : (zeroRuns groups)[place]? = some run) :
    zeroRun (groups.drop place) = run := by
  induction groups generalizing place with
  | nil => simp [zeroRuns] at found
  | cons group groups inductionHypothesis =>
      cases place with
      | zero => simpa [zeroRuns] using found
      | succ place =>
          rw [zeroRuns, List.getElem?_cons_succ] at found
          exact inductionHypothesis found

theorem foldl_max_eq_or_mem
    (runs : List Nat)
    (least : Nat) :
    runs.foldl max least = least ∨ runs.foldl max least ∈ runs := by
  induction runs generalizing least with
  | nil => exact Or.inl rfl
  | cons run runs inductionHypothesis =>
      rw [List.foldl_cons]
      rcases inductionHypothesis (max least run) with same | listed
      · rw [same]
        rcases Nat.le_total run least with below | above
        · exact Or.inl (Nat.max_eq_left below)
        · apply Or.inr
          rw [Nat.max_eq_right above]
          exact List.mem_cons_self
      · exact Or.inr (List.mem_cons_of_mem run listed)

/-- Where the longest stretch begins there are as many zeros. -/
theorem zeroRun_drop_idxOf
    {groups : List UInt16}
    {longest : Nat}
    (longest_eq : (zeroRuns groups).foldl max 0 = longest)
    (positive : 0 < longest) :
    zeroRun (groups.drop ((zeroRuns groups).idxOf longest)) = longest := by
  have listed : longest ∈ zeroRuns groups := by
    rcases foldl_max_eq_or_mem (zeroRuns groups) 0 with none_found | found
    · omega
    · exact longest_eq ▸ found
  apply getElem?_zeroRuns
  have inside := List.idxOf_lt_length_of_mem listed
  rw [List.getElem?_eq_getElem inside, List.getElem_idxOf]

/-- The groups are those before the longest stretch of zeros, the stretch and those
behind it. -/
theorem append_replicate_append
    (groups : List UInt16)
    (start : Nat) :
    groups.take start ++ List.replicate (zeroRun (groups.drop start)) 0 ++
        groups.drop (start + zeroRun (groups.drop start)) =
      groups := by
  rw [← take_zeroRun, ← List.drop_drop, List.append_assoc, List.take_append_drop,
    List.take_append_drop]

/-! ## Whole addresses -/

theorem allGroups?_printGroups (groups : List UInt16) :
    allGroups? (printGroups groups) = some groups := by
  rw [allGroups?, cutDoubleColon_printGroups]
  exact groups?_printGroups groups

/-- Zeros that a double colon leaves out are put back. -/
theorem allGroups?_doubleColon
    {leading trailing : List UInt16}
    {missing : Nat}
    (length_eq : leading.length + missing + trailing.length = 8)
    (positive : 0 < missing) :
    allGroups? (printGroups leading ++ ':' :: ':' :: printGroups trailing) =
      some (leading ++ List.replicate missing 0 ++ trailing) := by
  have cut : cutDoubleColon (printGroups leading ++ ':' :: ':' :: printGroups trailing) =
      some (printGroups leading, printGroups trailing) := by
    rw [cutDoubleColon_printGroups_append, cutDoubleColon]
    simp
  have missing_eq : 8 - leading.length - trailing.length = missing := by omega
  have short : leading.length + trailing.length ≤ 7 := by omega
  rw [allGroups?, cut]
  simp only [plainGroups?_printGroups, groups?_printGroups]
  simp [missing_eq, short]

theorem allGroups?_printCompressed
    {groups : List UInt16}
    (length_eq : groups.length = 8) :
    allGroups? (printCompressed groups) = some groups := by
  rw [printCompressed]
  dsimp only
  split
  · next long =>
    generalize longest_eq : (zeroRuns groups).foldl max 0 = longest at long ⊢
    have positive : 0 < longest := Nat.lt_of_lt_of_le (by decide) long
    have run_eq := zeroRun_drop_idxOf longest_eq positive
    generalize (zeroRuns groups).idxOf longest = start at run_eq ⊢
    have parts_eq := append_replicate_append groups start
    rw [run_eq] at parts_eq
    have lengths := congrArg List.length parts_eq
    rw [List.length_append, List.length_append, List.length_replicate, length_eq] at lengths
    rw [allGroups?_doubleColon lengths positive, parts_eq]
  · exact allGroups?_printGroups groups

theorem not_mem_printGroups (groups : List UInt16) : '.' ∉ printGroups groups := by
  intro listed
  rcases Text.mem_join listed with same | ⟨part, isPart, inside⟩
  · cases same
  · obtain ⟨group, _, rfl⟩ := List.mem_map.1 isPart
    exact (not_mem_printGroup group).2 inside

theorem not_mem_printCompressed (groups : List UInt16) : '.' ∉ printCompressed groups := by
  rw [printCompressed]
  dsimp only
  split
  · simp [not_mem_printGroups]
  · exact not_mem_printGroups groups

/-- Every address is read back from its text. -/
theorem parse?_print (address : Ip) : parse? address.print = some address := by
  cases address with
  | v4 first second third fourth => rw [parse?, octets?_print]
  | v6 groups length_eq =>
      rw [parse?, print, octets?_of_not_mem (not_mem_printCompressed groups),
        allGroups?_printCompressed length_eq]
      simp [length_eq]

end Ip
end Address
end TrafficGraph
