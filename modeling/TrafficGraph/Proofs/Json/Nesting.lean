import TrafficGraph.Json.Tree

/-!
# Nesting

A tree is a JSON value if nothing in it is broken.  It is taken as that value within an
allowance exactly if its containers are not nested more deeply.
-/

namespace TrafficGraph
namespace Json

mutual

/-- The greatest number of containers of a value that stand inside each other. -/
def nesting : Json → Nat
  | .array items => nestingOfItems items + 1
  | .object members => nestingOfMembers members + 1
  | .null => 0
  | .bool _ => 0
  | .number _ => 0
  | .string _ => 0

/-- The greatest nesting of the items of an array. -/
def nestingOfItems : List Json → Nat
  | [] => 0
  | item :: items => max (nesting item) (nestingOfItems items)

/-- The greatest nesting of the members of an object. -/
def nestingOfMembers : List (String × Json) → Nat
  | [] => 0
  | (_, value) :: members => max (nesting value) (nestingOfMembers members)

end

theorem nestingOfItems_lt_iff
    {items : List Json}
    {bound : Nat}
    (positive : 0 < bound) :
    nestingOfItems items < bound ↔ ∀ item ∈ items, nesting item < bound := by
  induction items with
  | nil => simp [nestingOfItems, positive]
  | cons item items inductionHypothesis =>
      rw [nestingOfItems, Nat.max_lt, inductionHypothesis, List.forall_mem_cons]

theorem nestingOfMembers_lt_iff
    {members : List (String × Json)}
    {bound : Nat}
    (positive : 0 < bound) :
    nestingOfMembers members < bound ↔ ∀ member ∈ members, nesting member.2 < bound := by
  induction members with
  | nil => simp [nestingOfMembers, positive]
  | cons member members inductionHypothesis =>
      rw [nestingOfMembers, Nat.max_lt, inductionHypothesis, List.forall_mem_cons]

/-! ## Trees that are values -/

mutual

theorem value_ofJson :
    ∀ (json : Json) {allowance : Nat}, nesting json < allowance →
      Tree.value allowance (.ofJson json) = .ok json
  | .array items, allowance + 2, fits => by
      rw [nesting] at fits
      simp only [Tree.ofJson, Tree.value, nest,
        itemValues_ofItems items (by omega : nestingOfItems items < allowance + 1)]
      rfl
  | .object members, allowance + 2, fits => by
      rw [nesting] at fits
      simp only [Tree.ofJson, Tree.value, nest,
        memberValues_ofMembers members (by omega : nestingOfMembers members < allowance + 1)]
      rfl
  | .array items, 1, fits => absurd fits (by rw [nesting]; omega)
  | .object members, 1, fits => absurd fits (by rw [nesting]; omega)
  | .null, _, _ => rfl
  | .bool _, _, _ => rfl
  | .number _, _, _ => rfl
  | .string _, _, _ => rfl

theorem itemValues_ofItems :
    ∀ (items : List Json) {allowance : Nat}, nestingOfItems items < allowance →
      Tree.itemValues allowance (Tree.ofItems items) true = .ok items
  | [], _, _ => rfl
  | item :: items, allowance, fits => by
      rw [nestingOfItems] at fits
      simp only [Tree.ofItems, Tree.itemValues, value_ofJson item (by omega : _ < allowance),
        itemValues_ofItems items (by omega : _ < allowance)]
      rfl

theorem memberValues_ofMembers :
    ∀ (members : List (String × Json)) {allowance : Nat}, nestingOfMembers members < allowance →
      Tree.memberValues allowance (Tree.ofMembers members) true = .ok members
  | [], _, _ => rfl
  | (key, json) :: members, allowance, fits => by
      rw [nestingOfMembers] at fits
      simp only [Tree.ofMembers, Tree.memberValues, value_ofJson json (by omega : _ < allowance),
        memberValues_ofMembers members (by omega : _ < allowance)]
      rfl

end

theorem exists_nest_eq_ok
    {depth allowance : Nat}
    (fits : depth + 1 < allowance) :
    ∃ inner, nest allowance = .ok inner ∧ depth < inner := by
  obtain ⟨inner, rfl⟩ : ∃ inner, allowance = inner + 2 := ⟨allowance - 2, by omega⟩
  exact ⟨inner + 1, rfl, by omega⟩

theorem nest_eq_ok
    {allowance inner : Nat}
    (nested : nest allowance = .ok inner) :
    allowance = inner + 1 ∧ 0 < inner := by
  match allowance, nested with
  | allowance + 2, nested =>
      cases nested
      exact ⟨rfl, Nat.succ_pos allowance⟩

mutual

theorem eq_ofJson_of_value :
    ∀ (tree : Tree) {allowance : Nat} {json : Json}, 0 < allowance →
      tree.value allowance = .ok json → tree = .ofJson json ∧ nesting json < allowance
  | .null, _, _, positive, rfl => ⟨rfl, positive⟩
  | .bool _, _, _, positive, rfl => ⟨rfl, positive⟩
  | .number _, _, _, positive, rfl => ⟨rfl, positive⟩
  | .string _, _, _, positive, rfl => ⟨rfl, positive⟩
  | .array items complete, allowance, json, _, found => by
      rw [Tree.value] at found
      split at found
      · cases found
      · next inner nested =>
        obtain ⟨rfl, innerPositive⟩ := nest_eq_ok nested
        cases values : Tree.itemValues inner items complete with
        | error fault =>
            rw [values] at found
            cases found
        | ok jsons =>
            rw [values] at found
            cases found
            obtain ⟨rfl, rfl, fits⟩ := eq_ofItems_of_itemValues items innerPositive values
            exact ⟨rfl, Nat.succ_lt_succ fits⟩
  | .object members complete, allowance, json, _, found => by
      rw [Tree.value] at found
      split at found
      · cases found
      · next inner nested =>
        obtain ⟨rfl, innerPositive⟩ := nest_eq_ok nested
        cases values : Tree.memberValues inner members complete with
        | error fault =>
            rw [values] at found
            cases found
        | ok jsons =>
            rw [values] at found
            cases found
            obtain ⟨rfl, rfl, fits⟩ := eq_ofMembers_of_memberValues members innerPositive values
            exact ⟨rfl, Nat.succ_lt_succ fits⟩

theorem eq_ofItems_of_itemValues :
    ∀ (items : List Tree) {complete : Bool} {allowance : Nat} {jsons : List Json},
      0 < allowance → Tree.itemValues allowance items complete = .ok jsons →
        items = Tree.ofItems jsons ∧ complete = true ∧ nestingOfItems jsons < allowance
  | [], true, _, _, positive, rfl => ⟨rfl, rfl, positive⟩
  | item :: items, complete, allowance, jsons, positive, found => by
      rw [Tree.itemValues] at found
      split at found
      · cases found
      · next first isFirst =>
        cases values : Tree.itemValues allowance items complete with
        | error fault =>
            rw [values] at found
            cases found
        | ok others =>
            rw [values] at found
            cases found
            obtain ⟨rfl, fits⟩ := eq_ofJson_of_value item positive isFirst
            obtain ⟨rfl, rfl, othersFit⟩ := eq_ofItems_of_itemValues items positive values
            exact ⟨rfl, rfl, Nat.max_lt.2 ⟨fits, othersFit⟩⟩

theorem eq_ofMembers_of_memberValues :
    ∀ (members : List (Option String × Tree)) {complete : Bool} {allowance : Nat}
      {jsons : List (String × Json)},
      0 < allowance → Tree.memberValues allowance members complete = .ok jsons →
        members = Tree.ofMembers jsons ∧ complete = true ∧ nestingOfMembers jsons < allowance
  | [], true, _, _, positive, rfl => ⟨rfl, rfl, positive⟩
  | (some key, member) :: members, complete, allowance, jsons, positive, found => by
      rw [Tree.memberValues] at found
      split at found
      · cases found
      · next first isFirst =>
        cases values : Tree.memberValues allowance members complete with
        | error fault =>
            rw [values] at found
            cases found
        | ok others =>
            rw [values] at found
            cases found
            obtain ⟨rfl, fits⟩ := eq_ofJson_of_value member positive isFirst
            obtain ⟨rfl, rfl, othersFit⟩ := eq_ofMembers_of_memberValues members positive values
            exact ⟨rfl, rfl, Nat.max_lt.2 ⟨fits, othersFit⟩⟩

end

/-- A tree is taken as a value exactly if it is its tree and the value is not nested too
deeply. -/
theorem value_eq_ok_iff
    {tree : Tree}
    {allowance : Nat}
    {json : Json}
    (positive : 0 < allowance) :
    tree.value allowance = .ok json ↔ tree = .ofJson json ∧ nesting json < allowance := by
  constructor
  · exact eq_ofJson_of_value tree positive
  · rintro ⟨rfl, fits⟩
    exact value_ofJson json fits

end Json
end TrafficGraph
