import TrafficGraph.Json.Basic

/-!
# Lookups in records

Under every key the record of a member list has the last value that the list gives the
key, normalized.  So a value can be looked up as soon as no other member has its key.
-/

namespace TrafficGraph
namespace Json

theorem lookup_eq_none_of_forall_lt
    {key : String}
    {members : List (String × Json)}
    (later : ∀ member ∈ members, key < member.1) :
    members.lookup key = none := by
  rw [List.lookup_eq_none_iff]
  intro member listed
  exact bne_iff_ne.2 (String.ne_of_lt (later member listed))

theorem lookup_cons_eq_ite
    (key other : String)
    (present : Json)
    (rest : List (String × Json)) :
    ((other, present) :: rest).lookup key =
      if key = other then some present else rest.lookup key := by
  rw [List.lookup_cons]
  by_cases same : key = other
  · simp [same]
  · rw [beq_eq_false_iff_ne.2 same, if_neg same]

/-- A member is found under its key unless the key was there, and nothing else changes. -/
theorem lookup_insertMember
    (inserted : String)
    (value : Json)
    {members : List (String × Json)}
    (increase : KeysIncrease members)
    (key : String) :
    (insertMember inserted value members).lookup key =
      (members.lookup key).or (if key = inserted then some value else none) := by
  induction members with
  | nil => exact lookup_cons_eq_ite key inserted value []
  | cons head rest inductionHypothesis =>
      obtain ⟨other, present⟩ := head
      obtain ⟨later, inner⟩ := List.pairwise_cons.1 increase
      rw [insertMember]
      split
      · next before =>
        rw [lookup_cons_eq_ite]
        split
        · next same =>
          -- All keys from here on are greater, so the key had no value before.
          rw [lookup_eq_none_of_forall_lt, Option.none_or]
          intro member listed
          rw [same]
          rcases List.mem_cons.1 listed with rfl | deeper
          · exact before
          · exact String.lt_trans before (later member deeper)
        · rw [Option.or_none]
      · split
        · next same =>
          rw [lookup_cons_eq_ite, same]
          split
          · rfl
          · rw [Option.or_none]
        · rw [lookup_cons_eq_ite, lookup_cons_eq_ite, inductionHypothesis inner]
          split
          · rfl
          · rfl

end Json

namespace Record

/-- The last value of a key counts. -/
theorem get?_ofMembers
    (members : List (String × Json))
    (key : String) :
    (ofMembers members).get? key = (members.reverse.lookup key).map Json.normalize := by
  change (Json.normalizeMembers members).lookup key = _
  induction members with
  | nil => rfl
  | cons head rest inductionHypothesis =>
      obtain ⟨inserted, value⟩ := head
      rw [Json.normalizeMembers,
        Json.lookup_insertMember _ _ (Json.normalMembers_normalizeMembers rest).1,
        inductionHypothesis, List.reverse_cons, List.lookup_append, Json.lookup_cons_eq_ite,
        Option.map_or, apply_ite (Option.map Json.normalize)]
      rfl

/-- If the members with a key are known to have one value, it is found under the key; if
there are none, nothing is. -/
theorem get?_ofMembers_of_forall_mem_iff
    {members : List (String × Json)}
    {key : String}
    {found : Option Json}
    (listed_iff : ∀ value, (key, value) ∈ members ↔ found = some value) :
    (ofMembers members).get? key = found.map Json.normalize := by
  rw [get?_ofMembers]
  cases lookup_eq : members.reverse.lookup key with
  | none =>
      cases found with
      | none => rfl
      | some value =>
          have listed := List.mem_reverse.2 ((listed_iff value).2 rfl)
          have different := List.lookup_eq_none_iff.1 lookup_eq _ listed
          exact absurd rfl (bne_iff_ne.1 different)
  | some value =>
      obtain ⟨front, back, members_eq, _⟩ := List.lookup_eq_some_iff.1 lookup_eq
      have listed : (key, value) ∈ members := by
        rw [← List.mem_reverse, members_eq]
        exact List.mem_append_right front List.mem_cons_self
      rw [(listed_iff value).1 listed]

end Record
end TrafficGraph
