import TrafficGraph.Proofs.Wire.Session

/-!
# What is read as a whole first

An outcome tells its kind among its fields, and an answer with a graph lists the fields of a
snapshot among its own.  Both are read as a whole before their parts are, so that what stands
under unknown names counts in their nesting.
-/

namespace TrafficGraph
namespace Wire

open Json (Decoder Fields Presence Shape nesting nestingAllowance nestingOfItems nestingOfMembers
  valuesOf)

variable {allowance inner : Nat} {members others : List (String × Json)}

/-- A buffered type is lossless if members tell a value, those of its encoding do, writing them
otherwise keeps what they tell, and it is read from them within the limit. -/
theorem lossless_of_tells
    {α : Type}
    [Wire α]
    [Layout α]
    {slots : α → List (Json.Slot Shape)}
    {Tells : α → List (String × Json) → Prop}
    (buffered : Layout.isBuffered α = true)
    (shape_eq : ∀ value : α, Layout.shape value = .object (slots value))
    (encodes : ∀ {value}, IsSendable value →
      ∃ members, encode value = .object members ∧ Tells value members)
    (keeps : ∀ {value members others}, Tells value members →
      Json.Varies (.object (slots value)) (.object members) (.object others) → Tells value others)
    (reads : ∀ {value members}, Tells value members →
      (decode? (.object members) : Option α) =
        if nesting (.object members) < nestingAllowance then some value else none) :
    Lossless α := by
  have tells : ∀ {value : α} {json}, IsWriting value json →
      ∃ members, json = .object members ∧ Tells value members := by
    rintro value json ⟨sendable, rewrites⟩
    rw [shape_eq] at rewrites
    -- By induction on the changes: each keeps what the members before it tell.
    induction rewrites with
    | refl => exact encodes sendable
    | tail _ varies inductionHypothesis =>
        obtain ⟨members, rfl, told⟩ := inductionHypothesis
        obtain ⟨_, others, _, rfl⟩ := varies.exists_members
        exact ⟨others, rfl, keeps told varies⟩
  refine lossless_of_decode? ?_ ?_
  · intro value json isWriting canHold
    obtain ⟨members, rfl, told⟩ := tells isWriting
    rw [reads told, if_pos (canHold buffered)]
  · intro value json isWriting tooDeep
    obtain ⟨members, rfl, told⟩ := tells isWriting
    rw [reads told, if_neg fun fits => tooDeep fun _ => fits]

/-! ## Outcomes -/

/-- The fields of the object of an outcome. -/
def outcomeSlots : BatchOutcome → List (Json.Slot Shape)
  | .notApplicable => [.required "status" .fixed]
  | .stale _ => [.required "status" .fixed, .required "last_processed_version" .fixed]
  | .applied _ _ _ => [
      .required "status" .fixed,
      .required "folded" .fixed,
      .required "skipped" .fixed,
      .required "reset" .fixed]

instance : Layout BatchOutcome where
  shape outcome := .object (outcomeSlots outcome)
  counts
    | .applied folded skipped _ => [folded, skipped]
    | _ => []
  isBuffered := true

/-- The fields of each kind have different names, and none has the name of the kind itself. -/
theorem distinct_outcomeFields
    {status : String}
    {fields : Fields BatchOutcome}
    (isKind : outcomeFields? status = some fields) :
    fields.names.Nodup ∧ "status" ∉ fields.names := by
  rw [outcomeFields?] at isKind
  split at isKind
  · cases isKind
    decide
  · split at isKind
    · cases isKind
      decide
    · split at isKind
      · cases isKind
        decide
      · cases isKind

/-- An outcome of a kind is read from the other parts of its object. -/
theorem toOption_outcomeOfKind
    (nested : Json.nest allowance = .ok inner)
    (json : Json)
    (members : List (String × Json)) :
    (outcomeOfKind (.ofJson json) allowance
        (.ofJson (.object (members.filter fun member => !member.1 == "status")))).toOption =
      (Decoder.string.read? inner json).bind fun status =>
        (outcomeFields? status).bind fun fields => fields.collect inner members := by
  cases json with
  | string status =>
      rw [outcomeOfKind, Json.Tree.ofJson, Json.Tree.text?, Option.bind_some]
      rw [Decoder.read?_string, Option.bind_some]
      cases isKind : outcomeFields? status with
      | none => rfl
      | some fields =>
          obtain ⟨distinct, noStatus⟩ := distinct_outcomeFields isKind
          have kept : ∀ name ∈ fields.names, (!name == "status") = true := by
            intro name listed
            rw [Bool.not_eq_true', beq_eq_false_iff_ne]
            rintro rfl
            exact noStatus listed
          have opened : (Json.nest allowance).toOption = some inner := by
            rw [nested, Except.toOption]
          exact (Fields.read?_decoder distinct allowance _).trans
            (opened ▸ Fields.collect_filter kept inner members)
  | _ => rfl

/-- An outcome is read from the kind that is told once and the fields of that kind, if nothing
is nested too deeply. -/
theorem read?_outcome
    (nested : Json.nest allowance = .ok inner)
    (members : List (String × Json)) :
    decoder.read? allowance (.object members) =
      if nesting (.object members) < allowance then
        (Presence.required.settle Decoder.string inner none (valuesOf "status" members)).bind
          fun status => (outcomeFields? status).bind fun fields => fields.collect inner members
      else none := by
  obtain ⟨rfl, _⟩ := Json.nest_eq_ok nested
  have whole := Json.toOption_value (Nat.succ_pos inner) (.object members)
  rw [Json.Tree.ofJson] at whole
  change (outcomeDecoder (inner + 1) (.object (Json.Tree.ofMembers members) true)).toOption = _
  rw [outcomeDecoder, Json.toOption_bind, whole,
    Json.partition_ofMembers (· == "status") fun _ _ => rfl, Json.filter_eq_map_valuesOf]
  split
  · -- The members with the name of the kind stand apart; there has to be just one.
    match valuesOf "status" members with
    | [] => rfl
    | [json] => exact toOption_outcomeOfKind nested json members
    | _ :: _ :: _ => rfl
  · rfl

/-- Members tell an outcome: its kind once, and each of its fields. -/
structure TellsOutcome (outcome : BatchOutcome) (inner : Nat) (members : List (String × Json)) :
    Prop where
  status : Presence.required.settle Decoder.string inner none (valuesOf "status" members) =
    some (outcomeStatus outcome)
  fields : ∃ fields, outcomeFields? (outcomeStatus outcome) = some fields ∧
    fields.collect inner members = some outcome

/-- The fields of an outcome fit its object. -/
theorem exists_outcomeFields (outcome : BatchOutcome) :
    ∃ fields, outcomeFields? (outcomeStatus outcome) = some fields ∧
      ∀ inner, fields.Fit (outcomeSlots outcome) inner := by
  cases outcome with
  | notApplicable => exact ⟨_, rfl, fun _ => trivial⟩
  | stale lastVersion => exact ⟨_, rfl, fun _ => by simp [Fields.required, outcomeSlots]⟩
  | applied folded skipped reset =>
      exact ⟨_, rfl, fun _ => by simp [Fields.required, outcomeSlots]⟩

theorem TellsOutcome.varies
    {outcome : BatchOutcome}
    (tells : TellsOutcome outcome inner members)
    (varies : Json.Varies (.object (outcomeSlots outcome)) (.object members) (.object others)) :
    TellsOutcome outcome inner others := by
  obtain ⟨fields, isKind, fit⟩ := exists_outcomeFields outcome
  constructor
  · rw [← tells.status]
    refine Fields.settle_eq_of_varies varies ?_ ?_
    · cases outcome <;> simp [outcomeSlots]
    · cases outcome <;> simp [outcomeSlots]
  · obtain ⟨_, same, collected⟩ := tells.fields
    cases isKind.symm.trans same
    exact ⟨fields, isKind, ((fit inner).collect_eq varies).trans collected⟩

theorem exists_tellsOutcome_encode
    {outcome : BatchOutcome}
    (counted : IsCounted outcome)
    (inner : Nat) :
    ∃ members, encode outcome = .object members ∧ TellsOutcome outcome inner members := by
  refine ⟨_, rfl, ?_, ?_⟩
  · cases outcome <;> simp
  · cases outcome with
    | notApplicable => exact ⟨_, rfl, rfl⟩
    | stale lastVersion =>
        refine ⟨_, rfl, ?_⟩
        simp [Fields.required]
    | applied folded skipped reset =>
        refine ⟨_, rfl, ?_⟩
        simp [Fields.required, counted.reads inner, Layout.counts]

theorem TellsOutcome.read?
    {outcome : BatchOutcome}
    (nested : Json.nest allowance = .ok inner)
    (tells : TellsOutcome outcome inner members) :
    decoder.read? allowance (.object members) =
      if nesting (.object members) < allowance then some outcome else none := by
  obtain ⟨fields, isKind, collected⟩ := tells.fields
  rw [read?_outcome nested, tells.status, Option.bind_some, isKind, Option.bind_some, collected]

theorem lossless_outcome : Lossless BatchOutcome :=
  lossless_of_tells rfl (fun _ => rfl)
    (fun sendable => exists_tellsOutcome_encode sendable.counted 127)
    TellsOutcome.varies (TellsOutcome.read? rfl)

/-- Arrays inside each other. -/
def arraysInside : Nat → Json
  | 0 => .array []
  | depth + 1 => .array [arraysInside depth]

theorem nesting_arraysInside (depth : Nat) : nesting (arraysInside depth) = depth + 1 := by
  induction depth with
  | zero => rfl
  | succ depth inductionHypothesis =>
      rw [arraysInside, nesting, nestingOfItems, inductionHypothesis, nestingOfItems,
        Nat.max_zero]

/-- An outcome that can be sent is lost once a field with an unknown name is added that is
nested too deeply. -/
theorem notApplicable_lost :
    IsSendable BatchOutcome.notApplicable ∧
      Json.Rewrites (Layout.shape BatchOutcome.notApplicable)
        (encode BatchOutcome.notApplicable)
        (.object [("x", arraysInside 126), ("status", .string "not_applicable")]) ∧
      (decode? (.object [("x", arraysInside 126), ("status", .string "not_applicable")]) :
        Option BatchOutcome) = none := by
  have sendable : IsSendable BatchOutcome.notApplicable := ⟨nofun, by decide⟩
  have rewrites : Json.Rewrites (Layout.shape BatchOutcome.notApplicable)
      (encode BatchOutcome.notApplicable)
      (.object [("x", arraysInside 126), ("status", .string "not_applicable")]) :=
    .single (.add _ (by simp [outcomeSlots]))
  refine ⟨sendable, rewrites, lossless_outcome.refuses ⟨sendable, rewrites⟩ fun canHold => ?_⟩
  have fits := canHold rfl
  rw [nesting, nestingOfMembers, nesting_arraysInside] at fits
  exact absurd (Nat.lt_of_succ_lt_succ fits) (Nat.not_lt.2 (Nat.le_max_left _ _))

/-! ## Answers with a graph -/

/-- The fields of the object of an answer with a graph. -/
def responseSlots : List (Json.Slot Shape) :=
  [.required "view_id" .fixed, .required "version" .fixed, .required "timestamp" .fixed] ++
    snapshotSlots

instance : Layout GraphResponse where
  shape _ := .object responseSlots
  isBuffered := true

/-- Members tell an answer with a graph: its own fields and those of the snapshot. -/
structure TellsResponse (response : GraphResponse) (inner : Nat)
    (members : List (String × Json)) : Prop where
  own : responseFields.collect inner members =
    some (GraphResponse.mk response.viewId response.version response.timestamp)
  snapshot : (snapshotFields (.settledChoice activityNames)).collect inner members =
    some response.snapshot

theorem TellsResponse.varies
    {response : GraphResponse}
    (tells : TellsResponse response inner members)
    (varies : Json.Varies (.object responseSlots) (.object members) (.object others)) :
    TellsResponse response inner others := by
  constructor
  · have fit : responseFields.Fit responseSlots inner := by
      simp [responseFields, responseSlots, snapshotSlots, Fields.required]
    exact (fit.collect_eq varies).trans tells.own
  · have fit : (snapshotFields (.settledChoice activityNames)).Fit responseSlots inner := by
      refine (fit_snapshotFields _ inner).append ?_
      simp [snapshotFields, Fields.required, Fields.names]
    exact (fit.collect_eq varies).trans tells.snapshot

theorem exists_tellsResponse_encode
    {response : GraphResponse}
    (nested : Json.nest allowance = .ok inner)
    (fits : nesting (encode response) < allowance) :
    ∃ members, encode response = .object members ∧ TellsResponse response inner members := by
  refine ⟨_, rfl, ?_, ?_⟩
  · simp [responseFields, snapshotMembers, Fields.required]
  · obtain ⟨rfl, positive⟩ := Json.nest_eq_ok nested
    have membersFit := (Json.nestingOfMembers_lt_iff positive).1 (Nat.lt_of_succ_lt_succ fits)
    have snapshotFits : nestingOfMembers (snapshotMembers response.snapshot) < inner :=
      (Json.nestingOfMembers_lt_iff positive).2 fun member listed =>
        membersFit member (List.mem_append_right _ listed)
    have unknown : ∀ name ∈ ["view_id", "version", "timestamp"],
        name ∉ (snapshotFields (.settledChoice activityNames)).names := by decide
    simp only [List.forall_mem_cons] at unknown
    rw [List.cons_append, Fields.collect_cons_of_not_mem unknown.1, List.cons_append,
      Fields.collect_cons_of_not_mem unknown.2.1, List.cons_append,
      Fields.collect_cons_of_not_mem unknown.2.2.1]
    exact collect_snapshotFields readsActivities_settledChoice snapshotFits

/-- The members of a snapshot are read after the others, and all of them as values first. -/
theorem read?_response
    (nested : Json.nest allowance = .ok inner)
    (members : List (String × Json)) :
    decoder.read? allowance (.object members) =
      (responseFields.collect inner members).bind fun response =>
        if nestingOfMembers (members.filter fun member => !isResponseField member.1) < inner then
          ((snapshotFields (.settledChoice activityNames)).collect inner members).map response
        else none := by
  obtain ⟨-, positive⟩ := Json.nest_eq_ok nested
  have isOwn : ∀ name ∈ responseFields.names, isResponseField name = true := by decide
  have isOther : ∀ name ∈ (snapshotFields (.settledChoice activityNames)).names,
      (!isResponseField name) = true := by decide
  rw [← Fields.collect_filter isOwn, ← Fields.toOption_fromMembers (by decide),
    ← Fields.collect_filter isOther, ← Fields.toOption_fromMembers (by decide)]
  change (responseDecoder allowance (.object (Json.Tree.ofMembers members) true)).toOption = _
  have opened : (Json.nest allowance).toOption = some inner := by rw [nested, Except.toOption]
  rw [responseDecoder, Json.toOption_bind, opened, Option.bind_some,
    Json.partition_ofMembers isResponseField fun _ _ => rfl]
  simp only [Json.toOption_bind, Json.toOption_memberValues positive]
  congr 1
  funext response
  split
  · exact Option.map_eq_bind.symm
  · rfl

theorem areFlat_responseFields : responseFields.AreFlat := by
  have text : ∀ allowance json value,
      Decoder.string.read? allowance json = some value → nesting json = 0 := by
    intro allowance json value read
    rw [Decoder.read?_string_eq_some_iff.1 read, nesting]
  have word : ∀ allowance json value,
      Decoder.int64.read? allowance json = some value → nesting json = 0 := by
    intro allowance json value read
    rw [Decoder.int64, Decoder.read?_scalar] at read
    cases json with
    | number _ => rfl
    | _ => cases read
  exact ⟨⟨⟨trivial, text⟩, word⟩, text⟩

/-- The own fields of an answer hold no containers, so that the other members decide how deeply
it is nested. -/
theorem nestingOfOthers_lt_iff
    {construct : Snapshot → GraphResponse}
    (positive : 0 < inner)
    (own : responseFields.collect inner members = some construct) :
    nestingOfMembers (members.filter fun member => !isResponseField member.1) < inner ↔
      nestingOfMembers members < inner := by
  rw [Json.nestingOfMembers_lt_iff positive, Json.nestingOfMembers_lt_iff positive]
  constructor
  · intro fits member listed
    by_cases isOwn : isResponseField member.1
    · have names_eq : responseFields.names = ["timestamp", "version", "view_id"] := rfl
      have named : member.1 ∈ responseFields.names := by
        rw [names_eq]
        simpa [isResponseField, or_comm, or_left_comm] using isOwn
      rw [areFlat_responseFields.nesting_eq_zero own named listed]
      exact positive
    · exact fits member (List.mem_filter.2 ⟨listed, by simp [isOwn]⟩)
  · intro fits member listed
    exact fits member (List.mem_filter.1 listed).1

theorem TellsResponse.read?
    {response : GraphResponse}
    (nested : Json.nest allowance = .ok inner)
    (tells : TellsResponse response inner members) :
    decoder.read? allowance (.object members) =
      if nesting (.object members) < allowance then some response else none := by
  obtain ⟨rfl, positive⟩ := Json.nest_eq_ok nested
  rw [read?_response nested, tells.own, tells.snapshot, nesting, Option.bind_some]
  simp only [nestingOfOthers_lt_iff positive tells.own, Nat.succ_lt_succ_iff, Option.map_some]

theorem lossless_response : Lossless GraphResponse :=
  lossless_of_tells rfl (fun _ => rfl)
    (fun sendable => exists_tellsResponse_encode rfl sendable.fits)
    TellsResponse.varies (TellsResponse.read? rfl)

end Wire
end TrafficGraph
