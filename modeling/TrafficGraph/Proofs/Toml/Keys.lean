import TrafficGraph.Toml.Document

/-!
# Keys of TOML tables

No key stands twice in a table of a document, however the table came about: by a header, by
dotted keys or between braces.
-/

namespace TrafficGraph
namespace Toml

/-! ## Tidy values -/

mutual

/-- In every table inside a value each key stands once. -/
def Value.IsTidy : Value → Prop
  | .array items => Value.AreTidy items
  | .table _ members => Members.AreTidy members
  | .string _ => True
  | .integer _ => True
  | .boolean _ => True
  | .float _ => True
  | .moment _ => True

/-- All values of a list are tidy. -/
def Value.AreTidy : List Value → Prop
  | [] => True
  | item :: items => Value.IsTidy item ∧ Value.AreTidy items

/-- The members have different keys and tidy values. -/
def Members.AreTidy : List (String × Value) → Prop
  | [] => True
  | (key, value) :: members =>
    (∀ member ∈ members, key ≠ member.1) ∧ Value.IsTidy value ∧ Members.AreTidy members

end

namespace Members

theorem areTidy_iff
    {members : Members} :
    AreTidy members ↔
      members.Pairwise (fun first second => first.1 ≠ second.1) ∧
        ∀ member ∈ members, member.2.IsTidy := by
  induction members with
  | nil => simp [AreTidy]
  | cons member members inductionHypothesis =>
      rw [AreTidy, inductionHypothesis, List.pairwise_cons, List.forall_mem_cons]
      constructor
      · rintro ⟨notLater, isTidy, distinct, areTidy⟩
        exact ⟨⟨notLater, distinct⟩, isTidy, areTidy⟩
      · rintro ⟨⟨notLater, distinct⟩, isTidy, areTidy⟩
        exact ⟨notLater, isTidy, distinct, areTidy⟩

theorem mem_of_get?
    {members : Members}
    {key : String}
    {value : Value}
    (found : members.get? key = some value) :
    (key, value) ∈ members := by
  obtain ⟨front, back, rfl, _⟩ := List.lookup_eq_some_iff.1 found
  exact List.mem_append_right front List.mem_cons_self

theorem ne_of_get?_eq_none
    {members : Members}
    {key : String}
    (absent : members.get? key = none) :
    ∀ member ∈ members, member.1 ≠ key := by
  intro member listed same
  have different := List.lookup_eq_none_iff.1 absent member listed
  rw [same, bne_self_eq_false] at different
  cases different

theorem isTidy_of_get?
    {members : Members}
    {key : String}
    {value : Value}
    (areTidy : AreTidy members)
    (found : members.get? key = some value) :
    value.IsTidy :=
  (areTidy_iff.1 areTidy).2 _ (mem_of_get? found)

/-- A member with a new key can be added. -/
theorem areTidy_append
    {members : Members}
    {key : String}
    {value : Value}
    (areTidy : AreTidy members)
    (absent : members.get? key = none)
    (isTidy : value.IsTidy) :
    AreTidy (members ++ [(key, value)]) := by
  obtain ⟨distinct, areTidy⟩ := areTidy_iff.1 areTidy
  refine areTidy_iff.2 ⟨List.pairwise_append.2 ⟨distinct, List.pairwise_singleton _ _, ?_⟩, ?_⟩
  · intro member listed other isOther
    rw [List.mem_singleton.1 isOther]
    exact ne_of_get?_eq_none absent member listed
  · exact List.forall_mem_append.2 ⟨areTidy, List.forall_mem_singleton.2 isTidy⟩

/-- A value can be replaced by a tidy one. -/
theorem areTidy_replace
    {members : Members}
    {key : String}
    {value : Value}
    (areTidy : AreTidy members)
    (isTidy : value.IsTidy) :
    AreTidy (members.replace key value) := by
  obtain ⟨distinct, areTidy⟩ := areTidy_iff.1 areTidy
  have key_eq : ∀ member : String × Value,
      (if member.1 = key then (key, value) else member).1 = member.1 := by
    intro member
    split
    · next same => exact same.symm
    · rfl
  refine areTidy_iff.2 ⟨List.pairwise_map.2 ?_, List.forall_mem_map.2 ?_⟩
  · simpa only [key_eq] using distinct
  · intro member listed
    split
    · exact isTidy
    · exact areTidy member listed

/-! ## Adding to a table -/

theorem areTidy_assign
    {value : Value}
    {path : List String}
    {members assigned : Members}
    (isTidy : value.IsTidy)
    (areTidy : AreTidy members)
    (isAssigned : assign value path members = some assigned) :
    AreTidy assigned := by
  fun_induction assign value path members generalizing assigned with
  | case1 => cases isAssigned
  | case2 => cases isAssigned
  | case3 key members absent =>
      cases isAssigned
      exact areTidy_append areTidy absent isTidy
  | case4 key second path members absent inductionHypothesis =>
      obtain ⟨inner, isInner, assigned_eq⟩ := Option.bind_eq_some_iff.1 isAssigned
      cases assigned_eq
      exact areTidy_append areTidy absent (inductionHypothesis trivial isInner)
  | case5 key second path members before found inductionHypothesis =>
      obtain ⟨inner, isInner, assigned_eq⟩ := Option.bind_eq_some_iff.1 isAssigned
      cases assigned_eq
      exact areTidy_replace areTidy (inductionHypothesis (isTidy_of_get? areTidy found) isInner)
  | case6 => cases isAssigned

theorem areTidy_openTable
    {path : List String}
    {members opened : Members}
    (areTidy : AreTidy members)
    (isOpened : openTable path members = some opened) :
    AreTidy opened := by
  fun_induction openTable path members generalizing opened with
  | case1 => cases isOpened
  | case2 key members absent =>
      cases isOpened
      exact areTidy_append areTidy absent trivial
  | case3 key members inner found =>
      have isTidy : (Value.table .passed inner).IsTidy := isTidy_of_get? areTidy found
      cases isOpened
      exact areTidy_replace areTidy isTidy
  | case4 => cases isOpened
  | case5 key second path members absent inductionHypothesis =>
      obtain ⟨inner, isInner, opened_eq⟩ := Option.bind_eq_some_iff.1 isOpened
      cases opened_eq
      exact areTidy_append areTidy absent (inductionHypothesis trivial isInner)
  | case6 => cases isOpened
  | case7 key second path members origin before notWritten found inductionHypothesis =>
      obtain ⟨inner, isInner, opened_eq⟩ := Option.bind_eq_some_iff.1 isOpened
      cases opened_eq
      exact areTidy_replace areTidy (inductionHypothesis (isTidy_of_get? areTidy found) isInner)
  | case8 => cases isOpened

theorem areTidy_assignIn
    {value : Value}
    {key path : List String}
    {members assigned : Members}
    (isTidy : value.IsTidy)
    (areTidy : AreTidy members)
    (isAssigned : assignIn value key path members = some assigned) :
    AreTidy assigned := by
  fun_induction assignIn value key path members generalizing assigned with
  | case1 => exact areTidy_assign isTidy areTidy isAssigned
  | case2 name path members origin before found inductionHypothesis =>
      obtain ⟨inner, isInner, assigned_eq⟩ := Option.bind_eq_some_iff.1 isAssigned
      cases assigned_eq
      exact areTidy_replace areTidy (inductionHypothesis (isTidy_of_get? areTidy found) isInner)
  | case3 => cases isAssigned

end Members

/-! ## Reading -/

theorem isTidy_word?
    {number : Int}
    {value : Value}
    (isWord : word? number = some value) :
    value.IsTidy := by
  rw [word?] at isWord
  split at isWord
  · cases isWord
    trivial
  · cases isWord

theorem isTidy_readMarked
    {base : Nat}
    {text rest : List Char}
    {value : Value}
    (read : readMarked base text = some (value, rest)) :
    value.IsTidy := by
  obtain ⟨_, _, ofDigits⟩ := Option.bind_eq_some_iff.1 read
  obtain ⟨_, _, ofNumber⟩ := Option.bind_eq_some_iff.1 ofDigits
  obtain ⟨_, isWord, value_eq⟩ := Option.bind_eq_some_iff.1 ofNumber
  cases value_eq
  exact isTidy_word? isWord

theorem isTidy_readInteger
    {text rest : List Char}
    {value : Value}
    (read : readInteger text = some (value, rest)) :
    value.IsTidy := by
  unfold readInteger at read
  split at read
  · exact isTidy_readMarked read
  · exact isTidy_readMarked read
  · exact isTidy_readMarked read
  · obtain ⟨_, _, ofDigits⟩ := Option.bind_eq_some_iff.1 read
    obtain ⟨_, _, ofSize⟩ := Option.bind_eq_some_iff.1 ofDigits
    obtain ⟨_, isWord, value_eq⟩ := Option.bind_eq_some_iff.1 ofSize
    cases value_eq
    exact isTidy_word? isWord

theorem isTidy_readScalar
    {text rest : List Char}
    {value : Value}
    (read : readScalar text = some (value, rest)) :
    value.IsTidy := by
  unfold readScalar at read
  split at read
  · cases read
    trivial
  · cases read
    trivial
  · split at read
    · cases read
      trivial
    · split at read
      · cases read
        trivial
      · split at read
        · cases read
        · cases read
          trivial
      · exact isTidy_readInteger read

/-- What is read with some fuel is tidy. -/
structure ReadsTidy (fuel : Nat) : Prop where
  value : ∀ {allowance : Nat} {text rest : List Char} {value : Value},
    readValue fuel allowance text = some (value, rest) → value.IsTidy
  items : ∀ {allowance : Nat} {text rest : List Char} {items : List Value},
    readItems fuel allowance text = some (items, rest) → Value.AreTidy items
  members : ∀ {allowance : Nat} {before members : Members} {text rest : List Char},
    Members.AreTidy before →
      readMembers fuel allowance before text = some (members, rest) → Members.AreTidy members

theorem ReadsTidy.value_of_pred
    {fuel : Nat}
    (readsTidy : ReadsTidy (fuel - 1))
    {allowance : Nat}
    {text rest : List Char}
    {value : Value} :
    readValue fuel allowance text = some (value, rest) → value.IsTidy := by
  fun_cases readValue fuel allowance text
  all_goals intro read
  case case2 =>
      obtain ⟨_, _, value_eq⟩ := Option.map_eq_some_iff.1 read
      cases value_eq
      trivial
  case case3 =>
      obtain ⟨_, _, value_eq⟩ := Option.map_eq_some_iff.1 read
      cases value_eq
      trivial
  case case5 =>
      obtain ⟨_, isInside, value_eq⟩ := Option.bind_eq_some_iff.1 read
      cases value_eq
      exact readsTidy.items isInside
  case case7 =>
      cases read
      trivial
  case case8 =>
      obtain ⟨_, isInside, value_eq⟩ := Option.bind_eq_some_iff.1 read
      cases value_eq
      exact readsTidy.members (show Members.AreTidy [] from trivial) isInside
  case case9 => exact isTidy_readScalar read
  all_goals cases read

theorem ReadsTidy.items_of_pred
    {fuel : Nat}
    (readsTidy : ReadsTidy (fuel - 1))
    {allowance : Nat}
    {text rest : List Char}
    {items : List Value} :
    readItems fuel allowance text = some (items, rest) → Value.AreTidy items := by
  fun_cases readItems fuel allowance text
  all_goals intro read
  case case2 =>
      cases read
      trivial
  case case3 =>
      obtain ⟨⟨item, behind⟩, isItem, read⟩ := Option.bind_eq_some_iff.1 read
      have isTidy := readsTidy.value isItem
      dsimp only at read
      split at read
      · obtain ⟨_, isRest, items_eq⟩ := Option.bind_eq_some_iff.1 read
        cases items_eq
        exact ⟨isTidy, readsTidy.items isRest⟩
      · cases read
        exact ⟨isTidy, trivial⟩
      · cases read
  all_goals cases read

theorem ReadsTidy.members_of_pred
    {fuel : Nat}
    (readsTidy : ReadsTidy (fuel - 1))
    {allowance : Nat}
    {before members : Members}
    {text rest : List Char}
    (areTidy : Members.AreTidy before) :
    readMembers fuel allowance before text = some (members, rest) → Members.AreTidy members := by
  fun_cases readMembers fuel allowance before text
  all_goals intro read
  case case2 =>
      obtain ⟨_, _, ofPath⟩ := Option.bind_eq_some_iff.1 read
      obtain ⟨_, _, ofMark⟩ := Option.bind_eq_some_iff.1 ofPath
      obtain ⟨_, isValue, ofValue⟩ := Option.bind_eq_some_iff.1 ofMark
      obtain ⟨assigned, isAssigned, behindMember⟩ := Option.bind_eq_some_iff.1 ofValue
      have assignedTidy : Members.AreTidy assigned :=
        Members.areTidy_assign (readsTidy.value isValue) areTidy isAssigned
      split at behindMember
      · exact readsTidy.members assignedTidy behindMember
      · cases behindMember
        exact assignedTidy
      · cases behindMember
  all_goals cases read

/-- Whatever is read is tidy. -/
theorem readsTidy (fuel : Nat) : ReadsTidy fuel := by
  induction fuel with
  | zero => exact ⟨nofun, nofun, fun _ => nofun⟩
  | succ fuel inductionHypothesis =>
      have smaller : ReadsTidy (fuel + 1 - 1) := inductionHypothesis
      exact ⟨smaller.value_of_pred, smaller.items_of_pred, smaller.members_of_pred⟩

/-! ## Documents -/

/-- Every value that a line gives is tidy. -/
def Line.IsTidy : Line → Prop
  | .header _ => True
  | .entry _ value => value.IsTidy

theorem isTidy_readLine
    {text rest : List Char}
    {line : Line}
    (read : readLine text = some (some line, rest)) :
    line.IsTidy := by
  unfold readLine at read
  split at read
  · cases read
  · obtain ⟨_, _, ofPath⟩ := Option.bind_eq_some_iff.1 read
    obtain ⟨_, _, ofMark⟩ := Option.bind_eq_some_iff.1 ofPath
    obtain ⟨_, _, line_eq⟩ := Option.bind_eq_some_iff.1 ofMark
    cases line_eq
    trivial
  · split at read
    · cases read
    · obtain ⟨_, _, ofPath⟩ := Option.bind_eq_some_iff.1 read
      obtain ⟨_, _, ofMark⟩ := Option.bind_eq_some_iff.1 ofPath
      obtain ⟨_, isValue, ofValue⟩ := Option.bind_eq_some_iff.1 ofMark
      obtain ⟨_, _, line_eq⟩ := Option.bind_eq_some_iff.1 ofValue
      cases line_eq
      exact (readsTidy _).value isValue

theorem isTidy_of_mem_readLines
    {fuel : Nat}
    {text : List Char}
    {lines : List Line}
    (read : readLines fuel text = some lines) :
    ∀ line ∈ lines, line.IsTidy := by
  fun_induction readLines fuel text generalizing lines with
  | case1 =>
      cases read
      exact List.forall_mem_nil _
  | case2 =>
      cases read
      exact List.forall_mem_nil _
  | case3 fuel text nonempty inductionHypothesis =>
      obtain ⟨⟨line?, behind⟩, isLine, ofLine⟩ := Option.bind_eq_some_iff.1 read
      obtain ⟨others, areOthers, lines_eq⟩ := Option.bind_eq_some_iff.1 ofLine
      cases lines_eq
      refine List.forall_mem_append.2 ⟨?_, inductionHypothesis behind areOthers⟩
      rintro line listed
      cases Option.mem_toList.1 listed
      exact isTidy_readLine isLine

/-- Adding lines keeps the keys of every table apart. -/
theorem areTidy_addLines
    {table : List String}
    {members added : Members}
    {lines : List Line}
    (areTidy : Members.AreTidy members)
    (linesTidy : ∀ line ∈ lines, line.IsTidy)
    (isAdded : addLines table members lines = some added) :
    Members.AreTidy added := by
  fun_induction addLines table members lines with
  | case1 =>
      cases isAdded
      exact areTidy
  | case2 table members path lines inductionHypothesis =>
      obtain ⟨opened, isOpened, restAdded⟩ := Option.bind_eq_some_iff.1 isAdded
      exact inductionHypothesis opened (Members.areTidy_openTable areTidy isOpened)
        (List.forall_mem_cons.1 linesTidy).2 restAdded
  | case3 table members path value lines inductionHypothesis =>
      obtain ⟨assigned, isAssigned, restAdded⟩ := Option.bind_eq_some_iff.1 isAdded
      obtain ⟨isTidy, linesTidy⟩ := List.forall_mem_cons.1 linesTidy
      exact inductionHypothesis assigned (Members.areTidy_assignIn isTidy areTidy isAssigned)
        linesTidy restAdded

/-- In every table of a document each key stands once. -/
theorem areTidy_document
    {text : String}
    {members : Members}
    (isDocument : document? text = some members) :
    Members.AreTidy members := by
  obtain ⟨lines, areLines, isAdded⟩ := Option.bind_eq_some_iff.1 isDocument
  exact areTidy_addLines (show Members.AreTidy [] from trivial) (isTidy_of_mem_readLines areLines)
    isAdded

end Toml
end TrafficGraph
