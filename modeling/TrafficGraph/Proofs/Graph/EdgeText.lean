import TrafficGraph.Graph.EdgeKey
import TrafficGraph.Proofs.Address.Characters

/-!
# The texts of edges

The text of a key can be taken apart again.  No host has an angle bracket, a slash or a
square bracket, so the first angle bracket of the text ends the arrow, the first slash
behind it begins the protocol, and a host stands in square brackets exactly if it has
colons; what is left of an end begins with a colon if there is a port.  Port labels
tell the classes of ports apart under any one threshold.
-/

namespace TrafficGraph
namespace Text

/-- What stands before the first mark is determined by a text. -/
theorem append_inj_of_not_mem
    (mark : Char)
    {firstFront secondFront firstRest secondRest : List Char}
    (firstAbsent : mark ∉ firstFront)
    (secondAbsent : mark ∉ secondFront)
    (firstMarked : ∀ character ∈ firstRest.head?, character = mark)
    (secondMarked : ∀ character ∈ secondRest.head?, character = mark)
    (equality : firstFront ++ firstRest = secondFront ++ secondRest) :
    firstFront = secondFront ∧ firstRest = secondRest := by
  have front_eq {front rest : List Char} (absent : mark ∉ front)
      (marked : ∀ character ∈ rest.head?, character = mark) :
      (front ++ rest).takeWhile (· != mark) = front := by
    rw [List.takeWhile_append_of_pos]
    · cases rest with
      | nil => simp
      | cons character rest => simp [marked character rfl]
    · intro character inside
      exact bne_iff_ne.2 fun same => absent (same ▸ inside)
  have fronts_eq : firstFront = secondFront := by
    rw [← front_eq firstAbsent firstMarked, equality, front_eq secondAbsent secondMarked]
  rw [fronts_eq] at equality
  exact ⟨fronts_eq, List.append_cancel_left equality⟩

end Text

namespace EdgeKey

/-- A host of characters of canonical names. -/
def IsCleanHost (host : String) : Prop :=
  ∀ character ∈ host.toList, Address.isCanonicalCharacter character = true

/-- Both hosts consist of characters of canonical names. -/
structure IsClean (key : EdgeKey) : Prop where
  /-- The host at the source side does. -/
  source : IsCleanHost key.source
  /-- The host at the destination side does. -/
  destination : IsCleanHost key.destination

theorem IsCleanHost.not_mem
    {host : String}
    (clean : IsCleanHost host)
    {mark : Char}
    (isMark : Address.isCanonicalCharacter mark = false) :
    mark ∉ host.toList := by
  intro inside
  rw [clean mark inside] at isMark
  cases isMark

/-! ## Ends -/

/-- One end of an edge as it stands in the text of a key. -/
def printEnd (host : String) (port : Option UInt16) : List Char :=
  printHost host ++ printPort port

theorem characters_eq (key : EdgeKey) :
    key.characters =
      (printEnd key.source key.sourcePort ++ ['-']) ++
        '>' :: (printEnd key.destination key.destinationPort ++ printProtocol key.protocol) := by
  simp [characters, printEnd]

theorem mem_printPort
    {port : Option UInt16}
    {character : Char}
    (listed : character ∈ printPort port) :
    Address.isCanonicalCharacter character = true := by
  cases port with
  | none => cases listed
  | some number =>
      rw [printPort, List.mem_cons] at listed
      rcases listed with rfl | digit
      · rfl
      · rw [Address.isCanonicalCharacter,
          Address.isNameCharacter_of_mem_toDigits (by decide) (by decide) digit, Bool.true_or]

theorem head?_printPort (port : Option UInt16) :
    ∀ character ∈ (printPort port).head?, character = ':' := by
  cases port with
  | none => simp [printPort]
  | some number => simp [printPort]

theorem printPort_injective
    {first second : Option UInt16}
    (equality : printPort first = printPort second) :
    first = second := by
  cases first with
  | none =>
      cases second with
      | none => rfl
      | some number => simp [printPort] at equality
  | some number =>
      cases second with
      | none => simp [printPort] at equality
      | some other =>
          simp only [printPort, List.cons.injEq, true_and] at equality
          rw [UInt16.toNat_inj.1 (Text.decimal_injective equality)]

theorem printEnd_of_colon
    {host : String}
    (colon : host.toList.contains ':' = true)
    (port : Option UInt16) :
    printEnd host port = '[' :: (host.toList ++ ']' :: printPort port) := by
  rw [printEnd, printHost, if_pos colon]
  simp

theorem printEnd_of_no_colon
    {host : String}
    (plain : ¬host.toList.contains ':' = true)
    (port : Option UInt16) :
    printEnd host port = host.toList ++ printPort port := by
  rw [printEnd, printHost, if_neg plain]

/-- Apart from square brackets an end has no characters but those of canonical names. -/
theorem IsCleanHost.not_mem_printEnd
    {host : String}
    (clean : IsCleanHost host)
    {mark : Char}
    (isMark : Address.isCanonicalCharacter mark = false)
    (notOpening : mark ≠ '[')
    (notClosing : mark ≠ ']')
    {port : Option UInt16} :
    mark ∉ printEnd host port := by
  have notInPort : mark ∉ printPort port := by
    intro inPort
    rw [mem_printPort inPort] at isMark
    cases isMark
  by_cases colon : host.toList.contains ':' = true
  · rw [printEnd_of_colon colon]
    simp [notOpening, notClosing, notInPort, clean.not_mem isMark]
  · rw [printEnd_of_no_colon colon]
    simp [notInPort, clean.not_mem isMark]

/-- An end has brackets exactly if its host has colons. -/
theorem bracket_mem_printEnd_iff
    {host : String}
    (clean : IsCleanHost host)
    (port : Option UInt16) :
    '[' ∈ printEnd host port ↔ host.toList.contains ':' = true := by
  by_cases colon : host.toList.contains ':' = true
  · rw [printEnd_of_colon colon]
    exact iff_of_true List.mem_cons_self colon
  · rw [printEnd_of_no_colon colon, List.mem_append]
    apply iff_of_false ?_ colon
    rintro (inHost | inPort)
    · exact clean.not_mem rfl inHost
    · cases mem_printPort inPort

/-- A clean end determines its host and its port. -/
theorem printEnd_injective
    {firstHost secondHost : String}
    {firstPort secondPort : Option UInt16}
    (firstClean : IsCleanHost firstHost)
    (secondClean : IsCleanHost secondHost)
    (equality : printEnd firstHost firstPort = printEnd secondHost secondPort) :
    firstHost = secondHost ∧ firstPort = secondPort := by
  have colon_iff : firstHost.toList.contains ':' = true ↔ secondHost.toList.contains ':' = true := by
    rw [← bracket_mem_printEnd_iff firstClean firstPort, equality,
      bracket_mem_printEnd_iff secondClean secondPort]
  by_cases colon : firstHost.toList.contains ':' = true
  · rw [printEnd_of_colon colon, printEnd_of_colon (colon_iff.1 colon), List.cons.injEq] at equality
    obtain ⟨hosts_eq, rests_eq⟩ := Text.append_inj_of_not_mem ']' (firstClean.not_mem rfl)
      (secondClean.not_mem rfl) (by simp) (by simp) equality.2
    exact ⟨String.toList_inj.1 hosts_eq, printPort_injective (List.cons.inj rests_eq).2⟩
  · have noColon {host : String} (plain : ¬host.toList.contains ':' = true) : ':' ∉ host.toList :=
      fun inside => plain (List.contains_iff_mem.2 inside)
    have plain := fun colonThere => colon (colon_iff.2 colonThere)
    rw [printEnd_of_no_colon colon, printEnd_of_no_colon plain] at equality
    obtain ⟨hosts_eq, ports_eq⟩ := Text.append_inj_of_not_mem ':' (noColon colon) (noColon plain)
      (head?_printPort firstPort) (head?_printPort secondPort) equality
    exact ⟨String.toList_inj.1 hosts_eq, printPort_injective ports_eq⟩

/-! ## Whole keys -/

theorem head?_printProtocol (protocol : String) :
    ∀ character ∈ (printProtocol protocol).head?, character = '/' := by
  unfold printProtocol
  split
  · simp
  · simp

theorem printProtocol_injective
    {first second : String}
    (equality : printProtocol first = printProtocol second) :
    first = second := by
  unfold printProtocol at equality
  split at equality
  · next firstEmpty =>
    split at equality
    · next secondEmpty => rw [firstEmpty, secondEmpty]
    · cases equality
  · split at equality
    · cases equality
    · exact String.toList_inj.1 (List.cons.inj equality).2

/-- The text of a key with clean hosts determines the key. -/
theorem print_injective
    {first second : EdgeKey}
    (firstClean : first.IsClean)
    (secondClean : second.IsClean)
    (equality : first.print = second.print) :
    first = second := by
  have noArrow {host : String} {port : Option UInt16} (clean : IsCleanHost host) :
      '>' ∉ printEnd host port ++ ['-'] := by
    rw [List.mem_append, List.mem_singleton, not_or]
    exact ⟨clean.not_mem_printEnd rfl (by decide) (by decide), by decide⟩
  rw [print, print, String.ofList_inj, characters_eq, characters_eq] at equality
  -- The hyphen of the arrow is no mark, since hosts may have hyphens.
  obtain ⟨sources_eq, rests_eq⟩ := Text.append_inj_of_not_mem '>' (noArrow firstClean.source)
    (noArrow secondClean.source) (by simp) (by simp) equality
  obtain ⟨source_eq, sourcePort_eq⟩ := printEnd_injective firstClean.source secondClean.source
    (List.append_cancel_right sources_eq)
  obtain ⟨destinations_eq, protocols_eq⟩ := Text.append_inj_of_not_mem '/'
    (firstClean.destination.not_mem_printEnd rfl (by decide) (by decide))
    (secondClean.destination.not_mem_printEnd rfl (by decide) (by decide))
    (head?_printProtocol first.protocol) (head?_printProtocol second.protocol)
    (List.cons.inj rests_eq).2
  obtain ⟨destination_eq, destinationPort_eq⟩ := printEnd_injective firstClean.destination
    secondClean.destination destinations_eq
  obtain ⟨source, destination, protocol, sourcePort, destinationPort⟩ := first
  rw [EdgeKey.mk.injEq]
  exact ⟨source_eq, destination_eq, printProtocol_injective protocols_eq, sourcePort_eq,
    destinationPort_eq⟩

end EdgeKey

/-! ## Labels -/

theorem portLabel_of_collapsed
    {threshold port : UInt16}
    (collapsed : port = EdgeKey.collapsedPort ∧ 0 < threshold) :
    portLabel threshold (some port) = "*" := by
  rw [portLabel, if_pos collapsed]

theorem portLabel_of_not_collapsed
    {threshold port : UInt16}
    (literal : ¬(port = EdgeKey.collapsedPort ∧ 0 < threshold)) :
    portLabel threshold (some port) = String.ofList (Text.decimal port.toNat) := by
  rw [portLabel, if_neg literal]

theorem portLabel_some_ne_empty (threshold port : UInt16) :
    portLabel threshold (some port) ≠ "" := by
  by_cases collapsed : port = EdgeKey.collapsedPort ∧ 0 < threshold
  · rw [portLabel_of_collapsed collapsed]
    decide
  · rw [portLabel_of_not_collapsed collapsed]
    intro empty
    exact Text.decimal_ne_nil port.toNat (String.ofList_eq_empty_iff.1 empty)

/-- The asterisk is the label of the collapsed class alone. -/
theorem portLabel_eq_star_iff
    {threshold : UInt16}
    {port : Option UInt16} :
    portLabel threshold port = "*" ↔ port = some EdgeKey.collapsedPort ∧ 0 < threshold := by
  cases port with
  | none => simp
  | some number =>
      rw [Option.some.injEq]
      by_cases collapsed : number = EdgeKey.collapsedPort ∧ 0 < threshold
      · exact iff_of_true (portLabel_of_collapsed collapsed) collapsed
      · rw [portLabel_of_not_collapsed collapsed]
        apply iff_of_false ?_ collapsed
        intro star
        have listed : '*' ∈ Text.decimal number.toNat := by
          rw [← String.toList_ofList (l := Text.decimal number.toNat), star]
          decide
        cases Text.isDigit_of_mem_decimal listed

/-- Under one threshold a label tells the class of the port. -/
theorem portLabel_injective
    {threshold : UInt16}
    {first second : Option UInt16}
    (equality : portLabel threshold first = portLabel threshold second) :
    first = second := by
  by_cases collapsed : portLabel threshold first = "*"
  · rw [(portLabel_eq_star_iff.1 collapsed).1,
      (portLabel_eq_star_iff.1 (equality.symm.trans collapsed)).1]
  · have collapsedToo : portLabel threshold second ≠ "*" := equality ▸ collapsed
    cases first with
    | none =>
        cases second with
        | none => rfl
        | some number => exact absurd equality.symm (portLabel_some_ne_empty threshold number)
    | some number =>
        cases second with
        | none => exact absurd equality (portLabel_some_ne_empty threshold number)
        | some other =>
            rw [portLabel_of_not_collapsed (mt portLabel_of_collapsed collapsed),
              portLabel_of_not_collapsed (mt portLabel_of_collapsed collapsedToo),
              String.ofList_inj] at equality
            rw [UInt16.toNat_inj.1 (Text.decimal_injective equality)]

end TrafficGraph
