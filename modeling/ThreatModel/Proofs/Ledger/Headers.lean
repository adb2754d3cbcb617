import ThreatModel.Proofs.Entry.Header
import ThreatModel.Proofs.Ledger.Accounts
import ThreatModel.Proofs.OrderedMap.Sums

/-!
Contract: what the header of a function leaves in a ledger.

Owns:
- the one declaration that a header may define;
- that a header counts under its title, and that nothing else is changed.

Does not own: which lines are headers.
-/

namespace ThreatModel

open ThreatModel.Text

open Entry (Header)

/-- The declaration at `place`, once the header has been entered under the number. -/
def Declaration.headed
    (declaration : Declaration)
    (place : Nat)
    (header : Header)
    (cursor : Cursor)
    (number : Int) :
    Declaration :=
  if cursor.current = some place ∧ header.IsOf declaration.function then
    { declaration with definition := some ⟨String.ofList header.code, cursor.file, number⟩ }
  else declaration

namespace Ledger

section Entered

variable (ledger : Ledger) (cursor : Cursor) (number : Int) (header : Header)

theorem consume_header :
    ledger.consume cursor number header.line =
      ((ledger.sign cursor number (.ofList header.code) (.ofList header.title)).register cursor,
        cursor) := by
  simp only [consume, header.ofLine?_line, apply]

/-- Only the declaration that the cursor stands in can be defined by a header, and it is when the
header is its own. -/
theorem declarations_sign_header :
    (ledger.sign cursor number (.ofList header.code) (.ofList header.title)).declarations =
      ledger.declarations.mapIdx fun place declaration =>
        declaration.headed place header cursor number := by
  obtain ⟨file, current⟩ := cursor
  unfold Declaration.headed
  apply List.ext_getElem?
  intro place
  rw [List.getElem?_mapIdx]
  cases current with
  | none => simp [sign, signatureTarget?]
  | some standing =>
      rw [declarations_sign, List.getElem?_modify]
      by_cases same : standing = place
      · simp [same, header.signatureMatches_title_iff]
      · simp [same]

end Entered

/-- A header is counted under its title. It defines the current declaration if the name of that is
the header's own, and changes no other declaration; no declaration is added, and neither the
orphans nor the other counts change. -/
theorem consume_header_changes
    (ledger : Ledger)
    (cursor : Cursor)
    (number : Int)
    (header : Header) :
    let entered := (ledger.consume cursor number header.line).1
    (∀ name, entered.found.get? name =
        if name = .ofList header.title then some (ledger.found.count name + 1)
        else ledger.found.get? name) ∧
      entered.declarations =
        (ledger.declarations.mapIdx fun place declaration =>
          declaration.headed place header cursor number) ∧
      entered.declarations.length = ledger.declarations.length ∧
      entered.orphans = ledger.orphans ∧
      entered.covered = ledger.covered ∧
      entered.tested = ledger.tested := by
  have declared := declarations_sign_header ledger cursor number header
  simp only [consume_header, found_register, declarations_register, orphans_register,
    covered_register, tested_register, found_sign, orphans_sign, covered_sign, tested_sign,
    declared, List.length_mapIdx, and_true]
  intro name
  rw [ledger.found.get?_tally_of_count]
  by_cases counted : name = .ofList header.title
  · rw [if_pos counted, if_pos counted, counted]
  · rw [if_neg counted, if_neg counted]

/-- A method whose parameters have parentheses and braces of their own. -/
def handleHeader : Header where
  before := []
  gap := [' ']
  receiver := some "s *Server".toList
  name := "Handle".toList
  parameters := "next func(int) error, done chan struct\x7b\x7d) (n int)".toList
  between := [' ']
  after := ['\r']
  blankBefore := by decide
  parted := by decide
  blankGap := by decide
  receiverUnopened := by decide
  receiverSameLine := by decide
  named := by decide
  nameInked := by
    have inked : "Handle".toList.any isBlank = false := by decide
    exact fun character member =>
      Bool.eq_false_iff.mpr (List.any_eq_false.mp inked character member)
  nameUnopened := by decide
  nameDotless := by decide
  parametersSameLine := by decide
  parametersInked := by decide
  blankBetween := by decide
  blankAfter := by decide

theorem handleHeader_defines_handle :
    let declared := readAll ∅ [("a.go", "// ThreatSpec m for Server.Handle")]
    let entered := (declared.consume ⟨"a.go", some 0⟩ 2 handleHeader.line).1
    entered.found.get? "(s *Server) Handle" = some 1 ∧
      entered.declarations.map Declaration.definition =
        [some ⟨"(s *Server) Handle(next func(int) error, done chan struct\x7b\x7d) (n int)",
          "a.go", 2⟩] := by
  intro declared entered
  obtain ⟨found, defined, _⟩ :=
    consume_header_changes declared ⟨"a.go", some 0⟩ 2 handleHeader
  constructor
  · exact (found "(s *Server) Handle").trans (by decide +kernel)
  · exact (congrArg (List.map Declaration.definition) defined).trans (by decide +kernel)

end Ledger

end ThreatModel
