import ThreatModel.Ledger.Source
import ThreatModel.Proofs.Text.LineEnds

/-!
Contract: ledgers do not depend on the line ends of the texts that are entered.

Owns:
- that a line is entered by what it has before its line end;
- that further carriage returns at the ends of lines leave every ledger as it is;
- that a file with returns and newlines at its line ends is entered as its own text.

Does not own: carriage returns that no newline follows.
-/

namespace ThreatModel

open ThreatModel.Text

namespace Ledger

/-! ## Lines -/

/-- Neither the entry of a line nor the line that records keep depends on its line end. -/
theorem consume_congr
    (ledger : Ledger)
    (cursor : Cursor)
    (number : Int)
    {line other : List Char}
    (same : SameButEnd line other) :
    ledger.consume cursor number (String.ofList line) =
      ledger.consume cursor number (String.ofList other) := by
  have sameEntry : Entry.ofLine? (String.ofList line) = Entry.ofLine? (String.ofList other) := by
    rw [Entry.ofLine?, Entry.ofLine?, String.toList_ofList, String.toList_ofList, same]
  have sameRaw : rawLine (String.ofList line) = rawLine (String.ofList other) := by
    rw [rawLine, rawLine, String.toList_ofList, String.toList_ofList, same]
  rw [consume, consume, sameEntry, sameRaw]

theorem consumeLines_congr
    (ledger : Ledger)
    (cursor : Cursor)
    (number : Int)
    {lines others : List (List Char)}
    (same : List.Forall₂ SameButEnd lines others) :
    ledger.consumeLines cursor number (lines.map String.ofList) =
      ledger.consumeLines cursor number (others.map String.ofList) := by
  induction same generalizing ledger cursor number with
  | nil => rfl
  | cons sameLine _ inductionHypothesis =>
      rw [List.map_cons, List.map_cons, consumeLines, consumeLines,
        ledger.consume_congr cursor number sameLine]
      exact inductionHypothesis _ _ _

/-! ## Texts and files -/

theorem read_returned
    (ledger : Ledger)
    (file : String)
    {text other : String}
    (returned : Returned text.toList other.toList) :
    ledger.read file other = ledger.read file text := by
  rw [read, read, textLines, textLines, ledger.consumeLines_congr _ 1 returned.sameButEnd]

theorem load_of_decode
    {tree : Tree}
    {path content : String}
    {octets : List UInt8}
    (isFile : tree.readOctets (normalPath path) = .ok octets)
    (isText : Files.decode octets = .ok content) :
    Source.load tree path =
      .ok ⟨normalPath path, String.ofList (unifyLineEnds content.toList)⟩ := by
  unfold Source.load
  dsimp only
  rw [Files.readText_of_decode isFile isText]

/-- Carriage returns before newlines and at the end of a text change no ledger. A file in which
each carriage return has a newline behind it is entered as its text is, under the path of the file,
although reading it unifies the line ends. -/
theorem read_lineEnds (ledger : Ledger) :
    (∀ file text other,
      Returned text.toList other.toList → ledger.read file other = ledger.read file text) ∧
      ∀ tree path octets content,
        tree.readOctets (normalPath path) = .ok octets →
          Files.decode octets = .ok content →
            ReturnsPaired content.toList →
              (Source.load tree path).map ledger.readSource =
                .ok (ledger.read (normalPath path) content) := by
  constructor
  · intro file text other returned
    exact ledger.read_returned file returned
  · intro tree path octets content isFile isText paired
    have unified : Returned
        (String.ofList (unifyLineEnds content.toList)).toList content.toList := by
      rw [String.toList_ofList]
      exact returned_unifyLineEnds paired
    rw [load_of_decode isFile isText, ledger.read_returned _ unified]
    rfl

/-- A text whose lines end in newlines alone. -/
def tillText : String :=
  "// ThreatSpec shop for pay\n// Does payments for Shop:Till"

/-- The text with carriage returns before its newline, and one at the end. -/
def returnedTillText : String :=
  "// ThreatSpec shop for pay\r\r\n// Does payments for Shop:Till\r"

/-- The text with a line end of both characters. -/
def pairedTillText : String :=
  "// ThreatSpec shop for pay\r\n// Does payments for Shop:Till"

def tillTree : Tree where
  files := .ofList [(["till.go"], Utf8.encode pairedTillText)]

/-- Each of the texts declares a function with one activity, and no carriage return is kept. -/
theorem tillText_lineEnds :
    Returned tillText.toList returnedTillText.toList ∧
      tillTree.readOctets (normalPath "till.go") = .ok (Utf8.encode pairedTillText) ∧
      Files.decode (Utf8.encode pairedTillText) = .ok pairedTillText ∧
      ReturnsPaired pairedTillText.toList ∧
      (empty.read "till.go" returnedTillText).declarations.map Declaration.raw =
        ["// ThreatSpec shop for pay"] ∧
      (empty.read "till.go" returnedTillText) = empty.read "till.go" tillText ∧
      (Source.load tillTree "till.go").map empty.readSource =
        .ok (empty.read (normalPath "till.go") pairedTillText) := by
  have returned : Returned tillText.toList returnedTillText.toList := by
    have cut : tillText.toList = "// ThreatSpec shop for pay".toList ++
        '\n' :: "// Does payments for Shop:Till".toList := by
      decide +kernel
    have returnedCut : returnedTillText.toList =
        "// ThreatSpec shop for pay".toList ++ List.replicate 2 '\r' ++
          '\n' :: ("// Does payments for Shop:Till".toList ++ List.replicate 1 '\r') := by
      decide +kernel
    rw [cut, returnedCut]
    exact .next 2 (by decide) (.last 1 (by decide))
  have isFile : tillTree.readOctets (normalPath "till.go") = .ok (Utf8.encode pairedTillText) := by
    decide +kernel
  have isText : Files.decode (Utf8.encode pairedTillText) = .ok pairedTillText := by
    decide +kernel
  have paired : ReturnsPaired pairedTillText.toList := by
    decide +kernel
  obtain ⟨unmoved, entered⟩ := read_lineEnds empty
  exact ⟨returned, isFile, isText, paired, by decide +kernel, unmoved _ _ _ returned,
    entered _ _ _ _ isFile isText paired⟩

end Ledger

end ThreatModel
