import ThreatModel.Proofs.Ledger.Counters

/-!
Contract: the notices of items that no declaration stands before.

Owns:
- the lines of a text that are orphans;
- that the reading of a text gives notice of each of them, once and in order.

Does not own: what a ledger keeps of an orphan.
-/

namespace ThreatModel

/-! ## Orphan lines -/

namespace SourceLine

/-- The items before the first declaration. -/
def orphaned (lines : List SourceLine) : List SourceLine :=
  (lines.takeWhile (!·.declares)).filter isItem

theorem orphaned_cons_of_declares
    {line : SourceLine}
    (declares : line.declares = true)
    (rest : List SourceLine) :
    orphaned (line :: rest) = [] := by
  rw [orphaned, List.takeWhile_cons_of_neg (by simp [declares]), List.filter_nil]

theorem orphaned_cons_of_undeclared
    {line : SourceLine}
    (undeclared : line.declares = false)
    (rest : List SourceLine) :
    orphaned (line :: rest) = (if line.isItem then [line] else []) ++ orphaned rest := by
  rw [orphaned, List.takeWhile_cons_of_pos (by simp [undeclared]), List.filter_cons, orphaned]
  split <;> rfl

/-- The notice that the line is an orphan in a file. -/
def orphanNotice
    (line : SourceLine)
    (file : String) :
    Notice :=
  .orphaned line.raw file line.number

end SourceLine

def Notice.isOrphaned : Notice → Bool
  | .orphaned _ _ _ => true
  | .matched _ _ _ => false

/-! ## Notices of a text -/

namespace Ledger

/-- The step lemma: an item is an orphan if no declaration is current. -/
theorem filter_notice?
    (ledger : Ledger)
    (cursor : Cursor)
    (line : SourceLine) :
    (ledger.notice? cursor line.number line.text).toList.filter Notice.isOrphaned =
      if cursor.current.isNone && line.isItem then [line.orphanNotice cursor.file] else [] := by
  unfold notice? SourceLine.isItem SourceLine.entry?
  cases Entry.ofLine? line.text with
  | none => simp
  | some entry =>
      cases entry with
      | declaration model function => simp
      | signature code name =>
          dsimp only
          rw [Bool.and_false]
          cases ledger.signatureTarget? cursor name with
          | none => rfl
          | some target => rfl
      | item item =>
          cases cursor.current with
          | some place => simp
          | none => simp [Notice.isOrphaned, SourceLine.orphanNotice, SourceLine.raw]

/-- The run lemma. No line takes the cursor out of the declaration that it stands in, so there are
no orphans behind the first declaration. -/
theorem filter_notices
    (ledger : Ledger)
    (cursor : Cursor)
    (first : Nat)
    (lines : List String) :
    (ledger.notices cursor first lines).filter Notice.isOrphaned =
      if cursor.current.isNone then
        (SourceLine.orphaned (SourceLine.numbered first lines)).map (·.orphanNotice cursor.file)
      else [] := by
  induction lines generalizing ledger cursor first with
  | nil => simp [notices, SourceLine.numbered, SourceLine.orphaned]
  | cons head rest inductionHypothesis =>
      let line : SourceLine := ⟨head, first⟩
      have step := ledger.filter_notice? cursor line
      have parted : ledger.notices cursor first (head :: rest) =
          (ledger.notice? cursor line.number line.text).toList ++
            (enterLine (ledger, cursor) line).1.notices (enterLine (ledger, cursor) line).2
              (first + 1 : Nat) rest :=
        rfl
      rw [parted, List.filter_append, step, inductionHypothesis, SourceLine.numbered_cons]
      change _ = if cursor.current.isNone then
        (SourceLine.orphaned (line :: _)).map (·.orphanNotice cursor.file) else []
      rcases ledger.enterLine_cases cursor line with
        ⟨model, function, reads, _, moved⟩ | ⟨undeclared, _, stays⟩
      · have declares : line.declares = true := by rw [SourceLine.declares, reads]
        have noItem : line.isItem = false := by rw [SourceLine.isItem, reads]
        rw [moved, SourceLine.orphaned_cons_of_declares declares, noItem]
        simp
      · rw [stays, SourceLine.orphaned_cons_of_undeclared undeclared]
        cases cursor.current with
        | some place => simp
        | none =>
            cases line.isItem <;> simp

/-- Each source gives notice of its own orphans, whatever was read before. -/
theorem filter_readNotices
    (ledger : Ledger)
    (file text : String) :
    (ledger.readNotices file text).filter Notice.isOrphaned =
      (SourceLine.orphaned (SourceLine.ofText text)).map (·.orphanNotice file) :=
  ledger.filter_notices { file } 1 (Text.textLines text)

end Ledger

end ThreatModel
