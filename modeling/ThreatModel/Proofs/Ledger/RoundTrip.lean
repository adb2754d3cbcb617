import ThreatModel.Proofs.Ledger.Accounts
import ThreatModel.Proofs.Ledger.Listing
import ThreatModel.Proofs.Text.Lines

/-!
Contract: declarations that are written out and read again.

Owns:
- listings: declarations with their records in the order of writing, and the
  text of a list of them;
- the segment that a listing is read as;
- that a text of legible listings adds their declarations to any ledger, and
  nothing else.

Does not own: what makes a single line legible.
-/

namespace ThreatModel

open ThreatModel.Entry ThreatModel.Text

/-! ## Records as they are read -/

namespace Record

/-- The record that an item becomes. -/
def ofItem
    (item : Item)
    (raw : String) :
    Record :=
  match item with
  | .mitigation component threat text ref =>
      .mitigation ⟨.ofReference component, threat, text, ref, raw⟩
  | .exposure component threat text ref =>
      .exposure ⟨.ofReference component, threat, text, ref, raw⟩
  | .activity action component ref => .activity ⟨action, .ofReference component, ref, raw⟩
  | .flow direction subject source dest =>
      .flow ⟨direction, subject, .ofReference source, .ofReference dest, raw⟩
  | .test function threat ref => .test ⟨function, threat, ref, raw⟩

def withRaw
    (raw : String) :
    Record → Record
  | .mitigation finding => .mitigation { finding with raw }
  | .exposure finding => .exposure { finding with raw }
  | .activity known => .activity { known with raw }
  | .flow known => .flow { known with raw }
  | .test known => .test { known with raw }

/-- The record as its own annotation has it: the raw text is the line that was written. -/
def written (record : Record) : Record :=
  record.withRaw record.line

section Written

variable (record : Record)

theorem mitigation?_written :
    record.written.mitigation? =
      record.mitigation?.map fun finding => { finding with raw := (mitigation finding).line } := by
  cases record <;> rfl

theorem exposure?_written :
    record.written.exposure? =
      record.exposure?.map fun finding => { finding with raw := (exposure finding).line } := by
  cases record <;> rfl

theorem activity?_written :
    record.written.activity? =
      record.activity?.map fun known => { known with raw := (activity known).line } := by
  cases record <;> rfl

theorem flow?_written :
    record.written.flow? =
      record.flow?.map fun known => { known with raw := (flow known).line } := by
  cases record <;> rfl

theorem test?_written :
    record.written.test? =
      record.test?.map fun known => { known with raw := (test known).line } := by
  cases record <;> rfl

end Written

theorem Legible.ofItem_item
    {record : Record}
    (legible : record.Legible)
    (raw : String) :
    ofItem record.item raw = record.withRaw raw := by
  cases record with
  | mitigation finding =>
      have component := legible.1.ofReference_reference
      simp only [item, ofItem, withRaw, component]
  | exposure finding =>
      have component := legible.1.ofReference_reference
      simp only [item, ofItem, withRaw, component]
  | activity known =>
      have component := legible.2.1.ofReference_reference
      simp only [item, ofItem, withRaw, component]
  | flow known =>
      have source := legible.2.1.ofReference_reference
      have dest := legible.2.2.2.ofReference_reference
      simp only [item, ofItem, withRaw, source, dest]
  | test known => rfl

end Record

namespace SourceLine

variable {line : SourceLine}

/-- The line gives rise to the record and to nothing else. -/
structure Records (line : SourceLine) (record : Record) : Prop where
  mitigation : line.mitigation? = record.mitigation?
  exposure : line.exposure? = record.exposure?
  activity : line.activity? = record.activity?
  flow : line.flow? = record.flow?
  test : line.test? = record.test?
  undeclared : line.declares = false
  undefined : ∀ file function, line.definition? file function = none
  unsigned : line.signatureName? = none

theorem records_of_item
    {item : Item}
    (reads : line.entry? = some (.item item)) :
    line.Records (.ofItem item line.raw) := by
  unfold Record.ofItem
  cases item <;>
    constructor <;>
    simp [declares, mitigation?, exposure?, activity?, flow?, test?, definition?, signatureName?,
      reads, Record.mitigation?, Record.exposure?, Record.activity?, Record.flow?, Record.test?]

end SourceLine

theorem Record.Legible.records
    {record : Record}
    (legible : record.Legible)
    (number : Int) :
    SourceLine.Records ⟨record.line, number⟩ record.written := by
  have reads : SourceLine.entry? ⟨record.line, number⟩ = some (.item record.item) :=
    legible.writes.reads
  have raw : SourceLine.raw ⟨record.line, number⟩ = record.line := legible.writes.raw
  have records := SourceLine.records_of_item reads
  rwa [raw, legible.ofItem_item] at records

/-! ## Listings -/

/-- A declaration with all its records in the order in which they are written. -/
structure Listing where
  declaration : Declaration
  order : List Record
deriving DecidableEq, Repr

/-- The declaration as its own annotations have it: each raw text is the line that was written. -/
def Declaration.written (declaration : Declaration) : Declaration :=
  { declaration with
    raw := declaration.head
    mitigations := declaration.mitigations.map fun finding =>
      { finding with raw := (Record.mitigation finding).line }
    exposures := declaration.exposures.map fun finding =>
      { finding with raw := (Record.exposure finding).line }
    activities := declaration.activities.map fun known =>
      { known with raw := (Record.activity known).line }
    flows := declaration.flows.map fun known =>
      { known with raw := (Record.flow known).line }
    tests := declaration.tests.map fun known =>
      { known with raw := (Record.test known).line } }

namespace Listing

/-- The order keeps the records of each kind in the order of their own list. -/
structure Merges (listing : Listing) : Prop where
  mitigations : listing.order.filterMap Record.mitigation? = listing.declaration.mitigations
  exposures : listing.order.filterMap Record.exposure? = listing.declaration.exposures
  activities : listing.order.filterMap Record.activity? = listing.declaration.activities
  flows : listing.order.filterMap Record.flow? = listing.declaration.flows
  tests : listing.order.filterMap Record.test? = listing.declaration.tests

/-- A merge of legible records, under a declaration that nothing defines yet. -/
structure Legible (listing : Listing) : Prop where
  merges : listing.Merges
  head : listing.declaration.LegibleHead
  records : ∀ record ∈ listing.order, record.Legible
  undefined : listing.declaration.definition = none

def lines (listing : Listing) : List String :=
  listing.declaration.head :: listing.order.map Record.line

end Listing

/-! ## The segment of a listing -/

namespace SourceLine

/-- Lines that are written from records, whatever their numbers, show what the records show. -/
theorem filterMap_numbered
    {α : Type}
    {view : SourceLine → Option α}
    {pick : Record → Option α}
    {order : List Record}
    (agrees : ∀ record ∈ order, ∀ number, view ⟨record.line, number⟩ = pick record)
    (first : Nat) :
    (numbered first (order.map Record.line)).filterMap view = order.filterMap pick := by
  induction order generalizing first with
  | nil => rfl
  | cons head rest inductionHypothesis =>
      have headAgrees := agrees head List.mem_cons_self first
      have restAgrees := inductionHypothesis (fun record member =>
        agrees record (List.mem_cons_of_mem head member)) (first + 1)
      rw [List.map_cons, numbered_cons, List.filterMap_cons, List.filterMap_cons, headAgrees,
        restAgrees]

theorem exists_of_mem_numbered
    {first : Nat}
    {order : List Record}
    {line : SourceLine}
    (member : line ∈ numbered first (order.map Record.line)) :
    ∃ record ∈ order, ∃ number, line = ⟨record.line, number⟩ := by
  obtain ⟨⟨text, number⟩, indexed, rfl⟩ := List.mem_map.mp member
  obtain ⟨record, known, rfl⟩ := List.mem_map.mp (List.fst_mem_of_mem_zipIdx indexed)
  exact ⟨record, known, number, rfl⟩

end SourceLine

namespace Listing.Legible

variable {listing : Listing} (legible : listing.Legible)

include legible

/-- The records of one kind, read off the lines of the body. -/
theorem filterMap_body
    {α : Type}
    {view : SourceLine → Option α}
    {pick : Record → Option α}
    {stamp : α → α}
    (agrees : ∀ {line record}, SourceLine.Records line record → view line = pick record)
    (stamped : ∀ record, pick record.written = (pick record).map stamp)
    (first : Nat) :
    (SourceLine.numbered first (listing.order.map Record.line)).filterMap view =
      (listing.order.filterMap pick).map stamp := by
  rw [List.map_filterMap]
  apply SourceLine.filterMap_numbered
  intro record member number
  rw [agrees ((legible.records record member).records number), stamped]

/-- The lines of a listing are a segment, from whatever number on. -/
def segment (first : Nat) : Segment where
  head := ⟨listing.declaration.head, first⟩
  model := listing.declaration.model
  function := listing.declaration.function
  body := SourceLine.numbered (first + 1) (listing.order.map Record.line)
  opens := legible.head.writes.reads
  unbroken := by
    intro line member
    obtain ⟨record, known, number, rfl⟩ := SourceLine.exists_of_mem_numbered member
    exact ((legible.records record known).records number).undeclared

theorem lines_segment (first : Nat) :
    (legible.segment first).lines = SourceLine.numbered first listing.lines :=
  rfl

/-- The record of the segment is the declaration that was written. -/
theorem record_segment
    (first : Nat)
    (file : String) :
    (legible.segment first).record file = listing.declaration.written := by
  have raw : SourceLine.raw ⟨listing.declaration.head, first⟩ = listing.declaration.head :=
    legible.head.writes.raw
  have mitigations := legible.filterMap_body (·.mitigation) Record.mitigation?_written (first + 1)
  have exposures := legible.filterMap_body (·.exposure) Record.exposure?_written (first + 1)
  have activities := legible.filterMap_body (·.activity) Record.activity?_written (first + 1)
  have flows := legible.filterMap_body (·.flow) Record.flow?_written (first + 1)
  have tests := legible.filterMap_body (·.test) Record.test?_written (first + 1)
  have definitions :
      (SourceLine.numbered (first + 1) (listing.order.map Record.line)).filterMap
        (·.definition? file listing.declaration.function) = [] := by
    rw [List.filterMap_eq_nil_iff]
    intro line member
    obtain ⟨record, known, number, rfl⟩ := SourceLine.exists_of_mem_numbered member
    exact ((legible.records record known).records number).undefined file _
  rw [legible.merges.mitigations] at mitigations
  rw [legible.merges.exposures] at exposures
  rw [legible.merges.activities] at activities
  rw [legible.merges.flows] at flows
  rw [legible.merges.tests] at tests
  simp only [Segment.record, segment, Declaration.written, raw, mitigations, exposures, activities,
    flows, tests, definitions, List.getLast?_nil, legible.undefined]

end Listing.Legible

/-! ## Texts of listings -/

namespace Listing

/-- The annotations of all listings, one a line. -/
def allLines (listings : List Listing) : List String :=
  listings.flatMap lines

def text (listings : List Listing) : String :=
  "\n".intercalate (allLines listings)

theorem sameLine_of_mem_allLines
    {listings : List Listing}
    (legible : ∀ listing ∈ listings, listing.Legible)
    {line : String}
    (member : line ∈ allLines listings) :
    '\n' ∉ line.toList := by
  obtain ⟨listing, listed, within⟩ := List.mem_flatMap.mp member
  rcases List.mem_cons.mp within with rfl | within
  · exact (legible listing listed).head.writes.sameLine
  · obtain ⟨record, known, rfl⟩ := List.mem_map.mp within
    exact ((legible listing listed).records record known).writes.sameLine

/-- The lines of the text are those of the listings, and perhaps an empty one at the end. -/
theorem textLines_text
    {listings : List Listing}
    (legible : ∀ listing ∈ listings, listing.Legible) :
    ∃ count, textLines (text listings) = allLines listings ++ List.replicate count "" := by
  by_cases written : allLines listings = []
  · refine ⟨1, ?_⟩
    rw [text, written]
    rfl
  · refine ⟨0, ?_⟩
    have split := textLines_intercalate written fun line member =>
      sameLine_of_mem_allLines legible member
    rw [text, split, List.replicate_zero, List.append_nil]

end Listing

namespace Ledger

/-- The induction is on the listings: each is read as one segment. -/
theorem Reading.foldl_listings
    {file : String}
    {declarations : List Declaration}
    {current : Option Nat}
    {orphans : List Orphan}
    {state : Ledger × Cursor}
    {listings : List Listing}
    (reading : Reading file declarations current orphans state)
    (legible : ∀ listing ∈ listings, listing.Legible)
    (first : Nat) :
    ∃ last,
      Reading file (declarations ++ listings.map (·.declaration.written)) last orphans
        ((SourceLine.numbered first (Listing.allLines listings)).foldl enterLine state) := by
  induction listings generalizing declarations current state first with
  | nil => exact ⟨current, by simpa [SourceLine.numbered, Listing.allLines] using reading⟩
  | cons head rest inductionHypothesis =>
      have legibleHead := legible head List.mem_cons_self
      have entered := reading.foldl_segment (legibleHead.segment first)
      rw [legibleHead.record_segment first file, legibleHead.lines_segment first] at entered
      obtain ⟨last, finish⟩ := inductionHypothesis entered
        (fun listing member => legible listing (List.mem_cons_of_mem head member))
        (first + head.lines.length)
      refine ⟨last, ?_⟩
      rw [Listing.allLines, List.flatMap_cons, SourceLine.numbered_append, List.foldl_append,
        List.map_cons, ← List.singleton_append, ← List.append_assoc]
      exact finish

/-- Empty lines leave everything as it is. -/
theorem Reading.foldl_empty
    {file : String}
    {declarations : List Declaration}
    {current : Option Nat}
    {orphans : List Orphan}
    {state : Ledger × Cursor}
    (reading : Reading file declarations current orphans state)
    (first count : Nat) :
    Reading file declarations current orphans
      ((SourceLine.numbered first (List.replicate count "")).foldl enterLine state) := by
  induction count generalizing first state with
  | zero => exact reading
  | succ count inductionHypothesis =>
      have silent : SourceLine.entry? ⟨"", first⟩ = none := rfl
      have entered : Reading file declarations current orphans (enterLine state ⟨"", first⟩) := by
        rw [enterLine_of_silent state silent]
        exact ⟨by simpa using reading.declarations_eq, reading.cursor_eq,
          by simpa using reading.orphans_eq⟩
      exact inductionHypothesis entered (first + 1)

/-- No line of a listing is a signature, nor is an empty one. -/
theorem unsigned_of_listed
    {listings : List Listing}
    (legible : ∀ listing ∈ listings, listing.Legible)
    {text : String}
    (listed : text ∈ Listing.allLines listings ∨ text = "")
    (number : Int) :
    SourceLine.signatureName? ⟨text, number⟩ = none := by
  rcases listed with member | rfl
  · obtain ⟨listing, listed, within⟩ := List.mem_flatMap.mp member
    rcases List.mem_cons.mp within with rfl | within
    · have reads : SourceLine.entry? ⟨listing.declaration.head, number⟩ = _ :=
        (legible listing listed).head.writes.reads
      rw [SourceLine.signatureName?, reads]
    · obtain ⟨record, known, rfl⟩ := List.mem_map.mp within
      exact (((legible listing listed).records record known).records number).unsigned
  · rfl

/-- A text of legible listings, with or without a newline at its end, adds their declarations to
any ledger: no line is orphaned, and none is taken for a signature. -/
theorem read_listings
    (ledger : Ledger)
    (file : String)
    (listings : List Listing)
    (legible : ∀ listing ∈ listings, listing.Legible)
    (ending : String)
    (isEnding : ending = "" ∨ ending = "\n") :
    let next := ledger.read file (Listing.text listings ++ ending)
    next.declarations = ledger.declarations ++ listings.map (·.declaration.written) ∧
      next.orphans = ledger.orphans ∧
      next.found = ledger.found := by
  obtain ⟨count, split⟩ : ∃ count, textLines (Listing.text listings ++ ending) =
      Listing.allLines listings ++ List.replicate count "" := by
    obtain ⟨count, split⟩ := Listing.textLines_text legible
    rcases isEnding with rfl | rfl
    · exact ⟨count, by rw [String.append_empty, split]⟩
    · refine ⟨count + 1, ?_⟩
      rw [textLines_append_newline, split, List.append_assoc, List.replicate_succ']
  have start : Reading file ledger.declarations none ledger.orphans (ledger, { file }) :=
    ⟨rfl, rfl, rfl⟩
  obtain ⟨last, listed⟩ := start.foldl_listings legible 1
  have finish := listed.foldl_empty (1 + (Listing.allLines listings).length) count
  rw [← List.foldl_append, ← SourceLine.numbered_append, ← split] at finish
  have unsigned : ∀ line ∈ SourceLine.ofText (Listing.text listings ++ ending),
      line.signatureName? = none := by
    rw [SourceLine.ofText, split]
    intro line member
    obtain ⟨⟨text, number⟩, indexed, rfl⟩ := List.mem_map.mp member
    have written := List.fst_mem_of_mem_zipIdx indexed
    rw [List.mem_append, List.mem_replicate] at written
    exact unsigned_of_listed legible (written.imp id And.right) number
  rw [read_eq_foldl_enterLine]
  exact ⟨finish.declarations_eq, finish.orphans_eq, found_foldl_enterLine (ledger, { file }) unsigned⟩

end Ledger

namespace Listing

/-- Two declarations, the records of the first in no order of their kinds. -/
def shop : List Listing :=
  let form : Component := ⟨"Web", "Login form"⟩
  let service : Component := ⟨"Web", "API: v2"⟩
  let guessing : Finding := ⟨form, "guessing", "no lockout", none, ""⟩
  let spoofing : Finding := ⟨service, "spoofing", "signed cookies", some "RFC 6265 (4.1)", ""⟩
  let check : Activity := ⟨"password checks", form, some "", ""⟩
  let input : Flow := ⟨.receives, "a password", ⟨"User", "Browser (any)"⟩, form, ""⟩
  let trial : TestRecord := ⟨"TestLogin", "guessing", none, ""⟩
  [{ declaration :=
      { model := "Web shop"
        function := "shop.Login(form)"
        raw := ""
        mitigations := [spoofing]
        exposures := [guessing]
        activities := [check]
        flows := [input]
        tests := [trial] }
     order :=
      [.exposure guessing, .flow input, .mitigation spoofing, .test trial, .activity check] },
    { declaration := { model := "Web shop", function := "shop.Logout", raw := "" }
      order := [] }]

theorem legible_shop : ∀ listing ∈ shop, listing.Legible := by
  intro listing member
  rcases List.mem_cons.mp member with rfl | member
  · refine ⟨⟨rfl, rfl, rfl, rfl, rfl⟩, by decide, ?_, rfl⟩
    simp only [List.forall_mem_cons]
    exact ⟨by decide, by decide, by decide, by decide, by decide, by simp⟩
  · obtain rfl := List.mem_singleton.mp member
    exact ⟨⟨rfl, rfl, rfl, rfl, rfl⟩, by decide, by simp, rfl⟩

end Listing

theorem Ledger.read_shop :
    let next := (∅ : Ledger).read "shop.go" (Listing.text Listing.shop ++ "\n")
    next.declarations = Listing.shop.map (·.declaration.written) ∧
      next.orphans = [] ∧
      next.found = ∅ :=
  read_listings ∅ "shop.go" Listing.shop Listing.legible_shop "\n" (.inr rfl)

end ThreatModel
