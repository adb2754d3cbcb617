import ThreatModel.Ledger.Source
import ThreatModel.Proofs.Ledger.Counters
import ThreatModel.Proofs.Ledger.Names
import ThreatModel.Proofs.OrderedMap.Rows

/-!
Contract: what sources leave in a ledger, in whatever order they are read.

Owns:
- what a source adds to the declarations and the orphans, which no other source has a
  part in;
- the coverage of sources, which their order does not change;
- the record that a name stands for, where no two sources declare one name.

Does not own: what is made of the functions of a ledger.
-/

namespace ThreatModel

/-- Where no two elements are chosen differently, any chosen element is the first. -/
theorem findSome?_eq_some_iff_of_agree
    {α β : Type}
    {list : List α}
    {choose : α → Option β}
    (agree : ∀ left ∈ list, ∀ right ∈ list, ∀ first second,
      choose left = some first → choose right = some second → first = second)
    (value : β) :
    list.findSome? choose = some value ↔ ∃ element ∈ list, choose element = some value := by
  constructor
  · exact List.exists_of_findSome?_eq_some
  · rintro ⟨element, member, chosen⟩
    have isSome : (list.findSome? choose).isSome = true :=
      List.findSome?_isSome_iff.mpr ⟨element, member, Option.isSome_of_eq_some chosen⟩
    obtain ⟨first, isFirst⟩ := Option.isSome_iff_exists.mp isSome
    obtain ⟨other, otherMember, otherChosen⟩ := List.exists_of_findSome?_eq_some isFirst
    rw [isFirst, agree other otherMember element member first value otherChosen chosen]

/-! ## One source -/

namespace Source

variable (source : Source)

/-- The declarations that a source makes when it is read alone. -/
def records : List Declaration :=
  (Ledger.readSource ∅ source).declarations

def orphans : List Orphan :=
  (Ledger.readSource ∅ source).orphans

def declaredNames : List String :=
  (Ledger.readSource ∅ source).declaredNames

def lines : List SourceLine :=
  SourceLine.ofText source.text

end Source

namespace Ledger

/-- The state after the lines of a source, in terms of the cut of its text. -/
theorem reading_source
    (ledger : Ledger)
    (source : Source) :
    let cut := Segmentation.ofLines source.lines
    ∃ current,
      Reading source.name (ledger.declarations ++ cut.segments.map (·.record source.name)) current
        (ledger.orphans ++ cut.preamble.filterMap (·.orphan? source.name))
        (source.lines.foldl enterLine (ledger, { file := source.name })) := by
  intro cut
  have start :
      Reading source.name ledger.declarations none ledger.orphans
        (ledger, ({ file := source.name } : Cursor)) :=
    ⟨rfl, rfl, rfl⟩
  have finish := (start.foldl_preamble cut.undeclared).foldl_segments cut.segments
  rwa [← List.foldl_append, cut.joined] at finish

/-- The declarations of a source are the records of its segments. -/
theorem records_eq (source : Source) :
    source.records =
      (Segmentation.ofLines source.lines).segments.map (·.record source.name) := by
  obtain ⟨_, alone⟩ := reading_source ∅ source
  rw [Source.records, readSource, read_eq_foldl_enterLine]
  exact alone.declarations_eq

theorem orphans_eq (source : Source) :
    source.orphans =
      (Segmentation.ofLines source.lines).preamble.filterMap (·.orphan? source.name) := by
  obtain ⟨_, alone⟩ := reading_source ∅ source
  rw [Source.orphans, readSource, read_eq_foldl_enterLine]
  exact alone.orphans_eq

/-- A source adds the same to every ledger. -/
theorem readSource_adds
    (ledger : Ledger)
    (source : Source) :
    (ledger.readSource source).declarations = ledger.declarations ++ source.records ∧
      (ledger.readSource source).orphans = ledger.orphans ++ source.orphans := by
  obtain ⟨_, after⟩ := reading_source ledger source
  rw [readSource, read_eq_foldl_enterLine, records_eq, orphans_eq]
  exact ⟨after.declarations_eq, after.orphans_eq⟩

/-! ## Sources one after the other -/

/-- The run lemma: each source adds its own. -/
theorem ofSources_adds (sources : List Source) :
    (ofSources sources).declarations = sources.flatMap Source.records ∧
      (ofSources sources).orphans = sources.flatMap Source.orphans := by
  have added (ledger : Ledger) :
      (sources.foldl readSource ledger).declarations =
          ledger.declarations ++ sources.flatMap Source.records ∧
        (sources.foldl readSource ledger).orphans =
          ledger.orphans ++ sources.flatMap Source.orphans := by
    induction sources generalizing ledger with
    | nil => simp
    | cons head rest inductionHypothesis =>
        obtain ⟨declared, orphaned⟩ := ledger.readSource_adds head
        obtain ⟨laterDeclared, laterOrphaned⟩ := inductionHypothesis (ledger.readSource head)
        rw [List.foldl_cons, laterDeclared, laterOrphaned, declared, orphaned]
        simp
  exact added ∅

theorem ofSources_eq_readAll (sources : List Source) :
    ofSources sources = readAll ∅ (sources.map fun source => (source.name, source.text)) := by
  rw [readAll, List.foldl_map]
  rfl

/-- The declarations of texts are the records of their segments. -/
theorem mem_declarations_readAll
    {files : List (String × String)}
    {declaration : Declaration} :
    declaration ∈ (readAll ∅ files).declarations ↔
      ∃ file ∈ files, ∃ segment ∈ (Segmentation.ofLines (SourceLine.ofText file.2)).segments,
        segment.record file.1 = declaration := by
  let sources : List Source := files.map fun file => ⟨file.1, file.2⟩
  have read : readAll ∅ files = ofSources sources := by
    rw [ofSources_eq_readAll, List.map_map]
    exact congrArg (readAll ∅) (List.map_id files).symm
  rw [read, (ofSources_adds sources).1, List.flatMap_map, List.mem_flatMap]
  simp only [records_eq, List.mem_map]
  rfl

theorem counted_ofSources (sources : List Source) :
    Counted (sources.flatMap Source.lines) (ofSources sources) := by
  have keeps : Desk.Keeps fun log ledger => Counted (log.map Posting.line) ledger := by
    constructor
    · exact .start
    · intro log ledger cursor line counted stands
      rw [List.map_append]
      exact counted.enterLine stands line
  let files := sources.map fun source => (source.name, source.text)
  have counted := keeps.run (files.map fun file => (.read file.1 file.2 : Operation Unit))
  rw [Desk.map_line_log_run, Desk.ledger_run_read, ← ofSources_eq_readAll, List.flatMap_map,
    List.flatMap_map] at counted
  exact counted

theorem namesLast_ofSources (sources : List Source) : (ofSources sources).NamesLast := by
  rw [ofSources_eq_readAll]
  exact namesLast_readAll namesLast_empty _

/-! ## Coverage -/

section Reordered

variable {sources others : List Source} (reordered : sources.Perm others)

include reordered

theorem declarations_perm :
    (ofSources sources).declarations.Perm (ofSources others).declarations := by
  rw [(ofSources_adds sources).1, (ofSources_adds others).1]
  exact reordered.flatMap_right Source.records

theorem orphans_perm : (ofSources sources).orphans.Perm (ofSources others).orphans := by
  rw [(ofSources_adds sources).2, (ofSources_adds others).2]
  exact reordered.flatMap_right Source.orphans

/-- A declaration may change its place, but the number of covered places is that of the declarations
that something covers. -/
theorem size_covered_eq : (ofSources sources).covered.size = (ofSources others).covered.size := by
  have counted (sources : List Source) : (ofSources sources).covered.size =
      (ofSources sources).declarations.countP (0 < ·.coverCount) := by
    rw [← length_coveredPlaces]
    exact (counted_ofSources sources).covered.size_eq (nodup_coveredPlaces _) (mem_coveredPlaces _)
  rw [counted, counted, (declarations_perm reordered).countP_eq]

theorem size_found_eq : (ofSources sources).found.size = (ofSources others).found.size := by
  have signed : ((sources.flatMap Source.lines).filterMap SourceLine.signatureName?).Perm
      ((others.flatMap Source.lines).filterMap SourceLine.signatureName?) :=
    (reordered.flatMap_right Source.lines).filterMap _
  refine (OrderedMap.perm_of_get?_eq fun name => ?_).length_eq
  rw [(counted_ofSources sources).found, (counted_ofSources others).found]
  exact congrArg positive? (signed.count_eq name)

theorem size_tested_eq : (ofSources sources).tested.size = (ofSources others).tested.size := by
  have targets : (ofSources sources).testTargets.Perm (ofSources others).testTargets :=
    ((declarations_perm reordered).flatMap_right Declaration.tests).map TestRecord.function
  refine (OrderedMap.perm_of_get?_eq fun name => ?_).length_eq
  rw [(counted_ofSources sources).tested, (counted_ofSources others).tested]
  exact congrArg positive? (targets.count_eq name)

theorem coverage_eq :
    Coverage.ofLedger (ofSources sources) = Coverage.ofLedger (ofSources others) := by
  rw [Coverage.ofLedger, size_found_eq reordered, size_covered_eq reordered,
    size_tested_eq reordered, Coverage.ofLedger]

end Reordered

end Ledger

/-! ## Names -/

/-- No two sources declare one name; one source may well declare it twice. -/
def DeclareApart (sources : List Source) : Prop :=
  ∀ source ∈ sources, ∀ other ∈ sources, ∀ name ∈ source.declaredNames,
    name ∈ other.declaredNames → source = other

instance (sources : List Source) : Decidable (DeclareApart sources) :=
  inferInstanceAs (Decidable (∀ source ∈ sources, _))

namespace Ledger

/-- A name stands for the last record that its source declares under it. -/
theorem get?_functions_ofSources
    {sources : List Source}
    (apart : DeclareApart sources)
    (name : String)
    (declaration : Declaration) :
    (ofSources sources).functions.get? name = some declaration ↔
      ∃ source ∈ sources,
        (source.records.filter (·.function = name)).getLast? = some declaration := by
  have declares {source : Source} {declaration : Declaration}
      (isLast : (source.records.filter (·.function = name)).getLast? = some declaration) :
      name ∈ source.declaredNames := by
    have member := List.mem_of_getLast? isLast
    rw [List.mem_filter, decide_eq_true_iff] at member
    exact List.mem_map.mpr ⟨declaration, member⟩
  rw [get?_functions_of_namesLast (namesLast_ofSources sources), (ofSources_adds sources).1,
    List.filter_flatMap, List.getLast?_flatMap, findSome?_eq_some_iff_of_agree]
  · simp only [List.mem_reverse]
  · intro source isSource other isOther first second isFirst isSecond
    have same := apart source (List.mem_reverse.mp isSource) other (List.mem_reverse.mp isOther)
      name (declares isFirst) (declares isSecond)
    rw [same, isSecond] at isFirst
    exact (Option.some.inj isFirst).symm

theorem get?_functions_eq
    {sources others : List Source}
    (reordered : sources.Perm others)
    (apart : DeclareApart sources)
    (name : String) :
    (ofSources sources).functions.get? name = (ofSources others).functions.get? name := by
  have othersApart : DeclareApart others := fun source isSource other isOther =>
    apart source (reordered.mem_iff.mpr isSource) other (reordered.mem_iff.mpr isOther)
  ext declaration
  rw [get?_functions_ofSources apart, get?_functions_ofSources othersApart]
  simp only [reordered.mem_iff]

end Ledger

end ThreatModel
