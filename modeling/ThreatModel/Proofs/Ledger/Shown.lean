import ThreatModel.Proofs.Ledger.OneLine
import ThreatModel.Proofs.Ledger.Sources

/-!
Contract: what reports show of declarations has no newline in it.

Owns:
- findings, and declarations of which a report shows nothing but single lines;
- that the reference of an entry is on one line;
- that the declarations of texts are such, where the names of the texts are.

Does not own: the lines of a report.
-/

namespace ThreatModel

open ThreatModel.Text

structure Finding.OneLine (finding : Finding) : Prop where
  component : finding.component.OneLine
  threat : ThreatModel.OneLine finding.threat
  text : ThreatModel.OneLine finding.text
  ref : ∀ ref ∈ finding.ref, ThreatModel.OneLine ref

/-- Whatever a report can show of the declaration is on one line. -/
structure Declaration.Shown (declaration : Declaration) : Prop where
  model : ThreatModel.OneLine declaration.model
  function : ThreatModel.OneLine declaration.function
  mitigations : ∀ finding ∈ declaration.mitigations, finding.OneLine
  exposures : ∀ finding ∈ declaration.exposures, finding.OneLine
  activities : ∀ activity ∈ declaration.activities, activity.component.OneLine
  definition : ∀ definition ∈ declaration.definition, ThreatModel.OneLine definition.file

/-! ## References -/

namespace Entry

theorem Ending.Follows.sameLine
    {ending : Ending}
    {text ref : List Char}
    (follows : ending.Follows text (some ref)) :
    '\n' ∉ ref := by
  cases follows with
  | referenced blankBefore sameLine blankAfter => exact sameLine

theorem Cut.sameLine_ref
    {ending : Ending}
    {separators fields : List (List Char)}
    {text ref : List Char}
    (cut : Cut ending separators text fields (some ref)) :
    '\n' ∉ ref := by
  generalize isRef : some ref = found at cut
  induction cut with
  | last isField follows =>
      subst isRef
      exact follows.sameLine
  | next isField cut inductionHypothesis => exact inductionHypothesis isRef

theorem oneLine_of_mem_ref
    {line : String}
    {entry : Entry}
    {layout : Layout}
    (reads : ofLine? line = some entry)
    (laidOut : entry.layout? = some layout) :
    ∀ ref ∈ layout.ref, OneLine ref := by
  intro ref isRef
  have least := (fitsLeast_of_layout? laidOut).mp (ofLine?_eq_some_iff.mp reads)
  obtain ⟨_, _, cut⟩ := least.fits
  rw [Option.mem_def.mp isRef] at cut
  exact cut.sameLine_ref

/-- Mitigations and exposures are laid out alike. -/
theorem oneLine_finding
    {line component threat text : String}
    {ref : Option String}
    {shape : Shape}
    {entry : Entry}
    (reads : ofLine? line = some entry)
    (laidOut : entry.layout? = some ⟨shape, [component, threat, text], ref⟩)
    (raw : String) :
    Finding.OneLine ⟨.ofReference component, threat, text, ref, raw⟩ := by
  have fields := oneLine_of_ofLine? reads laidOut
  exact ⟨.ofReference (fields component (by simp)), fields threat (by simp), fields text (by simp),
    oneLine_of_mem_ref reads laidOut⟩

end Entry

/-! ## Records of lines -/

namespace SourceLine

variable {line : SourceLine} {finding : Finding}

theorem oneLine_of_mitigation? (states : line.mitigation? = some finding) : finding.OneLine := by
  unfold mitigation? at states
  split at states
  · rename_i component threat text ref reads
    obtain rfl := Option.some.inj states
    exact Entry.oneLine_finding reads rfl line.raw
  · cases states

theorem oneLine_of_exposure? (states : line.exposure? = some finding) : finding.OneLine := by
  unfold exposure? at states
  split at states
  · rename_i component threat text ref reads
    obtain rfl := Option.some.inj states
    exact Entry.oneLine_finding reads rfl line.raw
  · cases states

theorem oneLine_of_activity?
    {activity : Activity}
    (states : line.activity? = some activity) :
    activity.component.OneLine := by
  unfold activity? at states
  split at states
  · rename_i action component ref reads
    obtain rfl := Option.some.inj states
    have fields := Entry.oneLine_of_ofLine? reads rfl
    exact .ofReference (fields component (by simp [Entry.Item.layout]))
  · cases states

theorem file_of_definition?
    {file function : String}
    {definition : Definition}
    (defines : line.definition? file function = some definition) :
    definition.file = file := by
  unfold definition? at defines
  split at defines
  · rw [Option.ite_none_right_eq_some] at defines
    rw [← Option.some.inj defines.2]
  · cases defines

end SourceLine

/-! ## Declarations -/

/-- The texts of a segment are fields of its lines; only the name of the file comes from elsewhere. -/
theorem Segment.shown_record
    (segment : Segment)
    {file : String}
    (named : OneLine file) :
    (segment.record file).Shown := by
  have fields := Entry.oneLine_of_ofLine? segment.opens rfl
  constructor
  · exact fields segment.model (by simp)
  · exact fields segment.function (by simp)
  · intro finding member
    obtain ⟨line, _, states⟩ := List.mem_filterMap.mp member
    exact SourceLine.oneLine_of_mitigation? states
  · intro finding member
    obtain ⟨line, _, states⟩ := List.mem_filterMap.mp member
    exact SourceLine.oneLine_of_exposure? states
  · intro activity member
    obtain ⟨line, _, states⟩ := List.mem_filterMap.mp member
    exact SourceLine.oneLine_of_activity? states
  · intro definition isLast
    obtain ⟨line, _, defines⟩ := List.mem_filterMap.mp (List.mem_of_getLast? isLast)
    rwa [SourceLine.file_of_definition? defines]

namespace Ledger

theorem shown_of_mem_declarations
    {files : List (String × String)}
    (named : ∀ file ∈ files, OneLine file.1) :
    ∀ declaration ∈ (readAll ∅ files).declarations, declaration.Shown := by
  intro declaration member
  obtain ⟨file, isFile, segment, _, rfl⟩ := mem_declarations_readAll.mp member
  exact segment.shown_record (named file isFile)

/-- A name stands for a declaration of that name. -/
theorem shown_of_get?_functions
    {files : List (String × String)}
    (named : ∀ file ∈ files, OneLine file.1)
    {name : String}
    {declaration : Declaration}
    (found : (readAll ∅ files).functions.get? name = some declaration) :
    OneLine name ∧ declaration.Shown := by
  have standing :=
    Desk.keeps_named.run (files.map fun file => (.read file.1 file.2 : Operation Unit))
  rw [Desk.ledger_run_read] at standing
  obtain ⟨member, isName⟩ := standing.declared_of_get?_functions found
  have shown := shown_of_mem_declarations named declaration member
  exact ⟨isName ▸ shown.function, shown⟩

end Ledger

end ThreatModel
