import ThreatModel.Proofs.Component.Keys
import ThreatModel.Proofs.Entry.Grammar
import ThreatModel.Proofs.Ledger.Names

/-!
Contract: what a ledger keeps of a line has no newline in it.

Owns:
- texts, components, flows and declarations that stay on one line;
- that the fields of an entry do so, and the components that references are read as;
- a property of declarations that every line keeps, and that it holds after all
  lines.

Does not own: records that keep the whole of a line, or that nothing draws.
-/

namespace ThreatModel

open ThreatModel.Text

/-! ## Texts on one line -/

/-- The text has no newline. -/
def OneLine (text : String) : Prop :=
  '\n' ∉ text.toList

instance (text : String) : Decidable (OneLine text) :=
  inferInstanceAs (Decidable ('\n' ∉ text.toList))

structure Component.OneLine (component : Component) : Prop where
  zone : ThreatModel.OneLine component.zone
  name : ThreatModel.OneLine component.name

structure Flow.OneLine (flow : Flow) : Prop where
  subject : ThreatModel.OneLine flow.subject
  source : flow.source.OneLine
  dest : flow.dest.OneLine

/-- The components that the records of a declaration are about, flows and tests apart. -/
def Declaration.stated (declaration : Declaration) : List Component :=
  declaration.mitigations.map Finding.component ++
    declaration.exposures.map Finding.component ++
    declaration.activities.map Activity.component

/-- Whatever a diagram can show of the declaration is on one line. -/
structure Declaration.OneLine (declaration : Declaration) : Prop where
  function : ThreatModel.OneLine declaration.function
  stated : ∀ component ∈ declaration.stated, component.OneLine
  flows : ∀ flow ∈ declaration.flows, flow.OneLine

/-! ## Entries -/

namespace Entry

theorem Cut.sameLine
    {ending : Ending}
    {separators fields : List (List Char)}
    {text : List Char}
    {ref : Option (List Char)}
    (cut : Cut ending separators text fields ref) :
    ∀ field ∈ fields, '\n' ∉ field := by
  induction cut with
  | last isField follows =>
      intro field member
      obtain rfl := List.mem_singleton.mp member
      exact isField.sameLine
  | next isField cut inductionHypothesis =>
      intro field member
      rcases List.mem_cons.mp member with rfl | later
      · exact isField.sameLine
      · exact inductionHypothesis field later

/-- The line that is read may have newlines, but no field of it has. -/
theorem oneLine_of_ofLine?
    {line : String}
    {entry : Entry}
    {layout : Layout}
    (reads : ofLine? line = some entry)
    (laidOut : entry.layout? = some layout) :
    ∀ field ∈ layout.fields, OneLine field := by
  have least := (fitsLeast_of_layout? laidOut).mp (ofLine?_eq_some_iff.mp reads)
  obtain ⟨_, _, cut⟩ := least.fits
  intro field member
  exact cut.sameLine field.toList (List.mem_map_of_mem member)

end Entry

namespace Component

theorem trim_subset (text : List Char) : trim text ⊆ text := by
  intro character member
  rw [trim, trimEnd, trimStart] at member
  have inStart := (List.dropWhile_sublist isBlank).subset (List.mem_reverse.mp member)
  exact (List.dropWhile_sublist isBlank).subset (List.mem_reverse.mp inStart)

theorem OneLine.ofReference
    {reference : String}
    (oneLine : ThreatModel.OneLine reference) :
    (Component.ofReference reference).OneLine := by
  have trimmed {text : List Char} (among : text ⊆ reference.toList) :
      ThreatModel.OneLine (String.ofList (trim text)) := by
    rw [ThreatModel.OneLine, String.toList_ofList]
    exact fun newline => oneLine (among (trim_subset text newline))
  have whole := trimmed (List.Subset.refl reference.toList)
  unfold Component.ofReference
  cases split : splitReference? reference.toList with
  | none => exact ⟨whole, whole⟩
  | some parts =>
      obtain ⟨zone, name⟩ := parts
      have parted := (eq_of_splitReference? split).1
      dsimp only
      split
      · exact ⟨whole, whole⟩
      · constructor
        · exact trimmed (parted ▸ List.subset_append_left zone (':' :: name))
        · exact trimmed (parted ▸ fun _ member =>
            List.mem_append_right zone (List.mem_cons_of_mem ':' member))

end Component

/-! ## Declarations -/

namespace Declaration.OneLine

variable {declaration : Declaration} (oneLine : declaration.OneLine)

include oneLine

theorem add
    {item : Entry.Item}
    (fields : ∀ field ∈ item.layout.fields, ThreatModel.OneLine field)
    (raw : String) :
    (declaration.add item raw).OneLine := by
  obtain ⟨function, stated, flows⟩ := oneLine
  have read (reference : String) (member : reference ∈ item.layout.fields) :
      (Component.ofReference reference).OneLine :=
    .ofReference (fields reference member)
  cases item with
  | mitigation component threat text ref =>
      have isOneLine := read component (by simp [Entry.Item.layout])
      refine ⟨function, ?_, flows⟩
      simpa [Declaration.add, Declaration.stated, or_imp, forall_and, isOneLine] using stated
  | exposure component threat text ref =>
      have isOneLine := read component (by simp [Entry.Item.layout])
      refine ⟨function, ?_, flows⟩
      simpa [Declaration.add, Declaration.stated, or_imp, forall_and, isOneLine] using stated
  | activity action component ref =>
      have isOneLine := read component (by simp [Entry.Item.layout])
      refine ⟨function, ?_, flows⟩
      simpa [Declaration.add, Declaration.stated, or_imp, forall_and, isOneLine] using stated
  | flow direction subject source dest =>
      refine ⟨function, stated, fun flow member => ?_⟩
      rcases List.mem_append.mp member with before | added
      · exact flows flow before
      · obtain rfl := List.mem_singleton.mp added
        exact ⟨fields subject (by simp [Entry.Item.layout]),
          read source (by simp [Entry.Item.layout]), read dest (by simp [Entry.Item.layout])⟩
  | test tested threat ref => exact ⟨function, stated, flows⟩

/-- The step lemma: a line adds the record of an item, or a definition. -/
theorem extend
    (file : String)
    (line : SourceLine) :
    (declaration.extend file [line]).OneLine := by
  rw [Declaration.extend_singleton]
  cases reads : line.entry? with
  | none => exact oneLine
  | some entry =>
      cases entry with
      | declaration model function => exact oneLine
      | item item => exact oneLine.add (Entry.oneLine_of_ofLine? reads rfl) line.raw
      | signature code name =>
          dsimp only
          split
          · exact ⟨oneLine.function, oneLine.stated, oneLine.flows⟩
          · exact oneLine

end Declaration.OneLine

/-! ## Ledgers -/

/-- The run lemma of declarations: what holds of each that is opened and is kept by further lines
holds of all. -/
theorem Desk.keeps_declarations
    {holds : Declaration → Prop}
    (opened : ∀ (line : SourceLine) model function,
      line.entry? = some (.declaration model function) →
        holds { model, function, raw := line.raw })
    (extended : ∀ declaration file (line : SourceLine),
      holds declaration → holds (declaration.extend file [line])) :
    Keeps fun _ ledger => ∀ declaration ∈ ledger.declarations, holds declaration where
  start _ member := nomatch member
  enter {_ ledger cursor} line kept _ declaration member := by
    obtain ⟨model, function, reads, declared, _⟩ | ⟨_, changed, _⟩ :=
      Ledger.enterLine_cases ledger cursor line
    · rw [declared] at member
      rcases List.mem_append.mp member with before | added
      · exact kept declaration before
      · obtain rfl := List.mem_singleton.mp added
        exact opened line model function reads
    · rw [changed] at member
      cases standing : cursor.current with
      | none =>
          rw [standing, Option.elim_none] at member
          exact kept declaration member
      | some place =>
          rw [standing, Option.elim_some] at member
          obtain ⟨index, found⟩ := List.mem_iff_getElem?.mp member
          rw [List.getElem?_modify] at found
          obtain ⟨before, wasThere, rfl⟩ := Option.map_eq_some_iff.mp found
          have held := kept before (List.mem_of_getElem? wasThere)
          split
          · exact extended before cursor.file line held
          · exact held

namespace Ledger

/-- Whatever the texts are, what is kept of each declaration is on one line. -/
theorem oneLine_of_mem_declarations
    (files : List (String × String)) :
    ∀ declaration ∈ (readAll ∅ files).declarations, declaration.OneLine := by
  have keeps : Desk.Keeps fun _ ledger =>
      ∀ declaration ∈ ledger.declarations, declaration.OneLine := by
    refine Desk.keeps_declarations ?_ fun declaration file line oneLine => oneLine.extend file line
    intro line model function reads
    have fields := Entry.oneLine_of_ofLine? reads rfl
    exact ⟨fields function (by simp), List.forall_mem_nil _, List.forall_mem_nil _⟩
  have kept := keeps.run (files.map fun file => (.read file.1 file.2 : Operation Unit))
  rwa [Desk.ledger_run_read] at kept

/-- The functions, and the names that they stand under. -/
theorem oneLine_of_get?_functions
    {files : List (String × String)}
    {name : String}
    {declaration : Declaration}
    (found : (readAll ∅ files).functions.get? name = some declaration) :
    OneLine name ∧ declaration.OneLine := by
  have named := Desk.keeps_named.run (files.map fun file => (.read file.1 file.2 : Operation Unit))
  rw [Desk.ledger_run_read] at named
  obtain ⟨member, isName⟩ := named.declared_of_get?_functions found
  have oneLine := oneLine_of_mem_declarations files declaration member
  exact ⟨isName ▸ oneLine.function, oneLine⟩

end Ledger

end ThreatModel
