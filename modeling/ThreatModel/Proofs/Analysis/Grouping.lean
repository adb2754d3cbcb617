import Mathlib.Data.List.Basic
import ThreatModel.Proofs.Analysis.Index

/-!
Contract: the index of components as a grouping that loses nothing.

Owns:
- what declared functions state about a component, read off the functions alone;
- the record that a list of statements leaves of a component, and of each threat
  to it;
- the agreement of the index with what the functions state.

Does not own: how risky a component is, and how the index is presented.
-/

namespace ThreatModel

/-! ## What declared functions state -/

namespace ComponentIndex

variable (functions : OrderedMap String Declaration)

/-- The components as they are spelled in the records of the functions: for each function those of
its mitigations, then of its exposures, then of its activities. -/
def statedComponents : List Component :=
  functions.entries.flatMap fun (_, declaration) =>
    declaration.mitigations.map Finding.component ++
      declaration.exposures.map Finding.component ++
      declaration.activities.map Activity.component

/-- The threats that findings about a component name. -/
def statedThreats (key : String) : List String :=
  functions.entries.flatMap fun (_, declaration) =>
    ((declaration.mitigations ++ declaration.exposures).filter
      (·.component.key = key)).map Finding.threat

/-- The findings of one kind about a threat to a component, with the functions that state them. -/
def statedOccurrences
    (findings : Declaration → List Finding)
    (key threat : String) :
    List Occurrence :=
  functions.entries.flatMap fun (name, declaration) =>
    ((findings declaration).filter fun finding =>
      finding.component.key = key ∧ finding.threat = threat).map fun finding =>
        { text := finding.text
          ref := finding.ref
          function := name
          file := declaration.definition.map Definition.file
          line := declaration.definition.map Definition.line }

def statedActions (key : String) : List String :=
  functions.entries.flatMap fun (_, declaration) =>
    (declaration.activities.filter (·.component.key = key)).map Activity.action

/-- The record holds what the functions state about the component of a key, all of it, in order,
and nothing else. -/
structure Gathers
    (key : String)
    (record : ComponentRecord) :
    Prop where
  key_eq : record.key = key
  /-- The first spelling is kept. -/
  component_eq : (statedComponents functions).find? (·.key = key) = some record.component
  key_component : record.component.key = key
  threats_eq :
    record.threats.entries =
      (statedThreats functions key).eraseDups.map fun threat =>
        (threat,
          { name := threat
            mitigations := statedOccurrences functions Declaration.mitigations key threat
            exposures := statedOccurrences functions Declaration.exposures key threat })
  actions_eq : record.actions = statedActions functions key

end ComponentIndex

/-! ## Statements in a row -/

namespace Statement

def threat? : Statement → Option String
  | .mitigated threat _ | .exposed threat _ => some threat
  | .acted _ => none

def action? : Statement → Option String
  | .acted action => some action
  | _ => none

/-- The occurrence of a mitigation of the threat. -/
def mitigationOf?
    (threat : String) :
    Statement → Option Occurrence
  | .mitigated known occurrence => if known = threat then some occurrence else none
  | _ => none

/-- The occurrence of an exposure to the threat. -/
def exposureOf?
    (threat : String) :
    Statement → Option Occurrence
  | .exposed known occurrence => if known = threat then some occurrence else none
  | _ => none

end Statement

namespace ThreatRecord

/-- What a statement about the threat adds to its record. -/
def add
    (record : ThreatRecord) :
    Statement → ThreatRecord
  | .mitigated _ occurrence => { record with mitigations := record.mitigations ++ [occurrence] }
  | .exposed _ occurrence => { record with exposures := record.exposures ++ [occurrence] }
  | .acted _ => record

theorem foldl_add
    (record : ThreatRecord)
    {threat : String}
    {statements : List Statement}
    (about : ∀ statement ∈ statements, statement.threat? = some threat) :
    statements.foldl add record =
      { record with
        mitigations := record.mitigations ++ statements.filterMap (Statement.mitigationOf? threat)
        exposures := record.exposures ++ statements.filterMap (Statement.exposureOf? threat) } := by
  induction statements generalizing record with
  | nil => simp
  | cons head rest inductionHypothesis =>
      have aboutHead := about head List.mem_cons_self
      have aboutRest : ∀ statement ∈ rest, statement.threat? = some threat := fun statement member =>
        about statement (List.mem_cons_of_mem head member)
      rw [List.foldl_cons, inductionHypothesis _ aboutRest]
      cases head with
      | mitigated known occurrence =>
          obtain rfl : known = threat := Option.some.inj aboutHead
          simp [add, List.filterMap_cons, Statement.mitigationOf?, Statement.exposureOf?]
      | exposed known occurrence =>
          obtain rfl : known = threat := Option.some.inj aboutHead
          simp [add, List.filterMap_cons, Statement.mitigationOf?, Statement.exposureOf?]
      | acted action => cases aboutHead

end ThreatRecord

namespace ComponentRecord

/-- The effect of a statement on the threats of a component. -/
def enterThreat
    (threats : OrderedMap String ThreatRecord)
    (statement : Statement) :
    OrderedMap String ThreatRecord :=
  match statement.threat? with
  | some threat => threats.alter threat fun known => (known.getD { name := threat }).add statement
  | none => threats

theorem add_eq
    (record : ComponentRecord)
    (statement : Statement) :
    record.add statement =
      { record with
        threats := enterThreat record.threats statement
        actions := record.actions ++ statement.action?.toList } := by
  cases statement <;> simp [add, alterThreat, enterThreat, Statement.threat?, Statement.action?, ThreatRecord.add]

theorem foldl_add
    (record : ComponentRecord)
    (statements : List Statement) :
    statements.foldl add record =
      { record with
        threats := statements.foldl enterThreat record.threats
        actions := record.actions ++ statements.filterMap Statement.action? } := by
  induction statements generalizing record with
  | nil => simp
  | cons head rest inductionHypothesis =>
      rw [List.foldl_cons, inductionHypothesis, add_eq]
      cases head <;> simp [List.filterMap_cons, Statement.action?]

/-- The statements that name a threat, each with that threat. -/
def byThreat (statements : List Statement) : List (String × Statement) :=
  statements.filterMap fun statement => statement.threat?.map (·, statement)

theorem foldl_enterThreat
    (threats : OrderedMap String ThreatRecord)
    (statements : List Statement) :
    statements.foldl enterThreat threats =
      (byThreat statements).foldl
        (fun threats entry => threats.alter entry.1 fun known =>
          (known.getD { name := entry.1 }).add entry.2) threats := by
  rw [byThreat, List.foldl_filterMap]
  congr 1
  funext known statement
  unfold enterThreat
  cases statement.threat? <;> rfl

theorem keys_foldl_enterThreat (statements : List Statement) :
    (statements.foldl enterThreat ∅).keys =
      (statements.filterMap Statement.threat?).eraseDups := by
  have threats : (byThreat statements).map Prod.fst = statements.filterMap Statement.threat? := by
    simp [byThreat, List.map_filterMap, Function.comp_def]
  rw [foldl_enterThreat]
  refine (OrderedMap.keys_foldl_alter Prod.fst
    (fun entry (known : Option ThreatRecord) => (known.getD { name := entry.1 }).add entry.2)
    ∅ (byThreat statements)).trans ?_
  rw [OrderedMap.keys_empty, List.nil_append, threats]

/-- The record of a threat comes from the statements about it. -/
theorem get?_foldl_enterThreat
    (statements : List Statement)
    (threat : String) :
    (statements.foldl enterThreat ∅).get? threat =
      (inhabited? (statements.filter (·.threat? = some threat))).map
        (·.foldl ThreatRecord.add { name := threat }) := by
  have about :
      (byThreat statements).filter (·.1 = threat) =
        (statements.filter (·.threat? = some threat)).map (threat, ·) := by
    induction statements with
    | nil => rfl
    | cons head rest inductionHypothesis =>
        unfold byThreat at inductionHypothesis ⊢
        rw [List.filterMap_cons]
        cases named : head.threat? with
        | none => simpa [named] using inductionHypothesis
        | some known =>
            by_cases here : known = threat
            · simpa [named, here] using inductionHypothesis
            · simpa [named, here] using inductionHypothesis
  rw [foldl_enterThreat]
  refine (OrderedMap.get?_foldl_alter Prod.fst
    (fun entry (known : Option ThreatRecord) => (known.getD { name := entry.1 }).add entry.2)
    ∅ (byThreat statements) threat).trans ?_
  rw [about, List.foldl_map, OrderedMap.get?_empty]
  exact foldl_some_getD ThreatRecord.add { name := threat } _

end ComponentRecord

namespace ComponentIndex

/-! ## The record of a component -/

/-- The first fact about a component gives its record a spelling; all facts about it then enter. -/
theorem get?_ofFacts
    (facts : List Fact)
    (key : String) :
    (ofFacts facts).get? key =
      (facts.find? (·.component.key = key)).map fun first =>
        ((facts.filter (·.component.key = key)).map Fact.statement).foldl ComponentRecord.add
          (.ofComponent first.component) := by
  have run (rest : List Fact) (record : ComponentRecord) :
      rest.foldl
          (fun known fact =>
            some ((known.getD (.ofComponent fact.component)).add fact.statement))
          (some record) =
        some ((rest.map Fact.statement).foldl ComponentRecord.add record) := by
    induction rest generalizing record with
    | nil => rfl
    | cons head rest inductionHypothesis => exact inductionHypothesis (record.add head.statement)
  refine (OrderedMap.get?_foldl_alter (fun fact : Fact => fact.component.key)
    (fun fact (known : Option ComponentRecord) =>
      (known.getD (.ofComponent fact.component)).add fact.statement) ∅ facts key).trans ?_
  rw [OrderedMap.get?_empty, ← List.head?_filter]
  cases facts.filter (·.component.key = key) with
  | nil => rfl
  | cons first rest => exact run rest ((ComponentRecord.ofComponent first.component).add first.statement)

variable (functions : OrderedMap String Declaration)

def facts : List Fact :=
  functions.entries.flatMap fun (name, declaration) => declaration.facts name

theorem map_component_facts : (facts functions).map Fact.component = statedComponents functions := by
  simp only [facts, statedComponents, Declaration.facts, List.map_flatMap, List.map_append,
    List.map_map]
  rfl

/-- The statements about a component. -/
def statementsAbout (key : String) : List Statement :=
  ((facts functions).filter (·.component.key = key)).map Fact.statement

theorem filterMap_statementsAbout
    {α : Type}
    (view : Statement → Option α)
    (key : String) :
    (statementsAbout functions key).filterMap view =
      functions.entries.flatMap fun (name, declaration) =>
        (declaration.mitigations.filter (·.component.key = key)).filterMap (fun finding =>
            view (.mitigated finding.threat (finding.occurrence name declaration.definition))) ++
          (declaration.exposures.filter (·.component.key = key)).filterMap (fun finding =>
            view (.exposed finding.threat (finding.occurrence name declaration.definition))) ++
          (declaration.activities.filter (·.component.key = key)).filterMap (fun activity =>
            view (.acted activity.action)) := by
  rw [statementsAbout, facts, List.filter_flatMap, List.map_flatMap, List.filterMap_flatMap]
  congr 1
  funext ⟨name, declaration⟩
  simp only [Declaration.facts, List.filter_append, List.map_append, List.filterMap_append,
    List.filter_map, List.map_map, List.filterMap_map, Function.comp_def]

theorem filterMap_threat? (key : String) :
    (statementsAbout functions key).filterMap Statement.threat? = statedThreats functions key := by
  rw [filterMap_statementsAbout, statedThreats]
  congr 1
  funext ⟨name, declaration⟩
  simp [Statement.threat?, List.filterMap_eq_map', List.filter_append]

theorem filterMap_action? (key : String) :
    (statementsAbout functions key).filterMap Statement.action? = statedActions functions key := by
  rw [filterMap_statementsAbout, statedActions]
  congr 1
  funext ⟨name, declaration⟩
  simp [Statement.action?, List.filterMap_eq_map', List.filterMap_none]

private theorem filterMap_filter_ite
    {α β : Type}
    (isKept isWanted : α → Prop)
    [DecidablePred isKept]
    [DecidablePred isWanted]
    (view : α → β)
    (list : List α) :
    (list.filter isKept).filterMap (fun element =>
        if isWanted element then some (view element) else none) =
      (list.filter fun element => isKept element ∧ isWanted element).map view := by
  induction list with
  | nil => rfl
  | cons head rest inductionHypothesis =>
      by_cases kept : isKept head
      · by_cases wanted : isWanted head
        · simpa [kept, wanted] using inductionHypothesis
        · simpa [kept, wanted] using inductionHypothesis
      · simpa [kept] using inductionHypothesis

theorem filterMap_mitigationOf? (key threat : String) :
    (statementsAbout functions key).filterMap (Statement.mitigationOf? threat) =
      statedOccurrences functions Declaration.mitigations key threat := by
  rw [filterMap_statementsAbout, statedOccurrences]
  congr 1
  funext ⟨name, declaration⟩
  simp only [Statement.mitigationOf?, filterMap_filter_ite, List.filterMap_none, List.append_nil]
  rfl

theorem filterMap_exposureOf? (key threat : String) :
    (statementsAbout functions key).filterMap (Statement.exposureOf? threat) =
      statedOccurrences functions Declaration.exposures key threat := by
  rw [filterMap_statementsAbout, statedOccurrences]
  congr 1
  funext ⟨name, declaration⟩
  simp only [Statement.exposureOf?, filterMap_filter_ite, List.filterMap_none, List.append_nil,
    List.nil_append]
  rfl

/-- The record of a threat to a component. -/
def threatRecordOf (key threat : String) : ThreatRecord where
  name := threat
  mitigations := statedOccurrences functions Declaration.mitigations key threat
  exposures := statedOccurrences functions Declaration.exposures key threat

theorem get?_threats
    {key threat : String}
    (stated : threat ∈ (statementsAbout functions key).filterMap Statement.threat?) :
    ((statementsAbout functions key).foldl ComponentRecord.enterThreat ∅).get? threat =
      some (threatRecordOf functions key threat) := by
  obtain ⟨statement, known, names⟩ := List.mem_filterMap.mp stated
  -- Nothing is lost by the restriction to the statements about the threat.
  have about (view : Statement → Option Occurrence)
      (only : ∀ statement, statement.threat? ≠ some threat → view statement = none) :
      ((statementsAbout functions key).filter (·.threat? = some threat)).filterMap view =
        (statementsAbout functions key).filterMap view := by
    rw [List.filterMap_filter]
    congr 1
    funext statement
    by_cases isAbout : statement.threat? = some threat
    · simp [isAbout]
    · simp [isAbout, only statement isAbout]
  have mitigations := about (Statement.mitigationOf? threat) (by
    intro statement other
    cases statement <;> simp_all [Statement.threat?, Statement.mitigationOf?])
  have exposures := about (Statement.exposureOf? threat) (by
    intro statement other
    cases statement <;> simp_all [Statement.threat?, Statement.exposureOf?])
  have inhabited :
      inhabited? ((statementsAbout functions key).filter (·.threat? = some threat)) =
        some ((statementsAbout functions key).filter (·.threat? = some threat)) := by
    have member :
        statement ∈ (statementsAbout functions key).filter (·.threat? = some threat) :=
      List.mem_filter.mpr ⟨known, decide_eq_true names⟩
    cases filtered : (statementsAbout functions key).filter (·.threat? = some threat) with
    | nil =>
        rw [filtered] at member
        cases member
    | cons head rest => rfl
  have allAbout : ∀ statement ∈ (statementsAbout functions key).filter (·.threat? = some threat),
      statement.threat? = some threat := fun statement member =>
    of_decide_eq_true (List.mem_filter.mp member).2
  rw [ComponentRecord.get?_foldl_enterThreat, inhabited, Option.map_some,
    ThreatRecord.foldl_add _ allAbout, mitigations, exposures, filterMap_mitigationOf?,
    filterMap_exposureOf?]
  rfl

theorem gathers_of_get?
    {key : String}
    {record : ComponentRecord}
    (found : (ofFunctions functions).get? key = some record) :
    Gathers functions key record := by
  rw [ofFunctions, get?_ofFacts, Option.map_eq_some_iff] at found
  obtain ⟨first, isFirst, entered⟩ := found
  have firstKey : first.component.key = key := by simpa using List.find?_some isFirst
  rw [ComponentRecord.foldl_add] at entered
  subst entered
  constructor
  · exact firstKey
  · rw [← map_component_facts, List.find?_map]
    exact congrArg (Option.map Fact.component) isFirst
  · exact firstKey
  · show ((statementsAbout functions key).foldl ComponentRecord.enterThreat ∅).entries =
      (statedThreats functions key).eraseDups.map fun threat =>
        (threat, threatRecordOf functions key threat)
    rw [OrderedMap.entries_eq_map_keys (threatRecordOf functions key)]
    · rw [ComponentRecord.keys_foldl_enterThreat, filterMap_threat?]
    · intro threat known
      rw [ComponentRecord.keys_foldl_enterThreat, List.mem_eraseDups] at known
      exact get?_threats functions known
  · exact filterMap_action? functions key

/-- The components that functions state are the keys of the index, in the order of the first
statement, and the record of each gathers all that is stated about it. -/
theorem ofFunctions_gathers :
    (ofFunctions functions).keys =
        ((statedComponents functions).map Component.key).eraseDups ∧
      (∀ key,
        key ∈ (ofFunctions functions).keys ↔
          ∃ function ∈ functions.entries,
            (∃ finding ∈ function.2.mitigations, finding.component.key = key) ∨
              (∃ finding ∈ function.2.exposures, finding.component.key = key) ∨
              ∃ activity ∈ function.2.activities, activity.component.key = key) ∧
      ∀ key record,
        (ofFunctions functions).get? key = some record → Gathers functions key record := by
  refine ⟨?_, fun key => ?_, fun key record => gathers_of_get? functions⟩
  · rw [ofFunctions, keys_ofFacts, ← map_component_facts, List.map_map]
    rfl
  · rw [mem_keys_ofFunctions]
    simp [Declaration.touched, Declaration.mitigationKeys, Declaration.exposureKeys,
      Declaration.activityKeys]

/-- Two functions that spell one component in two ways. -/
def gateways : OrderedMap String Declaration :=
  .ofList
    [("serve",
        { model := "web", function := "serve", raw := ""
          mitigations := [⟨⟨"Web", "API"⟩, "spoofing", "mTLS", some "RFC-1", ""⟩]
          definition := some ⟨"serve()", "web.go", 7⟩ }),
      ("relay",
        { model := "web", function := "relay", raw := ""
          mitigations := [⟨⟨"web", "a-p-i"⟩, "spoofing", "mTLS", none, ""⟩]
          activities := [⟨"forwards", ⟨"WEB", "Api"⟩, none, ""⟩] })]

def gatewayRecord : ComponentRecord where
  key := "web-api"
  component := ⟨"Web", "API"⟩
  threats :=
    .ofList
      [("spoofing",
          { name := "spoofing"
            mitigations :=
              [⟨"mTLS", some "RFC-1", "serve", some "web.go", some 7⟩,
                ⟨"mTLS", none, "relay", none, none⟩] })]
  actions := ["forwards"]

theorem gatewayRecord_gathers :
    (ofFunctions gateways).get? "web-api" = some gatewayRecord ∧
      Gathers gateways "web-api" gatewayRecord := by
  have found : (ofFunctions gateways).get? "web-api" = some gatewayRecord := by decide +kernel
  exact ⟨found, (ofFunctions_gathers gateways).2.2 "web-api" gatewayRecord found⟩

end ComponentIndex

end ThreatModel
