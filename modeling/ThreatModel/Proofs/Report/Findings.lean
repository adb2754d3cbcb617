import ThreatModel.Proofs.Report.Markdown
import ThreatModel.Proofs.Report.Tags

/-!
Contract: reports list the findings of the functions, each of them once.

Owns:
- the lines of a Markdown report that begin as findings, and their number;
- the list items of an HTML report that hold findings;
- that both list the same findings in the same order, whatever the texts of
  annotations are.

Does not own: the order in which an index gives components and threats.
-/

namespace ThreatModel

open ThreatModel.Text

namespace FindingKind

/-- The line begins as a finding of the kind does. -/
def marks (kind : FindingKind) (line : String) : Bool :=
  kind.mark.toList.isPrefixOf line.toList

def ofItemTag? (tag : String) : Option FindingKind :=
  all.find? (·.itemTag = tag)

theorem itemTag_mitigation : mitigation.itemTag = "<li class=\"mitigation\">" := by
  simp [itemTag, cssClass]

theorem itemTag_exposure : exposure.itemTag = "<li class=\"exposure\">" := by
  simp [itemTag, cssClass]

theorem ofItemTag?_itemTag (kind : FindingKind) : ofItemTag? kind.itemTag = some kind := by
  cases kind <;> simp [ofItemTag?, all, itemTag_mitigation, itemTag_exposure]

@[simp] theorem ofItemTag?_eq_none_iff {tag : String} :
    ofItemTag? tag = none ↔
      tag ≠ "<li class=\"mitigation\">" ∧ tag ≠ "<li class=\"exposure\">" := by
  rw [ofItemTag?, List.find?_eq_none, all, List.forall_mem_cons, List.forall_mem_singleton,
    itemTag_mitigation, itemTag_exposure, decide_eq_true_iff, decide_eq_true_iff, ne_comm,
    @ne_comm _ tag]

theorem marks_self_append
    (kind : FindingKind)
    (rest : String) :
    kind.marks (kind.mark ++ rest) = true := by
  rw [marks, String.toList_append, List.isPrefixOf_iff_prefix]
  exact List.prefix_append _ _

/-- Of two beginnings of one line, one begins the other. -/
theorem marks_append_eq_false
    {kind : FindingKind}
    {front : String}
    (apart : ¬kind.mark.toList <+: front.toList ∧ ¬front.toList <+: kind.mark.toList)
    (rest : String) :
    kind.marks (front ++ rest) = false := by
  rw [Bool.eq_false_iff, Ne, marks, String.toList_append, List.isPrefixOf_iff_prefix]
  intro begins
  rcases List.prefix_or_prefix_of_prefix begins (List.prefix_append _ _) with markFirst | frontFirst
  · exact apart.1 markFirst
  · exact apart.2 frontFirst

end FindingKind

namespace Report

/-! ## Lines of findings in Markdown -/

theorem marks_text
    (kind : FindingKind)
    (line : BodyLine) :
    kind.marks line.text = decide (line.finding?.map Prod.fst = some kind) := by
  cases line with
  | component shown =>
      rw [BodyLine.text, String.append_assoc, String.append_assoc]
      exact FindingKind.marks_append_eq_false (by cases kind <;> decide) _
  | threat name => exact FindingKind.marks_append_eq_false (by cases kind <;> decide) _
  | finding other occurrence =>
      rw [BodyLine.text, String.append_assoc, String.append_assoc, String.append_assoc,
        BodyLine.finding?, Option.map_some]
      by_cases same : other = kind
      · rw [same, FindingKind.marks_self_append, decide_eq_true rfl]
      · rw [decide_eq_false fun isKind => same (Option.some.inj isKind)]
        refine FindingKind.marks_append_eq_false ?_ _
        cases kind <;> cases other
        · exact absurd rfl same
        · decide
        · decide
        · exact absurd rfl same
  | blank => cases kind <;> decide

theorem marks_headerLines
    (kind : FindingKind)
    (title : String)
    (coverage : Coverage) :
    ∀ line ∈ Markdown.headerLines title coverage, kind.marks line = false := by
  intro line member
  simp only [Markdown.headerLines, List.mem_cons, List.not_mem_nil, or_false] at member
  rcases member with rfl | rfl | rfl | rfl | rfl | rfl | rfl | rfl
  · exact FindingKind.marks_append_eq_false (by cases kind <;> decide) _
  · cases kind <;> decide
  · cases kind <;> decide
  · exact FindingKind.marks_append_eq_false (by cases kind <;> decide) _
  · exact FindingKind.marks_append_eq_false (by cases kind <;> decide) _
  · exact FindingKind.marks_append_eq_false (by cases kind <;> decide) _
  · cases kind <;> decide
  · cases kind <;> decide

/-- The elements of a list that a view finds something in, as texts of what it finds. -/
theorem map_filter_isSome
    {α β γ : Type}
    {view : α → Option β}
    {text : α → γ}
    {written : β → γ}
    (shown : ∀ element value, view element = some value → text element = written value)
    (list : List α) :
    (list.filter fun element => (view element).isSome).map text =
      (list.filterMap view).map written := by
  induction list with
  | nil => rfl
  | cons head rest inductionHypothesis =>
      cases found : view head with
      | none => simpa [found] using inductionHypothesis
      | some value => simpa [found, shown head value found] using inductionHypothesis

section Markdown

variable (analysis : Analysis) (title : String)

/-- The lines of the report that begin as findings. -/
theorem filter_marks_lines :
    (Markdown.headerLines title analysis.coverage ++ (body analysis).map BodyLine.text ++
        [""]).filter (fun line => FindingKind.all.any (·.marks line)) =
      (findings analysis).map fun finding => (BodyLine.finding finding.1 finding.2).text := by
  have header : (Markdown.headerLines title analysis.coverage).filter
      (fun line => FindingKind.all.any (·.marks line)) = [] := by
    rw [List.filter_eq_nil_iff]
    intro line member
    simp [FindingKind.all, marks_headerLines _ _ _ line member]
  have below (line : BodyLine) :
      FindingKind.all.any (·.marks line.text) = line.finding?.isSome := by
    simp only [FindingKind.all, marks_text]
    cases line.finding? with
    | none => rfl
    | some finding =>
        obtain ⟨kind, occurrence⟩ := finding
        cases kind <;> rfl
  have last : [""].filter (fun line => FindingKind.all.any (·.marks line)) = [] := by
    decide
  rw [List.filter_append, List.filter_append, header, last, List.nil_append, List.append_nil,
    List.filter_map, findings]
  have selected : (fun line => FindingKind.all.any (·.marks line)) ∘ BodyLine.text =
      fun line => line.finding?.isSome :=
    funext below
  rw [selected]
  refine map_filter_isSome (fun line finding isFinding => ?_) (body analysis)
  cases line with
  | finding kind occurrence =>
      obtain rfl := Option.some.inj isFinding
      rfl
  | _ => cases isFinding

theorem findings_eq :
    findings analysis =
      analysis.components.values.flatMap fun record =>
        record.threats.values.flatMap fun threat =>
          threat.mitigations.map (FindingKind.mitigation, ·) ++
            threat.exposures.map (FindingKind.exposure, ·) := by
  have ofThreat (threat : ThreatRecord) :
      (BodyLine.ofThreat threat).filterMap BodyLine.finding? =
        threat.mitigations.map (FindingKind.mitigation, ·) ++
          threat.exposures.map (FindingKind.exposure, ·) := by
    have listed (kind : FindingKind) (occurrences : List Occurrence) :
        (occurrences.map (BodyLine.finding kind)).filterMap BodyLine.finding? =
          occurrences.map (kind, ·) := by
      rw [List.filterMap_map]
      exact congrFun List.filterMap_eq_map' occurrences
    rw [BodyLine.ofThreat, List.filterMap_cons_none rfl, List.filterMap_append,
      List.filterMap_append, listed, listed]
    exact List.append_nil _
  have ofComponent (record : ComponentRecord) :
      (BodyLine.ofComponent record).filterMap BodyLine.finding? =
        record.threats.values.flatMap fun threat =>
          threat.mitigations.map (FindingKind.mitigation, ·) ++
            threat.exposures.map (FindingKind.exposure, ·) := by
    rw [BodyLine.ofComponent, List.filterMap_cons_none rfl, List.filterMap_flatMap]
    simp only [ofThreat]
  simp only [findings, body, List.filterMap_flatMap, ofComponent]

/-- The findings of one kind, in the order of the index. -/
theorem map_filter_findings (kind : FindingKind) :
    ((findings analysis).filter (·.1 = kind)).map Prod.snd =
      analysis.components.values.flatMap fun record =>
        record.threats.values.flatMap kind.listed := by
  have ofThreat (threat : ThreatRecord) :
      ((threat.mitigations.map (FindingKind.mitigation, ·) ++
          threat.exposures.map (FindingKind.exposure, ·)).filter (·.1 = kind)).map Prod.snd =
        kind.listed threat := by
    cases kind <;> simp [FindingKind.listed, List.filter_map, Function.comp_def]
  simp only [findings_eq, List.filter_flatMap, List.map_flatMap, ofThreat]

/-- Each finding of a kind has one line that begins as such. -/
theorem length_filter_marks (kind : FindingKind) :
    ((Markdown.headerLines title analysis.coverage ++ (body analysis).map BodyLine.text ++
        [""]).filter kind.marks).length =
      (analysis.components.values.flatMap fun record =>
        record.threats.values.flatMap kind.listed).length := by
  have among (line : String) :
      (kind.marks line && FindingKind.all.any (·.marks line)) = kind.marks line := by
    cases kind <;> simp [FindingKind.all] <;> tauto
  have ofFinding (finding : FindingKind × Occurrence) :
      kind.marks (BodyLine.finding finding.1 finding.2).text = decide (finding.1 = kind) := by
    rw [marks_text]
    simp [BodyLine.finding?]
  have selected := congrArg (List.filter kind.marks) (filter_marks_lines analysis title)
  simp only [List.filter_filter, among, List.filter_map, Function.comp_def, ofFinding] at selected
  rw [selected, ← map_filter_findings, List.length_map, List.length_map]

end Markdown

/-! ## List items in HTML -/

/-- The list items of findings on a page, each with the line that it stands on. -/
def listItems (page : String) : List (String × FindingKind) :=
  (textLines page).flatMap fun line =>
    ((textTags line).filterMap FindingKind.ofItemTag?).map (line, ·)

theorem listItems_ofLines (written : List String) :
    listItems (ofLines written) = written.flatMap listItems := by
  rw [listItems, textLines_ofLines, List.flatMap_append, List.flatMap_assoc]
  exact List.append_nil _

/-- Without the tag of an item there is none on any line. -/
theorem listItems_eq_nil
    {text : String}
    {written : List String}
    (tagged : Tagged text written)
    (plain : ∀ tag ∈ written, FindingKind.ofItemTag? tag = none) :
    listItems text = [] := by
  rw [listItems, List.flatMap_eq_nil_iff]
  intro line isLine
  rw [List.map_eq_nil_iff, List.filterMap_eq_nil_iff]
  intro tag isTag
  have inText := textTags_subset_of_mem_textLines isLine isTag
  rw [tagged.tags_eq] at inText
  exact plain tag inText

theorem flatMap_listItems_eq_nil
    {lines written : List String}
    (tagged : LinesTagged lines written)
    (plain : ∀ tag ∈ written, FindingKind.ofItemTag? tag = none) :
    lines.flatMap listItems = [] := by
  rw [← listItems_ofLines]
  exact listItems_eq_nil tagged plain

theorem listItems_of_oneLine
    {line : String}
    (oneLine : OneLine line)
    {written : List String}
    (tagged : Tagged line written) :
    listItems line = (written.filterMap FindingKind.ofItemTag?).map (line, ·) := by
  rw [listItems, oneLine.textLines_eq, List.flatMap_singleton, tagged.tags_eq]

/-- The list item of a finding, and its kind. -/
def item (finding : FindingKind × Occurrence) : String × FindingKind :=
  (Html.occurrenceLine finding.1.cssClass finding.1.word finding.2, finding.1)

theorem oneLine_occurrenceLine
    (kind : FindingKind)
    {occurrence : Occurrence}
    (shown : occurrence.OneLine) :
    OneLine (Html.occurrenceLine kind.cssClass kind.word occurrence) := by
  have opened : OneLine ("    <li class=\"" ++ kind.cssClass ++ "\">" ++ kind.word ++ ": ") := by
    cases kind <;> decide
  have ofRef : OneLine (Html.refText occurrence.ref) := by
    cases isRef : occurrence.ref with
    | none => decide
    | some ref =>
        rw [Html.refText]
        split
        · decide
        · have front : OneLine " [" := by
            decide
          have back : OneLine "]" := by
            decide
          exact (front.append (sameLine_markup (shown.ref ref isRef))).append back
  have provided : OneLine " <span class=\"provenance\">(" := by
    decide
  have closed : OneLine ")</span></li>" := by
    decide
  exact ((((opened.append (sameLine_markup shown.text)).append ofRef).append provided).append
    (sameLine_markup shown.provenance)).append closed

theorem listItems_occurrenceLine
    (kind : FindingKind)
    {occurrence : Occurrence}
    (shown : occurrence.OneLine) :
    listItems (Html.occurrenceLine kind.cssClass kind.word occurrence) =
      [item (kind, occurrence)] := by
  have kinds : (findingTags kind).filterMap FindingKind.ofItemTag? = [kind] := by
    rw [findingTags, List.filterMap_cons_some (FindingKind.ofItemTag?_itemTag kind)]
    simp
  rw [listItems_of_oneLine (oneLine_occurrenceLine kind shown)
    (tagged_occurrenceLine kind occurrence), kinds]
  rfl

theorem listItems_threatLines
    {threat : ThreatRecord}
    (oneLine : threat.OneLine) :
    (Html.threatLines threat).flatMap listItems =
      (threat.mitigations.map (FindingKind.mitigation, ·) ++
        threat.exposures.map (FindingKind.exposure, ·)).map item := by
  have listed (kind : FindingKind) :
      ((kind.listed threat).map (Html.occurrenceLine kind.cssClass kind.word)).flatMap listItems =
        (kind.listed threat).map fun occurrence => item (kind, occurrence) := by
    rw [List.flatMap_map, List.flatMap_congr fun occurrence member =>
      listItems_occurrenceLine kind (oneLine.listed kind occurrence member), List.map_eq_flatMap]
  have heading := flatMap_listItems_eq_nil (tagged_threatHeading threat) (by simp)
  have closing := flatMap_listItems_eq_nil tagged_threatClosing (by simp)
  have mitigations := listed .mitigation
  have exposures := listed .exposure
  simp only [FindingKind.listed, FindingKind.cssClass, FindingKind.word] at mitigations exposures
  rw [Html.threatLines, List.flatMap_append, List.flatMap_append, List.flatMap_append, heading,
    closing, mitigations, exposures, List.nil_append, List.append_nil, List.map_append,
    List.map_map, List.map_map]
  rfl

theorem listItems_componentLines
    {record : ComponentRecord}
    (oneLine : record.OneLine) :
    (Html.componentLines record).flatMap listItems =
      (record.threats.values.flatMap fun threat =>
        threat.mitigations.map (FindingKind.mitigation, ·) ++
          threat.exposures.map (FindingKind.exposure, ·)).map item := by
  have heading := listItems_eq_nil (tagged_componentHeading record.component) (by simp)
  have actions := flatMap_listItems_eq_nil (tagged_actionLines record.actions) (by
    split <;> simp)
  rw [Html.componentLines, List.flatMap_cons, List.flatMap_append, heading, actions,
    List.nil_append, List.nil_append, List.flatMap_assoc, List.map_flatMap]
  exact List.flatMap_congr fun threat member => listItems_threatLines (oneLine.threats threat member)

theorem plain_diagramTags (labels : Option (List Nat)) :
    ∀ tag ∈ diagramTags labels, FindingKind.ofItemTag? tag = none := by
  intro tag member
  cases labels with
  | none => cases member
  | some labels =>
      rw [diagramTags, List.mem_append, List.mem_append] at member
      rcases member with (opening | isBreak) | closing
      · revert tag
        simp
      · obtain ⟨count, _, isBreak⟩ := List.mem_flatMap.mp isBreak
        rw [List.eq_of_mem_replicate isBreak]
        simp
      · revert tag
        simp

theorem plain_orphansTags (count : Nat) :
    ∀ tag ∈ orphansTags count, FindingKind.ofItemTag? tag = none := by
  have ofOrphan : ∀ tag ∈ ["<li class=\"orphan\">", "</li>"],
      FindingKind.ofItemTag? tag = none := by
    simp
  intro tag member
  rw [orphansTags] at member
  split at member
  · cases member
  · rw [List.mem_append, List.mem_append] at member
    rcases member with (opening | isOrphan) | closing
    · revert tag
      simp
    · obtain ⟨tags, isOrphan, isTag⟩ := List.mem_flatten.mp isOrphan
      rw [List.eq_of_mem_replicate isOrphan] at isTag
      exact ofOrphan tag isTag
    · revert tag
      simp

/-- The list items of a page are its findings, in order. -/
theorem listItems_html
    {page : Page}
    (components : ∀ record ∈ page.analysis.components.values, record.OneLine) :
    listItems page.html = (findings page.analysis).map item := by
  have head := flatMap_listItems_eq_nil
    (tagged_headLines (Report.title page.analysis page.title)) (by
      simp [headTags])
  have body := listItems_eq_nil (show Tagged "<body>" ["<body>"] by decide) (by simp)
  have summary := flatMap_listItems_eq_nil
    (tagged_analysisLines (Report.title page.analysis page.title) page.analysis.coverage) (by
      simp [analysisTags])
  have diagram := flatMap_listItems_eq_nil (tagged_diagramLines page.drawing)
    (plain_diagramTags _)
  have orphans := flatMap_listItems_eq_nil (tagged_orphanLines page.analysis.orphans)
    (plain_orphansTags _)
  have headed := flatMap_listItems_eq_nil tagged_componentsHeading (by simp)
  have blank : listItems "" = [] := by
    decide
  have closing := flatMap_listItems_eq_nil tagged_pageClosing (by simp)
  have listed : (page.analysis.components.values.flatMap Html.componentLines).flatMap listItems =
      (findings page.analysis).map item := by
    rw [List.flatMap_assoc, findings_eq, List.map_flatMap]
    exact List.flatMap_congr fun record member => listItems_componentLines (components record member)
  rw [Page.html, write, Html.write, listItems_ofLines]
  simp only [List.flatMap_append, List.flatMap_cons, head, body, summary, diagram, headed, listed,
    blank, orphans, closing, List.nil_append, List.append_nil]

/-! ## Both reports -/

/-- Below its header, the Markdown report of texts has the lines of the components and no others,
whatever the texts are. As many of them begin as findings of a kind as the functions state such
findings, and the items of the HTML report are the same findings in the same order. -/
theorem write_lists_findings
    {files : List (String × String)}
    (named : ∀ file ∈ files, OneLine file.1)
    {given : Option String}
    (titled : ∀ title ∈ given, OneLine title)
    (drawing : Option Drawing) :
    let ledger := Ledger.readAll ∅ files
    let analysis := ledger.analyze
    let markdown := write .markdown analysis given (drawing.map Drawing.text)
    let html := write .html analysis given (drawing.map Drawing.text)
    textLines markdown =
        Markdown.headerLines (title analysis given) analysis.coverage ++
          (analysis.components.values.flatMap BodyLine.ofComponent).map BodyLine.text ++ [""] ∧
      (∀ kind : FindingKind,
        ((textLines markdown).filter kind.marks).length =
          (ledger.functions.values.map fun function => (kind.stated function).length).sum) ∧
      (textLines markdown).filter (fun line => FindingKind.all.any (·.marks line)) =
        (findings analysis).map (fun finding => (BodyLine.finding finding.1 finding.2).text) ∧
      listItems html =
        (findings analysis).map fun finding =>
          (Html.occurrenceLine finding.1.cssClass finding.1.word finding.2, finding.1) := by
  intro ledger analysis markdown html
  have components := Ledger.oneLine_of_mem_components named
  have written : textLines markdown =
      Markdown.headerLines (title analysis given) analysis.coverage ++
        (body analysis).map BodyLine.text ++ [""] :=
    textLines_markdown (oneLine_title (Ledger.oneLine_of_mem_models named) titled) components
  let page : Page := ⟨analysis, given, drawing⟩
  have items : listItems page.html = (findings page.analysis).map item := listItems_html components
  refine ⟨written, fun kind => ?_, ?_, items⟩
  · have all := ComponentIndex.flatMap_listed_perm ledger.functions kind
    rw [written, length_filter_marks, ← ComponentIndex.length_statedFindings]
    exact all.length_eq.trans (List.length_map _)
  · rw [written, filter_marks_lines]

/-- A mitigation whose text is spelled like a tag and an exposure. -/
def forgedText : String :=
  "// ThreatSpec m for f\n// Mitigates a against t with <li>* Exposure: x\nfunc f() \x7b\n"

theorem forgedText_listed :
    let analysis := (Ledger.readAll ∅ [("a.go", forgedText)]).analyze
    (textLines (write .markdown analysis none none)).filter
          (fun line => FindingKind.all.any (·.marks line)) =
        ["* Mitigation: <li>* Exposure: x (f in a.go:3)"] ∧
      (listItems (write .html analysis none none)).map Prod.snd = [.mitigation] := by
  intro analysis
  have isFindings : findings analysis =
      [(.mitigation, ⟨"<li>* Exposure: x", none, "f", some "a.go", some 3⟩)] := by
    decide +kernel
  have named : ∀ file ∈ [("a.go", forgedText)], OneLine file.1 := by
    decide
  have titled : ∀ title ∈ (none : Option String), OneLine title := by
    decide
  obtain ⟨_, _, lines, items⟩ := write_lists_findings named titled none
  rw [isFindings] at lines items
  constructor
  · exact lines.trans (by decide +kernel)
  · exact congrArg (List.map Prod.snd) items

end Report

end ThreatModel
