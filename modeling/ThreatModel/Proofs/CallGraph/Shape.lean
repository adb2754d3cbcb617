import ThreatModel.Proofs.CallGraph.Lines

/-!
Contract: the lines that have the shape of an edge line, and how their parts are chosen.

Owns:
- the fits of a line: caller, tag, site and callee, with blanks behind them;
- the least fit, in which caller, then tag, then callee are as short as can be;
- that a line is read as its least fit, and not at all just when it has no fit.

Does not own: the calls that the parts stand for.
-/

namespace ThreatModel.CallGraph

open ThreatModel.Entry ThreatModel.Text

/-! ## Fits -/

/-- What stands behind the tag: the site of the call, the callee, and blanks. -/
structure SiteFits (text lineDigits columnDigits callee : List Char) : Prop where
  isLine : IsRow lineDigits
  isColumn : IsRow columnDigits
  isCallee : IsField callee
  cut : ∃ blanks, allBlank blanks = true ∧
    text = siteText lineDigits columnDigits ++ '\t' :: (callee ++ blanks)

namespace EdgeLine

/-- The line can be cut into these parts, under this tag. A tag may have tabs in it, and so may
names. -/
structure Fits (line tag : List Char) (edge : EdgeLine) : Prop where
  isCaller : IsField edge.caller
  isTag : IsField tag
  cut : ∃ rest,
    line = edge.caller ++ '\t' :: '-' :: '-' :: (tag ++ rest) ∧
      SiteFits rest edge.lineDigits edge.columnDigits edge.callee

/-- Of the fits of a line, the one with the shortest fields, the leftmost first. -/
structure FitsLeast (line tag : List Char) (edge : EdgeLine) : Prop where
  fits : Fits line tag edge
  least : ∀ otherTag other, Fits line otherTag other →
    ¬Smaller [other.caller, otherTag, other.callee] [edge.caller, tag, edge.callee]

end EdgeLine

/-! ## The site and the callee -/

/-- The digits of a site end at its marks, so that a text has one site. -/
theorem siteText_append_inj
    {lineDigits columnDigits otherLine otherColumn rest otherRest : List Char}
    (isLine : IsRow lineDigits)
    (isColumn : IsRow columnDigits)
    (isOtherLine : IsRow otherLine)
    (isOtherColumn : IsRow otherColumn)
    (same : siteText lineDigits columnDigits ++ '\t' :: rest =
      siteText otherLine otherColumn ++ '\t' :: otherRest) :
    lineDigits = otherLine ∧ columnDigits = otherColumn ∧ rest = otherRest := by
  simp only [siteText, List.cons_append, List.append_assoc, List.nil_append, List.cons.injEq,
    true_and] at same
  have lineRead :
      digits? (lineDigits ++ ':' :: (columnDigits ++ '-' :: '-' :: '>' :: '\t' :: rest)) =
        some (lineDigits, ':' :: (columnDigits ++ '-' :: '-' :: '>' :: '\t' :: rest)) :=
    digits?_append isLine rfl
  rw [same, digits?_append isOtherLine rfl, Option.some.injEq, Prod.mk.injEq,
    List.cons.injEq] at lineRead
  obtain ⟨sameLine, _, behind⟩ := lineRead
  have columnRead : digits? (columnDigits ++ '-' :: '-' :: '>' :: '\t' :: rest) =
      some (columnDigits, '-' :: '-' :: '>' :: '\t' :: rest) :=
    digits?_append isColumn rfl
  rw [← behind, digits?_append isOtherColumn rfl, Option.some.injEq, Prod.mk.injEq] at columnRead
  obtain ⟨sameColumn, sameRest⟩ := columnRead
  simp only [List.cons.injEq, true_and] at sameRest
  exact ⟨sameLine.symm, sameColumn.symm, sameRest.symm⟩

theorem SiteFits.reaches
    {text lineDigits columnDigits callee rest : List Char}
    (fits : SiteFits text lineDigits columnDigits callee)
    (parted : text = siteText lineDigits columnDigits ++ '\t' :: rest) :
    Reaches blankEnd? rest callee () := by
  obtain ⟨blanks, blank, cut⟩ := fits.cut
  have sameRest : rest = callee ++ blanks :=
    (siteText_append_inj fits.isLine fits.isColumn fits.isLine fits.isColumn
      (parted.symm.trans cut)).2.2
  exact ⟨fits.isCallee.sameLine, blanks, sameRest, blankEnd?_eq_some_iff.mpr blank⟩

/-- Where there is a site with a callee, one is found. -/
theorem SiteFits.complete
    {text lineDigits columnDigits callee : List Char}
    (fits : SiteFits text lineDigits columnDigits callee) :
    ∃ found, siteAndCallee? text = some found := by
  obtain ⟨blanks, _, cut⟩ := fits.cut
  obtain ⟨⟨chosen, ⟨⟩⟩, reads⟩ :=
    shortestField_complete fits.isCallee.inhabited (fits.reaches cut)
  exact ⟨_, siteAndCallee?_eq_some_iff.mpr ⟨fits.isLine, fits.isColumn, _, cut, reads⟩⟩

/-- What is found fits, with the shortest callee. -/
theorem siteAndCallee?_sound
    {text lineDigits columnDigits callee : List Char}
    (reads : siteAndCallee? text = some (lineDigits, columnDigits, callee)) :
    SiteFits text lineDigits columnDigits callee ∧
      ∀ otherLine otherColumn other, SiteFits text otherLine otherColumn other →
        callee.length ≤ other.length := by
  obtain ⟨isLine, isColumn, rest, parted, calleeRead⟩ := siteAndCallee?_eq_some_iff.mp reads
  obtain ⟨inhabited, ⟨sameLine, blanks, rfl, follows⟩, least⟩ :=
    shortestField_eq_some_iff.mp calleeRead
  constructor
  · exact ⟨isLine, isColumn, ⟨inhabited, sameLine⟩, blanks, blankEnd?_eq_some_iff.mp follows,
      parted⟩
  · intro otherLine otherColumn other fits
    obtain ⟨otherBlanks, _, otherCut⟩ := fits.cut
    obtain ⟨rfl, rfl, _⟩ := siteText_append_inj isLine isColumn fits.isLine fits.isColumn
      (parted.symm.trans otherCut)
    exact least other () fits.isCallee.inhabited (fits.reaches parted)

/-! ## The choice of a fit -/

namespace EdgeLine

variable {line tag : List Char} {edge : EdgeLine}

/-- The rest of a line behind the caller, up to the end. -/
def tagAndSite? (rest : List Char) :
    Option (List Char × List Char × List Char × List Char) :=
  (after? ['\t', '-', '-'] rest).bind (shortestField siteAndCallee?)

theorem tagAndSite?_eq_some_iff
    {rest : List Char}
    {found : List Char × List Char × List Char × List Char} :
    tagAndSite? rest = some found ↔
      ∃ behind, rest = '\t' :: '-' :: '-' :: behind ∧
        shortestField siteAndCallee? behind = some found := by
  simp only [tagAndSite?, Option.bind_eq_some_iff, after?_eq_some_iff, List.cons_append,
    List.nil_append]

/-- The tag of a fit is a reading of it. -/
theorem reaches_tag
    {rest lineDigits columnDigits callee : List Char}
    (isTag : IsField tag)
    (site : SiteFits rest lineDigits columnDigits callee) :
    ∃ found, Reaches siteAndCallee? (tag ++ rest) tag found := by
  obtain ⟨found, siteRead⟩ := site.complete
  exact ⟨found, isTag.sameLine, rest, rfl, siteRead⟩

/-- The caller of a fit is a reading of it. -/
theorem Fits.reaches_caller (fits : Fits line tag edge) :
    ∃ found, Reaches tagAndSite? line edge.caller found := by
  obtain ⟨rest, rfl, site⟩ := fits.cut
  obtain ⟨_, tagReading⟩ := reaches_tag fits.isTag site
  obtain ⟨found, tagRead⟩ := shortestField_complete fits.isTag.inhabited tagReading
  exact ⟨found, fits.isCaller.sameLine, _, rfl, tagAndSite?_eq_some_iff.mpr ⟨_, rfl, tagRead⟩⟩

/-- Where there is a fit, one is found. -/
theorem Fits.complete (fits : Fits line tag edge) : ∃ found, edgeLine? line = some found := by
  obtain ⟨_, reading⟩ := fits.reaches_caller
  obtain ⟨found, reads⟩ := shortestField_complete fits.isCaller.inhabited reading
  exact ⟨_, Option.map_eq_some_iff.mpr ⟨found, reads, rfl⟩⟩

/-- What is found is the least fit. Fields are compared from the left: where those of two fits have
one length they are the same, and the comparison goes on behind them. -/
theorem edgeLine?_sound (reads : edgeLine? line = some edge) : ∃ tag, FitsLeast line tag edge := by
  obtain ⟨⟨caller, tag, lineDigits, columnDigits, callee⟩, chosen, rfl⟩ :=
    Option.map_eq_some_iff.mp reads
  obtain ⟨callerInhabited, ⟨callerSameLine, behindCaller, callerParted, follows⟩, callerLeast⟩ :=
    shortestField_eq_some_iff.mp chosen
  obtain ⟨behind, rfl, tagRead⟩ := tagAndSite?_eq_some_iff.mp follows
  obtain ⟨tagInhabited, ⟨tagSameLine, rest, rfl, siteRead⟩, tagLeast⟩ :=
    shortestField_eq_some_iff.mp tagRead
  obtain ⟨site, calleeLeast⟩ := siteAndCallee?_sound siteRead
  refine ⟨tag, ⟨⟨callerInhabited, callerSameLine⟩, ⟨tagInhabited, tagSameLine⟩, rest, callerParted,
    site⟩, ?_⟩
  intro otherTag other fits smaller
  obtain ⟨otherRest, otherParted, otherSite⟩ := fits.cut
  rcases smaller_cons_iff.mp smaller with shorterCaller | ⟨callerLength, smallerTag⟩
  · obtain ⟨_, reading⟩ := fits.reaches_caller
    exact absurd (callerLeast _ _ fits.isCaller.inhabited reading) (Nat.not_le_of_lt shorterCaller)
  obtain ⟨_, sameBehind⟩ := List.append_inj (otherParted.symm.trans callerParted) callerLength
  simp only [List.cons.injEq, true_and] at sameBehind
  rcases smaller_cons_iff.mp smallerTag with shorterTag | ⟨tagLength, smallerCallee⟩
  · obtain ⟨_, reading⟩ := reaches_tag fits.isTag otherSite
    rw [sameBehind] at reading
    exact absurd (tagLeast _ _ fits.isTag.inhabited reading) (Nat.not_le_of_lt shorterTag)
  obtain ⟨_, rfl⟩ := List.append_inj sameBehind tagLength
  rcases smaller_cons_iff.mp smallerCallee with shorterCallee | ⟨_, nothing⟩
  · exact absurd (calleeLeast _ _ _ otherSite) (Nat.not_le_of_lt shorterCallee)
  · exact not_smaller_nil [] nothing

/-- Of two different fits of a line one has smaller fields. -/
theorem FitsLeast.unique
    {otherTag : List Char}
    {other : EdgeLine}
    (least : FitsLeast line tag edge)
    (otherLeast : FitsLeast line otherTag other) :
    edge = other := by
  obtain ⟨rest, parted, site⟩ := least.fits.cut
  obtain ⟨otherRest, otherParted, otherSite⟩ := otherLeast.fits.cut
  obtain ⟨callerLength, tagNotLarger, tagNotSmaller⟩ := length_eq_of_not_smaller
    (least.least otherTag other otherLeast.fits) (otherLeast.least tag edge least.fits)
  obtain ⟨sameCaller, sameBehind⟩ := List.append_inj (parted.symm.trans otherParted) callerLength
  simp only [List.cons.injEq, true_and] at sameBehind
  obtain ⟨tagLength, calleeNotLarger, calleeNotSmaller⟩ :=
    length_eq_of_not_smaller tagNotLarger tagNotSmaller
  obtain ⟨_, rfl⟩ := List.append_inj sameBehind tagLength
  obtain ⟨calleeLength, _⟩ := length_eq_of_not_smaller calleeNotLarger calleeNotSmaller
  obtain ⟨_, _, cut⟩ := site.cut
  obtain ⟨_, _, otherCut⟩ := otherSite.cut
  obtain ⟨sameLine, sameColumn, sameEnd⟩ := siteText_append_inj site.isLine site.isColumn
    otherSite.isLine otherSite.isColumn (cut.symm.trans otherCut)
  obtain ⟨sameCallee, _⟩ := List.append_inj sameEnd calleeLength
  cases edge
  cases other
  rw [EdgeLine.mk.injEq]
  exact ⟨sameCaller, sameCallee, sameLine, sameColumn⟩

theorem edgeLine?_eq_some_iff : edgeLine? line = some edge ↔ ∃ tag, FitsLeast line tag edge := by
  refine ⟨edgeLine?_sound, ?_⟩
  rintro ⟨tag, least⟩
  obtain ⟨found, reads⟩ := least.fits.complete
  obtain ⟨foundTag, foundLeast⟩ := edgeLine?_sound reads
  rw [reads, foundLeast.unique least]

theorem edgeLine?_eq_none_iff : edgeLine? line = none ↔ ∀ tag edge, ¬Fits line tag edge := by
  constructor
  · intro unread tag edge fits
    obtain ⟨found, reads⟩ := fits.complete
    rw [unread] at reads
    cases reads
  · intro unfit
    rw [Option.eq_none_iff_forall_ne_some]
    intro edge reads
    obtain ⟨tag, least⟩ := edgeLine?_sound reads
    exact unfit tag edge least.fits

end EdgeLine

end ThreatModel.CallGraph
