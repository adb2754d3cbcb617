import Mathlib.Data.List.Basic
import ThreatModel.Risk.Basic

/-!
Contract: the highest of several grades of risk.

Owns:
- that the highest grade is one of the grades, and that none of them ranks above it;
- the grade of lists of exposures and mitigations;
- the order of the colours that grades have on labels.

Does not own: which grades come together.
-/

namespace ThreatModel

namespace Risk

/-! ## The highest grade -/

theorem rank_injective : Function.Injective rank := by
  intro left right same
  cases left <;> cases right <;> first | rfl | cases same

theorem rank_max (left right : Risk) : (left.max right).rank = Nat.max left.rank right.rank := by
  unfold max
  split
  · rename_i below
    exact (Nat.max_eq_right (Nat.le_of_lt below)).symm
  · rename_i above
    exact (Nat.max_eq_left (Nat.le_of_not_lt above)).symm

theorem max_eq_or (left right : Risk) : left.max right = left ∨ left.max right = right := by
  unfold max
  split
  · exact .inr rfl
  · exact .inl rfl

/-- The result of a fold from any grade is one of the grades, and no grade ranks above it. -/
theorem foldl_max
    (start : Risk)
    (risks : List Risk) :
    risks.foldl max start ∈ start :: risks ∧
      ∀ risk ∈ start :: risks, risk.rank ≤ (risks.foldl max start).rank := by
  induction risks generalizing start with
  | nil => simp
  | cons head rest inductionHypothesis =>
      obtain ⟨member, highest⟩ := inductionHypothesis (start.max head)
      have startsBelow : (start.max head).rank ≤ (rest.foldl max (start.max head)).rank :=
        highest _ List.mem_cons_self
      rw [rank_max] at startsBelow
      constructor
      · rw [List.foldl_cons]
        rcases List.mem_cons.mp member with atStart | later
        · rcases max_eq_or start head with isStart | isHead
          · rw [atStart, isStart]
            exact List.mem_cons_self
          · rw [atStart, isHead]
            exact List.mem_cons_of_mem _ List.mem_cons_self
        · exact List.mem_cons_of_mem _ (List.mem_cons_of_mem _ later)
      · intro risk known
        rw [List.foldl_cons]
        rcases List.mem_cons.mp known with rfl | known
        · exact Nat.le_trans (Nat.le_max_left _ _) startsBelow
        rcases List.mem_cons.mp known with rfl | known
        · exact Nat.le_trans (Nat.le_max_right _ _) startsBelow
        · exact highest risk (List.mem_cons_of_mem _ known)

theorem rank_le_escalate
    {risks : List Risk}
    {risk : Risk}
    (member : risk ∈ risks) :
    risk.rank ≤ (escalate risks).rank :=
  (foldl_max .neutral risks).2 risk (List.mem_cons_of_mem _ member)

/-- Where there are no grades, the highest is neutral; else it is one of them. -/
theorem escalate_mem
    {risks : List Risk}
    (inhabited : risks ≠ []) :
    escalate risks ∈ risks := by
  obtain ⟨first, isFirst⟩ := List.exists_mem_of_ne_nil risks inhabited
  rcases List.mem_cons.mp (foldl_max .neutral risks).1 with isNeutral | member
  · have below : first.rank ≤ (escalate risks).rank := rank_le_escalate isFirst
    have lowest : escalate risks = .neutral := isNeutral
    rw [lowest] at below ⊢
    have isNeutral : first = .neutral := rank_injective (Nat.le_zero.mp below)
    exact isNeutral ▸ isFirst
  · exact member

/-- Red goes before orange, orange before green, and green before what has no colour of its own. -/
theorem escalate_eq (risks : List Risk) :
    escalate risks =
      if .exposed ∈ risks then .exposed
      else if .partiallyMitigated ∈ risks then .partiallyMitigated
      else if .mitigated ∈ risks then .mitigated
      else .neutral := by
  by_cases empty : risks = []
  · subst empty
    rfl
  have member := escalate_mem empty
  have absent (risk : Risk) (above : (escalate risks).rank < risk.rank) : risk ∉ risks :=
    fun known => Nat.not_le_of_lt above (rank_le_escalate known)
  cases highest : escalate risks with
  | exposed =>
      rw [highest] at member
      rw [if_pos member]
  | partiallyMitigated =>
      rw [highest] at member absent
      rw [if_neg (absent .exposed (by decide)), if_pos member]
  | mitigated =>
      rw [highest] at member absent
      rw [if_neg (absent .exposed (by decide)), if_neg (absent .partiallyMitigated (by decide)),
        if_pos member]
  | neutral =>
      rw [highest] at absent
      rw [if_neg (absent .exposed (by decide)), if_neg (absent .partiallyMitigated (by decide)),
        if_neg (absent .mitigated (by decide))]

/-- The grade of lists of exposures and mitigations: only their emptiness counts. -/
theorem classify_length
    {α : Type}
    (exposures mitigations : List α) :
    classify exposures.length mitigations.length =
      match exposures, mitigations with
      | _ :: _, [] => .exposed
      | _ :: _, _ :: _ => .partiallyMitigated
      | [], _ :: _ => .mitigated
      | [], [] => .neutral := by
  cases exposures with
  | nil => cases mitigations <;> simp [classify]
  | cons exposure _ => cases mitigations <;> simp [classify]

/-! ## Colours -/

/-- The colours of labels, the gravest first. -/
def colorOrder : List String :=
  ["red", "orange", "darkgreen", "black"]

theorem idxOf_labelColor (risk : Risk) :
    colorOrder.idxOf risk.labelColor = 3 - risk.rank := by
  cases risk <;> decide

end Risk

end ThreatModel
