import Mathlib.Data.List.Basic

/-!
Contract: texts, and other lists, that a mark cuts in pieces.

Owns:
- that a text has one beginning without a mark before it, which is found up to the first
  mark, and one end without a mark after it;
- that two parts of which only one passes a test can be told from both together;
- that texts without a mark can be told from what they are together, when a separator
  that begins with the mark stands between them.

Does not own: what marks stand for.
-/

namespace ThreatModel.Text

variable {α : Type} {mark : α} {front other back otherBack : List α}

theorem append_cons_inj_of_first
    (clear : mark ∉ front)
    (otherClear : mark ∉ other)
    (same : front ++ mark :: back = other ++ mark :: otherBack) :
    front = other ∧ back = otherBack := by
  obtain ⟨between, rfl, split⟩ | ⟨between, rfl, split⟩ := List.append_eq_append_iff.mp same
  · cases between with
    | nil => exact ⟨(List.append_nil front).symm, (List.cons.inj split).2⟩
    | cons head tail =>
        obtain ⟨rfl, _⟩ := List.cons.inj split
        exact absurd (List.mem_append_right front List.mem_cons_self) otherClear
  · cases between with
    | nil => exact ⟨List.append_nil other, (List.cons.inj split).2.symm⟩
    | cons head tail =>
        obtain ⟨rfl, _⟩ := List.cons.inj split
        exact absurd (List.mem_append_right other List.mem_cons_self) clear

/-- A text without the mark is what stands before the first one. -/
theorem takeWhile_append_cons
    [DecidableEq α]
    (clear : mark ∉ front)
    (back : List α) :
    (front ++ mark :: back).takeWhile (· ≠ mark) = front := by
  have passes : ∀ element ∈ front, decide (element ≠ mark) = true := by
    intro element member
    have differ : element ≠ mark := fun same => clear (same ▸ member)
    exact decide_eq_true differ
  rw [List.takeWhile_append_of_pos passes, List.takeWhile_cons_of_neg (by simp), List.append_nil]

theorem dropWhile_append_cons
    [DecidableEq α]
    (clear : mark ∉ front)
    (back : List α) :
    (front ++ mark :: back).dropWhile (· ≠ mark) = mark :: back := by
  have parted := List.takeWhile_append_dropWhile (p := (· ≠ mark)) (l := front ++ mark :: back)
  rw [takeWhile_append_cons clear] at parted
  exact List.append_cancel_left parted

/-- A shorter beginning of the same text has no more in it. -/
theorem not_mem_of_shorter
    (same : front ++ back = other ++ otherBack)
    (shorter : other.length < front.length)
    (clear : mark ∉ front) :
    mark ∉ other := by
  have beginning : other <+: front :=
    List.prefix_of_prefix_length_le ⟨_, same.symm⟩ (List.prefix_append front back)
      (Nat.le_of_lt shorter)
  exact fun member => clear (beginning.subset member)

theorem append_cons_inj_of_last
    (clear : mark ∉ back)
    (otherClear : mark ∉ otherBack)
    (same : front ++ mark :: back = other ++ mark :: otherBack) :
    front = other ∧ back = otherBack := by
  have reversed : back.reverse ++ mark :: front.reverse =
      otherBack.reverse ++ mark :: other.reverse := by
    simpa using congrArg List.reverse same
  obtain ⟨sameBack, sameFront⟩ := append_cons_inj_of_first
    (mt List.mem_reverse.mp clear) (mt List.mem_reverse.mp otherClear) reversed
  exact ⟨List.reverse_injective sameFront, List.reverse_injective sameBack⟩

theorem append_inj_of_test
    {test : α → Bool}
    (passes : ∀ element ∈ front, test element = true)
    (otherPasses : ∀ element ∈ other, test element = true)
    (fails : ∀ element ∈ back, test element = false)
    (otherFails : ∀ element ∈ otherBack, test element = false)
    (same : front ++ back = other ++ otherBack) :
    front = other ∧ back = otherBack := by
  have kept {passing failing : List α}
      (passes : ∀ element ∈ passing, test element = true)
      (fails : ∀ element ∈ failing, test element = false) :
      (passing ++ failing).filter test = passing := by
    rw [List.filter_append, List.filter_eq_self.mpr passes, List.filter_eq_nil_iff.mpr,
      List.append_nil]
    exact fun element member => Bool.not_eq_true _ ▸ fails element member
  have sameFront : front = other := by
    rw [← kept passes fails, same, kept otherPasses otherFails]
  rw [sameFront] at same
  exact ⟨sameFront, List.append_cancel_left same⟩

theorem not_mem_intercalate
    {separator : List α}
    {texts : List (List α)}
    (absent : mark ∉ separator)
    (clear : ∀ text ∈ texts, mark ∉ text) :
    mark ∉ separator.intercalate texts := by
  induction texts with
  | nil => exact List.not_mem_nil
  | cons head rest inductionHypothesis =>
      have headClear := clear head List.mem_cons_self
      have restClear := inductionHypothesis fun text member =>
        clear text (List.mem_cons_of_mem head member)
      cases rest with
      | nil => rwa [List.intercalate_singleton]
      | cons next later =>
          rw [List.intercalate_cons_cons]
          simp [headClear, absent, restClear]

/-- No text is none at all, so that one empty text differs from two. -/
theorem intercalate_cons_inj
    {separator : List α}
    {texts others : List (List α)}
    (inhabited : texts ≠ [])
    (otherInhabited : others ≠ [])
    (clear : ∀ text ∈ texts, mark ∉ text)
    (otherClear : ∀ text ∈ others, mark ∉ text)
    (same : (mark :: separator).intercalate texts = (mark :: separator).intercalate others) :
    texts = others := by
  induction texts generalizing others with
  | nil => exact absurd rfl inhabited
  | cons head rest inductionHypothesis =>
      cases others with
      | nil => exact absurd rfl otherInhabited
      | cons otherHead otherRest =>
          have headClear := clear head List.mem_cons_self
          have otherHeadClear := otherClear otherHead List.mem_cons_self
          cases rest with
          | nil =>
              cases otherRest with
              | nil =>
                  rw [List.intercalate_singleton, List.intercalate_singleton] at same
                  rw [same]
              | cons otherNext otherLater =>
                  rw [List.intercalate_singleton, List.intercalate_cons_cons] at same
                  exact absurd (by simp [same]) headClear
          | cons next later =>
              cases otherRest with
              | nil =>
                  rw [List.intercalate_singleton, List.intercalate_cons_cons] at same
                  exact absurd (by simp [← same]) otherHeadClear
              | cons otherNext otherLater =>
                  simp only [List.intercalate_cons_cons, List.append_assoc, List.cons_append]
                    at same
                  obtain ⟨sameHead, sameBack⟩ :=
                    append_cons_inj_of_first headClear otherHeadClear same
                  have sameRest := inductionHypothesis (List.cons_ne_nil next later)
                    (List.cons_ne_nil otherNext otherLater)
                    (fun text member => clear text (List.mem_cons_of_mem head member))
                    (fun text member => otherClear text (List.mem_cons_of_mem otherHead member))
                    (List.append_cancel_left sameBack)
                  rw [sameHead, sameRest]

end ThreatModel.Text
