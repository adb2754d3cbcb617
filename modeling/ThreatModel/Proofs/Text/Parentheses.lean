import ThreatModel.Text.Pattern

/-!
Contract: parentheses that open and close in a text.

Owns:
- how many parentheses are open behind a text;
- balanced texts;
- that a text in parentheses within a balanced text is balanced itself, unless it
  closes the parenthesis before it.

Does not own: what stands in parentheses.
-/

namespace ThreatModel.Text

/-- The depth behind one more character. There is none where a parenthesis would be closed that
was not opened. -/
def depthBehind? : (depth : Nat) → Char → Option Nat
  | depth, '(' => some (depth + 1)
  | 0, ')' => none
  | depth + 1, ')' => some depth
  | depth, _ => some depth

/-- How many parentheses are open behind a text that begins where `depth` of them are. -/
def depthAfter?
    (depth : Nat)
    (text : List Char) :
    Option Nat :=
  text.foldlM depthBehind? depth

/-- Every parenthesis that is opened is closed, and none is closed that was not opened. -/
def Balanced (text : List Char) : Prop :=
  depthAfter? 0 text = some 0

instance (text : List Char) : Decidable (Balanced text) :=
  inferInstanceAs (Decidable (depthAfter? 0 text = some 0))

variable {depth final : Nat} {text : List Char}

/-! ## One character -/

@[simp] theorem depthBehind?_open (depth : Nat) : depthBehind? depth '(' = some (depth + 1) :=
  rfl

theorem depthBehind?_close_eq_some_iff :
    depthBehind? depth ')' = some final ↔ depth = final + 1 := by
  cases depth with
  | zero => simp [depthBehind?]
  | succ below => simp [depthBehind?]

theorem depthBehind?_other
    {character : Char}
    (noOpen : character ≠ '(')
    (noClose : character ≠ ')') :
    depthBehind? depth character = some depth := by
  unfold depthBehind?
  split <;> first | rfl | contradiction

/-- Only a closing parenthesis can fail, and only where none is open. -/
theorem depthBehind?_eq_none_iff {character : Char} :
    depthBehind? depth character = none ↔ depth = 0 ∧ character = ')' := by
  unfold depthBehind?
  split <;> simp_all

/-- What can be read somewhere can be read deeper. -/
theorem depthBehind?_add
    {character : Char}
    (behind : depthBehind? depth character = some final)
    (extra : Nat) :
    depthBehind? (depth + extra) character = some (final + extra) := by
  by_cases isOpen : character = '('
  · subst isOpen
    obtain rfl := Option.some.inj behind
    rw [depthBehind?_open, Nat.add_right_comm]
  by_cases isClose : character = ')'
  · subst isClose
    rw [depthBehind?_close_eq_some_iff] at behind ⊢
    rw [behind, Nat.add_right_comm]
  · rw [depthBehind?_other isOpen isClose] at behind ⊢
    rw [Option.some.inj behind]

/-! ## Texts -/

@[simp] theorem depthAfter?_nil (depth : Nat) : depthAfter? depth [] = some depth :=
  rfl

theorem depthAfter?_cons
    (depth : Nat)
    (character : Char)
    (rest : List Char) :
    depthAfter? depth (character :: rest) =
      (depthBehind? depth character).bind (depthAfter? · rest) :=
  List.foldlM_cons

theorem depthAfter?_append
    (depth : Nat)
    (front back : List Char) :
    depthAfter? depth (front ++ back) = (depthAfter? depth front).bind (depthAfter? · back) :=
  List.foldlM_append

theorem depthAfter?_add
    (after : depthAfter? depth text = some final)
    (extra : Nat) :
    depthAfter? (depth + extra) text = some (final + extra) := by
  induction text generalizing depth with
  | nil =>
      obtain rfl := Option.some.inj after
      rfl
  | cons character rest inductionHypothesis =>
      rw [depthAfter?_cons, Option.bind_eq_some_iff] at after ⊢
      obtain ⟨next, behind, later⟩ := after
      exact ⟨next + extra, depthBehind?_add behind extra, inductionHypothesis later⟩

theorem depthAfter?_of_plain
    (plain : ∀ character ∈ text, character ≠ '(' ∧ character ≠ ')') :
    depthAfter? depth text = some depth := by
  induction text with
  | nil => rfl
  | cons character rest inductionHypothesis =>
      obtain ⟨noOpen, noClose⟩ := plain character List.mem_cons_self
      rw [depthAfter?_cons, depthBehind?_other noOpen noClose, Option.bind_some]
      exact inductionHypothesis fun other member => plain other (List.mem_cons_of_mem _ member)

/-- Where there is no depth, the first parenthesis closes that was not opened. -/
theorem depthAfter?_eq_none_iff :
    depthAfter? depth text = none ↔
      ∃ front back, depthAfter? depth front = some 0 ∧ text = front ++ ')' :: back := by
  constructor
  · intro fails
    induction text generalizing depth with
    | nil => cases fails
    | cons character rest inductionHypothesis =>
        rw [depthAfter?_cons] at fails
        cases behind : depthBehind? depth character with
        | none =>
            obtain ⟨rfl, rfl⟩ := depthBehind?_eq_none_iff.mp behind
            exact ⟨[], rest, rfl, rfl⟩
        | some next =>
            rw [behind, Option.bind_some] at fails
            obtain ⟨front, back, after, rfl⟩ := inductionHypothesis fails
            refine ⟨character :: front, back, ?_, rfl⟩
            rw [depthAfter?_cons, behind, Option.bind_some, after]
  · rintro ⟨front, back, after, rfl⟩
    rw [depthAfter?_append, after, Option.bind_some, depthAfter?_cons]
    rfl

/-! ## A text in parentheses -/

/-- Of a balanced text that has a text in parentheses at its end: this text is balanced, or its
opening parenthesis is closed within it, by a parenthesis behind a balanced phrase. -/
theorem Balanced.enclosed_iff
    {front inner back : List Char}
    (balanced : Balanced (front ++ '(' :: (inner ++ ')' :: back)))
    (plain : ∀ character ∈ back, character ≠ '(' ∧ character ≠ ')') :
    Balanced inner ↔
      ¬∃ phrase rest, Balanced phrase ∧ inner = phrase ++ ')' :: rest := by
  have closes : ¬(∃ phrase rest, Balanced phrase ∧ inner = phrase ++ ')' :: rest) ↔
      ¬depthAfter? 0 inner = none :=
    not_congr depthAfter?_eq_none_iff.symm
  rw [closes]
  constructor
  · intro isBalanced
    rw [isBalanced]
    simp
  · intro reads
    obtain ⟨alone, isAlone⟩ := Option.ne_none_iff_exists'.mp reads
    -- The closing parenthesis behind the inner text leads back to no depth at all.
    rw [Balanced, depthAfter?_append, Option.bind_eq_some_iff] at balanced
    obtain ⟨outside, _, later⟩ := balanced
    rw [depthAfter?_cons, depthBehind?_open, Option.bind_some, depthAfter?_append,
      Nat.add_comm outside 1, ← Nat.zero_add (1 + outside), depthAfter?_add isAlone,
      Option.bind_some, depthAfter?_cons, Option.bind_eq_some_iff] at later
    obtain ⟨final, closed, behind⟩ := later
    rw [depthAfter?_of_plain plain] at behind
    obtain rfl := Option.some.inj behind
    rw [depthBehind?_close_eq_some_iff] at closed
    obtain rfl : alone = 0 := by omega
    exact isAlone

end ThreatModel.Text
