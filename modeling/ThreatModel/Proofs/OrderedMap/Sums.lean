import Mathlib.Algebra.BigOperators.Group.Finset.Piecewise
import Mathlib.Data.Fintype.Basic
import ThreatModel.OrderedMap

/-!
Contract: tallies that are kept together and apart.

Owns:
- the count of a key, which is zero where there is no tally;
- sums of maps of counts, key by key, and their step: a key that is tallied in the
  total and in one of the parts.

Does not own: what is tallied.
-/

namespace ThreatModel.OrderedMap

variable {ι κ : Type} [DecidableEq κ]

def count
    (map : OrderedMap κ Nat)
    (key : κ) :
    Nat :=
  (map.get? key).getD 0

theorem get?_tally_of_count
    (map : OrderedMap κ Nat)
    (key other : κ) :
    (map.tally key).get? other =
      if other = key then some (map.count key + 1) else map.get? other :=
  map.get?_alter key other _

theorem count_tally
    (map : OrderedMap κ Nat)
    (key other : κ) :
    (map.tally key).count other = map.count other + if other = key then 1 else 0 := by
  have looked := map.get?_tally_of_count key other
  unfold count at looked ⊢
  rw [looked]
  by_cases same : other = key
  · subst same
    simp
  · simp [same]

/-- The counts of the total are the sums of those of its parts, and it has the keys that some part
has. -/
structure IsSum [Fintype ι]
    (total : OrderedMap κ Nat)
    (parts : ι → OrderedMap κ Nat) :
    Prop where
  count_eq : ∀ key, total.count key = ∑ index, (parts index).count key
  absent_iff : ∀ key, total.get? key = none ↔ ∀ index, (parts index).get? key = none

namespace IsSum

variable [Fintype ι]

theorem empty : IsSum (∅ : OrderedMap κ Nat) fun _ : ι => ∅ := by
  constructor
  · intro key
    simp [count]
  · intro key
    simp

variable [DecidableEq ι] {total : OrderedMap κ Nat} {parts : ι → OrderedMap κ Nat}

/-- A key is tallied in the total and in one part. -/
theorem tally
    (isSum : IsSum total parts)
    (index : ι)
    (key : κ) :
    IsSum (total.tally key) (Function.update parts index ((parts index).tally key)) := by
  constructor
  · intro other
    have added (one : ι) :
        (Function.update parts index ((parts index).tally key) one).count other =
          (parts one).count other + if one = index then (if other = key then 1 else 0) else 0 := by
      by_cases same : one = index
      · subst same
        rw [Function.update_self, count_tally, if_pos rfl]
      · rw [Function.update_of_ne same, if_neg same, Nat.add_zero]
    calc
      (total.tally key).count other
          = ∑ one, (parts one).count other + if other = key then 1 else 0 := by
            rw [count_tally, isSum.count_eq]
      _ = ∑ one, ((parts one).count other +
            if one = index then (if other = key then 1 else 0) else 0) := by
            rw [Finset.sum_add_distrib, Finset.sum_ite_eq', if_pos (Finset.mem_univ index)]
      _ = _ := by simp only [added]
  · intro other
    rw [get?_tally_of_count]
    by_cases same : other = key
    · rw [if_pos same]
      constructor
      · intro absent
        cases absent
      · intro absent
        have absentThere := absent index
        rw [Function.update_self, get?_tally_of_count, if_pos same] at absentThere
        cases absentThere
    · rw [if_neg same, isSum.absent_iff]
      apply forall_congr'
      intro one
      by_cases there : one = index
      · subst there
        rw [Function.update_self, get?_tally_of_count, if_neg same]
      · rw [Function.update_of_ne there]

/-- What may be tallied is tallied in the total and in one part. -/
theorem elim_tally
    (isSum : IsSum total parts)
    (index : ι)
    (key? : Option κ) :
    IsSum (key?.elim total total.tally)
      (Function.update parts index (key?.elim (parts index) (parts index).tally)) := by
  cases key? with
  | none => simpa using isSum
  | some key => exact isSum.tally index key

/-- Parts that are read off states, one of which has changed. -/
theorem of_update
    {σ : Type}
    (part : σ → OrderedMap κ Nat)
    {states : ι → σ}
    {index : ι}
    {next : σ}
    (isSum : IsSum total (Function.update (fun one => part (states one)) index (part next))) :
    IsSum total fun one => part (Function.update states index next one) := by
  have parted : (fun one => part (Function.update states index next one)) =
      Function.update (fun one => part (states one)) index (part next) :=
    Function.comp_update part states index next
  rw [parted]
  exact isSum

end IsSum

end ThreatModel.OrderedMap
