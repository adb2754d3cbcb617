import Mathlib.Data.List.Nodup
import ThreatModel.Proofs.OrderedMap.Sums

/-!
Contract: maps that count, without a key for what does not occur.

Owns:
- counts that are kept only where they are positive;
- the agreement of a map with the amounts that it counts, and its step;
- the number of keys of such a map.

Does not own: what is counted.
-/

namespace ThreatModel

/-- A count, if there is anything to count. -/
def positive? (count : Nat) : Option Nat :=
  if count = 0 then none else some count

@[simp] theorem positive?_zero : positive? 0 = none :=
  rfl

@[simp] theorem positive?_succ (count : Nat) : positive? (count + 1) = some (count + 1) :=
  rfl

@[simp] theorem getD_positive? (count : Nat) : (positive? count).getD 0 = count := by
  cases count <;> rfl

theorem positive?_ne_none_iff {count : Nat} : positive? count ≠ none ↔ 0 < count := by
  cases count <;> simp

namespace OrderedMap

variable {κ : Type} [DecidableEq κ]

/-- The map has the amount of each key of which there is any. -/
def CountsAs
    (map : OrderedMap κ Nat)
    (amount : κ → Nat) :
    Prop :=
  ∀ key, map.get? key = positive? (amount key)

namespace CountsAs

variable {map : OrderedMap κ Nat} {amount : κ → Nat}

theorem tally
    (counts : map.CountsAs amount)
    (key : κ) :
    (map.tally key).CountsAs fun other => amount other + if other = key then 1 else 0 := by
  intro other
  have counted : map.count key = amount key := by
    rw [count, counts key, getD_positive?]
  rw [get?_tally_of_count, counted]
  by_cases own : other = key
  · simp [own]
  · simp [own, counts other]

/-- What may be tallied adds to the amount of its own key. -/
theorem elim_tally
    (counts : map.CountsAs amount)
    {key? : Option κ}
    {next : κ → Nat}
    (grows : ∀ other, next other = amount other + if key? = some other then 1 else 0) :
    (key?.elim map map.tally).CountsAs next := by
  intro other
  rw [grows]
  cases key? with
  | none => simpa using counts other
  | some key => simpa only [Option.elim_some, Option.some.injEq, eq_comm] using counts.tally key other

/-- There are as many keys as things of which there is any. -/
theorem size_eq
    (counts : map.CountsAs amount)
    {list : List κ}
    (distinct : list.Nodup)
    (members : ∀ key, key ∈ list ↔ 0 < amount key) :
    map.size = list.length := by
  have sameMembers : map.keys.Perm list := by
    rw [List.perm_ext_iff_of_nodup map.keys_nodup distinct]
    intro key
    have known : key ∈ map.keys ↔ map.get? key ≠ none := by
      rw [ne_eq, get?_eq_none_iff, not_not]
    rw [known, counts key, positive?_ne_none_iff, members]
  rw [← sameMembers.length_eq, keys, List.length_map, size]

end CountsAs

end OrderedMap

end ThreatModel
