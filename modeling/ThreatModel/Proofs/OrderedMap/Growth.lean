import ThreatModel.Proofs.OrderedMap.Rows

/-!
Contract: maps that grow out of other maps.

Owns:
- when a map extends another: keys keep their places, and values follow from what
  they were;
- the merging of one map into another, key by key, and that what changes the one that
  is merged changes the merged map in the same way.

Does not own: how values follow from each other, or how they are combined.
-/

namespace ThreatModel.OrderedMap

variable {κ ν : Type} [DecidableEq κ]

/-! ## Extensions -/

/-- The keys from before come first and in their order, and the value of each of them follows from
the one that it had. -/
structure Extends
    (follows : ν → ν → Prop)
    (before after : OrderedMap κ ν) :
    Prop where
  keys : before.keys <+: after.keys
  values : ∀ key value, before.get? key = some value →
    ∃ later, after.get? key = some later ∧ follows value later

namespace Extends

variable {follows : ν → ν → Prop}

theorem refl
    (follows_refl : ∀ value, follows value value)
    (map : OrderedMap κ ν) :
    map.Extends follows map where
  keys := List.prefix_refl map.keys
  values _ value found := ⟨value, found, follows_refl value⟩

theorem trans
    {before between after : OrderedMap κ ν}
    (first : before.Extends follows between)
    (second : between.Extends follows after)
    (follows_trans : ∀ first second third,
      follows first second → follows second third → follows first third) :
    before.Extends follows after where
  keys := first.keys.trans second.keys
  values key value found := by
    obtain ⟨later, foundLater, follows⟩ := first.values key value found
    obtain ⟨last, foundLast, followsLater⟩ := second.values key later foundLater
    exact ⟨last, foundLast, follows_trans value later last follows followsLater⟩

/-- An alteration extends the map if the value that it meets, if any, is followed by the new one. -/
theorem alter
    (follows_refl : ∀ value, follows value value)
    {map : OrderedMap κ ν}
    {key : κ}
    {change : Option ν → ν}
    (changed : ∀ value, map.get? key = some value → follows value (change (some value))) :
    map.Extends follows (map.alter key change) where
  keys := by
    rw [keys_alter]
    split
    · exact List.prefix_refl map.keys
    · exact List.prefix_append map.keys [key]
  values other value found := by
    rw [get?_alter]
    by_cases own : other = key
    · subst own
      rw [if_pos rfl, found]
      exact ⟨_, rfl, changed value found⟩
    · rw [if_neg own]
      exact ⟨value, found, follows_refl value⟩

end Extends

/-! ## Merging -/

section Merging

variable (combine : Option ν → ν → ν)

/-- Puts the entries of another map into a map, each combined with what is there under its key. -/
def mergeWith (map other : OrderedMap κ ν) : OrderedMap κ ν :=
  other.entries.foldl (fun map entry => map.alter entry.1 fun known => combine known entry.2) map

theorem keys_mergeWith (map other : OrderedMap κ ν) :
    (map.mergeWith combine other).keys = (map.keys ++ other.keys).eraseDups :=
  keys_foldl_alter Prod.fst (fun entry known => combine known entry.2) map other.entries

theorem get?_mergeWith
    (map other : OrderedMap κ ν)
    (key : κ) :
    (map.mergeWith combine other).get? key =
      (other.get? key).elim (map.get? key) fun value => some (combine (map.get? key) value) := by
  refine (get?_foldl_alter Prod.fst (fun entry known => combine known entry.2) map other.entries
    key).trans ?_
  rw [filter_entries]
  cases other.get? key <;> rfl

/-- A change of the map that is merged is a change of the merged map, if the change of a combined
value is the combination with the changed one. -/
theorem mergeWith_alter
    {change : Option ν → ν}
    (agree : ∀ known value,
      combine known (change value) =
        change (value.elim known fun value => some (combine known value)))
    (map other : OrderedMap κ ν)
    (key : κ) :
    map.mergeWith combine (other.alter key change) =
      (map.mergeWith combine other).alter key change := by
  apply ext_get?
  · rw [keys_mergeWith, keys_alter, keys_alter, keys_mergeWith]
    by_cases known : key ∈ other.keys
    · have merged : key ∈ (map.keys ++ other.keys).eraseDups :=
        List.mem_eraseDups.mpr (List.mem_append_right map.keys known)
      rw [if_pos known, if_pos merged]
    · rw [if_neg known, ← List.append_assoc, eraseDups_append_singleton]
      simp only [List.mem_eraseDups]
  · intro wanted
    rw [get?_mergeWith, get?_alter, get?_alter]
    by_cases own : wanted = key
    · rw [if_pos own, if_pos own, Option.elim_some, own, agree, get?_mergeWith]
    · rw [if_neg own, if_neg own, get?_mergeWith]

end Merging

end ThreatModel.OrderedMap
