import Mathlib.Data.List.Nodup
import ThreatModel.Proofs.OrderedMap.Collect

/-!
Contract: maps and the rows that they can be built from again.

Owns:
- that a map is determined by its keys and its lookups, and by its lookups up to order;
- the entries of one key;
- the rows of a map, each an item of a value under the value's key, and that they
  make the same map, for values in one level of maps and in two.

Does not own: what rows stand for.
-/

namespace ThreatModel

variable {α β γ κ μ ν : Type}

/-- Where two lookups look the same under views, both find something or neither does. -/
theorem map_eq_map_cases
    {view : α → γ}
    {otherView : β → γ}
    {left : Option α}
    {right : Option β}
    (same : left.map view = right.map otherView) :
    (left = none ∧ right = none) ∨
      ∃ value other, left = some value ∧ right = some other ∧ view value = otherView other := by
  cases left with
  | none =>
      rw [Option.map_none, eq_comm, Option.map_eq_none_iff] at same
      exact .inl ⟨rfl, same⟩
  | some value =>
      rw [Option.map_some, eq_comm, Option.map_eq_some_iff] at same
      obtain ⟨other, found, sameView⟩ := same
      exact .inr ⟨value, other, rfl, found, sameView.symm⟩

namespace OrderedMap

variable [DecidableEq κ] [DecidableEq μ]

/-! ## Keys and lookups -/

/-- Maps with the same keys in the same order and the same lookups are the same. -/
theorem ext_get?
    {left right : OrderedMap κ ν}
    (sameKeys : left.keys = right.keys)
    (sameValues : ∀ key, left.get? key = right.get? key) :
    left = right := by
  apply ext
  apply List.ext_getElem?
  intro place
  have keyAt : (left.entries[place]?).map Prod.fst = (right.entries[place]?).map Prod.fst := by
    rw [← List.getElem?_map, ← List.getElem?_map]
    exact congrArg (·[place]?) sameKeys
  obtain ⟨noLeft, noRight⟩ | ⟨entry, other, onLeft, onRight, sameKey⟩ := map_eq_map_cases keyAt
  · rw [noLeft, noRight]
  · have leftValue := get?_eq_some_iff.mpr (List.mem_of_getElem? onLeft)
    have rightValue := get?_eq_some_iff.mpr (List.mem_of_getElem? onRight)
    rw [sameValues, sameKey, rightValue] at leftValue
    rw [onLeft, onRight, Prod.ext sameKey (Option.some.inj leftValue).symm]

theorem insert_of_get?
    {map : OrderedMap κ ν}
    {key : κ}
    {value : ν}
    (known : map.get? key = some value) :
    map.insert key value = map := by
  apply ext_get?
  · rw [keys_insert, if_pos (mem_keys_iff.mpr ⟨value, known⟩)]
  · intro other
    rw [get?_insert]
    by_cases own : other = key
    · rw [if_pos own, own, known]
    · rw [if_neg own]

/-- Maps with the same lookups have the same entries, up to their order. -/
theorem perm_of_get?_eq
    {left right : OrderedMap κ ν}
    (sameValues : ∀ key, left.get? key = right.get? key) :
    left.entries.Perm right.entries := by
  have distinct (map : OrderedMap κ ν) : map.entries.Nodup :=
    List.Nodup.of_map Prod.fst map.distinct
  rw [List.perm_ext_iff_of_nodup (distinct left) (distinct right)]
  intro entry
  rw [← get?_eq_some_iff, ← get?_eq_some_iff, sameValues]

/-- At most one entry stands under a key. -/
theorem filter_entries
    (map : OrderedMap κ ν)
    (key : κ) :
    map.entries.filter (fun entry => entry.1 = key) =
      (map.get? key).toList.map (Prod.mk key) := by
  cases found : map.get? key with
  | none =>
      have absent := get?_eq_none_iff.mp found
      rw [Option.toList_none, List.map_nil, List.filter_eq_nil_iff]
      intro entry member isKey
      exact absent (of_decide_eq_true isKey ▸ List.mem_map_of_mem member)
  | some value =>
      have distinct : (map.entries.filter fun entry => entry.1 = key).Nodup :=
        (List.Nodup.of_map Prod.fst map.distinct).filter _
      rw [Option.toList_some, List.map_singleton]
      apply List.perm_singleton.mp
      rw [List.perm_ext_iff_of_nodup distinct (List.nodup_singleton _)]
      intro entry
      rw [List.mem_filter, decide_eq_true_iff, List.mem_singleton, ← get?_eq_some_iff]
      constructor
      · rintro ⟨member, rfl⟩
        rw [found] at member
        rw [Option.some.inj member]
      · rintro rfl
        exact ⟨found, rfl⟩

/-! ## Rows -/

/-- The items of each value, under the key of the value. -/
def rows
    (map : OrderedMap κ ν)
    (items : ν → List α) :
    List (κ × α) :=
  map.entries.flatMap fun entry => (items entry.2).map (Prod.mk entry.1)

private theorem eraseDups_flatMap_const
    {entries : List (κ × ν)}
    (distinct : (entries.map Prod.fst).Nodup)
    {items : ν → List α}
    (inhabited : ∀ entry ∈ entries, items entry.2 ≠ []) :
    (entries.flatMap fun entry => (items entry.2).map fun _ => entry.1).eraseDups =
      entries.map Prod.fst := by
  induction entries with
  | nil => rfl
  | cons head rest inductionHypothesis =>
      rw [List.map_cons, List.nodup_cons] at distinct
      have later := inductionHypothesis distinct.2
        fun entry member => inhabited entry (List.mem_cons_of_mem head member)
      have own : ((items head.2).map fun _ => head.1).eraseDups = [head.1] := by
        apply List.perm_singleton.mp
        rw [List.perm_ext_iff_of_nodup (nodup_eraseDups _) (List.nodup_singleton _)]
        have isInhabited := inhabited head List.mem_cons_self
        intro key
        simp [isInhabited]
      have apart : (rest.flatMap fun entry => (items entry.2).map fun _ => entry.1).removeAll
          ((items head.2).map fun _ => head.1) =
            rest.flatMap fun entry => (items entry.2).map fun _ => entry.1 := by
        rw [List.removeAll, List.filter_eq_self]
        intro key member
        obtain ⟨entry, isEntry, isKey⟩ := List.mem_flatMap.mp member
        obtain ⟨_, _, rfl⟩ := List.mem_map.mp isKey
        have other : ¬entry.1 = head.1 := fun same =>
          distinct.1 (same ▸ List.mem_map_of_mem isEntry)
        simp [other]
      rw [List.flatMap_cons, List.eraseDups_append, own, apart, later, List.map_cons,
        List.singleton_append]

/-- The rows under a key are the items of its value. -/
theorem filter_rows
    (map : OrderedMap κ ν)
    (items : ν → List α)
    (key : κ) :
    (map.rows items).filter (fun row => row.1 = key) =
      (map.get? key).toList.flatMap fun value => (items value).map (Prod.mk key) := by
  have ofEntries (entries : List (κ × ν)) :
      (entries.flatMap fun entry => (items entry.2).map (Prod.mk entry.1)).filter
          (fun row => row.1 = key) =
        (entries.filter fun entry => entry.1 = key).flatMap fun entry =>
          (items entry.2).map (Prod.mk key) := by
    induction entries with
    | nil => rfl
    | cons head rest inductionHypothesis =>
        rw [List.flatMap_cons, List.filter_append, inductionHypothesis, List.filter_map,
          List.filter_cons]
        by_cases own : head.1 = key
        · simp [Function.comp_def, own]
        · simp [Function.comp_def, own]
  rw [rows, ofEntries, filter_entries, List.flatMap_map]

omit [DecidableEq κ] in
/-- A map with entries, each of which has items, has rows. -/
theorem rows_ne_nil
    {map : OrderedMap κ ν}
    {items : ν → List α}
    (inhabited : map.entries ≠ [])
    (itemized : ∀ entry ∈ map.entries, items entry.2 ≠ []) :
    map.rows items ≠ [] := by
  obtain ⟨entry, member⟩ := List.exists_mem_of_ne_nil _ inhabited
  obtain ⟨item, isItem⟩ := List.exists_mem_of_ne_nil _ (itemized entry member)
  have isRow : (entry.1, item) ∈ map.rows items :=
    List.mem_flatMap.mpr ⟨entry, member, List.mem_map_of_mem isItem⟩
  exact List.ne_nil_of_mem isRow

/-- Where each value has items and is made of them, the rows of a map make the map. -/
theorem foldl_alter_rows
    {map : OrderedMap κ ν}
    {items : ν → List α}
    (step : ν → α → ν)
    (start : ν)
    (itemized : ∀ entry ∈ map.entries, items entry.2 ≠ [])
    (made : ∀ entry ∈ map.entries, (items entry.2).foldl step start = entry.2) :
    (map.rows items).foldl
      (fun map row => map.alter row.1 fun value => step (value.getD start) row.2) ∅ = map := by
  apply ext_get?
  · rw [keys_foldl_alter Prod.fst fun row value => step (value.getD start) row.2, keys_empty,
      List.nil_append, rows, List.map_flatMap]
    simp only [List.map_map]
    exact eraseDups_flatMap_const map.distinct itemized
  · intro key
    rw [get?_foldl_alter_getD Prod.fst fun value row => step value row.2, filter_rows]
    cases found : map.get? key with
    | none => rfl
    | some value =>
        have isEntry := get?_eq_some_iff.mp found
        have ofValue := made (key, value) isEntry
        cases listed : items value with
        | nil => exact absurd listed (itemized (key, value) isEntry)
        | cons head rest =>
            rw [listed] at ofValue
            simpa [listed, List.foldl_map] using ofValue

/-- Lists under keys are grouped again, none of which may be empty. -/
theorem grouped_rows
    {map : OrderedMap μ (List ν)}
    (inhabited : ∀ entry ∈ map.entries, entry.2 ≠ []) :
    grouped (map.rows id) = map := by
  refine foldl_alter_rows (fun values value => values ++ [value]) [] inhabited ?_
  intro entry _
  rw [List.foldl_append_eq_append, List.nil_append]
  exact List.flatMap_singleton' entry.2

/-- Lists under pairs of keys are collected again; no outer key may go without an inner one. -/
theorem collected_rows
    {map : OrderedMap κ (OrderedMap μ (List ν))}
    (inhabited : ∀ entry ∈ map.entries, entry.2.entries ≠ [])
    (innerInhabited : ∀ entry ∈ map.entries, ∀ inner ∈ entry.2.entries, inner.2 ≠ []) :
    collected (map.rows (·.rows id)) = map :=
  foldl_alter_rows put ∅
    (fun entry member => rows_ne_nil (inhabited entry member) (innerInhabited entry member))
    (fun entry member => grouped_rows (innerInhabited entry member))

end OrderedMap

end ThreatModel
