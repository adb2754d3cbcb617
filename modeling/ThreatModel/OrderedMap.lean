/-!
Contract: finite maps that remember the order in which their keys first came.

Owns:
- the map type, whose keys are distinct by construction;
- lookup, and the one update from which all others are made: a value is altered in
  place when its key is known and appended when it is new;
- the equations of lookup and of the key list after an update.

Does not own: any particular kind of key or value.
-/

namespace ThreatModel

/-- Keys with their values, in the order of each key's first arrival. -/
structure OrderedMap (κ ν : Type) where
  entries : List (κ × ν)
  distinct : (entries.map Prod.fst).Nodup
deriving DecidableEq, Repr

namespace OrderedMap

variable {κ ν : Type}

def empty : OrderedMap κ ν :=
  ⟨[], by simp⟩

instance : EmptyCollection (OrderedMap κ ν) :=
  ⟨empty⟩

instance : Inhabited (OrderedMap κ ν) :=
  ⟨empty⟩

def keys (map : OrderedMap κ ν) : List κ :=
  map.entries.map Prod.fst

def values (map : OrderedMap κ ν) : List ν :=
  map.entries.map Prod.snd

def size (map : OrderedMap κ ν) : Nat :=
  map.entries.length

theorem keys_nodup (map : OrderedMap κ ν) : map.keys.Nodup :=
  map.distinct

@[ext] theorem ext
    {left right : OrderedMap κ ν}
    (sameEntries : left.entries = right.entries) :
    left = right := by
  cases left
  cases right
  simpa using sameEntries

private theorem keys_filterMap_sublist
    {μ : Type}
    (choose : ν → Option μ)
    (entries : List (κ × ν)) :
    ((entries.filterMap fun entry =>
      (choose entry.2).map fun value => (entry.1, value)).map Prod.fst).Sublist
      (entries.map Prod.fst) := by
  induction entries with
  | nil => simp
  | cons head rest inductionHypothesis =>
      rw [List.filterMap_cons]
      cases choose head.2 with
      | none => exact inductionHypothesis.cons _
      | some value => exact inductionHypothesis.cons_cons _

/-- Keeps the keys whose value `choose` gives a new value. -/
def filterMap {μ : Type}
    (map : OrderedMap κ ν)
    (choose : ν → Option μ) :
    OrderedMap κ μ where
  entries := map.entries.filterMap fun entry =>
    (choose entry.2).map fun value => (entry.1, value)
  distinct := (keys_filterMap_sublist choose map.entries).nodup map.distinct

variable [DecidableEq κ]

private def lookup (key : κ) : List (κ × ν) → Option ν
  | [] => none
  | (candidate, value) :: rest =>
      if candidate = key then some value else lookup key rest

def get? (map : OrderedMap κ ν) (key : κ) : Option ν :=
  lookup key map.entries

def contains (map : OrderedMap κ ν) (key : κ) : Bool :=
  (map.get? key).isSome

private def alterEntries
    (key : κ)
    (change : Option ν → ν) :
    List (κ × ν) → List (κ × ν)
  | [] => [(key, change none)]
  | (candidate, value) :: rest =>
      if candidate = key then
        (candidate, change (some value)) :: rest
      else
        (candidate, value) :: alterEntries key change rest

private theorem keys_alterEntries
    (key : κ)
    (change : Option ν → ν)
    (entries : List (κ × ν)) :
    (alterEntries key change entries).map Prod.fst =
      if key ∈ entries.map Prod.fst then
        entries.map Prod.fst
      else
        entries.map Prod.fst ++ [key] := by
  induction entries with
  | nil => simp [alterEntries]
  | cons head rest inductionHypothesis =>
      obtain ⟨candidate, value⟩ := head
      by_cases sameKey : candidate = key
      · simp [alterEntries, sameKey]
      · have otherKey : ¬key = candidate := fun equal => sameKey equal.symm
        simp only [alterEntries, sameKey, if_false, List.map_cons, inductionHypothesis,
          List.mem_cons, otherKey, false_or]
        split <;> simp

/-- Gives `key` the value that `change` makes of its present value, if it has one. A known key
keeps its place; a new key comes last. -/
def alter
    (map : OrderedMap κ ν)
    (key : κ)
    (change : Option ν → ν) :
    OrderedMap κ ν where
  entries := alterEntries key change map.entries
  distinct := by
    rw [keys_alterEntries]
    split
    · exact map.distinct
    · rename_i absent
      rw [List.nodup_append]
      refine ⟨map.distinct, by simp, ?_⟩
      intro known knownMember added addedMember equal
      rw [List.mem_singleton] at addedMember
      exact absent (addedMember ▸ equal ▸ knownMember)

def insert
    (map : OrderedMap κ ν)
    (key : κ)
    (value : ν) :
    OrderedMap κ ν :=
  map.alter key fun _ => value

/-- Later pairs overwrite earlier ones with the same key, in the earlier one's place. -/
def ofList (pairs : List (κ × ν)) : OrderedMap κ ν :=
  pairs.foldl (fun map pair => map.insert pair.1 pair.2) empty

/-- Adds one to the count of `key`. -/
def tally {ν : Type} [OfNat ν 0] [OfNat ν 1] [Add ν]
    (map : OrderedMap κ ν)
    (key : κ) :
    OrderedMap κ ν :=
  map.alter key fun count => count.getD 0 + 1

@[simp] theorem get?_empty (key : κ) :
    (∅ : OrderedMap κ ν).get? key = none :=
  rfl

omit [DecidableEq κ] in
@[simp] theorem keys_empty : (∅ : OrderedMap κ ν).keys = [] :=
  rfl

omit [DecidableEq κ] in
@[simp] theorem entries_empty : (∅ : OrderedMap κ ν).entries = [] :=
  rfl

private theorem lookup_alterEntries
    (key other : κ)
    (change : Option ν → ν)
    (entries : List (κ × ν)) :
    lookup other (alterEntries key change entries) =
      if other = key then some (change (lookup key entries)) else lookup other entries := by
  induction entries with
  | nil =>
      by_cases sameKey : other = key
      · simp [alterEntries, lookup, sameKey]
      · have otherKey : ¬key = other := fun equal => sameKey equal.symm
        simp [alterEntries, lookup, sameKey, otherKey]
  | cons head rest inductionHypothesis =>
      obtain ⟨candidate, value⟩ := head
      by_cases atHead : candidate = key
      · subst atHead
        by_cases sameKey : other = candidate
        · simp [alterEntries, lookup, sameKey]
        · have otherKey : ¬candidate = other := fun equal => sameKey equal.symm
          simp [alterEntries, lookup, sameKey, otherKey]
      · by_cases otherAtHead : candidate = other
        · have sameKey : ¬other = key := fun equal => atHead (otherAtHead.trans equal)
          simp [alterEntries, lookup, otherAtHead, sameKey]
        · simp [alterEntries, lookup, atHead, otherAtHead, inductionHypothesis]

theorem get?_alter
    (map : OrderedMap κ ν)
    (key other : κ)
    (change : Option ν → ν) :
    (map.alter key change).get? other =
      if other = key then some (change (map.get? key)) else map.get? other :=
  lookup_alterEntries key other change map.entries

theorem keys_alter
    (map : OrderedMap κ ν)
    (key : κ)
    (change : Option ν → ν) :
    (map.alter key change).keys =
      if key ∈ map.keys then map.keys else map.keys ++ [key] :=
  keys_alterEntries key change map.entries

theorem get?_insert
    (map : OrderedMap κ ν)
    (key other : κ)
    (value : ν) :
    (map.insert key value).get? other =
      if other = key then some value else map.get? other :=
  map.get?_alter key other _

theorem keys_insert
    (map : OrderedMap κ ν)
    (key : κ)
    (value : ν) :
    (map.insert key value).keys =
      if key ∈ map.keys then map.keys else map.keys ++ [key] :=
  map.keys_alter key _

private theorem lookup_eq_none_iff
    (key : κ)
    (entries : List (κ × ν)) :
    lookup key entries = none ↔ key ∉ entries.map Prod.fst := by
  induction entries with
  | nil => simp [lookup]
  | cons head rest inductionHypothesis =>
      obtain ⟨candidate, value⟩ := head
      by_cases atHead : candidate = key
      · simp [lookup, atHead]
      · have otherKey : ¬key = candidate := fun equal => atHead equal.symm
        simp only [lookup, atHead, if_false, inductionHypothesis, List.map_cons, List.mem_cons,
          otherKey, false_or]

theorem get?_eq_none_iff
    {map : OrderedMap κ ν}
    {key : κ} :
    map.get? key = none ↔ key ∉ map.keys :=
  lookup_eq_none_iff key map.entries

private theorem lookup_eq_some_iff
    {key : κ}
    {value : ν}
    {entries : List (κ × ν)}
    (distinct : (entries.map Prod.fst).Nodup) :
    lookup key entries = some value ↔ (key, value) ∈ entries := by
  induction entries with
  | nil => simp [lookup]
  | cons head rest inductionHypothesis =>
      obtain ⟨candidate, known⟩ := head
      rw [List.map_cons, List.nodup_cons] at distinct
      by_cases atHead : candidate = key
      · subst atHead
        have notLater : (candidate, value) ∉ rest := fun later =>
          distinct.1 (List.mem_map.mpr ⟨_, later, rfl⟩)
        simp only [lookup, if_true, Option.some.injEq, List.mem_cons, Prod.mk.injEq, true_and,
          notLater, or_false]
        exact eq_comm
      · have otherKey : ¬key = candidate := fun equal => atHead equal.symm
        simp only [lookup, atHead, if_false, inductionHypothesis distinct.2, List.mem_cons,
          Prod.mk.injEq, otherKey, false_and, false_or]

theorem get?_eq_some_iff
    {map : OrderedMap κ ν}
    {key : κ}
    {value : ν} :
    map.get? key = some value ↔ (key, value) ∈ map.entries :=
  lookup_eq_some_iff map.distinct

theorem contains_iff
    {map : OrderedMap κ ν}
    {key : κ} :
    map.contains key = true ↔ key ∈ map.keys := by
  unfold contains
  rw [Option.isSome_iff_ne_none, ne_eq, get?_eq_none_iff, Decidable.not_not]

theorem mem_keys_iff
    {map : OrderedMap κ ν}
    {key : κ} :
    key ∈ map.keys ↔ ∃ value, map.get? key = some value := by
  rw [← Option.ne_none_iff_exists', ne_eq, get?_eq_none_iff, Decidable.not_not]

theorem mem_values_iff
    {map : OrderedMap κ ν}
    {value : ν} :
    value ∈ map.values ↔ ∃ key, map.get? key = some value := by
  simp only [values, List.mem_map, get?_eq_some_iff, Prod.exists, exists_eq_right]

end OrderedMap

end ThreatModel
