import Mathlib.Algebra.Ring.Int.Defs
import Mathlib.Data.List.Basic
import ThreatModel.OrderedMap

/-!
Contract: maps that are built up entry by entry.

Owns:
- the keys and values of a map after a list of alterations, whatever each of them
  does to the value of its key;
- the counts of a list of keys;
- the collection of values under pairs of keys, in two levels of maps.

Does not own: what is counted or collected.
-/

namespace ThreatModel

variable {α β κ μ ν : Type}

/-! ## Lists that hold something -/

/-- The list, if it holds anything. -/
def inhabited? (list : List α) : Option (List α) :=
  if list.isEmpty then none else some list

@[simp] theorem inhabited?_nil : inhabited? ([] : List α) = none :=
  rfl

@[simp] theorem inhabited?_cons (head : α) (rest : List α) :
    inhabited? (head :: rest) = some (head :: rest) :=
  rfl

@[simp] theorem inhabited?_eq_none_iff {list : List α} :
    inhabited? list = none ↔ list = [] := by
  cases list <;> simp

theorem inhabited?_ne_some_nil (list : List α) : inhabited? list ≠ some [] := by
  cases list <;> simp

theorem map_inhabited? (change : α → β) (list : List α) :
    (inhabited? list).map (List.map change) = inhabited? (list.map change) := by
  cases list <;> rfl

theorem inhabited?_eraseDups [BEq α] [LawfulBEq α] (list : List α) :
    (inhabited? list).map List.eraseDups = inhabited? list.eraseDups := by
  cases list with
  | nil => rfl
  | cons head rest => simp [List.eraseDups_cons]

private theorem foldl_some
    (step : ν → α → ν)
    (start value : ν)
    (entries : List α) :
    entries.foldl (fun value entry => some (step (value.getD start) entry)) (some value) =
      some (entries.foldl step value) := by
  induction entries generalizing value with
  | nil => rfl
  | cons head rest inductionHypothesis => exact inductionHypothesis (step value head)

/-- A fold from nothing whose first step starts from `start`. -/
theorem foldl_some_getD
    (step : ν → α → ν)
    (start : ν)
    (entries : List α) :
    entries.foldl (fun value entry => some (step (value.getD start) entry)) none =
      (inhabited? entries).map (·.foldl step start) := by
  cases entries with
  | nil => rfl
  | cons head rest => exact foldl_some step start (step start head) rest

theorem eraseDups_of_nodup
    [BEq α]
    [LawfulBEq α]
    {list : List α}
    (distinct : list.Nodup) :
    list.eraseDups = list := by
  induction list with
  | nil => rfl
  | cons head rest inductionHypothesis =>
      rw [List.nodup_cons] at distinct
      have kept : rest.filter (fun other => !other == head) = rest := by
        rw [List.filter_eq_self]
        intro other member
        have different : other ≠ head := fun equal => distinct.1 (equal ▸ member)
        simp [different]
      rw [List.eraseDups_cons, kept, inductionHypothesis distinct.2]

/-- A repeated element does not count. -/
theorem eraseDups_append_cons_of_mem
    [BEq α]
    [LawfulBEq α]
    {front : List α}
    {element : α}
    (rest : List α)
    (known : element ∈ front) :
    (front ++ element :: rest).eraseDups = (front ++ rest).eraseDups := by
  have dropped : (element :: rest).removeAll front = rest.removeAll front := by
    simp [List.removeAll, known]
  rw [List.eraseDups_append, List.eraseDups_append, dropped]

/-- One more element counts if it is new. -/
theorem eraseDups_append_singleton
    [BEq α]
    [LawfulBEq α]
    (front : List α)
    (element : α)
    [Decidable (element ∈ front)] :
    (front ++ [element]).eraseDups =
      if element ∈ front then front.eraseDups else front.eraseDups ++ [element] := by
  split
  · rename_i known
    rw [eraseDups_append_cons_of_mem [] known, List.append_nil]
  · rename_i unknown
    have kept : [element].removeAll front = [element] := by
      simp [List.removeAll, unknown]
    rw [List.eraseDups_append, kept, eraseDups_of_nodup (List.pairwise_singleton _ element)]

/-- Repetitions are seen as well under a view that keeps the elements apart. -/
theorem eraseDups_map_of_injOn
    [BEq α]
    [LawfulBEq α]
    [BEq β]
    [LawfulBEq β]
    {view : α → β}
    {list : List α}
    (injective : ∀ left ∈ list, ∀ right ∈ list, view left = view right → left = right) :
    (list.map view).eraseDups = list.eraseDups.map view := by
  match list with
  | [] => rfl
  | head :: rest =>
      have others :
          (rest.map view).filter (fun other => !other == view head) =
            (rest.filter fun other => !other == head).map view := by
        rw [List.filter_map]
        congr 1
        apply List.filter_congr
        intro other member
        have apart : view other = view head ↔ other = head :=
          ⟨injective other (List.mem_cons_of_mem head member) head List.mem_cons_self,
            congrArg view⟩
        have same : (view other == view head) = (other == head) := by
          rw [Bool.eq_iff_iff, beq_iff_eq, beq_iff_eq]
          exact apart
        rw [Function.comp_apply, same]
      have later :
          ((rest.filter fun other => !other == head).map view).eraseDups =
            (rest.filter fun other => !other == head).eraseDups.map view := by
        apply eraseDups_map_of_injOn
        intro left isLeft right isRight
        have leftMember := List.mem_cons_of_mem head (List.mem_filter.mp isLeft).1
        have rightMember := List.mem_cons_of_mem head (List.mem_filter.mp isRight).1
        exact injective left leftMember right rightMember
      rw [List.map_cons, List.eraseDups_cons, List.eraseDups_cons, others, later, List.map_cons]
  termination_by list.length
  decreasing_by exact Nat.lt_succ_of_le (List.length_filter_le _ _)

namespace OrderedMap

variable [DecidableEq κ] [DecidableEq μ]

/-! ## Alterations in a row -/

section Alterations

variable (key : α → κ) (change : α → Option ν → ν)

/-- Keys come in the order of their first arrival. -/
theorem keys_foldl_alter
    (map : OrderedMap κ ν)
    (entries : List α) :
    (entries.foldl (fun map entry => map.alter (key entry) (change entry)) map).keys =
      (map.keys ++ entries.map key).eraseDups := by
  induction entries generalizing map with
  | nil => simp [eraseDups_of_nodup map.keys_nodup]
  | cons head rest inductionHypothesis =>
      rw [List.foldl_cons, inductionHypothesis, keys_alter, List.map_cons]
      split
      · rename_i known
        exact (eraseDups_append_cons_of_mem _ known).symm
      · rw [List.append_assoc, List.singleton_append]

/-- The distinct elements of a list are the keys of a map that meets each of them. -/
theorem nodup_eraseDups (list : List κ) : list.eraseDups.Nodup := by
  have met := keys_foldl_alter id (fun _ (_ : Option Unit) => ()) ∅ list
  rw [keys_empty, List.nil_append, List.map_id] at met
  exact met ▸ keys_nodup _

/-- Only the entries of a key alter its value. -/
theorem get?_foldl_alter
    (map : OrderedMap κ ν)
    (entries : List α)
    (wanted : κ) :
    (entries.foldl (fun map entry => map.alter (key entry) (change entry)) map).get? wanted =
      (entries.filter fun entry => key entry = wanted).foldl
        (fun value entry => some (change entry value)) (map.get? wanted) := by
  induction entries generalizing map with
  | nil => rfl
  | cons head rest inductionHypothesis =>
      rw [List.foldl_cons, inductionHypothesis, get?_alter]
      by_cases here : key head = wanted
      · simp [here]
      · have elsewhere : ¬wanted = key head := fun equal => here equal.symm
        simp [here, elsewhere]

/-- Alterations of the empty map that all start from one value. -/
theorem get?_foldl_alter_getD
    (step : ν → α → ν)
    (start : ν)
    (entries : List α)
    (wanted : κ) :
    (entries.foldl
        (fun map entry => map.alter (key entry) fun value => step (value.getD start) entry)
        (∅ : OrderedMap κ ν)).get? wanted =
      (inhabited? (entries.filter fun entry => key entry = wanted)).map (·.foldl step start) := by
  rw [get?_foldl_alter key (fun entry value => step (value.getD start) entry), get?_empty,
    foldl_some_getD]

end Alterations

/-- Lookups under all keys determine the entries. -/
theorem entries_eq_map_keys
    {map : OrderedMap κ ν}
    (value : κ → ν)
    (values : ∀ key ∈ map.keys, map.get? key = some (value key)) :
    map.entries = map.keys.map fun key => (key, value key) := by
  have kept : ∀ entry ∈ map.entries, (entry.1, value entry.1) = entry := by
    intro entry member
    have looked := values entry.1 (List.mem_map_of_mem member)
    rw [get?_eq_some_iff.mpr member] at looked
    rw [← Option.some.inj looked]
  calc
    map.entries = map.entries.map fun entry => (entry.1, value entry.1) := by
      rw [List.map_congr_left kept, List.map_id']
    _ = map.keys.map fun key => (key, value key) := by
      rw [keys, List.map_map]
      rfl

/-! ## Chosen values -/

section FilterMap

variable (map : OrderedMap κ μ) (choose : μ → Option ν)

omit [DecidableEq μ] in
theorem get?_filterMap (key : κ) :
    (map.filterMap choose).get? key = (map.get? key).bind choose := by
  ext value
  rw [get?_eq_some_iff, Option.bind_eq_some_iff]
  simp only [filterMap, List.mem_filterMap, Option.map_eq_some_iff, Prod.mk.injEq,
    get?_eq_some_iff]
  constructor
  · rintro ⟨entry, member, chosen, made, rfl, rfl⟩
    exact ⟨entry.2, member, made⟩
  · rintro ⟨known, member, made⟩
    exact ⟨(key, known), member, value, made, rfl, rfl⟩

omit [DecidableEq κ] [DecidableEq μ] in
/-- All keys stay where each value is chosen. -/
theorem keys_filterMap (chosen : ∀ entry ∈ map.entries, (choose entry.2).isSome) :
    (map.filterMap choose).keys = map.keys := by
  have kept : ∀ entry ∈ map.entries,
      ((choose entry.2).map fun value => (entry.1, value)).map Prod.fst = some entry.1 := by
    intro entry member
    obtain ⟨value, made⟩ := Option.isSome_iff_exists.mp (chosen entry member)
    rw [made]
    rfl
  rw [keys, keys, filterMap, List.map_filterMap, List.filterMap_congr kept]
  exact congrFun List.filterMap_eq_map map.entries

end FilterMap

/-! ## Counts -/

/-- The counts of the keys of a list. -/
def counts [AddMonoidWithOne ν] (keys : List κ) : OrderedMap κ ν :=
  keys.foldl tally ∅

private theorem foldl_add_one
    [AddMonoidWithOne ν]
    (entries : List α)
    (start : ν) :
    entries.foldl (fun count _ => count + 1) start = start + (entries.length : ν) := by
  induction entries generalizing start with
  | nil => simp
  | cons head rest inductionHypothesis =>
      rw [List.foldl_cons, inductionHypothesis, List.length_cons, Nat.add_comm, Nat.cast_add,
        Nat.cast_one, add_assoc]

/-- A key that does not occur has no count. -/
theorem get?_counts
    [AddMonoidWithOne ν]
    (keys : List κ)
    (key : κ) :
    (counts keys : OrderedMap κ ν).get? key =
      if keys.count key = 0 then none else some (keys.count key : ν) := by
  have size : keys.count key = (keys.filter fun entry => id entry = key).length := by
    rw [List.count_eq_length_filter]
    rfl
  refine (get?_foldl_alter_getD id (fun count _ => count + 1) 0 keys key).trans ?_
  rw [size]
  cases keys.filter fun entry => id entry = key with
  | nil => rfl
  | cons head rest =>
      rw [inhabited?_cons, Option.map_some, foldl_add_one, zero_add]
      rfl

/-! ## Values under keys -/

/-- Puts a value under its key, behind the values that are there. -/
def put
    (map : OrderedMap μ (List ν))
    (entry : μ × ν) :
    OrderedMap μ (List ν) :=
  map.alter entry.1 fun values => values.getD [] ++ [entry.2]

/-- The values of a list under their keys. -/
def grouped (entries : List (μ × ν)) : OrderedMap μ (List ν) :=
  entries.foldl put ∅

theorem keys_grouped (entries : List (μ × ν)) :
    (grouped entries).keys = (entries.map Prod.fst).eraseDups :=
  keys_foldl_alter Prod.fst (fun entry values => values.getD [] ++ [entry.2])
    (∅ : OrderedMap μ (List ν)) entries

/-- The values of a key stand in the order of the list. -/
theorem get?_grouped
    (entries : List (μ × ν))
    (key : μ) :
    (grouped entries).get? key =
      inhabited? ((entries.filter fun entry => entry.1 = key).map Prod.snd) := by
  have appended (chosen : List (μ × ν)) :
      chosen.foldl (fun values entry => values ++ [entry.2]) [] = chosen.map Prod.snd := by
    rw [List.foldl_append_eq_append, List.nil_append, ← List.flatMap_def]
    exact List.map_eq_flatMap.symm
  refine (get?_foldl_alter_getD Prod.fst
    (fun values entry => values ++ [entry.2]) [] entries key).trans ?_
  simp only [appended]
  exact map_inhabited? Prod.snd _

/-! ## Values under pairs of keys -/

/-- Puts a value under two keys, behind the values that are there. -/
def putUnder
    (map : OrderedMap κ (OrderedMap μ (List ν)))
    (entry : κ × μ × ν) :
    OrderedMap κ (OrderedMap μ (List ν)) :=
  map.alter entry.1 fun inner => (inner.getD ∅).put entry.2

/-- The values of a list under their pairs of keys. -/
def collected (entries : List (κ × μ × ν)) : OrderedMap κ (OrderedMap μ (List ν)) :=
  entries.foldl putUnder ∅

section Collected

variable (entries : List (κ × μ × ν)) (outer : κ)

/-- The entries of an outer key, without it. -/
def entriesUnder : List (μ × ν) :=
  (entries.filter fun entry => entry.1 = outer).map Prod.snd

omit [DecidableEq μ] in
theorem entriesUnder_flatMap
    (list : List α)
    (expand : α → List (κ × μ × ν)) :
    entriesUnder (list.flatMap expand) outer =
      list.flatMap fun element => entriesUnder (expand element) outer := by
  simp only [entriesUnder, List.filter_flatMap, List.map_flatMap]

theorem keys_collected : (collected entries).keys = (entries.map Prod.fst).eraseDups :=
  keys_foldl_alter Prod.fst
    (fun entry (inner : Option (OrderedMap μ (List ν))) => (inner.getD ∅).put entry.2) ∅ entries

/-- An outer key has a group of its own. -/
theorem get?_collected :
    (collected entries).get? outer =
      (inhabited? (entriesUnder entries outer)).map grouped := by
  refine (get?_foldl_alter_getD Prod.fst
    (fun (inner : OrderedMap μ (List ν)) entry => inner.put entry.2) ∅ entries outer).trans ?_
  rw [entriesUnder, ← map_inhabited?, Option.map_map]
  congr 1
  funext chosen
  exact List.foldl_map.symm

/-- An outer key that is there has an inner key. -/
theorem keys_get?_collected :
    ((collected entries).get? outer).map keys =
      inhabited? ((entriesUnder entries outer).map Prod.fst).eraseDups := by
  rw [get?_collected, Option.map_map, ← inhabited?_eraseDups, ← map_inhabited?, Option.map_map]
  congr 1
  funext chosen
  exact keys_grouped chosen

/-- The values of a pair of keys stand in the order of the list. -/
theorem get?_get?_collected (inner : μ) :
    ((collected entries).get? outer).bind (·.get? inner) =
      inhabited?
        (((entriesUnder entries outer).filter fun entry => entry.1 = inner).map Prod.snd) := by
  rw [get?_collected]
  cases entriesUnder entries outer with
  | nil => rfl
  | cons head rest => exact get?_grouped (head :: rest) inner

theorem mem_keys_collected :
    outer ∈ (collected entries).keys ↔ ∃ inner value, (outer, inner, value) ∈ entries := by
  simp [keys_collected]

theorem mem_keys_get?_collected (inner : μ) :
    (∃ group, (collected entries).get? outer = some group ∧ inner ∈ group.keys) ↔
      ∃ value, (outer, inner, value) ∈ entries := by
  have known : inner ∈ ((entriesUnder entries outer).map Prod.fst).eraseDups ↔
      ∃ value, (outer, inner, value) ∈ entries := by
    simp [entriesUnder]
  rw [get?_collected, ← known, ← keys_grouped]
  cases entriesUnder entries outer with
  | nil => simp [grouped]
  | cons head rest => simp

end Collected

end OrderedMap

end ThreatModel
