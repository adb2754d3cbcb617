import ThreatModel.Yaml.Value

/-!
Contract: the value that a mapping has under a name.

Owns:
- the names among the keys of a mapping;
- the value under a name, piece by piece and, where no name comes twice, in any order;
- that pairs under other keys have no say in it.

Does not own: what the values are good for.
-/

namespace ThreatModel.Yaml

/-- The name that a key is. -/
def Value.name? : Value → Option String
  | .text name => some name
  | _ => none

theorem Value.name?_eq_some_iff {value : Value} {name : String} :
    value.name? = some name ↔ value = .text name := by
  cases value with
  | text given => rw [name?, Option.some_inj, text.injEq]
  | _ => exact ⟨nofun, nofun⟩

theorem Value.isName_iff {value : Value} {name : String} :
    value.isName name = true ↔ value = .text name := by
  cases value with
  | text given => rw [isName, decide_eq_true_iff, text.injEq]
  | _ => exact ⟨nofun, nofun⟩

/-- The names among the keys of a mapping. -/
def keyNames (pairs : List (Value × Value)) : List String :=
  pairs.filterMap fun pair => pair.1.name?

theorem mem_keyNames_iff {pairs : List (Value × Value)} {name : String} :
    name ∈ keyNames pairs ↔ ∃ value, (.text name, value) ∈ pairs := by
  rw [keyNames, List.mem_filterMap]
  constructor
  · rintro ⟨⟨key, value⟩, member, named⟩
    exact ⟨value, Value.name?_eq_some_iff.mp named ▸ member⟩
  · rintro ⟨value, member⟩
    exact ⟨_, member, rfl⟩

theorem field?_append (front back : List (Value × Value)) (name : String) :
    field? (front ++ back) name = (field? back name).or (field? front name) := by
  rw [field?, field?, field?, List.reverse_append, List.find?_append, Option.map_or]

theorem field?_cons (pair : Value × Value) (rest : List (Value × Value)) (name : String) :
    field? (pair :: rest) name = (field? rest name).or (field? [pair] name) :=
  field?_append [pair] rest name

theorem field?_alone (name : String) (value : Value) :
    field? [(.text name, value)] name = some value := by
  rw [field?, List.reverse_singleton, List.find?_singleton, if_pos (Value.isName_iff.mpr rfl),
    Option.map_some]

theorem field?_alone_of_ne
    {key : Value}
    {name : String}
    (apart : key ≠ .text name)
    (value : Value) :
    field? [(key, value)] name = none := by
  rw [field?, List.reverse_singleton, List.find?_singleton,
    if_neg fun named => apart (Value.isName_iff.mp named), Option.map_none]

theorem mem_of_field?
    {pairs : List (Value × Value)}
    {name : String}
    {value : Value}
    (found : field? pairs name = some value) :
    (.text name, value) ∈ pairs := by
  obtain ⟨pair, isFound, rfl⟩ := Option.map_eq_some_iff.mp found
  have isNamed := List.find?_some isFound
  rw [← Value.isName_iff.mp isNamed]
  exact List.mem_reverse.mp (List.mem_of_find?_eq_some isFound)

theorem field?_eq_none
    {pairs : List (Value × Value)}
    {name : String}
    (unnamed : name ∉ keyNames pairs) :
    field? pairs name = none := by
  rw [Option.eq_none_iff_forall_ne_some]
  intro value found
  exact unnamed (mem_keyNames_iff.mpr ⟨value, mem_of_field? found⟩)

/-- Where no name is a key twice, a field has the one value under its name. -/
theorem field?_eq_some_iff
    {pairs : List (Value × Value)}
    (distinct : (keyNames pairs).Nodup)
    {name : String}
    {value : Value} :
    field? pairs name = some value ↔ (.text name, value) ∈ pairs := by
  constructor
  · exact mem_of_field?
  · intro member
    obtain ⟨front, back, rfl⟩ := List.append_of_mem member
    have parts : keyNames (front ++ (.text name, value) :: back) =
        keyNames front ++ name :: keyNames back := by
      rw [keyNames, List.filterMap_append]
      rfl
    -- The last pair with the name counts, and there is none behind this one.
    rw [parts, List.nodup_append, List.nodup_cons] at distinct
    rw [field?_append, field?_cons, field?_eq_none distinct.2.1.1, Option.none_or, field?_alone,
      Option.some_or]

theorem field?_of_perm
    {pairs others : List (Value × Value)}
    (distinct : (keyNames pairs).Nodup)
    (permutation : pairs.Perm others)
    (name : String) :
    field? others name = field? pairs name := by
  have othersDistinct : (keyNames others).Nodup :=
    (permutation.filterMap _).nodup_iff.mp distinct
  apply Option.ext
  intro value
  rw [field?_eq_some_iff othersDistinct, field?_eq_some_iff distinct, permutation.mem_iff]

/-- A pair under another key changes no field. -/
theorem field?_insert
    (front back : List (Value × Value))
    {key : Value}
    {name : String}
    (apart : key ≠ .text name)
    (value : Value) :
    field? (front ++ (key, value) :: back) name = field? (front ++ back) name := by
  rw [field?_append, field?_append, field?_cons, field?_alone_of_ne apart, Option.or_none]

end ThreatModel.Yaml
