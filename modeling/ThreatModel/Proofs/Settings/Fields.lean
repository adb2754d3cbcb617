import ThreatModel.Proofs.Yaml.Mapping
import ThreatModel.Settings.Field

/-!
Contract: the fields that a mapping has, and what a check of them reads and tells.

Owns:
- the fields that are there among those that are known, each with what is wrong with
  its value, and each of them by itself;
- the checks that read nothing but their fields and tell what is wrong with each of
  them, and that several such checks together are one again;
- sections, whose fields stand in a mapping of their own;
- edits of a mapping that concern none of its fields.

Does not own: which fields there are.
-/

namespace ThreatModel

open ThreatModel.Yaml (Value)

namespace Settings

/-! ## The fields that are there -/

/-- The problem that a check has, if it has one. -/
def problem? {α : Type} : Except Problem α → Option Problem
  | .ok _ => none
  | .error problem => some problem

/-- The fields that are known, in order, each with the problem that there is with a value. -/
abbrev Fields := List (String × (Value → Option Problem))

/-- A field that is there, with the problem of its value. -/
structure GivenField where
  place : List String
  value : Value
  problem? : Option Problem

def GivenField.fault? (given : GivenField) : Option Fault :=
  given.problem?.map fun problem => ⟨given.place, problem⟩

/-- The field of a section, seen from outside. -/
def GivenField.within
    (name : String)
    (given : GivenField) :
    GivenField :=
  { given with place := name :: given.place }

/-- The mapping that has one value, at `place`, and nothing else. -/
def alone : (place : List String) → Value → List (Value × Value)
  | [], _ => []
  | [name], value => [(.text name, value)]
  | name :: rest, value => [(.text name, .mapping (alone rest value))]

/-- The mapping that has this field and nothing else. -/
def GivenField.alone (given : GivenField) : List (Value × Value) :=
  Settings.alone given.place given.value

/-- The known fields that a mapping has, in the order in which they are known. -/
def givenAmong
    (fields : Fields)
    (pairs : List (Value × Value)) :
    List GivenField :=
  fields.filterMap fun field =>
    (Yaml.field? pairs field.1).map fun value => ⟨[field.1], value, field.2 value⟩

theorem faults_places (fields : List GivenField) :
    ((fields.filterMap GivenField.fault?).map Fault.place).Sublist
      (fields.map GivenField.place) := by
  induction fields with
  | nil => exact List.nil_sublist _
  | cons field rest inductionHypothesis =>
      rw [List.filterMap_cons, GivenField.fault?]
      cases field.problem? with
      | none => exact inductionHypothesis.cons _
      | some problem => exact inductionHypothesis.cons_cons _

theorem mem_givenAmong_iff
    {fields : Fields}
    {pairs : List (Value × Value)}
    {given : GivenField} :
    given ∈ givenAmong fields pairs ↔
      ∃ field ∈ fields, ∃ value, Yaml.field? pairs field.1 = some value ∧
        ⟨[field.1], value, field.2 value⟩ = given := by
  rw [givenAmong, List.mem_filterMap]
  exact exists_congr fun field => and_congr_right fun _ => Option.map_eq_some_iff

theorem givenAmong_single
    (field : String × (Value → Option Problem))
    (pairs : List (Value × Value)) :
    givenAmong [field] pairs =
      ((Yaml.field? pairs field.1).map fun value => ⟨[field.1], value, field.2 value⟩).toList := by
  rw [givenAmong, List.filterMap_cons, List.filterMap_nil]
  cases Yaml.field? pairs field.1 <;> rfl

theorem givenAmong_cons
    (field : String × (Value → Option Problem))
    (rest : Fields)
    (pairs : List (Value × Value)) :
    givenAmong (field :: rest) pairs = givenAmong [field] pairs ++ givenAmong rest pairs := by
  rw [givenAmong, givenAmong, givenAmong, ← List.filterMap_append, List.singleton_append]

theorem givenAmong_alone_of_ne
    {fields : Fields}
    {name : String}
    (apart : ∀ field ∈ fields, name ≠ field.1)
    (value : Value) :
    givenAmong fields [(.text name, value)] = [] := by
  rw [givenAmong, List.filterMap_eq_nil_iff]
  intro field isField
  have different : Value.text name ≠ .text field.1 :=
    fun equal => apart field isField (Value.text.inj equal)
  rw [Yaml.field?_alone_of_ne different, Option.map_none]

theorem givenAmong_alone
    {fields : Fields}
    (distinct : (fields.map Prod.fst).Nodup)
    {field : String × (Value → Option Problem)}
    (isField : field ∈ fields)
    (value : Value) :
    givenAmong fields [(.text field.1, value)] = [⟨[field.1], value, field.2 value⟩] := by
  induction fields with
  | nil => exact (List.not_mem_nil isField).elim
  | cons head rest inductionHypothesis =>
      rw [List.map_cons, List.nodup_cons] at distinct
      have apart : ∀ other ∈ rest, head.1 ≠ other.1 :=
        fun other isOther equal => distinct.1 (equal ▸ List.mem_map_of_mem isOther)
      rw [givenAmong_cons]
      cases isField with
      | head =>
          -- No other field has the name, so nothing is found for those behind.
          rw [givenAmong_alone_of_ne apart, givenAmong_single, Yaml.field?_alone]
          rfl
      | tail _ isLater =>
          have isNotHead : ∀ other ∈ [head], field.1 ≠ other.1 := by
            rw [List.forall_mem_singleton]
            exact (apart field isLater).symm
          rw [givenAmong_alone_of_ne isNotHead, List.nil_append,
            inductionHypothesis distinct.2 isLater]

theorem givenAmong_places
    (fields : Fields)
    (pairs : List (Value × Value)) :
    ((givenAmong fields pairs).map GivenField.place).Sublist (fields.map fun field => [field.1]) := by
  induction fields with
  | nil => exact List.nil_sublist _
  | cons field rest inductionHypothesis =>
      rw [givenAmong_cons, givenAmong_single, List.map_append, List.map_cons]
      cases Yaml.field? pairs field.1 with
      | none => exact inductionHypothesis.cons _
      | some value => exact inductionHypothesis.cons_cons _

/-! ## Checks that take each field by itself -/

/-- A check that fails tells a fault. -/
def Told {α : Type} (checked : Checked α) : Prop :=
  ∀ faults, checked = .error faults → faults ≠ []

theorem Told.exists_error_iff
    {α : Type}
    {checked : Checked α}
    (told : Told checked) :
    (∃ faults, checked = .error faults) ↔ ∃ fault, fault ∈ faultsOf checked := by
  cases checked with
  | ok value => exact ⟨nofun, fun ⟨_, isFault⟩ => (List.not_mem_nil isFault).elim⟩
  | error faults =>
      exact ⟨fun _ => List.exists_mem_of_ne_nil faults (told faults rfl), fun _ => ⟨faults, rfl⟩⟩

/-- The check reads the known fields alone, and tells the problem of each one that is there. -/
structure Fieldwise {α : Type}
    (fields : Fields)
    (check : List (Value × Value) → Checked α) : Prop where
  reads : ∀ {pairs others},
    (∀ field ∈ fields, Yaml.field? others field.1 = Yaml.field? pairs field.1) →
      check others = check pairs
  tells : ∀ pairs, faultsOf (check pairs) = (givenAmong fields pairs).filterMap GivenField.fault?
  told : ∀ pairs, Told (check pairs)

theorem faultsOf_join
    {α β γ : Type}
    (combine : α → β → γ)
    (left : Checked α)
    (right : Checked β) :
    faultsOf (join combine left right) = faultsOf left ++ faultsOf right := by
  cases left <;> cases right <;> rfl

theorem Told.join
    {α β γ : Type}
    {combine : α → β → γ}
    {left : Checked α}
    {right : Checked β}
    (leftTold : Told left)
    (rightTold : Told right) :
    Told (join combine left right) := by
  cases left with
  | ok _ =>
      cases right with
      | ok _ => exact nofun
      | error rights =>
          rintro _ ⟨⟩
          exact rightTold rights rfl
  | error lefts =>
      rintro _ ⟨⟩
      exact List.append_ne_nil_of_left_ne_nil (leftTold lefts rfl) _

theorem field_congr
    {α : Type}
    {pairs others : List (Value × Value)}
    {name : String}
    (same : Yaml.field? others name = Yaml.field? pairs name)
    (usual : α)
    (check : Value → Except Problem α) :
    field others name usual check = field pairs name usual check := by
  rw [field, field, same]

/-- A single field is checked by itself. -/
theorem Fieldwise.ofField {α : Type}
    (name : String)
    (usual : α)
    (check : Value → Except Problem α) :
    Fieldwise [(name, fun value => problem? (check value))]
      fun pairs => field pairs name usual check where
  reads := fun same => field_congr (same _ List.mem_cons_self) usual check
  tells := by
    intro pairs
    rw [field, givenAmong_single]
    cases Yaml.field? pairs name with
    | none => rfl
    | some value =>
        dsimp only [Option.map_some, Option.toList_some]
        cases check value <;> rfl
  told := by
    intro pairs
    rw [field]
    cases Yaml.field? pairs name with
    | none => exact nofun
    | some value =>
        dsimp only
        cases check value with
        | ok _ => exact nofun
        | error problem =>
            rintro _ ⟨⟩
            exact List.cons_ne_nil _ _

theorem Fieldwise.ofJoin
    {α β γ : Type}
    {left right : Fields}
    {leftCheck : List (Value × Value) → Checked α}
    {rightCheck : List (Value × Value) → Checked β}
    (combine : α → β → γ)
    (ofLeft : Fieldwise left leftCheck)
    (ofRight : Fieldwise right rightCheck) :
    Fieldwise (left ++ right) fun pairs => join combine (leftCheck pairs) (rightCheck pairs) where
  reads := by
    intro pairs others same
    rw [List.forall_mem_append] at same
    rw [ofLeft.reads same.1, ofRight.reads same.2]
  tells := by
    intro pairs
    rw [faultsOf_join, ofLeft.tells, ofRight.tells, ← List.filterMap_append, givenAmong, givenAmong,
      givenAmong, ← List.filterMap_append]
  told := fun pairs => (ofLeft.told pairs).join (ofRight.told pairs)

/-! ## Sections -/

/-- A field whose value has fields of its own. -/
structure Section where
  name : String
  kind : String
  fields : Fields

/-- The fields of a section with this value. A value that is no mapping has none, and is what is
wrong itself. -/
def Section.ofValue (part : Section) : Value → List GivenField
  | .mapping inner => (givenAmong part.fields inner).map (GivenField.within part.name)
  | value => [⟨[part.name], value, some (.notSection part.kind)⟩]

/-- The fields of a section, if it is there. -/
def Section.given
    (part : Section)
    (pairs : List (Value × Value)) :
    List GivenField :=
  match Yaml.field? pairs part.name with
  | none => []
  | some value => part.ofValue value

/-- The places at which there can be something in a section, in order. -/
def Section.places (part : Section) : List (List String) :=
  [part.name] :: part.fields.map fun field => [part.name, field.1]

theorem Section.given_places
    (part : Section)
    (pairs : List (Value × Value)) :
    ((part.given pairs).map GivenField.place).Sublist part.places := by
  rw [given]
  cases Yaml.field? pairs part.name with
  | none => exact List.nil_sublist _
  | some value =>
      cases value with
      | mapping inner =>
          have inOrder := (givenAmong_places part.fields inner).map (part.name :: ·)
          rw [List.map_map, List.map_map] at inOrder
          dsimp only
          rw [ofValue, List.map_map]
          exact inOrder.cons _
      | _ => exact (List.nil_sublist _).cons_cons _

theorem filterMap_fault?_within (name : String) (fields : List GivenField) :
    (fields.map (GivenField.within name)).filterMap GivenField.fault? =
      (fields.filterMap GivenField.fault?).map fun fault =>
        { fault with place := name :: fault.place } := by
  rw [List.filterMap_map, List.map_filterMap]
  congr 1
  funext given
  rw [Function.comp_apply, GivenField.fault?, GivenField.fault?, Option.map_map]
  rfl

theorem Section.mem_given_iff
    {part : Section}
    {pairs : List (Value × Value)}
    {field : GivenField} :
    field ∈ part.given pairs ↔
      ∃ value, Yaml.field? pairs part.name = some value ∧ field ∈ part.ofValue value := by
  rw [given]
  cases Yaml.field? pairs part.name with
  | none => exact ⟨fun isGiven => (List.not_mem_nil isGiven).elim, nofun⟩
  | some value =>
      constructor
      · exact fun isGiven => ⟨value, rfl, isGiven⟩
      · rintro ⟨_, ⟨⟩, isGiven⟩
        exact isGiven

theorem Section.given_single
    (part : Section)
    (value : Value) :
    part.given [(.text part.name, value)] = part.ofValue value := by
  rw [given, Yaml.field?_alone]

/-- By itself, a field of a section comes with its section. -/
theorem Section.exists_alone
    {part : Section}
    (distinct : (part.fields.map Prod.fst).Nodup)
    {pairs : List (Value × Value)}
    {field : GivenField}
    (isGiven : field ∈ part.given pairs) :
    ∃ value, field.alone = [(.text part.name, value)] ∧ part.ofValue value = [field] := by
  obtain ⟨value, -, inSection⟩ := mem_given_iff.mp isGiven
  cases value with
  | mapping inner =>
      obtain ⟨inside, isInside, rfl⟩ := List.mem_map.mp inSection
      obtain ⟨known, isKnown, value, -, rfl⟩ := mem_givenAmong_iff.mp isInside
      refine ⟨.mapping [(.text known.1, value)], rfl, ?_⟩
      rw [ofValue, givenAmong_alone distinct isKnown, List.map_singleton]
  | _ =>
      rw [ofValue, List.mem_singleton] at inSection
      · rw [inSection]
        exact ⟨_, rfl, rfl⟩
      · exact nofun

section Group

variable
  {α : Type}
  {check : List (Value × Value) → Checked α}
  {part : Section}

theorem Section.tells
    (checked : Fieldwise part.fields check)
    (usual : α)
    (pairs : List (Value × Value)) :
    faultsOf (group pairs part.name part.kind usual check) =
      (part.given pairs).filterMap GivenField.fault? := by
  rw [group, given]
  cases Yaml.field? pairs part.name with
  | none => rfl
  | some value =>
      cases value with
      | mapping inner =>
          dsimp only
          rw [ofValue, filterMap_fault?_within, ← checked.tells]
          cases check inner <;> rfl
      | _ => rfl

theorem Section.told
    (checked : Fieldwise part.fields check)
    (usual : α)
    (pairs : List (Value × Value)) :
    Told (group pairs part.name part.kind usual check) := by
  rw [group]
  cases Yaml.field? pairs part.name with
  | none => exact nofun
  | some value =>
      cases value with
      | mapping inner =>
          have told := checked.told inner
          dsimp only
          cases outcome : check inner with
          | ok _ => exact nofun
          | error faults =>
              rintro _ ⟨⟩
              rw [Ne, List.map_eq_nil_iff]
              exact told faults outcome
      | _ =>
          rintro _ ⟨⟩
          exact List.cons_ne_nil _ _

theorem group_congr
    {pairs others : List (Value × Value)}
    {name : String}
    (same : Yaml.field? others name = Yaml.field? pairs name)
    (kind : String)
    (usual : α) :
    group others name kind usual check = group pairs name kind usual check := by
  rw [group, group, same]

/-- A section is checked for what its mapping is checked for, wherever it stands. -/
theorem group_inside
    {name : String}
    {inner other : List (Value × Value)}
    (same : name = part.name → check other = check inner)
    (usual : α)
    (front back : List (Value × Value)) :
    group (front ++ (.text name, .mapping other) :: back) part.name part.kind usual check =
      group (front ++ (.text name, .mapping inner) :: back) part.name part.kind usual check := by
  rw [group, group, Yaml.field?_append, Yaml.field?_append, Yaml.field?_cons,
    Yaml.field?_cons (.text name, .mapping inner)]
  cases Yaml.field? back part.name with
  -- The last pair with the name counts, and it stands behind the edited one.
  | some later => rfl
  | none =>
      by_cases isName : name = part.name
      · rw [isName, Yaml.field?_alone, Yaml.field?_alone]
        simp only [Option.none_or, Option.some_or]
        rw [same isName]
      · have apart : Value.text name ≠ .text part.name :=
          fun equal => isName (Value.text.inj equal)
        rw [Yaml.field?_alone_of_ne apart, Yaml.field?_alone_of_ne apart]

end Group

/-! ## Edits that no check sees -/

/-- One edit of a mapping in which the fields `names` are known: its keys are brought into another
order, or another key comes in. -/
inductive MappingEdit (names : List String) :
    (pairs others : List (Value × Value)) → Prop where
  | reorder {pairs others : List (Value × Value)}
      (distinct : (Yaml.keyNames pairs).Nodup)
      (permutation : pairs.Perm others) :
      MappingEdit names pairs others
  | extend (front back : List (Value × Value))
      {key : Value}
      (unknown : ∀ name ∈ names, key.name? ≠ some name)
      (value : Value) :
      MappingEdit names (front ++ back) (front ++ (key, value) :: back)

theorem MappingEdit.field?_eq
    {names : List String}
    {pairs others : List (Value × Value)}
    (edit : MappingEdit names pairs others)
    {name : String}
    (known : name ∈ names) :
    Yaml.field? others name = Yaml.field? pairs name := by
  cases edit with
  | reorder distinct permutation => exact Yaml.field?_of_perm distinct permutation name
  | extend front back unknown value =>
      have apart := mt Value.name?_eq_some_iff.mpr (unknown name known)
      exact Yaml.field?_insert front back apart value

theorem Fieldwise.ofEdit
    {α : Type}
    {fields : Fields}
    {check : List (Value × Value) → Checked α}
    (checked : Fieldwise fields check)
    {pairs others : List (Value × Value)}
    (edit : MappingEdit (fields.map Prod.fst) pairs others) :
    check others = check pairs :=
  checked.reads fun _ isField => edit.field?_eq (List.mem_map_of_mem isField)

end Settings

end ThreatModel
