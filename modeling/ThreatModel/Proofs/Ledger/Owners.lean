import Mathlib.Data.List.Basic
import Mathlib.Data.List.ModifyLast

/-!
Contract: entries of one list that several owners add to.

Owns:
- the entries of an owner, given the owner of each entry in a list of its own;
- the last place of an owner;
- that an owner who alters the entry at its last place alters the last of its own
  entries, and no entry of another owner.

Does not own: what the entries are.
-/

namespace ThreatModel

variable {γ α : Type}

/-! ## The entries of an owner -/

section Entries

variable [DecidableEq γ]

/-- The entries that belong to an owner: `owners` has the owner of each entry at the same place. -/
def ownedBy
    (owner : γ)
    (owners : List γ)
    (entries : List α) :
    List α :=
  ((owners.zip entries).filter (·.1 = owner)).map Prod.snd

variable {owner : γ} {owners : List γ} {entries : List α}

theorem ownedBy_append
    (paired : owners.length = entries.length)
    (moreOwners : List γ)
    (moreEntries : List α) :
    ownedBy owner (owners ++ moreOwners) (entries ++ moreEntries) =
      ownedBy owner owners entries ++ ownedBy owner moreOwners moreEntries := by
  simp [ownedBy, List.zip_append paired]

theorem ownedBy_cons
    (head : γ)
    (entry : α) :
    ownedBy owner (head :: owners) (entry :: entries) =
      (if head = owner then [entry] else []) ++ ownedBy owner owners entries := by
  by_cases own : head = owner
  · simp [ownedBy, own]
  · simp [ownedBy, own]

/-- Entries that all belong to one owner. -/
theorem ownedBy_replicate
    (other : γ)
    (entries : List α) :
    ownedBy owner (List.replicate entries.length other) entries =
      if other = owner then entries else [] := by
  induction entries with
  | nil => simp [ownedBy]
  | cons head rest inductionHypothesis =>
      rw [List.length_cons, List.replicate_succ, ownedBy_cons, inductionHypothesis]
      by_cases own : other = owner
      · simp [own]
      · simp [own]

theorem ownedBy_of_not_mem (absent : owner ∉ owners) : ownedBy owner owners entries = [] := by
  rw [ownedBy, List.map_eq_nil_iff, List.filter_eq_nil_iff]
  intro pair member own
  have known := (List.of_mem_zip member).1
  rw [decide_eq_true_iff] at own
  exact absent (own ▸ known)

end Entries

/-! ## The last place of an owner -/

/-- The place of the last entry that belongs to the owner, if there is one. -/
inductive LastPlace (owner : γ) : List γ → Option Nat → Prop
  | never {owners : List γ} (absent : owner ∉ owners) : LastPlace owner owners none
  | last {front back : List γ} (absent : owner ∉ back) :
      LastPlace owner (front ++ owner :: back) (some front.length)

namespace LastPlace

variable {owner : γ} {owners : List γ} {entries : List α}

/-- Entries of others do not move the last place of an owner. -/
theorem append_of_ne
    {other : γ}
    {place : Option Nat}
    (last : LastPlace owner owners place)
    (different : other ≠ owner)
    (count : Nat) :
    LastPlace owner (owners ++ List.replicate count other) place := by
  have notAdded : owner ∉ List.replicate count other := by
    intro member
    exact different (List.eq_of_mem_replicate member).symm
  cases last with
  | never absent =>
      apply never
      rw [List.mem_append, not_or]
      exact ⟨absent, notAdded⟩
  | last absent =>
      rw [List.append_assoc, List.cons_append]
      apply LastPlace.last
      rw [List.mem_append, not_or]
      exact ⟨absent, notAdded⟩

theorem append_self
    (owner : γ)
    (owners : List γ) :
    LastPlace owner (owners ++ [owner]) (some owners.length) :=
  last List.not_mem_nil

theorem lt_length
    {place : Nat}
    (last : LastPlace owner owners (some place)) :
    place < owners.length := by
  cases last with
  | last absent =>
      rw [List.length_append, List.length_cons]
      omega

/-- An owner at the end is there for the last time. -/
theorem of_getElem?
    {place : Nat}
    (isOwner : owners[place]? = some owner)
    (atEnd : place + 1 = owners.length) :
    LastPlace owner owners (some place) := by
  obtain ⟨within, found⟩ := List.getElem?_eq_some_iff.mp isOwner
  have parted : owners = owners.take place ++ [owner] := by
    rw [← found, List.take_append_getElem within, List.take_of_length_le (Nat.le_of_eq atEnd.symm)]
  have length_front : (owners.take place).length = place :=
    List.length_take_of_le (Nat.le_of_lt within)
  have last := append_self owner (owners.take place)
  rw [← parted, length_front] at last
  exact last

variable [DecidableEq γ]

/-- The entry at the last place is the last of those that the owner has. -/
theorem bind_getElem?
    {ownerOf : α → γ}
    {place : Option Nat}
    (last : LastPlace owner (entries.map ownerOf) place) :
    place.bind (entries[·]?) = (entries.filter (ownerOf · = owner)).getLast? := by
  generalize sameOwners : entries.map ownerOf = owners at last
  cases last with
  | never absent =>
      subst sameOwners
      have nothing : entries.filter (ownerOf · = owner) = [] := by
        rw [List.filter_eq_nil_iff]
        intro entry member own
        exact absent (of_decide_eq_true own ▸ List.mem_map_of_mem member)
      rw [nothing, Option.bind_none, List.getLast?_nil]
  | last absent =>
      obtain ⟨before, others, rfl, rfl, sameOthers⟩ := List.map_eq_append_iff.mp sameOwners
      obtain ⟨entry, after, rfl, own, rfl⟩ := List.map_eq_cons_iff.mp sameOthers
      have nothing : after.filter (ownerOf · = owner) = [] := by
        rw [List.filter_eq_nil_iff]
        intro later member isOwn
        exact absent (of_decide_eq_true isOwn ▸ List.mem_map_of_mem member)
      simp [own, nothing]

/-- An owner without a last place has no entries. -/
theorem ownedBy_eq_nil
    (never : LastPlace owner owners none)
    (entries : List α) :
    ownedBy owner owners entries = [] := by
  cases never with
  | never absent => exact ownedBy_of_not_mem absent

/-- To alter the entry at the last place of an owner is to alter the last entry of that owner. -/
theorem ownedBy_modify
    {place : Nat}
    (last : LastPlace owner owners (some place))
    (paired : owners.length = entries.length)
    (other : γ)
    (update : α → α) :
    ownedBy owner owners entries ≠ [] ∧
      ownedBy other owners (entries.modify place update) =
        if owner = other then (ownedBy other owners entries).modifyLast update
        else ownedBy other owners entries := by
  cases last with
  | @last ownersBefore ownersAfter absent =>
      rw [List.length_append, List.length_cons] at paired
      have within : ownersBefore.length < entries.length := by omega
      obtain ⟨before, entry, after, rfl, sameLength⟩ :
          ∃ before entry after,
            entries = before ++ entry :: after ∧ ownersBefore.length = before.length := by
        have parted := List.take_append_drop ownersBefore.length entries
        rw [List.drop_eq_getElem_cons within] at parted
        refine ⟨_, _, _, parted.symm, ?_⟩
        rw [List.length_take]
        omega
      have picked (who : γ) (chosen : α) :
          ownedBy who (ownersBefore ++ owner :: ownersAfter) (before ++ chosen :: after) =
            ownedBy who ownersBefore before ++
              ((if owner = who then [chosen] else []) ++ ownedBy who ownersAfter after) := by
        rw [ownedBy_append sameLength, ownedBy_cons]
      have altered :
          (before ++ entry :: after).modify ownersBefore.length update =
            before ++ update entry :: after := by
        rw [sameLength]
        exact List.modifyTailIdx_add (List.modifyHead update) 0 before (entry :: after)
      constructor
      · rw [picked, if_pos rfl]
        simp
      · rw [altered, picked, picked]
        by_cases own : owner = other
        · subst own
          rw [if_pos rfl, if_pos rfl, if_pos rfl, ownedBy_of_not_mem absent, List.append_nil,
            List.append_nil, List.modifyLast_concat]
        · rw [if_neg own, if_neg own, if_neg own]

end LastPlace

end ThreatModel
