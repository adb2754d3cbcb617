import ThreatModel.Proofs.Files.Frame

/-!
Contract: what is written stays within given places.

Owns:
- the place that a path names, read off the path and the working folder alone;
- trees whose files are the same but for those at given places;
- that a file is written where its path says, and that the making of folders writes no
  file.

Does not own: which paths are written to.
-/

namespace ThreatModel

open ThreatModel.Files

/-! ## The place of a path -/

/-- Where parts lead; two dots lead to the folder above, whatever is there. -/
def arrival (place parts : List String) : List String :=
  parts.foldl (fun place part => if part = ".." then place.dropLast else place ++ [part]) place

namespace Tree

def destination
    (tree : Tree)
    (path : String) :
    List String :=
  let name := Pathname.ofText path
  arrival (if name.root = "" then tree.working else []) name.parts

theorem destination_normalPath
    (tree : Tree)
    (path : String) :
    tree.destination (normalPath path) = tree.destination path := by
  rw [destination, Pathname.ofText_normalPath, destination]

theorem arrival_of_follow
    {tree : Tree}
    {place found parts : List String}
    (leads : tree.follow place parts = .ok found) :
    found = arrival place parts := by
  induction parts generalizing place with
  | nil => exact (Except.ok.inj leads).symm
  | cons part rest inductionHypothesis =>
      rw [follow, enter] at leads
      cases there : tree.object? place with
      | none =>
          rw [there] at leads
          cases leads
      | some object =>
          rw [there] at leads
          cases object with
          | folder => exact inductionHypothesis leads
          | file octets => cases leads

theorem destination_of_place?
    {tree : Tree}
    {path : String}
    {place : List String}
    (located : tree.place? path = .ok place) :
    place = tree.destination path :=
  arrival_of_follow (follow_of_place? located)

/-! ## Trees but for files at places -/

/-- Only files at the places are new or hold something else. -/
structure WritesOnly
    (places : List (List String))
    (before after : Tree) :
    Prop where
  working_eq : after.working = before.working
  files_eq : ∀ parts, parts ∉ places → after.files.get? parts = before.files.get? parts

namespace WritesOnly

variable {places : List (List String)} {before between after : Tree}

theorem refl (places : List (List String)) (tree : Tree) : WritesOnly places tree tree :=
  ⟨rfl, fun _ _ => rfl⟩

theorem trans
    (first : WritesOnly places before between)
    (second : WritesOnly places between after) :
    WritesOnly places before after where
  working_eq := second.working_eq.trans first.working_eq
  files_eq parts apart := (second.files_eq parts apart).trans (first.files_eq parts apart)

theorem mono
    (writes : WritesOnly places before after)
    {more : List (List String)}
    (among : places ⊆ more) :
    WritesOnly more before after where
  working_eq := writes.working_eq
  files_eq parts apart := writes.files_eq parts fun member => apart (among member)

theorem destination_eq
    (writes : WritesOnly places before after)
    (path : String) :
    after.destination path = before.destination path := by
  rw [destination, destination, writes.working_eq]

end WritesOnly

/-! ## Writing and making -/

variable {tree made : Tree} {path : String}

theorem writesOnly_writeOctets
    {octets : List UInt8}
    (written : tree.writeOctets path octets = .ok made) :
    WritesOnly [tree.destination path] tree made := by
  unfold writeOctets at written
  cases located : tree.place? path with
  | error cause =>
      rw [located] at written
      cases written
  | ok place =>
      rw [located] at written
      dsimp only at written
      have inserted : { tree with files := tree.files.insert place octets } = made := by
        split at written
        · cases written
        · split at written
          · cases written
          · exact Except.ok.inj written
      rw [← inserted, ← destination_of_place? located]
      refine ⟨rfl, fun parts apart => ?_⟩
      rw [OrderedMap.get?_insert, if_neg (mt List.mem_singleton.mpr apart)]

theorem writesOnly_makeFolder (isMade : tree.makeFolder path = .ok made) :
    WritesOnly [] tree made := by
  unfold makeFolder at isMade
  split at isMade
  · cases isMade
  · split at isMade
    · cases isMade
    · obtain rfl := Except.ok.inj isMade
      exact ⟨rfl, fun _ _ => rfl⟩

theorem writesOnly_ensureFolder (isMade : tree.ensureFolder path = .ok made) :
    WritesOnly [] tree made := by
  unfold ensureFolder at isMade
  split at isMade
  · next makes =>
      obtain rfl := Except.ok.inj isMade
      exact writesOnly_makeFolder makes
  · split at isMade
    · obtain rfl := Except.ok.inj isMade
      exact .refl [] tree
    · cases isMade

theorem writesOnly_makeFoldersFrom
    {root : String}
    {reversed : List String}
    (isMade : tree.makeFoldersFrom root reversed = .ok made) :
    WritesOnly [] tree made := by
  induction reversed generalizing made with
  | nil =>
      obtain rfl := Except.ok.inj isMade
      exact .refl [] tree
  | cons last before inductionHypothesis =>
      rw [makeFoldersFrom_cons] at isMade
      split at isMade
      · split at isMade
        · cases isMade
        · next parents makes =>
            exact (inductionHypothesis makes).trans (writesOnly_ensureFolder isMade)
      · exact writesOnly_ensureFolder isMade

theorem writesOnly_makeEach
    {paths : List String}
    (isMade : tree.makeEach paths = .ok made) :
    WritesOnly [] tree made := by
  induction paths generalizing tree with
  | nil =>
      obtain rfl := Except.ok.inj isMade
      exact .refl [] tree
  | cons path rest inductionHypothesis =>
      rw [makeEach] at isMade
      split at isMade
      · next makes => exact (writesOnly_makeFolder makes).trans (inductionHypothesis isMade)
      · by_cases isFine : (if rest.isEmpty then tree.isFolder path else tree.isThere path) = true
        · rw [if_pos isFine] at isMade
          exact inductionHypothesis isMade
        · rw [if_neg isFine] at isMade
          cases isMade

end Tree

end ThreatModel
