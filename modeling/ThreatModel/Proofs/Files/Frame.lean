import ThreatModel.Files.Change
import ThreatModel.Proofs.Files.Pathname

/-!
Contract: a file has no part in the use of paths that do not pass it.

Owns:
- the places on the way of a path, be they there or not;
- the folders that paths name, in which no file has a part at all;
- trees that are the same but for the file at one place: paths that do not pass the
  place name the same things in both, and what is written to them is written in both;
- that such trees stay the same but for that file, and have the same changes.

Does not own: what is written.
-/

namespace ThreatModel

open ThreatModel.Files

/-! ## Ways -/

/-- The places on the way along parts, from the first one to the last one. -/
def passed (place : List String) : List String → List (List String)
  | [] => [place]
  | part :: rest =>
      place :: passed (if part = ".." then place.dropLast else place ++ [part]) rest

theorem passed_subset_append (place front back : List String) :
    passed place front ⊆ passed place (front ++ back) := by
  induction front generalizing place with
  | nil =>
      have isFirst : place ∈ passed place back := by
        cases back <;> exact List.mem_cons_self
      rw [passed, List.nil_append]
      exact List.cons_subset.mpr ⟨isFirst, List.nil_subset _⟩
  | cons part rest inductionHypothesis =>
      rw [List.cons_append, passed, passed]
      exact List.cons_subset_cons place (inductionHypothesis _)

def Pathname.way
    (name : Pathname)
    (working : List String) :
    List (List String) :=
  passed (if name.root = "" then working else []) name.parts

theorem Pathname.way_parent_subset
    (name : Pathname)
    (working : List String) :
    name.parent.way working ⊆ name.way working := by
  obtain ⟨later, parts⟩ := name.parts.dropLast_prefix
  have whole : name.way working =
      passed (if name.root = "" then working else []) (name.parts.dropLast ++ later) := by
    rw [way, parts]
  rw [whole]
  exact passed_subset_append _ _ _

/-- The places on the way of a path, the folder that it starts from and what it names included. -/
def Tree.way
    (tree : Tree)
    (path : String) :
    List (List String) :=
  (Pathname.ofText path).way tree.working

namespace Tree

theorem way_normalPath
    (tree : Tree)
    (path : String) :
    tree.way (normalPath path) = tree.way path := by
  rw [way, Pathname.ofText_normalPath, way]

theorem way_subset_of_startsPath
    (tree : Tree)
    {start path : String}
    (starts : Pathname.StartsPath start.toList path.toList) :
    tree.way start ⊆ tree.way path := by
  obtain ⟨sameRoot, later, parts⟩ := starts.exists_parts
  simp only [way, Pathname.way, Pathname.ofText, sameRoot, parts]
  exact passed_subset_append _ _ _

theorem mem_passed_of_follow
    {tree : Tree}
    {place found parts : List String}
    (leads : tree.follow place parts = .ok found) :
    found ∈ passed place parts := by
  induction parts generalizing place with
  | nil =>
      cases leads
      exact List.mem_singleton_self _
  | cons part rest inductionHypothesis =>
      rw [follow, enter] at leads
      cases there : tree.object? place with
      | none =>
          rw [there] at leads
          cases leads
      | some object =>
          rw [there] at leads
          cases object with
          | folder => exact List.mem_cons_of_mem place (inductionHypothesis leads)
          | file octets => cases leads

/-- A path names the place that its parts lead to. -/
theorem follow_of_place?
    {tree : Tree}
    {path : String}
    {place : List String}
    (located : tree.place? path = .ok place) :
    tree.follow (if (Pathname.ofText path).root = "" then tree.working else [])
      (Pathname.ofText path).parts = .ok place := by
  unfold place? at located
  by_cases isEmpty : path = ""
  · rw [if_pos isEmpty] at located
    cases located
  · rw [if_neg isEmpty] at located
    dsimp only at located
    split at located
    · cases located
    · next found leads =>
        have isFound : found = place := by
          split at located
          · split at located
            · cases located
            · exact Except.ok.inj located
          · exact Except.ok.inj located
        rw [← isFound]
        exact leads

theorem mem_way_of_place?
    {tree : Tree}
    {path : String}
    {place : List String}
    (located : tree.place? path = .ok place) :
    place ∈ tree.way path :=
  mem_passed_of_follow (follow_of_place? located)

/-! ## Folders -/

theorem object?_eq_folder_iff
    {tree : Tree}
    {parts : List String} :
    tree.object? parts = some .folder ↔ tree.hasFolder parts = true := by
  rw [object?]
  by_cases isFolder : tree.hasFolder parts = true
  · rw [if_pos isFolder]
    exact iff_of_true rfl isFolder
  · rw [if_neg isFolder]
    cases tree.files.get? parts <;> exact iff_of_false nofun isFolder

theorem enter_eq_ok_iff
    {tree : Tree}
    {place next : List String}
    {part : String} :
    tree.enter place part = .ok next ↔
      tree.hasFolder place = true ∧
        (if part = ".." then place.dropLast else place ++ [part]) = next := by
  rw [enter, ← object?_eq_folder_iff]
  cases tree.object? place with
  | none => exact ⟨nofun, nofun⟩
  | some object =>
      cases object with
      | folder => rw [Except.ok.injEq, and_iff_right rfl]
      | file octets => exact ⟨nofun, nofun⟩

/-- A path names a folder just if its parts lead to one. Files have no say in that. -/
theorem isFolder_iff
    {tree : Tree}
    {path : String} :
    tree.isFolder path = true ↔
      path ≠ "" ∧ ∃ found,
        tree.follow (if (Pathname.ofText path).root = "" then tree.working else [])
            (Pathname.ofText path).parts = .ok found ∧
          tree.hasFolder found = true := by
  rw [Tree.isFolder, look]
  constructor
  · intro isFolder
    cases located : tree.place? path with
    | error cause =>
        rw [located] at isFolder
        cases isFolder
    | ok found =>
        rw [located] at isFolder
        dsimp only at isFolder
        have inhabited : path ≠ "" := by
          rintro rfl
          cases located
        cases there : tree.object? found with
        | none =>
            rw [there] at isFolder
            cases isFolder
        | some object =>
            cases object with
            | folder =>
                exact ⟨inhabited, found, follow_of_place? located, object?_eq_folder_iff.mp there⟩
            | file octets =>
                rw [there] at isFolder
                cases isFolder
  · rintro ⟨inhabited, found, leads, isFolder⟩
    have there := object?_eq_folder_iff.mpr isFolder
    have located : tree.place? path = .ok found := by
      rw [place?, if_neg inhabited]
      dsimp only
      rw [leads]
      dsimp only
      rw [there]
    rw [located]
    dsimp only
    rw [there]

/-- What leads on from folder to folder leads on in every tree that has the folders. -/
theorem follow_of_folders_eq
    {tree other : Tree}
    (folders : tree.folders = other.folders)
    {start parts found : List String}
    (leads : tree.follow start parts = .ok found) :
    other.follow start parts = .ok found := by
  induction parts generalizing start with
  | nil => exact leads
  | cons part rest inductionHypothesis =>
      rw [follow] at leads ⊢
      cases entered : tree.enter start part with
      | error cause =>
          rw [entered] at leads
          cases leads
      | ok next =>
          rw [entered] at leads
          have otherEntered : other.enter start part = .ok next := by
            rw [enter_eq_ok_iff, hasFolder, folders] at entered
            rw [enter_eq_ok_iff, hasFolder]
            exact entered
          rw [otherEntered]
          exact inductionHypothesis leads

theorem isFolder_of_folders_eq
    {tree other : Tree}
    (folders : tree.folders = other.folders)
    (working : tree.working = other.working)
    {path : String}
    (isFolder : tree.isFolder path = true) :
    other.isFolder path = true := by
  rw [isFolder_iff, working] at isFolder
  obtain ⟨inhabited, found, leads, isFound⟩ := isFolder
  rw [hasFolder, folders] at isFound
  exact isFolder_iff.mpr ⟨inhabited, found, follow_of_folders_eq folders leads, isFound⟩

/-! ## Trees but for one file -/

/-- The trees have the same folders, and the same files everywhere but at the place. -/
structure SameBut
    (place : List String)
    (tree other : Tree) :
    Prop where
  folders_eq : tree.folders = other.folders
  working_eq : tree.working = other.working
  files_eq : ∀ parts, parts ≠ place → tree.files.get? parts = other.files.get? parts

namespace SameBut

variable {place : List String} {tree other : Tree}

theorem object?_eq
    (same : SameBut place tree other)
    {parts : List String}
    (apart : parts ≠ place) :
    tree.object? parts = other.object? parts := by
  rw [object?, object?, hasFolder, hasFolder, same.folders_eq, same.files_eq parts apart]

theorem follow_eq
    (same : SameBut place tree other)
    {start parts : List String}
    (unpassed : place ∉ passed start parts) :
    tree.follow start parts = other.follow start parts := by
  induction parts generalizing start with
  | nil => rfl
  | cons part rest inductionHypothesis =>
      rw [passed, List.mem_cons, not_or] at unpassed
      rw [follow, follow, enter, enter, same.object?_eq (Ne.symm unpassed.1)]
      cases other.object? start with
      | none => rfl
      | some object =>
          cases object with
          | folder => exact inductionHypothesis unpassed.2
          | file octets => rfl

variable {path : String}

theorem place?_eq
    (same : SameBut place tree other)
    (unpassed : place ∉ tree.way path) :
    tree.place? path = other.place? path := by
  have sameFollow := same.follow_eq unpassed
  unfold place?
  dsimp only
  rw [← same.working_eq, ← sameFollow]
  cases leads : tree.follow (if (Pathname.ofText path).root = "" then tree.working else [])
      (Pathname.ofText path).parts with
  | error cause => rfl
  | ok found =>
      have apart : found ≠ place := fun isPlace =>
        unpassed (isPlace ▸ mem_passed_of_follow leads)
      dsimp only
      rw [same.object?_eq apart]

theorem look_eq
    (same : SameBut place tree other)
    (unpassed : place ∉ tree.way path) :
    tree.look path = other.look path := by
  rw [look, look, ← same.place?_eq unpassed]
  cases located : tree.place? path with
  | error cause => rfl
  | ok found =>
      have apart : found ≠ place := fun isPlace =>
        unpassed (isPlace ▸ mem_way_of_place? located)
      dsimp only
      rw [same.object?_eq apart]

theorem isThere_eq
    (same : SameBut place tree other)
    (unpassed : place ∉ tree.way path) :
    tree.isThere path = other.isThere path := by
  rw [isThere, isThere, same.look_eq unpassed]

/-- Whether a path names a folder is the same, be the file on its way or not. -/
theorem isFolder_eq
    (same : SameBut place tree other)
    (path : String) :
    tree.isFolder path = other.isFolder path :=
  Bool.eq_iff_iff.mpr
    ⟨isFolder_of_folders_eq same.folders_eq same.working_eq,
      isFolder_of_folders_eq same.folders_eq.symm same.working_eq.symm⟩

theorem readOctets_eq
    (same : SameBut place tree other)
    (unpassed : place ∉ tree.way path) :
    tree.readOctets path = other.readOctets path := by
  rw [readOctets, readOctets, same.look_eq unpassed]

end SameBut

/-! ## What is done to both trees -/

/-- The trees are the same but for the file at the place, and this file is in each of them what it
was at the start. -/
structure StillSameBut
    (place : List String)
    (start otherStart tree other : Tree) :
    Prop
    extends SameBut place tree other where
  stays : tree.working = start.working
  kept : tree.files.get? place = start.files.get? place
  otherKept : other.files.get? place = otherStart.files.get? place

/-- Makes a folder that may be there already. -/
def ensureFolder
    (tree : Tree)
    (path : String) :
    Except Fault Tree :=
  match tree.makeFolder path with
  | .ok made => .ok made
  | .error cause => if tree.isFolder path then .ok tree else .error ⟨cause, path⟩

theorem makeFoldersFrom_cons
    (tree : Tree)
    (root last : String)
    (before : List String) :
    tree.makeFoldersFrom root (last :: before) =
      match tree.makeFolder (Pathname.mk root (before.reverse ++ [last])).text with
      | .error .notFound =>
          match tree.makeFoldersFrom root before with
          | .error fault => .error fault
          | .ok made => made.ensureFolder (Pathname.mk root (before.reverse ++ [last])).text
      | _ => tree.ensureFolder (Pathname.mk root (before.reverse ++ [last])).text :=
  rfl

/-- Both fail with the same fault, or they come to related trees. -/
inductive Alike
    {ε : Type}
    (related : Tree → Tree → Prop) :
    (result other : Except ε Tree) → Prop where
  | error (fault : ε) : Alike related (.error fault) (.error fault)
  | ok {tree other : Tree} (relates : related tree other) : Alike related (.ok tree) (.ok other)

theorem SameBut.still
    {place : List String}
    {tree other : Tree}
    (same : SameBut place tree other) :
    StillSameBut place tree other tree other :=
  { same with stays := rfl, kept := rfl, otherKept := rfl }

namespace StillSameBut

variable {place : List String} {start otherStart tree other : Tree}

theorem way_eq
    (still : StillSameBut place start otherStart tree other)
    (path : String) :
    tree.way path = start.way path := by
  rw [way, way, still.stays]

theorem insert
    (still : StillSameBut place start otherStart tree other)
    {parts : List String}
    (apart : parts ≠ place)
    (octets : List UInt8) :
    StillSameBut place start otherStart
      { tree with files := tree.files.insert parts octets }
      { other with files := other.files.insert parts octets } where
  folders_eq := still.folders_eq
  working_eq := still.working_eq
  files_eq others notPlace := by
    simp only [OrderedMap.get?_insert, still.files_eq others notPlace]
  stays := still.stays
  kept := by simp only [OrderedMap.get?_insert, if_neg apart.symm, still.kept]
  otherKept := by simp only [OrderedMap.get?_insert, if_neg apart.symm, still.otherKept]

theorem addFolder
    (still : StillSameBut place start otherStart tree other)
    (parts : List String) :
    StillSameBut place start otherStart
      { tree with folders := tree.folders ++ [parts] }
      { other with folders := other.folders ++ [parts] } :=
  { still with folders_eq := congrArg (· ++ [parts]) still.folders_eq }

variable {path : String}

theorem writeOctets
    (still : StillSameBut place start otherStart tree other)
    (unpassed : place ∉ start.way path)
    (octets : List UInt8) :
    Alike (StillSameBut place start otherStart)
      (tree.writeOctets path octets) (other.writeOctets path octets) := by
  rw [← still.way_eq] at unpassed
  rw [Tree.writeOctets, Tree.writeOctets, ← still.place?_eq unpassed]
  cases located : tree.place? path with
  | error cause => exact .error _
  | ok found =>
      have apart : found ≠ place := fun isPlace =>
        unpassed (isPlace ▸ mem_way_of_place? located)
      dsimp only
      rw [still.object?_eq apart]
      cases other.object? found with
      | none =>
          by_cases endsInSlash : path.endsWith "/" = true
          · simp only [Option.isNone_none, endsInSlash, Bool.and_self, if_true]
            exact .error _
          · simp only [Option.isNone_none, endsInSlash, Bool.and_false, Bool.false_eq_true, if_false]
            exact .ok (still.insert apart octets)
      | some object =>
          cases object with
          | folder => exact .error _
          | file held => exact .ok (still.insert apart octets)

theorem writeNormal
    (still : StillSameBut place start otherStart tree other)
    (unpassed : place ∉ start.way path)
    (text : String) :
    Alike (StillSameBut place start otherStart)
      (tree.writeText (normalPath path) text) (other.writeText (normalPath path) text) := by
  rw [← start.way_normalPath] at unpassed
  exact still.writeOctets unpassed _

theorem makeFolder
    (still : StillSameBut place start otherStart tree other)
    (unpassed : place ∉ start.way path) :
    Alike (StillSameBut place start otherStart) (tree.makeFolder path) (other.makeFolder path) := by
  rw [← still.way_eq] at unpassed
  rw [Tree.makeFolder, Tree.makeFolder, ← still.place?_eq unpassed]
  cases located : tree.place? path with
  | error cause => exact .error _
  | ok found =>
      have apart : found ≠ place := fun isPlace =>
        unpassed (isPlace ▸ mem_way_of_place? located)
      dsimp only
      rw [still.object?_eq apart]
      cases other.object? found with
      | none => exact .ok (still.addFolder found)
      | some object => exact .error _

theorem ensureFolder
    (still : StillSameBut place start otherStart tree other)
    (unpassed : place ∉ start.way path) :
    Alike (StillSameBut place start otherStart)
      (tree.ensureFolder path) (other.ensureFolder path) := by
  have made := still.makeFolder unpassed
  rw [Tree.ensureFolder, Tree.ensureFolder, still.isFolder_eq path]
  generalize tree.makeFolder path = result, other.makeFolder path = otherResult at made
  cases made with
  | ok relates => exact .ok relates
  | error cause =>
      by_cases isThere : other.isFolder path = true
      · simp only [isThere, if_true]
        exact .ok still
      · simp only [isThere, Bool.false_eq_true, if_false]
        exact .error _

/-- The ways of the folders are starts of the way of the last one. -/
theorem makeFoldersFrom
    (still : StillSameBut place start otherStart tree other)
    {root : String}
    {reversed : List String}
    (isNormal : Pathname.IsNormal ⟨root, reversed.reverse⟩)
    (unpassed : place ∉ Pathname.way ⟨root, reversed.reverse⟩ start.working) :
    Alike (StillSameBut place start otherStart)
      (tree.makeFoldersFrom root reversed) (other.makeFoldersFrom root reversed) := by
  induction reversed with
  | nil => exact .ok still
  | cons last before inductionHypothesis =>
      rw [List.reverse_cons] at isNormal unpassed
      have madeBefore := inductionHypothesis isNormal.of_append fun passes =>
        unpassed (passed_subset_append _ _ _ passes)
      have unpassedText :
          place ∉ start.way (Pathname.mk root (before.reverse ++ [last])).text := by
        rw [way, isNormal.ofText_text]
        exact unpassed
      have made := still.makeFolder unpassedText
      have ensured := still.ensureFolder unpassedText
      rw [makeFoldersFrom_cons, makeFoldersFrom_cons]
      generalize (Pathname.mk root (before.reverse ++ [last])).text = path at *
      generalize tree.makeFolder path = result, other.makeFolder path = otherResult at made
      cases made with
      | ok relates => exact ensured
      | error cause =>
          cases cause with
          | notFound =>
              generalize tree.makeFoldersFrom root before = result,
                other.makeFoldersFrom root before = otherResult at madeBefore
              cases madeBefore with
              | error fault => exact .error fault
              | ok relates => exact relates.ensureFolder unpassedText
          | «exists» => exact ensured
          | notFolder => exact ensured
          | isFolder => exact ensured

theorem makeFolders
    (still : StillSameBut place start otherStart tree other)
    {name : Pathname}
    (isNormal : name.IsNormal)
    (unpassed : place ∉ name.way start.working) :
    Alike (StillSameBut place start otherStart) (tree.makeFolders name) (other.makeFolders name) := by
  rw [Tree.makeFolders, Tree.makeFolders]
  apply still.makeFoldersFrom
  · rw [List.reverse_reverse]
    exact isNormal
  · rw [List.reverse_reverse]
    exact unpassed

theorem makeEach
    (still : StillSameBut place start otherStart tree other)
    {paths : List String}
    (unpassed : ∀ path ∈ paths, place ∉ start.way path) :
    Alike (StillSameBut place start otherStart) (tree.makeEach paths) (other.makeEach paths) := by
  induction paths generalizing tree other with
  | nil => exact .ok still
  | cons path rest inductionHypothesis =>
      rw [List.forall_mem_cons] at unpassed
      have made := still.makeFolder unpassed.1
      have here := unpassed.1
      rw [← still.way_eq] at here
      rw [Tree.makeEach, Tree.makeEach, still.isFolder_eq path, still.isThere_eq here]
      generalize tree.makeFolder path = result, other.makeFolder path = otherResult at made
      cases made with
      | ok relates => exact inductionHypothesis relates unpassed.2
      | error cause =>
          dsimp only
          by_cases isFine : (if rest.isEmpty then other.isFolder path else other.isThere path) = true
          · rw [if_pos isFine, if_pos isFine]
            exact inductionHypothesis still unpassed.2
          · rw [if_neg isFine, if_neg isFine]
            exact .error _

end StillSameBut

/-! ## Changes -/

theorem mem_changes_iff {before after : Tree} {change : Change} :
    change ∈ before.changes after ↔
      after.files.get? change.parts = some change.octets ∧
        before.files.get? change.parts ≠ some change.octets := by
  obtain ⟨parts, octets⟩ := change
  simp only [changes, List.mem_mergeSort, List.mem_map, List.mem_filter, holds, Change.mk.injEq,
    Prod.exists, OrderedMap.get?_eq_some_iff, Bool.not_eq_true', decide_eq_false_iff_not, ne_eq]
  constructor
  · rintro ⟨_, _, ⟨member, isChanged⟩, rfl, rfl⟩
    exact ⟨member, isChanged⟩
  · rintro ⟨member, isChanged⟩
    exact ⟨parts, octets, ⟨member, isChanged⟩, rfl, rfl⟩

/-- The file at the place is no change, and all others are the same. -/
theorem StillSameBut.mem_changes_iff
    {place : List String}
    {start otherStart tree other : Tree}
    (same : SameBut place start otherStart)
    (still : StillSameBut place start otherStart tree other)
    {change : Change} :
    change ∈ start.changes tree ↔ change ∈ otherStart.changes other := by
  rw [Tree.mem_changes_iff, Tree.mem_changes_iff]
  by_cases isPlace : change.parts = place
  · rw [isPlace, still.kept, still.otherKept]
    simp
  · rw [same.files_eq _ isPlace, still.files_eq _ isPlace]

end Tree

end ThreatModel
