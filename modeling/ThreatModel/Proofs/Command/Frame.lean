import ThreatModel.Proofs.Command.Loading
import ThreatModel.Proofs.Files.Frame

/-!
Contract: a file that a command does not use has no part in what it does.

Owns:
- that command lines are read the same, whatever files they name;
- outcomes that are the same but for their messages and for related files;
- the paths that a request reads and writes, its call graph apart;
- that what is read is the same, and what is written stays the same, in trees that
  are the same but for a file that none of these paths passes.

Does not own: call graphs.
-/

namespace ThreatModel

/-! ## Settings and sources -/

section Reading

variable {place : List String} {tree other : Tree}

theorem Settings.load_eq
    (same : Tree.SameBut place tree other)
    {named : Option String}
    (unpassed : place ∉ tree.way (named.getD usualPath)) :
    load tree named = load other named := by
  have sameFile {path : String} (unpassed : place ∉ tree.way path) :
      loadFile tree path = loadFile other path := by
    unfold loadFile
    rw [same.readOctets_eq unpassed]
  cases named with
  | none =>
      rw [Option.getD_none] at unpassed
      unfold load
      rw [same.isThere_eq unpassed, sameFile unpassed]
  | some given =>
      rw [Option.getD_some, ← tree.way_normalPath] at unpassed
      unfold load
      dsimp only
      rw [same.isThere_eq unpassed, sameFile unpassed]

theorem Source.load_eq
    (same : Tree.SameBut place tree other)
    {path : String}
    (unpassed : place ∉ tree.way path) :
    load tree path = load other path := by
  rw [← tree.way_normalPath] at unpassed
  have sameText : Files.readText tree (normalPath path) = Files.readText other (normalPath path) := by
    unfold Files.readText
    rw [same.readOctets_eq unpassed]
  unfold load
  dsimp only
  rw [sameText]

theorem Source.loadAll_eq
    (same : Tree.SameBut place tree other)
    {paths : List String}
    (unpassed : ∀ path ∈ paths, place ∉ tree.way path) :
    loadAll tree paths = loadAll other paths := by
  induction paths with
  | nil => rfl
  | cons path rest inductionHypothesis =>
      rw [List.forall_mem_cons] at unpassed
      rw [Command.loadAll_cons, Command.loadAll_cons, load_eq same unpassed.1,
        inductionHypothesis unpassed.2]

end Reading

/-! ## Reports and diagrams -/

section Writing

open ThreatModel.Tree (SameBut StillSameBut)

variable {place : List String} {start otherStart tree other : Tree}

/-- A report comes to the same end in both trees, and so do the folders made for it. -/
theorem Report.writeFile_alike
    (still : StillSameBut place start otherStart tree other)
    {path : String}
    (unpassed : place ∉ start.way path)
    (text : String) :
    (writeFile tree path text).2 = (writeFile other path text).2 ∧
      StillSameBut place start otherStart
        (writeFile tree path text).1 (writeFile other path text).1 := by
  have folders := still.makeFolders (Pathname.isNormal_ofText path).parent fun passes =>
    unpassed (Pathname.way_parent_subset _ _ passes)
  rw [writeFile, writeFile]
  generalize tree.makeFolders (Pathname.ofText path).parent = result,
    other.makeFolders (Pathname.ofText path).parent = otherResult at folders
  cases folders with
  | error fault => exact ⟨rfl, still⟩
  | @ok made otherMade relates =>
      have written := relates.writeNormal unpassed text
      unfold normalPath at written
      dsimp only
      generalize made.writeText (Pathname.ofText path).text text = result,
        otherMade.writeText (Pathname.ofText path).text text = otherResult at written
      cases written with
      | error fault => exact ⟨rfl, relates⟩
      | ok relates => exact ⟨rfl, relates⟩

namespace Diagram

/-- The outputs have the same result, and related files. -/
structure Output.Alike
    (related : Tree → Tree → Prop)
    (output other : Output) :
    Prop where
  result_eq : output.result = other.result
  relates : related output.tree other.tree

theorem writeTextFile_alike
    (still : StillSameBut place start otherStart tree other)
    {path suffix : String}
    (unpassed : place ∉ start.way (path ++ suffix))
    (content : Except MissingKey String) :
    (writeTextFile tree path suffix content).Alike (StillSameBut place start otherStart)
      (writeTextFile other path suffix content) := by
  cases content with
  | error missing => exact ⟨rfl, still⟩
  | ok text =>
      have written := still.writeNormal unpassed text
      unfold writeTextFile
      dsimp only
      generalize tree.writeText (normalPath (path ++ suffix)) text = result,
        other.writeText (normalPath (path ++ suffix)) text = otherResult at written
      cases written with
      | error fault => exact ⟨rfl, still⟩
      | ok relates => exact ⟨rfl, relates⟩

/-- The folder of a path is all slashes, or it ends where a part of the path does. -/
theorem folderText_parted (path : List Char) :
    (∀ character ∈ folderText path, Pathname.isSlash character = true) ∨
      ∃ rest, path = folderText path ++ '/' :: rest := by
  rw [folderText]
  cases upTo : path.reverse.dropWhile (· ≠ '/') with
  | nil => exact .inl (List.forall_mem_nil _)
  | cons last before =>
      have isSlash : last = '/' := by
        have stops := List.head?_dropWhile_not (· ≠ '/') path.reverse
        rw [upTo] at stops
        simpa using stops
      obtain ⟨name, reversed⟩ : ∃ name, path.reverse = name ++ '/' :: before := by
        rw [← isSlash, ← upTo]
        exact ⟨_, List.takeWhile_append_dropWhile.symm⟩
      have whole : path = before.reverse ++ '/' :: name.reverse := by
        rw [← path.reverse_reverse, reversed]
        simp
      rw [isSlash, List.reverse_cons]
      split
      · next allSlashes => exact .inl (List.all_eq_true.mp allSlashes)
      · right
        -- Behind the folder stands the run of slashes that ends with the last one.
        obtain ⟨count, slashes⟩ :
            ∃ count, before.takeWhile (· = '/') = List.replicate count '/' :=
          ⟨_, List.eq_replicate_of_mem fun character member => by
            simpa using List.mem_takeWhile_imp member⟩
        have kept : before.reverse =
            (before.dropWhile (· = '/')).reverse ++ List.replicate count '/' := by
          rw [← List.reverse_replicate, ← slashes, ← List.reverse_append,
            List.takeWhile_append_dropWhile]
        have folder : ((before.reverse ++ ['/']).reverse.dropWhile (· = '/')).reverse =
            (before.dropWhile (· = '/')).reverse := by
          rw [List.reverse_append, List.reverse_reverse]
          rfl
        refine ⟨List.replicate count '/' ++ name.reverse, ?_⟩
        rw [folder, whole, kept, List.append_assoc, List.append_cons, ← List.replicate_succ',
          List.replicate_succ, List.cons_append]

/-- The starts of the folder are starts of the path. -/
theorem startsPath_of_folderText
    {folder path : List Char}
    (starts : Pathname.StartsPath folder (folderText path)) :
    Pathname.StartsPath folder path := by
  obtain allSlashes | ⟨rest, parted⟩ := folderText_parted path
  · obtain ⟨character, member, noSlash⟩ := starts.inked
    obtain ⟨back, cut, -⟩ := starts.cut
    have isSlash := allSlashes character (cut ▸ List.mem_append_left back member)
    rw [noSlash] at isSlash
    cases isSlash
  · have starts := starts.append rest
    rw [← parted] at starts
    exact starts

theorem writeImage_alike
    (still : StillSameBut place start otherStart tree other)
    {path : String}
    (unpassed : place ∉ start.way path)
    (format : DiagramFormat)
    (content : Except MissingKey String) :
    (writeImage tree path format content).Alike (StillSameBut place start otherStart)
      (writeImage other path format content) := by
  cases content with
  | error missing => exact ⟨rfl, still⟩
  | ok text =>
      have unpassedStarts :
          ∀ folder ∈ Pathname.writtenStarts (String.ofList (folderText path.toList)).toList,
            place ∉ start.way folder := by
        intro folder member passes
        rw [String.toList_ofList] at member
        have starts := Pathname.startsPath_of_mem_writtenStarts member
        exact unpassed (start.way_subset_of_startsPath (startsPath_of_folderText starts) passes)
      have folders := still.makeEach unpassedStarts
      rw [writeImage, writeImage]
      dsimp only
      generalize tree.makeEach
          (Pathname.writtenStarts (String.ofList (folderText path.toList)).toList) = result,
        other.makeEach
          (Pathname.writtenStarts (String.ofList (folderText path.toList)).toList) = otherResult
        at folders
      cases folders with
      | error fault => exact ⟨rfl, still⟩
      | @ok made otherMade relates =>
          have written : Tree.Alike (StillSameBut place start otherStart)
              (made.writeText path text) (otherMade.writeText path text) :=
            relates.writeOctets unpassed _
          dsimp only
          generalize made.writeText path text = result, otherMade.writeText path text = otherResult
            at written
          cases written with
          | error fault => exact ⟨rfl, relates⟩
          | ok relates => exact ⟨rfl, relates⟩

/-- The path that a diagram is written to. -/
def target
    (path : String)
    (format : DiagramFormat) :
    String :=
  match format with
  | .dot => path ++ ".dot"
  | .mermaid => path ++ ".mmd"
  | _ => path

theorem writeFile_alike
    (still : StillSameBut place start otherStart tree other)
    {path : String}
    {format : DiagramFormat}
    (unpassed : place ∉ start.way (target path format))
    (diagram : Diagram)
    (direction : String) :
    (diagram.writeFile direction tree path format).Alike (StillSameBut place start otherStart)
      (diagram.writeFile direction other path format) := by
  unfold target at unpassed
  unfold writeFile
  cases format with
  | dot => exact writeTextFile_alike still unpassed (Dot.write diagram direction)
  | mermaid => exact writeTextFile_alike still unpassed (Mermaid.write diagram direction)
  | png => exact writeImage_alike still unpassed .png (Dot.write diagram direction)
  | svg => exact writeImage_alike still unpassed .svg (Dot.write diagram direction)
  | pdf => exact writeImage_alike still unpassed .pdf (Dot.write diagram direction)

end Diagram

namespace Command

/-! ## Command lines -/

section CommandLine

variable (same : SameBut place tree other)

include same

theorem filesFault?_eq (files : List String) : filesFault? tree files = filesFault? other files := by
  have sameFolders : tree.isFolder = other.isFolder := funext same.isFolder_eq
  rw [filesFault?, filesFault?, sameFolders]

theorem readAction_eq
    (action : Action)
    (arguments : List String) :
    readAction tree action arguments = readAction other action arguments := by
  have sameFaults : filesFault? tree = filesFault? other := funext (filesFault?_eq same)
  rw [readAction, readAction, sameFaults]

/-- A command line is looked at for the folders among its files, and for no file. -/
theorem readArguments_eq (arguments : List String) :
    readArguments tree arguments = readArguments other arguments := by
  have sameActions : readAction tree = readAction other :=
    funext fun action => funext (readAction_eq same action)
  rw [readArguments, readArguments, sameActions]

end CommandLine

/-! ## Outcomes -/

/-- What is printed and the stop are the same, and the files are related. -/
structure Outcome.Alike
    (related : Tree → Tree → Prop)
    (outcome other : Outcome) :
    Prop where
  stdout_eq : outcome.stdout = other.stdout
  stop_eq : outcome.stop = other.stop
  relates : related outcome.tree other.tree

/-- On related files, the outcomes are alike. -/
def Keeps
    (related : Tree → Tree → Prop)
    (proceed : Tree → Outcome) :
    Prop :=
  ∀ tree other, related tree other → (proceed tree).Alike related (proceed other)

theorem keeps_eq (proceed : Tree → Outcome) : Keeps Eq proceed := by
  rintro tree _ rfl
  exact ⟨rfl, rfl, rfl⟩

theorem keeps_emitReport
    {settings : Settings}
    (unpassed : ∀ path ∈ inked settings.report.output, place ∉ start.way path)
    (analysis : Analysis)
    (diagram : Option Diagram) :
    Keeps (StillSameBut place start otherStart) (emitReport settings analysis diagram) := by
  intro tree other still
  unfold emitReport
  cases shownDiagram settings diagram with
  | error missing => exact ⟨rfl, rfl, still⟩
  | ok shown =>
      dsimp only
      cases output : inked settings.report.output with
      | none => exact ⟨rfl, rfl, still⟩
      | some path =>
          obtain ⟨result_eq, relates⟩ := Report.writeFile_alike still (unpassed path output)
            (Report.write settings.report.format analysis settings.title shown)
          dsimp only
          generalize Report.writeFile tree path
              (Report.write settings.report.format analysis settings.title shown) = written,
            Report.writeFile other path
              (Report.write settings.report.format analysis settings.title shown) = otherWritten
            at result_eq relates
          obtain ⟨after, result⟩ := written
          obtain ⟨otherAfter, otherResult⟩ := otherWritten
          obtain rfl : result = otherResult := result_eq
          cases result with
          | error fault => exact ⟨rfl, rfl, relates⟩
          | ok path => exact ⟨rfl, rfl, relates⟩

theorem keeps_emitDiagram
    {settings : DiagramSettings}
    (unpassed : place ∉ start.way (Diagram.target settings.output settings.format))
    (diagram : Diagram) :
    Keeps (StillSameBut place start otherStart) (emitDiagram settings diagram) := by
  intro tree other still
  obtain ⟨result_eq, relates⟩ :=
    Diagram.writeFile_alike still unpassed diagram settings.direction.name
  unfold emitDiagram
  dsimp only
  rw [result_eq]
  cases (diagram.writeFile settings.direction.name other settings.output settings.format).result with
  | error fault => exact ⟨rfl, rfl, relates⟩
  | ok path => exact ⟨rfl, rfl, relates⟩

end Command

end Writing

namespace Command

variable {related : Tree → Tree → Prop}

theorem Outcome.Alike.andThen
    {outcome other : Outcome}
    (alike : outcome.Alike related other)
    {proceed : Tree → Outcome}
    (keeps : Keeps related proceed) :
    (outcome.andThen proceed).Alike related (other.andThen proceed) := by
  obtain ⟨stdout_eq, stop_eq, relates⟩ := alike
  unfold Outcome.andThen
  rw [stop_eq]
  cases other.stop with
  | some stop => exact ⟨stdout_eq, stop_eq, relates⟩
  | none =>
      have later := keeps _ _ relates
      exact ⟨by simp only [stdout_eq, later.stdout_eq], later.stop_eq, later.relates⟩

/-- What was read is the same, and so is what follows from it. -/
theorem Reading.alike_andThen
    {α : Type}
    {reading otherReading : Reading α}
    (same : reading.result = otherReading.result)
    {tree other : Tree}
    (relates : related tree other)
    {proceed otherProceed : α → Tree → Outcome}
    (later : ∀ value, otherReading.result = .ok value →
      (proceed value tree).Alike related (otherProceed value other)) :
    (reading.andThen tree proceed).Alike related (otherReading.andThen other otherProceed) := by
  cases found : otherReading.result with
  | error stop =>
      rw [andThen_of_error (same.trans found), andThen_of_error found]
      exact ⟨rfl, rfl, relates⟩
  | ok value =>
      obtain ⟨stdout_eq, stop_eq, relates⟩ := later value found
      rw [andThen_of_ok (same.trans found), andThen_of_ok found]
      exact ⟨stdout_eq, stop_eq, relates⟩

/-! ## Requests -/

/-- The paths that a request reads before its call graph. -/
def Request.inputs (request : Request) : List String :=
  request.settings.getD Settings.usualPath :: request.files

/-- The paths that a request writes to under the settings in force. -/
def Request.outputs
    (request : Request)
    (settings : Settings) :
    List String :=
  let report := (inked settings.report.output).toList
  let diagram := Diagram.target settings.diagram.output settings.diagram.format
  match request.action with
  | .run =>
      report ++ if settings.diagram.enabled && !request.noDiagram then [diagram] else []
  | .report => report
  | .graph => [diagram]
  | .summary => []

/-- What the request writes under the settings keeps related files related. -/
structure Request.KeepsFiles
    (request : Request)
    (related : Tree → Tree → Prop)
    (settings : Settings) :
    Prop where
  report (writes : request.action = .run ∨ request.action = .report)
    (analysis : Analysis)
    (diagram : Option Diagram) :
    Keeps related (emitReport settings analysis diagram)
  diagram
    (writes : request.action = .graph ∨
      request.action = .run ∧ (settings.diagram.enabled && !request.noDiagram) = true)
    (diagram : Diagram) :
    Keeps related (emitDiagram settings.diagram diagram)

theorem Request.keepsFiles_eq
    (request : Request)
    (settings : Settings) :
    request.KeepsFiles Eq settings :=
  ⟨fun _ _ _ => keeps_eq _, fun _ _ => keeps_eq _⟩

theorem Request.keepsFiles_stillSameBut
    {request : Request}
    {settings : Settings}
    {place : List String}
    {start : Tree}
    (unpassed : ∀ path ∈ request.outputs settings, place ∉ start.way path)
    (otherStart : Tree) :
    request.KeepsFiles (Tree.StillSameBut place start otherStart) settings where
  report writes analysis diagram := by
    refine keeps_emitReport (fun path isOutput => unpassed path ?_) analysis diagram
    have isReport : path ∈ (inked settings.report.output).toList := by simpa using isOutput
    rcases writes with isRun | isReportOnly
    · rw [outputs, isRun]
      exact List.mem_append_left _ isReport
    · rw [outputs, isReportOnly]
      exact isReport
  diagram writes diagram := by
    refine keeps_emitDiagram (unpassed _ ?_) diagram
    rcases writes with isGraph | ⟨isRun, draws⟩
    · rw [outputs, isGraph]
      exact List.mem_singleton_self _
    · rw [outputs, isRun, draws]
      exact List.mem_append_right _ (List.mem_singleton_self _)

variable {request : Request} {tree other : Tree} {stdin otherStdin : Input}

/-- The call graph may come from elsewhere, where it is the same. -/
theorem alike_perform
    (relates : related tree other)
    (sameMaterials : (loadMaterials request tree).result = (loadMaterials request other).result)
    {given otherGiven : Option String}
    (sameGraph :
      Request.loadGraph { request with callGraph := given } tree stdin =
        Request.loadGraph { request with callGraph := otherGiven } other otherStdin)
    (keeps : ∀ materials, (loadMaterials request other).result = .ok materials →
      request.KeepsFiles related materials.settings) :
    (perform { request with callGraph := given } tree stdin).Alike related
      (perform { request with callGraph := otherGiven } other otherStdin) := by
  have sameDiagram (analysis : Analysis) :
      (loadDiagram { request with callGraph := given } analysis tree stdin).result =
        (loadDiagram { request with callGraph := otherGiven } analysis other otherStdin).result := by
    rw [result_loadDiagram_eq, result_loadDiagram_eq, sameGraph]
  refine Reading.alike_andThen sameMaterials relates fun materials loaded => ?_
  have keepsFiles := keeps materials loaded
  dsimp only
  cases isAction : request.action with
  | report => exact keepsFiles.report (.inr isAction) _ none _ _ relates
  | summary => exact ⟨rfl, rfl, relates⟩
  | graph =>
      exact Reading.alike_andThen (sameDiagram _) relates fun diagram _ =>
        keepsFiles.diagram (.inl isAction) diagram _ _ relates
  | run =>
      refine Reading.alike_andThen (sameDiagram _) relates fun diagram _ => ?_
      refine (keepsFiles.report (.inl isAction) _ (some diagram) _ _ relates).andThen ?_
      intro tree other relates
      dsimp only
      split
      · next draws => exact keepsFiles.diagram (.inr ⟨isAction, draws⟩) diagram _ _ relates
      · exact ⟨rfl, rfl, relates⟩

end Command

end ThreatModel
