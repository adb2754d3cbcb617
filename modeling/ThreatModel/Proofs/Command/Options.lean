import ThreatModel.Command.Request

/-!
Contract: an option that is added to a command line is read, and nothing else is read in
another way.

Owns:
- arguments behind which an option can stand, and that what is read of them does not
  depend on what follows;
- values and faults of other options, which an option without names has no part in;
- the command of a command line, and the call for verbosity anywhere behind it.

Does not own: what is done for a request.
-/

namespace ThreatModel.Command

/-! ## Arguments before an option -/

/-- An option can stand behind the arguments: two hyphens do not end the options, and the last option
does not wait for a value. What is refused is refused whatever follows. -/
inductive Settled (switches : List Switch) : List String → Prop where
  | nil : Settled switches []
  | refused {argument : String} {rest : List String} {fault : UsageFault}
      (noEnd : argument ≠ "--")
      (faulty : ∀ next, takeOption switches argument next = .error fault) :
      Settled switches (argument :: rest)
  | positional {argument : String} {rest : List String}
      (noEnd : argument ≠ "--")
      (noOption : ∀ next, takeOption switches argument next = .ok none)
      (later : Settled switches rest) :
      Settled switches (argument :: rest)
  | option {argument : String} {given : List Given} {rest : List String}
      (noEnd : argument ≠ "--")
      (taken : ∀ next, takeOption switches argument next = .ok (some ⟨given, false⟩))
      (later : Settled switches rest) :
      Settled switches (argument :: rest)
  | valued {argument value : String} {given : List Given} {rest : List String}
      (noEnd : argument ≠ "--")
      (taken : takeOption switches argument (some value) = .ok (some ⟨given, true⟩))
      (later : Settled switches rest) :
      Settled switches (argument :: value :: rest)

/-- What was parted first, and what was parted behind it. -/
def Parted.append (first later : Parted) : Parted where
  given := first.given ++ later.given
  positional := first.positional ++ later.positional

/-- The arguments are refused, or they are parted ahead of all that follows. -/
def PartsAhead (switches : List Switch) (front : List String) : Prop :=
  (∃ fault, ∀ back, part switches true (front ++ back) = .error fault) ∨
    ∃ ahead : Parted, ∀ back,
      part switches true (front ++ back) = (part switches true back).map ahead.append

theorem PartsAhead.of_rest
    {switches : List Switch}
    {front rest : List String}
    (first : Parted)
    (parts : ∀ back,
      part switches true (front ++ back) = (part switches true (rest ++ back)).map first.append)
    (later : PartsAhead switches rest) :
    PartsAhead switches front := by
  rcases later with ⟨fault, refused⟩ | ⟨ahead, parted⟩
  · refine .inl ⟨fault, fun back => ?_⟩
    rw [parts, refused]
    rfl
  · refine .inr ⟨first.append ahead, fun back => ?_⟩
    rw [parts, parted]
    cases part switches true back with
    | error fault => rfl
    | ok behind => simp [Except.map, Parted.append]

/-- The induction is on the arguments as they are parted, with what is behind them left open. -/
theorem Settled.partsAhead
    {switches : List Switch}
    {front : List String}
    (settled : Settled switches front) :
    PartsAhead switches front := by
  induction settled with
  | nil =>
      refine .inr ⟨{}, fun back => ?_⟩
      rw [List.nil_append]
      cases part switches true back <;> rfl
  | @refused argument rest fault noEnd faulty =>
      refine .inl ⟨fault, fun back => ?_⟩
      rw [List.cons_append, part, if_neg noEnd, faulty]
  | @positional argument rest noEnd noOption _ inductionHypothesis =>
      refine PartsAhead.of_rest ⟨[], [argument]⟩ (fun back => ?_) inductionHypothesis
      rw [List.cons_append, part, if_neg noEnd, noOption]
      rfl
  | @option argument given rest noEnd taken _ inductionHypothesis =>
      refine PartsAhead.of_rest ⟨given, []⟩ (fun back => ?_) inductionHypothesis
      rw [List.cons_append, part, if_neg noEnd, taken]
      rfl
  | @valued argument value given rest noEnd taken _ inductionHypothesis =>
      refine PartsAhead.of_rest ⟨given, []⟩ (fun back => ?_) inductionHypothesis
      rw [List.cons_append, part, if_neg noEnd, List.cons_append, List.head?_cons, taken]
      rfl

/-! ## Options without names -/

/-- Only the last value of a key counts, and those of other keys do not. -/
theorem valueOf?_insert
    {first : Given}
    {key : Key}
    (other : first.key ≠ key)
    (front back : List Given) :
    valueOf? (front ++ first :: back) key = valueOf? (front ++ back) key := by
  simp [valueOf?, List.find?_append, other]

theorem valueFault?_of_nameless
    {key : Key}
    (nameless : namesFor key = none)
    (switches : List Switch)
    (given : List Given) :
    valueFault? switches given key = none := by
  unfold valueFault?
  rw [nameless]
  split
  · next names => cases names
  · rfl

/-- An option whose value need not be among names has no part in the faults of values. -/
theorem valueFault?_insert
    {first : Given}
    (nameless : namesFor first.key = none)
    (switches : List Switch)
    (front back : List Given)
    (key : Key) :
    valueFault? switches (front ++ first :: back) key =
      valueFault? switches (front ++ back) key := by
  by_cases same : first.key = key
  · rw [← same, valueFault?_of_nameless nameless, valueFault?_of_nameless nameless]
  · rw [valueFault?, valueFault?, valueOf?_insert same]

/-! ## Reading the arguments of a command -/

theorem readArguments_of_leading
    {tree : Tree}
    {action : Action}
    {line arguments : List String}
    (inhabited : line ≠ [])
    (leading : readLeading line = .ok (.inr (action.name :: arguments))) :
    readArguments tree line = readAction tree action arguments := by
  have isAction : Action.ofName? action.name = some action := by
    cases action <;> decide
  have someLine : line.isEmpty = false := List.isEmpty_eq_false_iff.mpr inhabited
  unfold readArguments
  rw [leading, someLine]
  dsimp only [Bind.bind, Except.bind]
  rw [isAction, if_neg Bool.false_ne_true]

theorem readArguments_action
    (tree : Tree)
    (action : Action)
    (arguments : List String) :
    readArguments tree (action.name :: arguments) = readAction tree action arguments := by
  have notOption (switches : List Switch) (next : Option String) :
      takeOption switches action.name next = .ok none := by
    cases action <;> rfl
  have notEnd : action.name ≠ "--" := by
    cases action <;> decide
  have parted : part [versionSwitch, helpSwitch] false (action.name :: arguments) =
      .ok { positional := action.name :: arguments } := by
    rw [part, if_neg notEnd, notOption]
    rfl
  refine readArguments_of_leading (List.cons_ne_nil _ _) ?_
  rw [readLeading, parted]
  rfl

/-- Two hyphens may end the options before the name of a command. -/
theorem readArguments_end_action
    (tree : Tree)
    (action : Action)
    (arguments : List String) :
    readArguments tree ("--" :: action.name :: arguments) = readAction tree action arguments := by
  refine readArguments_of_leading (List.cons_ne_nil _ _) ?_
  rw [readLeading, part, if_pos rfl]
  rfl

theorem readAction_of_part
    {tree : Tree}
    {action : Action}
    {arguments : List String}
    {parted : Parted}
    (parts : part action.switches true arguments = .ok parted) :
    readAction tree action arguments =
      if Key.help ∈ parted.given.map Given.key then .ok .help
      else
        match ((parted.given.map Given.key).filterMap (valueFault? action.switches parted.given) ++
            (filesFault? tree parted.positional).toList).head? with
        | some fault => .error fault
        | none => .ok (.request (.ofParted action parted)) := by
  rw [readAction, parts]
  rfl

/-! ## The call for verbosity -/

def Invocation.verbosely : Invocation → Invocation
  | .request asked => .request { asked with verbose := true }
  | other => other

theorem ofParted_flag
    (action : Action)
    (front back : List Given)
    (positional : List String) :
    Request.ofParted action ⟨front ++ ⟨.verbose, ""⟩ :: back, positional⟩ =
      { Request.ofParted action ⟨front ++ back, positional⟩ with verbose := true } := by
  simp [Request.ofParted, valueOf?_insert, isGiven]

section Flag

variable {flag : String} (isFlag : flag = "-v" ∨ flag = "--verbose")

include isFlag

theorem part_flag
    (action : Action)
    (back : List String) :
    part action.switches true (flag :: back) =
      (part action.switches true back).map (Parted.append ⟨[⟨.verbose, ""⟩], []⟩) := by
  have noEnd : flag ≠ "--" := by
    rcases isFlag with rfl | rfl <;> decide
  have taken (next : Option String) :
      takeOption action.switches flag next = .ok (some ⟨[⟨.verbose, ""⟩], false⟩) := by
    rcases isFlag with rfl | rfl <;> cases action <;> rfl
  rw [part, if_neg noEnd, taken]
  rfl

/-- Of what is read of the arguments, nothing else is changed. -/
theorem readAction_flag
    {action : Action}
    {front : List String}
    (settled : Settled action.switches front)
    (tree : Tree)
    (back : List String) :
    readAction tree action (front ++ flag :: back) =
      (readAction tree action (front ++ back)).map Invocation.verbosely := by
  rcases settled.partsAhead with ⟨fault, refused⟩ | ⟨ahead, parted⟩
  · rw [readAction, readAction, refused, refused]
    rfl
  · have plain := parted back
    have flagged := parted (flag :: back)
    rw [part_flag isFlag] at flagged
    cases reads : part action.switches true back with
    | error fault =>
        rw [reads] at plain flagged
        rw [readAction, readAction, plain, flagged]
        rfl
    | ok behind =>
        rw [reads] at plain flagged
        rw [readAction_of_part plain, readAction_of_part flagged]
        have sameFaults :
            valueFault? action.switches (ahead.given ++ ⟨.verbose, ""⟩ :: behind.given) =
              valueFault? action.switches (ahead.given ++ behind.given) :=
          funext (valueFault?_insert rfl action.switches ahead.given behind.given)
        simp only [Parted.append, List.singleton_append, List.nil_append, List.map_append,
          List.map_cons, List.filterMap_append, List.filterMap_cons,
          valueFault?_of_nameless (rfl : namesFor .verbose = none), sameFaults, List.mem_append,
          List.mem_cons, reduceCtorEq, false_or]
        split
        · rfl
        · generalize (List.head? _) = fault?
          cases fault? with
          | some fault => rfl
          | none => exact congrArg (Except.ok ∘ Invocation.request) (ofParted_flag action _ _ _)

/-- The flag stands anywhere behind the name of the command where an option can stand. -/
theorem readArguments_flag
    {action : Action}
    {lead front : List String}
    (leads : lead = [] ∨ lead = ["--"])
    (settled : Settled action.switches front)
    (tree : Tree)
    (back : List String) :
    readArguments tree (lead ++ action.name :: (front ++ flag :: back)) =
      (readArguments tree (lead ++ action.name :: (front ++ back))).map Invocation.verbosely := by
  have sameReading := readAction_flag isFlag settled tree back
  rcases leads with rfl | rfl
  · exact (readArguments_action ..).trans
      (sameReading.trans (congrArg _ (readArguments_action ..).symm))
  · exact (readArguments_end_action ..).trans
      (sameReading.trans (congrArg _ (readArguments_end_action ..).symm))

end Flag

end ThreatModel.Command
