import Mathlib.Data.List.Nodup
import Mathlib.Data.List.ProdSigma
import ThreatModel.Proofs.Interaction.Calls

/-!
Contract: the edges between components over a run of calls.

Owns:
- the calls between declared functions in order, and the links between components
  that each of them brings;
- the contributions to each pair of components, in the order of the calls;
- the order of sources and of destinations.

Does not own: the tallies of mitigations and exposures.
-/

namespace ThreatModel.Interaction

/-- A call between declared functions, which are given with their names. -/
structure Call where
  caller : String × Declaration
  callee : String × Declaration
deriving DecidableEq, Repr

namespace Call

variable (call : Call)

def contribution : Contribution :=
  call.callee.2.contribution call.callee.1

/-- Whether the caller touches `source` and the callee touches `dest`. -/
def Joins (source dest : String) : Prop :=
  source ∈ call.caller.2.touched ∧ dest ∈ call.callee.2.touched

instance (source dest : String) : Decidable (call.Joins source dest) :=
  inferInstanceAs (Decidable (_ ∧ _))

end Call

/-- Every component that the caller touches with every component that the callee touches. -/
def linksOf
    (caller : Declaration)
    (callee : String × Declaration) :
    List (String × String × Contribution) :=
  (pairs caller.touched callee.2.touched).map fun ends =>
    (ends.1, ends.2, callee.2.contribution callee.1)

def Call.links (call : Call) : List (String × String × Contribution) :=
  linksOf call.caller.2 call.callee

variable (functions : OrderedMap String Declaration) (graph : CallGraph)

/-- The calls of each declared caller in turn, in the order of the call graph. -/
def calls : List Call :=
  functions.entries.flatMap fun caller =>
    (callees functions graph caller.1).map fun callee => ⟨caller, callee⟩

/-- The links of all calls, call by call. -/
def links : List (String × String × Contribution) :=
  (calls functions graph).flatMap Call.links

/-- What the calls between two components contribute, in the order of the calls. -/
def contributions (source dest : String) : List Contribution :=
  ((calls functions graph).filter fun call => call.Joins source dest).map Call.contribution

theorem mem_calls {call : Call} :
    call ∈ calls functions graph ↔
      call.caller ∈ functions.entries ∧ call.callee ∈ functions.entries ∧
        graph.hasCall call.caller.1 call.callee.1 = true := by
  obtain ⟨caller, callee⟩ := call
  simp only [calls, List.mem_flatMap, List.mem_map, Call.mk.injEq]
  constructor
  · rintro ⟨_, callerDeclared, _, called, rfl, rfl⟩
    obtain ⟨known, calleeDeclared⟩ := (mem_callees functions graph).mp called
    exact ⟨callerDeclared, calleeDeclared, known⟩
  · rintro ⟨callerDeclared, calleeDeclared, known⟩
    exact ⟨caller, callerDeclared, callee,
      (mem_callees functions graph).mpr ⟨known, calleeDeclared⟩, rfl, rfl⟩

/-! ## The edges as an account -/

/-- A visit alone adds no edge. -/
def edgeAccount : Account (OrderedMap String Destinations) (String × String × Contribution) where
  part := Interaction.edges
  enter := OrderedMap.putUnder
  ofVisit _ := []
  ofCall := linksOf
  part_visit _ _ := rfl
  part_call interaction caller callee := by
    rw [call, foldl_link]
    rfl

theorem edges_eq_collected :
    (ofCalls functions graph).edges = OrderedMap.collected (links functions graph) := by
  have sameEntries : edgeAccount.entries functions graph = links functions graph := by
    rw [Account.entries, links, calls, List.flatMap_assoc]
    congr 1
    funext caller
    rw [List.flatMap_map, Account.ofCaller]
    split
    · rfl
    · rename_i noCaller
      rw [callees_eq_nil functions graph noCaller]
      rfl
  rw [← sameEntries]
  exact edgeAccount.part_ofCalls functions graph

/-! ## The links of one call -/

theorem touched_nodup (declaration : Declaration) : declaration.touched.Nodup :=
  OrderedMap.nodup_eraseDups _

theorem mem_links
    {call : Call}
    {source dest : String}
    {contribution : Contribution} :
    (source, dest, contribution) ∈ call.links ↔
      call.Joins source dest ∧ call.contribution = contribution := by
  simp only [Call.links, linksOf, pairs, List.mem_map, List.mem_flatMap, Prod.mk.injEq, Call.Joins]
  constructor
  · rintro ⟨_, ⟨_, touchesSource, _, touchesDest, rfl⟩, rfl, rfl, rfl⟩
    exact ⟨⟨touchesSource, touchesDest⟩, rfl⟩
  · rintro ⟨⟨touchesSource, touchesDest⟩, rfl⟩
    exact ⟨(source, dest), ⟨source, touchesSource, dest, touchesDest, rfl⟩, rfl, rfl, rfl⟩

private theorem filter_pairs
    {sources dests : List String}
    (sourcesDistinct : sources.Nodup)
    (destsDistinct : dests.Nodup)
    (source dest : String) :
    (pairs sources dests).filter (· = (source, dest)) =
      if source ∈ sources ∧ dest ∈ dests then [(source, dest)] else [] := by
  have distinct : (pairs sources dests).Nodup := sourcesDistinct.product destsDistinct
  have member : (source, dest) ∈ pairs sources dests ↔ source ∈ sources ∧ dest ∈ dests :=
    List.pair_mem_product
  rw [List.filter_eq]
  by_cases known : source ∈ sources ∧ dest ∈ dests
  · rw [if_pos known, List.count_eq_one_of_mem distinct (member.mpr known)]
    rfl
  · have absent : (source, dest) ∉ pairs sources dests := fun present => known (member.mp present)
    rw [if_neg known, List.count_eq_zero_of_not_mem absent]
    rfl

/-- A call links a pair of components once, however often its functions name them. -/
theorem links_between
    (call : Call)
    (source dest : String) :
    ((OrderedMap.entriesUnder call.links source).filter fun entry => entry.1 = dest).map Prod.snd =
      if call.Joins source dest then [call.contribution] else [] := by
  have between :
      ((OrderedMap.entriesUnder call.links source).filter fun entry => entry.1 = dest).map
          Prod.snd =
        ((pairs call.caller.2.touched call.callee.2.touched).filter (· = (source, dest))).map
          fun _ => call.contribution := by
    simp only [OrderedMap.entriesUnder, Call.links, linksOf, List.filter_map, List.map_map,
      List.filter_filter]
    refine congrArg (List.map fun _ => call.contribution) (List.filter_congr fun ends _ => ?_)
    simp [Prod.ext_iff, Bool.and_comm]
  rw [between, filter_pairs (touched_nodup _) (touched_nodup _), apply_ite (List.map _)]
  rfl

private theorem flatMap_if_singleton
    {α β : Type}
    (keep : α → Prop)
    [DecidablePred keep]
    (value : α → β)
    (elements : List α) :
    (elements.flatMap fun element => if keep element then [value element] else []) =
      (elements.filter keep).map value := by
  induction elements with
  | nil => rfl
  | cons head rest inductionHypothesis =>
      rw [List.flatMap_cons, List.filter_cons, inductionHypothesis]
      by_cases kept : keep head
      · simp [kept]
      · simp [kept]

/-- The links between two components carry the contributions of the calls that join them. -/
theorem contributions_eq_links (source dest : String) :
    (((OrderedMap.entriesUnder (links functions graph) source).filter
        fun entry => entry.1 = dest).map Prod.snd) =
      contributions functions graph source dest := by
  rw [links, OrderedMap.entriesUnder_flatMap, List.filter_flatMap, List.map_flatMap, contributions,
    ← flatMap_if_singleton]
  congr 1
  funext call
  exact links_between call source dest

/-! ## The components at either end -/

theorem mem_links_ofCalls
    {functions : OrderedMap String Declaration}
    {graph : CallGraph}
    {source dest : String}
    {contribution : Contribution} :
    (source, dest, contribution) ∈ links functions graph ↔
      ∃ call ∈ calls functions graph,
        call.Joins source dest ∧ call.contribution = contribution := by
  simp only [links, List.mem_flatMap, mem_links]

/-- A call makes boxes of what its ends touch, provided that both touch something. -/
def Boxed (key : String) : Prop :=
  ∃ call ∈ calls functions graph,
    (key ∈ call.caller.2.touched ∧ call.callee.2.touched ≠ []) ∨
      (key ∈ call.callee.2.touched ∧ call.caller.2.touched ≠ [])

instance (key : String) : Decidable (Boxed functions graph key) :=
  inferInstanceAs (Decidable (∃ _ ∈ _, _))

theorem boxed_iff_mem_links {key : String} :
    Boxed functions graph key ↔
      ∃ source dest contribution, (source, dest, contribution) ∈ links functions graph ∧
        (source = key ∨ dest = key) := by
  simp only [mem_links_ofCalls]
  constructor
  · rintro ⟨call, known, ⟨touches, otherEnd⟩ | ⟨touches, otherEnd⟩⟩
    · obtain ⟨dest, touchesDest⟩ := List.exists_mem_of_ne_nil _ otherEnd
      exact ⟨key, dest, _, ⟨call, known, ⟨touches, touchesDest⟩, rfl⟩, .inl rfl⟩
    · obtain ⟨source, touchesSource⟩ := List.exists_mem_of_ne_nil _ otherEnd
      exact ⟨source, key, _, ⟨call, known, ⟨touchesSource, touches⟩, rfl⟩, .inr rfl⟩
  · rintro ⟨source, dest, _, ⟨call, known, ⟨touchesSource, touchesDest⟩, _⟩, rfl | rfl⟩
    · exact ⟨call, known, .inl ⟨touchesSource, List.ne_nil_of_mem touchesDest⟩⟩
    · exact ⟨call, known, .inr ⟨touchesDest, List.ne_nil_of_mem touchesSource⟩⟩

/-- Boxed components are touched by declared functions. -/
theorem touched_of_boxed
    {key : String}
    (boxed : Boxed functions graph key) :
    ∃ function ∈ functions.entries, key ∈ function.2.touched := by
  obtain ⟨call, known, ⟨touches, _⟩ | ⟨touches, _⟩⟩ := boxed
  · exact ⟨call.caller, ((mem_calls functions graph).mp known).1, touches⟩
  · exact ⟨call.callee, ((mem_calls functions graph).mp known).2.1, touches⟩

/-! ## The law of the edges -/

/-- Between two components stand the contributions of the calls that join them, and nothing stands
where no call does. Sources, and the destinations of each, come in the order in which the calls
first link them. -/
theorem edges_eq_contributions :
    (∀ source dest,
      ((ofCalls functions graph).edges.get? source).bind (·.get? dest) =
        inhabited? (contributions functions graph source dest)) ∧
      (∀ source dest,
        ((ofCalls functions graph).edges.get? source).bind (·.get? dest) = none ↔
          ∀ call ∈ calls functions graph, ¬call.Joins source dest) ∧
      (∀ source, (ofCalls functions graph).edges.get? source ≠ some ∅) ∧
      (ofCalls functions graph).edges.keys =
        ((links functions graph).map fun link => link.1).eraseDups ∧
      ∀ source,
        ((ofCalls functions graph).edges.get? source).map OrderedMap.keys =
          inhabited?
            (((links functions graph).filter fun link => link.1 = source).map
              fun link => link.2.1).eraseDups := by
  have between (source dest : String) :
      ((ofCalls functions graph).edges.get? source).bind (·.get? dest) =
        inhabited? (contributions functions graph source dest) := by
    rw [edges_eq_collected, OrderedMap.get?_get?_collected, contributions_eq_links]
  have destinations (source : String) :
      ((ofCalls functions graph).edges.get? source).map OrderedMap.keys =
        inhabited?
          (((links functions graph).filter fun link => link.1 = source).map
            fun link => link.2.1).eraseDups := by
    rw [edges_eq_collected, OrderedMap.keys_get?_collected, OrderedMap.entriesUnder, List.map_map]
    rfl
  refine ⟨between, fun source dest => ?_, fun source empty => ?_, ?_, destinations⟩
  · rw [between, inhabited?_eq_none_iff, contributions, List.map_eq_nil_iff,
      List.filter_eq_nil_iff]
    simp
  · have keys := destinations source
    rw [empty] at keys
    exact inhabited?_ne_some_nil _ keys.symm
  · rw [edges_eq_collected, OrderedMap.keys_collected]

end ThreatModel.Interaction
