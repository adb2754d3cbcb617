/-!
Contract: the four grades of risk.

Owns:
- the grade of a pair of tallies;
- the order of the grades and the highest of several;
- the colours that grades have on nodes and on labels.

Does not own: what is tallied.
-/

namespace ThreatModel

inductive Risk where
  | neutral
  | mitigated
  | partiallyMitigated
  | exposed
deriving DecidableEq, Repr

namespace Risk

def name : Risk → String
  | .neutral => "neutral"
  | .mitigated => "mitigated"
  | .partiallyMitigated => "partially_mitigated"
  | .exposed => "exposed"

def all : List Risk :=
  [.neutral, .mitigated, .partiallyMitigated, .exposed]

def ofName? (name : String) : Option Risk :=
  all.find? (·.name = name)

/-- Only positive tallies count. -/
def classify (exposures mitigations : Int) : Risk :=
  if 0 < exposures then
    if 0 < mitigations then .partiallyMitigated else .exposed
  else if 0 < mitigations then .mitigated
  else .neutral

/-- The rank of a grade, lowest first. -/
def rank : Risk → Nat
  | .neutral => 0
  | .mitigated => 1
  | .partiallyMitigated => 2
  | .exposed => 3

def max (left right : Risk) : Risk :=
  if left.rank < right.rank then right else left

/-- The highest grade, or neutral when there is none. -/
def escalate (risks : List Risk) : Risk :=
  risks.foldl max .neutral

/-- A neutral node has no colour. -/
def nodeColor? : Risk → Option String
  | .exposed => some "red"
  | .partiallyMitigated => some "orange"
  | .mitigated => some "darkgreen"
  | .neutral => none

def labelColor (risk : Risk) : String :=
  risk.nodeColor?.getD "black"

end Risk

end ThreatModel
