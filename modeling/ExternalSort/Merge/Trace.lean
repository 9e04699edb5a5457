import ExternalSort.Merge.Policy

/-!
# Merge traces

A trace lists the passes that merge a number of segments into one. A pass merges
`fanIn` segments into one and so removes `fanIn - 1` of them.
-/

namespace ExternalSort.Merge

/-- One pass of a merge. -/
structure Pass where
  /-- Passes are numbered from one. -/
  number : Nat
  segmentsBefore : Nat
  /-- How many segments the pass merges into one. -/
  fanIn : Nat
  segmentsAfter : Nat
  deriving DecidableEq, Repr

namespace Pass

/-- The pass that merges `fanIn` of `segments` segments. -/
def merging (number segments fanIn : Nat) : Pass :=
  ⟨number, segments, fanIn, segments - (fanIn - 1)⟩

/-- The report of a pass. -/
def display (pass : Pass) : String :=
  s!"pass {pass.number}: {pass.segmentsBefore} segments, merging {pass.fanIn}, " ++
    s!"{pass.segmentsAfter} remaining"

end Pass

/-- The passes of a merge in their order. There are none if there was only one
segment from the start. -/
structure Trace where
  policy : Policy
  factor : Nat
  initialSegments : Nat
  passes : List Pass
  deriving DecidableEq, Repr

namespace Trace

/-- The number of segments that each pass leaves. -/
def segmentsAfter (trace : Trace) : List Nat := trace.passes.map Pass.segmentsAfter

/-- The number of segments that each pass merges. -/
def fanIns (trace : Trace) : List Nat := trace.passes.map Pass.fanIn

/-- The number of segments in the end. -/
def finalSegments (trace : Trace) : Nat :=
  (trace.passes.getLast?.map Pass.segmentsAfter).getD trace.initialSegments

/-- How many segments all passes read together. -/
def segmentsRead (trace : Trace) : Nat := trace.fanIns.foldr (· + ·) 0

/-- There is nothing to merge. -/
def isEmpty (trace : Trace) : Bool := trace.passes.isEmpty

/-- The report of a trace: a headline and a line for each pass. -/
def display (trace : Trace) : String :=
  let headline :=
    s!"{trace.policy.name} merge of {trace.initialSegments} segments, " ++
      s!"factor {trace.factor}: {trace.passes.length} passes\n"
  trace.passes.foldl (fun text pass => text ++ "  " ++ pass.display ++ "\n") headline

end Trace

end ExternalSort.Merge
