/-!
# Merge policies

A merge of more segments than fit into one pass takes several passes. All but
one of them merge as many segments as the merge factor allows. The policy says
where the smaller pass stands.
-/

namespace ExternalSort.Merge

/-- Where the pass stands that merges fewer segments than the others. -/
inductive Policy where
  /-- The first pass is sized so that all later ones are full. -/
  | remainderFirst
  /-- All passes are full, and the last one merges what is left. -/
  | remainderLast
  deriving DecidableEq, Repr

namespace Policy

/-- The name of a policy in settings and reports. -/
def name : Policy → String
  | .remainderFirst => "variable"
  | .remainderLast => "fixed"

/-- A text that names no policy, in lower case. -/
structure Unknown where
  text : String
  deriving DecidableEq, Repr

/-- The text of the error. -/
def Unknown.message (unknown : Unknown) : String :=
  s!"unknown merge policy '{unknown.text}' (expected 'variable' or 'fixed')"

/-- Reads the name of a policy. The case of the letters `A … Z` does not
matter. -/
def read (text : String) : Except Unknown Policy :=
  let text := text.map Char.toLower
  if text = remainderFirst.name then .ok .remainderFirst
  else if text = remainderLast.name then .ok .remainderLast
  else .error ⟨text⟩

end Policy

end ExternalSort.Merge
