/-!
# Bisection

The last place up to which a property holds, between a place where it holds and
a later one where it does not. If the property never comes back once it is lost,
this is the last place at all where it holds.
-/

namespace ExternalSort

/-- Halves the gap between `low`, where `holds`, and `high`, where it does not,
until nothing lies between them. -/
def bisect (holds : Nat → Bool) (low high : Nat) : Nat :=
  if high - low ≤ 1 then low
  else
    let middle := low + (high - low) / 2
    if holds middle then bisect holds middle high else bisect holds low middle
termination_by high - low

/-- The place found holds the property, and the next one does not. -/
theorem bisect_boundary {holds : Nat → Bool} {low high : Nat} (hlow : holds low)
    (hhigh : holds high = false) (hlt : low < high) :
    holds (bisect holds low high) ∧ holds (bisect holds low high + 1) = false := by
  fun_induction bisect holds low high with
  | case1 low high hgap =>
    have hnext : low + 1 = high := by omega
    exact ⟨hlow, hnext ▸ hhigh⟩
  | case2 low high hgap middle hmiddle ih => exact ih hmiddle hhigh (by omega)
  | case3 low high hgap middle hmiddle ih =>
    exact ih hlow (by simpa using hmiddle) (by omega)

end ExternalSort
