/-!
# Reachability

What can be **reached** along a neighbour function, and a search for it in rounds: each round adds the
neighbours of what the round before added. A round that adds nothing ends the search, and every other
round adds something new, so on a finite universe as many rounds as it has members are enough.
-/

namespace WorkflowAtlas

variable {α : Type}

/-- **Reachability** along a neighbour function, in zero steps or more. -/
inductive Reaches (next : α → List α) : α → α → Prop where
  | refl (a : α) : Reaches next a a
  | step {a b c : α} : b ∈ next a → Reaches next b c → Reaches next a c

variable [DecidableEq α]

/-- The neighbours of a frontier that are not seen yet, each once. -/
def fresh (next : α → List α) (seen frontier : List α) : List α :=
  ((frontier.flatMap next).filter (· ∉ seen)).eraseDups

/-- Up to `rounds` rounds of a search that has seen `seen` and last added `frontier`. -/
def spread (next : α → List α) : (rounds : Nat) → (seen frontier : List α) → List α
  | 0, seen, _ => seen
  | rounds + 1, seen, frontier =>
    let added := fresh next seen frontier
    if added.isEmpty then seen else spread next rounds (seen ++ added) added

/-- **Everything reached from some seeds** within a number of rounds, the seeds first. -/
def reachedFrom (next : α → List α) (rounds : Nat) (seeds : List α) : List α :=
  let seeds := seeds.eraseDups
  spread next rounds seeds seeds

end WorkflowAtlas
