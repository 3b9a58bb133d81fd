/-! Sorting with a comparison that may fail. A list is cut into runs that are in order already,
short runs are filled up by insertion, and neighbouring runs are merged. A failure tells the first
two elements that cannot be compared, so what is compared with what, and when, is part of the rule.
-/
namespace GreetingServer
namespace RunSort
variable {α ε : Type}

/-- Elements are taken as long as each continues the one before it: the taken ones, and the rest. -/
def takeWhile (continues : α → α → Except ε Bool) (last : α) : List α → Except ε (List α × List α)
  | [] => .ok ([], [])
  | x :: rest =>
    match continues last x with
    | .error e => .error e
    | .ok false => .ok ([], x :: rest)
    | .ok true =>
      match takeWhile continues x rest with
      | .error e => .error e
      | .ok (taken, rest) => .ok (x :: taken, rest)

/-- The run that a list starts with, in order, and the rest of the list. Each element of a run is
before the last one, which makes a falling run, or none is. -/
def takeRun (before : α → α → Except ε Bool) : List α → Except ε (List α × List α)
  | x :: y :: rest =>
    match before y x with
    | .error e => .error e
    | .ok true =>
      (takeWhile (fun last z => before z last) y rest).map fun (taken, rest) =>
        ((x :: y :: taken).reverse, rest)
    | .ok false =>
      (takeWhile (fun last z => (before z last).map (!·)) y rest).map fun (taken, rest) =>
        (x :: y :: taken, rest)
  | elements => .ok (elements, [])

/-- An element is put in front of the first one that it is before. -/
def insert (before : α → α → Except ε Bool) (x : α) : List α → Except ε (List α)
  | [] => .ok [x]
  | y :: rest =>
    match before x y with
    | .error e => .error e
    | .ok true => .ok (x :: y :: rest)
    | .ok false => (insert before x rest).map (y :: ·)

def insertAll (before : α → α → Except ε Bool) (run : List α) : List α → Except ε (List α)
  | [] => .ok run
  | x :: rest =>
    match insert before x run with
    | .error e => .error e
    | .ok run => insertAll before run rest

/-- Runs in order become one. Of elements that are not before each other, that of the first run
comes first. -/
def merge (before : α → α → Except ε Bool) : List α → List α → Except ε (List α)
  | [], second => .ok second
  | first, [] => .ok first
  | x :: first, y :: second =>
    match before y x with
    | .error e => .error e
    | .ok true => (merge before (x :: first) second).map (y :: ·)
    | .ok false => (merge before first (y :: second)).map (x :: ·)
termination_by first second => first.length + second.length

/-- A length that is halved, rounded up, until it is below sixty-four. -/
def halved (length : Nat) (roundsUp : Bool) : Nat :=
  if length < 64 then length + roundsUp.toNat
  else halved (length / 2) (roundsUp || length % 2 = 1)
termination_by length
decreasing_by omega

def leastLength (length : Nat) : Nat := halved length false

/-- A run: its elements, where it starts in the list, and how deep its boundary with the next run
lies in the tree of merges. -/
structure Run (α : Type) where
  elements : List α
  start : Nat
  depth : Nat := 0

/-- How deep the boundary between two neighbouring runs lies in the tree of merges of a list: the
number of binary places in which the middles of the runs, as parts of the list, agree. -/
def boundaryDepth (total : Nat) (first : Run α) (next : Nat) : Nat :=
  let length := first.elements.length
  let middle := 2 * first.start + length
  let nextMiddle := middle + length + next
  let differ (k : Nat) : Bool := middle * Nat.pow 2 k / total != nextMiddle * Nat.pow 2 k / total
  ((List.range (total.log2 + 2)).find? differ).getD 0

/-- Of runs, last first, the last two are merged as long as their boundary lies deeper than that
with the next run. -/
def settle (before : α → α → Except ε Bool) (depth : Nat) : List (Run α) → Except ε (List (Run α))
  | last :: first :: below =>
    if depth < first.depth then
      match merge before first.elements last.elements with
      | .error e => .error e
      | .ok elements => settle before depth ({ first with elements } :: below)
    else .ok (last :: first :: below)
  | runs => .ok runs
termination_by runs => runs.length

def push (before : α → α → Except ε Bool) (total : Nat) (elements : List α) (runs : List (Run α)) :
    Except ε (List (Run α)) :=
  match runs with
  | [] => .ok [⟨elements, 0, 0⟩]
  | last :: _ =>
    let depth := boundaryDepth total last elements.length
    let start := last.start + last.elements.length
    (settle before depth runs).map fun
      | [] => [⟨elements, start, 0⟩]
      | last :: below => ⟨elements, start, 0⟩ :: { last with depth } :: below

/-- The runs of a list, last first, behind those of the elements before it. Each has an element at
least, so there are no more of them than elements. -/
def collect (before : α → α → Except ε Bool) (total : Nat) (runs : List (Run α)) :
    Nat → List α → Except ε (List (Run α))
  | 0, _ => .ok runs
  | _, [] => .ok runs
  | limit + 1, elements =>
    match takeRun before elements with
    | .error e => .error e
    | .ok (run, rest) =>
      let missing := min (leastLength total) elements.length - run.length
      match insertAll before run (rest.take missing) with
      | .error e => .error e
      | .ok run =>
        match push before total run runs with
        | .error e => .error e
        | .ok runs => collect before total runs limit (rest.drop missing)

/-- All runs, last first, become one. The run in front of the last two is merged with the first of
them if it is shorter than the last. -/
def finish (before : α → α → Except ε Bool) : List (Run α) → Except ε (List α)
  | [] => .ok []
  | [run] => .ok run.elements
  | [last, first] => merge before first.elements last.elements
  | last :: second :: first :: below =>
    if first.elements.length < last.elements.length then
      match merge before first.elements second.elements with
      | .error e => .error e
      | .ok elements => finish before (last :: { first with elements } :: below)
    else
      match merge before second.elements last.elements with
      | .error e => .error e
      | .ok elements => finish before ({ second with elements } :: first :: below)
termination_by runs => runs.length

/-- The elements of a list in order; those that are not before each other stay in theirs. -/
def sort (before : α → α → Except ε Bool) (elements : List α) : Except ε (List α) :=
  match collect before elements.length [] elements.length elements with
  | .error e => .error e
  | .ok runs => finish before runs

end RunSort
end GreetingServer
