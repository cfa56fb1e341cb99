import DeltaRobot.Toml.Line

/-!
Contract: how the sections of a TOML text nest.

A header `a.b` puts its entries into the table `b` of the table `a`. Tables open in the order in
which the headers name them; two plain headers of one name are refused, and so is an array header
for what is a table already. Within one table, entries keep the order of the text and a name may
come up twice.

Owns: `entries?`, the entries of the whole text as one table.
Does not own: refusing names that come up twice.
-/

namespace DeltaRobot.Toml

namespace Nesting

/-- A section whose own entries are handed out once. -/
structure Pending where
  header : List String
  entries : Option Entries
  isArray : Bool

abbrev State := Array Pending

/-- The first section from `start` on, below `limit`, that has entries to hand out and whose header
starts with `path`. -/
def next? (state : State) (path : List String) (start limit : Nat) : Option Nat :=
  (List.range' start (limit - start)).find? (fun index =>
    match state[index]? with
    | some pending => pending.entries.isSome && path.isPrefixOf pending.header
    | none => false)

/-- The next element of an array of tables with exactly the header `path`. -/
def nextElement? (state : State) (path : List String) (start limit : Nat) : Option Nat :=
  (List.range' start (limit - start)).find? (fun index =>
    match state[index]? with
    | some pending => pending.isArray && pending.header = path
    | none => false)

/-- Hands out the entries of a section. -/
def take? (state : State) (index : Nat) : Option (Entries × State) := do
  let pending ← state[index]?
  let entries ← pending.entries
  return (entries, state.setIfInBounds index { pending with entries := none })

mutual

/-- The entries at `depth` below the headers that start as the one of `parent` does, looking from
section `start` on and below section `limit`. -/
def entries? : Nat → (depth parent start limit : Nat) → State → Option (Entries × State)
  | 0, _, _, _, _, _ => none
  | fuel + 1, depth, parent, start, limit, state => do
      let above ← state[parent]?
      match next? state (above.header.take depth) start limit with
      | none => return ([], state)
      | some found =>
          let pending ← state[found]?
          if found ≠ parent ∧ above.header = pending.header then none
          else
            let parent :=
              if found ≠ parent ∧ pending.header.length < above.header.length then found
              else parent
            match pending.header[depth]? with
            | some name =>
                let (inner, state) ←
                  if pending.isArray ∧ depth + 1 = pending.header.length then
                    (elements? fuel depth found limit state).map
                      (fun found => (Literal.array found.1, found.2))
                  else
                    (entries? fuel (depth + 1) found 0 limit state).map
                      (fun found => (Literal.table found.1, found.2))
                let (others, state) ← entries? fuel depth parent (found + 1) limit state
                return ((name, inner) :: others, state)
            | none =>
                if pending.isArray then none
                else
                  let (own, state) ← take? state found
                  let (others, state) ← entries? fuel depth parent found limit state
                  return (own ++ others, state)

/-- The elements of the array of tables that starts with section `parent`. Sections up to the next
element belong to this one. -/
def elements? : Nat → (depth parent limit : Nat) → State → Option (List Literal × State)
  | 0, _, _, _, _ => none
  | fuel + 1, depth, parent, limit, state =>
      if parent = limit then some ([], state)
      else do
        let pending ← state[parent]?
        let following := (nextElement? state pending.header (parent + 1) limit).getD limit
        let (own, state) ← take? state parent
        let (inner, state) ← entries? fuel (depth + 1) parent 0 following state
        let (others, state) ← elements? fuel depth following limit state
        return (.table (own ++ inner) :: others, state)

end

/-- Every step hands out entries, opens a header's next part, or passes a section, so their numbers
bound how deep the steps nest. -/
def bound (sections : List Section) : Nat :=
  let deepest := sections.foldl (fun most part => max most part.header.length) 0
  (2 * sections.length + 3) * (deepest + 3)

end Nesting

/-- The entries of a text, tables and all, as the table that the text is. -/
def entries? (text : String) : Option Entries := do
  let sections ← sections? text
  if sections.isEmpty then return []
  let pending : List Nesting.Pending :=
    sections.map (fun part => ⟨part.header, some part.entries, part.isArray⟩)
  let (entries, _) ←
    Nesting.entries? (Nesting.bound sections) 0 0 0 sections.length pending.toArray
  return entries

end DeltaRobot.Toml
