import Tilemap.Text.Basic

/-!
# Unique ids

Objects and doors of a map share one allocator. The first to ask for an id gets it as asked for, and
those after it get the id with a number, from two on, that nobody has yet.
-/

namespace Tilemap

open Text

/-- The ids issued so far, each with the last number tried for it. -/
structure IdAllocator where
  issued : List (String × Nat)
  deriving Repr, DecidableEq

namespace IdAllocator

def empty : IdAllocator := ⟨[]⟩

def contains (a : IdAllocator) (id : String) : Bool := (a.issued.lookup id).isSome

/-- The id asked for: the trimmed text, or `object` if that is blank. -/
def base (requested : String) : String := (nonBlank? requested).getD "object"

def numbered (base : String) (number : Nat) : String := base ++ "-" ++ ofNatural number

/-- The first number after `last` whose id is free. Among one more candidates than there are ids
issued there is always a free one. -/
def nextNumber (a : IdAllocator) (base : String) (last : Nat) : Nat :=
  ((List.range' (last + 1) (a.issued.length + 1)).find? fun n =>
    !a.contains (numbered base n)).getD (last + 1)

def setLast (issued : List (String × Nat)) (id : String) (last : Nat) : List (String × Nat) :=
  issued.map fun (i, n) => if i = id then (i, last) else (i, n)

/-- Issues an id for the one asked for. -/
def allocate (a : IdAllocator) (requested : String) : String × IdAllocator :=
  let base := base requested
  match a.issued.lookup base with
  | none => (base, ⟨(base, 1) :: a.issued⟩)
  | some last =>
    let number := a.nextNumber base last
    let id := numbered base number
    (id, ⟨(id, 1) :: setLast a.issued base number⟩)

end IdAllocator

end Tilemap
