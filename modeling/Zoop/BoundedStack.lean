/-!
# Bounded stacks

A stack that holds at most a given number of items and refuses more.
-/

namespace Zoop

/-- A stack of at most `capacity` items. -/
structure BoundedStack (α : Type) (capacity : Nat) where
  /-- The items, top first. -/
  items : List α
  bounded : items.length ≤ capacity

namespace BoundedStack

variable {α : Type} {capacity : Nat}

/-- The stack without items. -/
def empty : BoundedStack α capacity :=
  ⟨[], Nat.zero_le _⟩

/-- The number of items. -/
def size (stack : BoundedStack α capacity) : Nat :=
  stack.items.length

/-- Whether there is no item. -/
def isEmpty (stack : BoundedStack α capacity) : Bool :=
  stack.items.isEmpty

/-- Whether there is no room for another item. -/
def isFull (stack : BoundedStack α capacity) : Bool :=
  capacity ≤ stack.size

/-- Put an item on top, if there is room. -/
def push? (stack : BoundedStack α capacity) (item : α) : Option (BoundedStack α capacity) :=
  if room : stack.items.length < capacity then
    some ⟨item :: stack.items, room⟩
  else
    none

/-- The item on top. -/
def top? (stack : BoundedStack α capacity) : Option α :=
  stack.items.head?

/-- The stack without the item on top. -/
def pop (stack : BoundedStack α capacity) : BoundedStack α capacity :=
  ⟨stack.items.tail, by
    have bounded := stack.bounded
    simp only [List.length_tail]
    omega⟩

/-- The message for an item that a stack has no room for. -/
def overflowMessage (capacity : Nat) : String :=
  "stack capacity of " ++ toString capacity ++ " exceeded"

end BoundedStack

end Zoop
