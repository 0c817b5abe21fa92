/-!
# Faults

A fault stops a call: the caller named an object or an index that does not exist.
It is no error of the program that is being run, and nothing handles it.
-/

namespace ShapedObjects

/-- Why a call was stopped. -/
inductive Fault where
  /-- An object that the heap does not hold was to be read. -/
  | missingOnRead
  /-- An object that the heap does not hold was to be changed. -/
  | missingOnWrite
  /-- A slot, a name or another numbered item does not exist. -/
  | indexOutOfBounds
deriving DecidableEq, Repr

namespace Fault

/-- The message of a fault. -/
def message : Fault → String
  | missingOnRead => "Heap::get: slot missing"
  | missingOnWrite => "Heap::get_mut: slot missing"
  | indexOutOfBounds => "index out of bounds"

end Fault

end ShapedObjects
