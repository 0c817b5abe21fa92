/-!
# Attribute names

Layouts and caches speak of attributes by number. An interner issues the numbers
in order of first occurrence and gives each number its text back.
-/

namespace ShapedObjects

/-- The number of an interned attribute name. -/
structure NameId where
  /-- Position of the name among the interned names. -/
  index : Nat
deriving DecidableEq, Repr

/-- The interned names by number, and their numbers by name. -/
structure Interner where
  /-- The names in order of first occurrence. -/
  names : List String
  /-- The number of each name. -/
  numbers : List (String × NameId)
deriving DecidableEq, Repr

namespace Interner

/-- An interner that knows no name. -/
def empty : Interner := ⟨[], []⟩

/-- The number of a name, if the name was interned. -/
def lookup (interner : Interner) (name : String) : Option NameId :=
  interner.numbers.lookup name

/-- Gives a name the next number, and enters both into the two tables. -/
def issue (interner : Interner) (name : String) : Interner × NameId :=
  let id : NameId := ⟨interner.names.length⟩
  (⟨interner.names ++ [name], interner.numbers ++ [(name, id)]⟩, id)

/-- The number of a name. A name seen for the first time gets the next number. -/
def intern (interner : Interner) (name : String) : Interner × NameId :=
  match interner.lookup name with
  | some id => (interner, id)
  | none => interner.issue name

/-- The text of a number, if the number was issued. -/
def text? (interner : Interner) (id : NameId) : Option String :=
  interner.names[id.index]?

/-- How many names were interned. -/
def size (interner : Interner) : Nat := interner.names.length

/-- Whether no name was interned. -/
def isEmpty (interner : Interner) : Bool := interner.names.isEmpty

end Interner

end ShapedObjects
