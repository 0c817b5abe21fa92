/-!
# Columns of text

Texts are padded with blanks to the width of a column. A text that is wider than
its column is kept whole.
-/

namespace ShapedObjects

/-- The blanks that a text lacks to fill a column. -/
def blanks (width : Nat) (text : String) : String :=
  String.ofList (List.replicate (width - text.length) ' ')

/-- A text at the left of its column. -/
def alignLeft (width : Nat) (text : String) : String := text ++ blanks width text

/-- A text at the right of its column. -/
def alignRight (width : Nat) (text : String) : String := blanks width text ++ text

end ShapedObjects
