import ShapedObjects.Json.Number
import ShapedObjects.Json.Text

/-!
# Writing JSON

The compact form has no blanks at all. The pretty form gives every item and every
member a line of its own, indented by two blanks for each bracket around it.
-/

namespace ShapedObjects.Json

mutual

/-- The compact form of a value. -/
def write : Json → List Char
  | null => ['n', 'u', 'l', 'l']
  | bool true => ['t', 'r', 'u', 'e']
  | bool false => ['f', 'a', 'l', 's', 'e']
  | number value => value.write
  | string text => writeText text
  | array items => '[' :: (writeItems items ++ [']'])
  | object members => '{' :: (writeMembers members ++ ['}'])

/-- The compact form of items, with commas between them. -/
def writeItems : List Json → List Char
  | [] => []
  | [item] => item.write
  | item :: items => item.write ++ ',' :: writeItems items

/-- The compact form of members, with commas between them. -/
def writeMembers : List (Option String × Json) → List Char
  | [] => []
  | [(key, value)] => writeText key ++ ':' :: value.write
  | (key, value) :: members => writeText key ++ ':' :: (value.write ++ ',' :: writeMembers members)

end

/-- The start of a line inside a number of brackets. -/
def newLine (depth : Nat) : List Char := '\n' :: List.replicate (2 * depth) ' '

mutual

/-- The pretty form of a value inside a number of brackets. -/
def writePretty (depth : Nat) : Json → List Char
  | null => ['n', 'u', 'l', 'l']
  | bool true => ['t', 'r', 'u', 'e']
  | bool false => ['f', 'a', 'l', 's', 'e']
  | number value => value.write
  | string text => writeText text
  | array [] => ['[', ']']
  | array (item :: items) =>
    '[' :: (writePrettyItems (depth + 1) (item :: items) ++ newLine depth ++ [']'])
  | object [] => ['{', '}']
  | object (member :: members) =>
    '{' :: (writePrettyMembers (depth + 1) (member :: members) ++ newLine depth ++ ['}'])

/-- The pretty form of items, each on a line of its own. -/
def writePrettyItems (depth : Nat) : List Json → List Char
  | [] => []
  | [item] => newLine depth ++ item.writePretty depth
  | item :: items => newLine depth ++ item.writePretty depth ++ ',' :: writePrettyItems depth items

/-- The pretty form of members, each on a line of its own. -/
def writePrettyMembers (depth : Nat) : List (Option String × Json) → List Char
  | [] => []
  | [(key, value)] => newLine depth ++ writeText key ++ ':' :: ' ' :: value.writePretty depth
  | (key, value) :: members =>
    newLine depth ++ writeText key ++ ':' :: ' ' :: value.writePretty depth ++
      ',' :: writePrettyMembers depth members

end

/-- The compact text of a value. -/
def text (value : Json) : String := String.ofList value.write

/-- The pretty text of a value. -/
def prettyText (value : Json) : String := String.ofList (value.writePretty 0)

end ShapedObjects.Json
