import ShapedObjects.Json.Number
import ShapedObjects.Json.Text

/-!
# Reading JSON

The reader accepts exactly the JSON grammar. Of two calls, one inside the other, at
least one reads a character, so twice the length of a text bounds their depth.
-/

namespace ShapedObjects.Json

/-- Whether a character may stand between tokens. -/
def isBlank (char : Char) : Bool :=
  char = ' ' || char = '\n' || char = '\t' || char = '\r'

/-- Skips what may stand between tokens. -/
def skipBlanks (chars : List Char) : List Char := chars.dropWhile isBlank

/-- Skips a colon and the blanks around it. -/
def skipColon (chars : List Char) : Option (List Char) :=
  match skipBlanks chars with
  | ':' :: rest => some rest
  | _ => none

/-- Reads one of the three words that are values. -/
def readWord (chars : List Char) : Option (Json × List Char) :=
  [("null", Json.null), ("true", .bool true), ("false", .bool false)].findSome? fun entry =>
    (entry.1.toList.isPrefixOf? chars).map fun rest => (entry.2, rest)

/-- Reads a value that is no string and has no brackets. -/
def readPlain (chars : List Char) : Option (Json × List Char) :=
  match readWord chars with
  | some result => some result
  | none => (JsonNumber.read chars).map fun result => (.number result.1, result.2)

mutual

/-- Reads a value, and gives what follows it. -/
def readValue : Nat → List Char → Option (Json × List Char)
  | 0, _ => none
  | fuel + 1, chars =>
    match skipBlanks chars with
    | '"' :: rest => (readText rest).map fun (text, rest) => (.string text, rest)
    | '[' :: rest =>
      match skipBlanks rest with
      | ']' :: rest => some (.array [], rest)
      | rest => (readItems fuel rest).map fun (items, rest) => (.array items, rest)
    | '{' :: rest =>
      match skipBlanks rest with
      | '}' :: rest => some (.object [], rest)
      | rest => (readMembers fuel rest).map fun (members, rest) => (.object members, rest)
    | rest => readPlain rest

/-- Reads the items of an array, of which there is at least one, and its closing bracket. -/
def readItems : Nat → List Char → Option (List Json × List Char)
  | 0, _ => none
  | fuel + 1, chars => do
    let (item, rest) ← readValue fuel chars
    match skipBlanks rest with
    | ']' :: rest => some ([item], rest)
    | ',' :: rest => do
      let (items, rest) ← readItems fuel rest
      return (item :: items, rest)
    | _ => none

/-- Reads the members of an object, of which there is at least one, and its closing brace. -/
def readMembers : Nat → List Char → Option (List (Option String × Json) × List Char)
  | 0, _ => none
  | fuel + 1, chars => do
    match skipBlanks chars with
    | '"' :: rest =>
      let (key, rest) ← readText rest
      let rest ← skipColon rest
      let (value, rest) ← readValue fuel rest
      match skipBlanks rest with
      | '\x7d' :: rest => some ([(key, value)], rest)
      | ',' :: rest => do
        let (members, rest) ← readMembers fuel rest
        return ((key, value) :: members, rest)
      | _ => none
    | _ => none

end

/-- The value of a whole text. -/
def ofText? (text : String) : Option Json :=
  match readValue (2 * text.length + 2) text.toList with
  | some (value, rest) => if (skipBlanks rest).isEmpty then some value else none
  | none => none

end ShapedObjects.Json
