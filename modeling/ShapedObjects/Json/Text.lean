import ShapedObjects.Json

/-!
# JSON strings

A string is written between quotes with as few escapes as possible. When it is
read, an escape may stand for any UTF-16 unit; two surrogates make one character,
and a surrogate without its partner leaves the string without a text.
-/

namespace ShapedObjects.Json

/-- A character of a string, or a UTF-16 unit that was written as an escape. -/
inductive TextUnit where
  /-- A character. -/
  | char (char : Char)
  /-- An escaped unit. -/
  | code (code : Nat)
deriving DecidableEq, Repr

/-- The last of the two characters that escape a character, if there is such a short escape. -/
def shortEscape? (char : Char) : Option Char :=
  [('"', '"'), ('\\', '\\'), ('\x08', 'b'), ('\x0c', 'f'), ('\n', 'n'), ('\r', 'r'),
    ('\t', 't')].lookup char

/-- The character that a short escape stands for. A slash may be escaped but never is. -/
def shortEscaped? (letter : Char) : Option Char :=
  [('"', '"'), ('\\', '\\'), ('/', '/'), ('b', '\x08'), ('f', '\x0c'), ('n', '\n'),
    ('r', '\r'), ('t', '\t')].lookup letter

/-- A character as it stands in a string. -/
def writeChar (char : Char) : List Char :=
  match shortEscape? char with
  | some letter => ['\\', letter]
  | none =>
    if char.toNat < 32 then
      ['\\', 'u', '0', '0', Nat.digitChar (char.toNat / 16), Nat.digitChar (char.toNat % 16)]
    else [char]

/-- A string between quotes. One without a text is written as an unpaired surrogate. -/
def writeText : Option String → List Char
  | some text => '"' :: (text.toList.flatMap writeChar ++ ['"'])
  | none => ['"', '\\', 'u', 'd', '8', '0', '0', '"']

/-- The value of a hexadecimal digit. -/
def hexDigit? (char : Char) : Option Nat :=
  if '0' ≤ char ∧ char ≤ '9' then some (char.toNat - '0'.toNat)
  else if 'a' ≤ char ∧ char ≤ 'f' then some (char.toNat - 'a'.toNat + 10)
  else if 'A' ≤ char ∧ char ≤ 'F' then some (char.toNat - 'A'.toNat + 10)
  else none

/-- The value of four hexadecimal digits. -/
def hexCode? (a b c d : Char) : Option Nat := do
  let a ← hexDigit? a
  let b ← hexDigit? b
  let c ← hexDigit? c
  let d ← hexDigit? d
  return ((a * 16 + b) * 16 + c) * 16 + d

/-- The units of a string behind its first quote, and what follows its last one. Control
characters must be escaped. -/
def scanText : List Char → Option (List TextUnit × List Char)
  | [] => none
  | '"' :: rest => some ([], rest)
  | '\\' :: 'u' :: a :: b :: c :: d :: rest => do
    let code ← hexCode? a b c d
    let (units, rest) ← scanText rest
    return (.code code :: units, rest)
  | '\\' :: letter :: rest => do
    let char ← shortEscaped? letter
    let (units, rest) ← scanText rest
    return (.char char :: units, rest)
  | char :: rest =>
    if char.toNat < 32 then none
    else do
      let (units, rest) ← scanText rest
      return (.char char :: units, rest)

/-- Whether a unit is the first of a pair of surrogates. -/
def isHighSurrogate (code : Nat) : Bool := 0xD800 ≤ code && code < 0xDC00

/-- Whether a unit is the second of a pair of surrogates. -/
def isLowSurrogate (code : Nat) : Bool := 0xDC00 ≤ code && code < 0xE000

/-- The characters of a string, if all its surrogates are paired. -/
def joinUnits : List TextUnit → Option (List Char)
  | [] => some []
  | .char char :: rest => (joinUnits rest).map (char :: ·)
  | .code high :: .code low :: rest =>
    if isHighSurrogate high && isLowSurrogate low then
      (joinUnits rest).map
        (Char.ofNat (0x10000 + (high - 0xD800) * 0x400 + (low - 0xDC00)) :: ·)
    else if isHighSurrogate high || isLowSurrogate high then none
    else (joinUnits (.code low :: rest)).map (Char.ofNat high :: ·)
  | .code code :: rest =>
    if isHighSurrogate code || isLowSurrogate code then none
    else (joinUnits rest).map (Char.ofNat code :: ·)

/-- Reads a string behind its first quote. -/
def readText (chars : List Char) : Option (Option String × List Char) :=
  (scanText chars).map fun (units, rest) => ((joinUnits units).map String.ofList, rest)

end ShapedObjects.Json
