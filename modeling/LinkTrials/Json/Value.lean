import LinkTrials.Decimal.Notation

/-!
JSON values and their texts.

Whole numbers and binary numbers are kept apart, as they are written apart. `Json.compact` writes
a value on one line without blanks, `Json.pretty` one member or element per line. The members of an
object are written in the order in which they are kept.
-/
namespace LinkTrials

namespace Json

/-- A number: a natural number, the negative of a positive one, or a binary number. -/
inductive Number where
  | natural (n : Nat)
  | negative (n : Nat)
  | real (x : Binary64)
deriving DecidableEq

/-- A finite binary number: the shortest decimal that reads back, a tie to the even digit, in place
with at least one digit behind the point if its leading digit has an exponent from -5 to 15, and
with an exponent otherwise. -/
def realText : Binary64 → List Char
  | .finite s 0 _ => Binary64.signText s ++ ['0', '.', '0']
  | .finite s (n + 1) _ =>
    let d := Decimal.shortest .even (n + 1)
    Binary64.signText s ++
      if -5 ≤ d.leading ∧ d.leading ≤ 15 then
        if 0 ≤ d.exponent then d.positional ++ ['.', '0'] else d.positional
      else d.scientific
  | _ => ['n', 'u', 'l', 'l']

def Number.text : Number → List Char
  | .natural n => Nat.toDigits 10 n
  | .negative n => '-' :: Nat.toDigits 10 n
  | .real x => realText x

/-- A character inside a string: quotes, backslashes and controls are escaped. -/
def escapedChar (c : Char) : List Char :=
  if c = '"' then ['\\', '"']
  else if c = '\\' then ['\\', '\\']
  else if c = '\x08' then ['\\', 'b']
  else if c = '\x0c' then ['\\', 'f']
  else if c = '\n' then ['\\', 'n']
  else if c = '\r' then ['\\', 'r']
  else if c = '\t' then ['\\', 't']
  else if c.toNat < 0x20 then
    ['\\', 'u', '0', '0', Nat.digitChar (c.toNat / 16), Nat.digitChar (c.toNat % 16)]
  else [c]

def stringText (s : String) : List Char := '"' :: (s.toList.flatMap escapedChar ++ ['"'])

end Json

/-- A JSON value. -/
inductive Json where
  | null
  | bool (b : Bool)
  | number (n : Json.Number)
  | string (s : String)
  | list (items : List Json)
  | object (members : List (String × Json))
deriving Inhabited, BEq

namespace Json

def ofNat (n : Nat) : Json := .number (.natural n)

/-- A binary number. JSON has no notation for infinities and the like, so they become `null`. -/
def ofReal (x : Binary64) : Json := if x.isFinite then .number (.real x) else .null

/-- A value that may be missing, written as `null`. -/
def ofOption {α : Type} (write : α → Json) : Option α → Json
  | none => .null
  | some a => write a

mutual

/-- One line without blanks. -/
def compactChars : Json → List Char
  | .null => ['n', 'u', 'l', 'l']
  | .bool true => ['t', 'r', 'u', 'e']
  | .bool false => ['f', 'a', 'l', 's', 'e']
  | .number n => n.text
  | .string s => stringText s
  | .list [] => ['[', ']']
  | .list (j :: rest) => '[' :: (compactChars j ++ compactItems rest)
  | .object [] => ['{', '}']
  | .object ((k, j) :: rest) =>
    '{' :: (stringText k ++ ':' :: (compactChars j ++ compactMembers rest))

/-- The elements after the first, and the end of the list. -/
def compactItems : List Json → List Char
  | [] => [']']
  | j :: rest => ',' :: (compactChars j ++ compactItems rest)

/-- The members after the first, and the end of the object. -/
def compactMembers : List (String × Json) → List Char
  | [] => ['}']
  | (k, j) :: rest => ',' :: (stringText k ++ ':' :: (compactChars j ++ compactMembers rest))

end

/-- A new line indented by two blanks for each level. -/
def newLine (level : Nat) : List Char := '\n' :: List.replicate (2 * level) ' '

mutual

/-- Elements and members on lines of their own, two blanks deeper than what holds them. -/
def prettyChars (level : Nat) : Json → List Char
  | .null => ['n', 'u', 'l', 'l']
  | .bool true => ['t', 'r', 'u', 'e']
  | .bool false => ['f', 'a', 'l', 's', 'e']
  | .number n => n.text
  | .string s => stringText s
  | .list [] => ['[', ']']
  | .list (j :: rest) =>
    '[' :: (newLine (level + 1) ++ (prettyChars (level + 1) j ++ prettyItems level rest))
  | .object [] => ['{', '}']
  | .object ((k, j) :: rest) =>
    '{' :: (newLine (level + 1) ++ (stringText k ++ ':' :: ' ' ::
      (prettyChars (level + 1) j ++ prettyMembers level rest)))

def prettyItems (level : Nat) : List Json → List Char
  | [] => newLine level ++ [']']
  | j :: rest =>
    ',' :: (newLine (level + 1) ++ (prettyChars (level + 1) j ++ prettyItems level rest))

def prettyMembers (level : Nat) : List (String × Json) → List Char
  | [] => newLine level ++ ['}']
  | (k, j) :: rest =>
    ',' :: (newLine (level + 1) ++ (stringText k ++ ':' :: ' ' ::
      (prettyChars (level + 1) j ++ prettyMembers level rest)))

end

def compact (j : Json) : String := String.ofList (compactChars j)

def pretty (j : Json) : String := String.ofList (prettyChars 0 j)

end Json

end LinkTrials
