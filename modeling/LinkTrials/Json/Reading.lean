import LinkTrials.Json.Value

/-!
What a reader has seen of a JSON text.

A text is read from the left up to its first fault, and the reading of a faulty text is a tree that
breaks off there. The tree is the same for every reader; what a fault is called depends on what
the reader wanted at that place: the value, no more elements, or only to get past a value that it
does not need. So each break is kept with what is needed to name it for every such wish.

`Reading.ofText` reads a whole text.
-/
namespace LinkTrials.Json

/-- A fault of a text that is no JSON. -/
inductive SyntaxFault where
  | endInValue
  | endInList
  | endInObject
  | endInString
  | expectedValue
  | expectedWord
  | expectedColon
  | expectedCommaOrListEnd
  | expectedCommaOrObjectEnd
  | keyNotString
  | trailingComma
  | trailingCharacters
  | invalidNumber
  | numberOutOfRange
  | invalidEscape
  | controlCharacter
  | loneSurrogate
  | unfinishedSurrogate
  | tooDeep
deriving DecidableEq, Repr

def SyntaxFault.message : SyntaxFault → String
  | .endInValue => "EOF while parsing a value"
  | .endInList => "EOF while parsing a list"
  | .endInObject => "EOF while parsing an object"
  | .endInString => "EOF while parsing a string"
  | .expectedValue => "expected value"
  | .expectedWord => "expected ident"
  | .expectedColon => "expected `:`"
  | .expectedCommaOrListEnd => "expected `,` or `]`"
  | .expectedCommaOrObjectEnd => "expected `,` or `\x7d`"
  | .keyNotString => "key must be a string"
  | .trailingComma => "trailing comma"
  | .trailingCharacters => "trailing characters"
  | .invalidNumber => "invalid number"
  | .numberOutOfRange => "number out of range"
  | .invalidEscape => "invalid escape"
  | .controlCharacter => "control character (\\u0000-\\u001F) found while parsing a string"
  | .loneSurrogate => "lone leading surrogate in hex escape"
  | .unfinishedSurrogate => "unexpected end of hex escape"
  | .tooDeep => "recursion limit exceeded"

/-- How the elements of a list end. -/
inductive ListEnd where
  /-- The closing bracket. -/
  | closed
  /-- Within the last element. -/
  | inside
  /-- The text ends where a comma or the bracket is due. -/
  | endOfText
  /-- Something else stands where a comma or the bracket is due. -/
  | noComma
  /-- The bracket follows a comma. -/
  | afterComma
  /-- The text ends after a comma. -/
  | endAfterComma
deriving DecidableEq, Repr

/-- How the members of an object end. -/
inductive ObjectEnd where
  /-- The closing brace. -/
  | closed
  /-- Within the value of the last member. -/
  | inside
  /-- The text ends where a name, a comma or the brace is due. -/
  | endOfText
  /-- Something else stands where a comma or the brace is due. -/
  | noComma
  /-- The brace follows a comma. -/
  | afterComma
  /-- The text ends after a comma. -/
  | endAfterComma
  /-- What stands in the place of a name is no string. -/
  | strayName
  /-- The name breaks off. -/
  | brokenName (read skipped : SyntaxFault)
  /-- The text ends after a name. -/
  | endAfterName (name : Except SyntaxFault String)
  /-- Something else than a colon follows a name. -/
  | noColon (name : Except SyntaxFault String)

/-- A value as far as it could be read. -/
inductive Reading where
  | null
  | bool (b : Bool)
  | number (n : Number)
  | string (s : String)
  /-- A complete number too large to be kept. Who skips it sees no fault. -/
  | hugeNumber
  /-- A complete string that spells no text. Who skips it sees no fault. -/
  | flawedString (fault : SyntaxFault)
  /-- A string that breaks off, with the fault for a reader and for a skipper. -/
  | brokenString (read skipped : SyntaxFault)
  /-- A number or word that breaks off, or no value at all. -/
  | brokenScalar (read skipped : SyntaxFault)
  /-- The text ends where a value is due. -/
  | missing
  | list (items : List Reading) (ending : ListEnd)
  | object (members : List (Except SyntaxFault String × Reading)) (ending : ObjectEnd)

instance : Inhabited Reading := ⟨.null⟩

/-! ### Strings -/

/-- A unit of the content of a string: a character, or a 16-bit number in an escape. -/
inductive Unit16 where
  | char (c : Char)
  | escaped (n : Nat)
deriving DecidableEq, Repr

/-- How the content of a string ends. -/
inductive StringEnd where
  | closed
  | endOfText
  | control
  | badLetter
  | badHex
deriving DecidableEq, Repr

def StringEnd.fault : StringEnd → SyntaxFault
  | .closed | .endOfText => .endInString
  | .control => .controlCharacter
  | .badLetter | .badHex => .invalidEscape

def hexValue? (c : Char) : Option Nat :=
  if c.isDigit then some (c.toNat - '0'.toNat)
  else if 'a' ≤ c ∧ c ≤ 'f' then some (c.toNat - 'a'.toNat + 10)
  else if 'A' ≤ c ∧ c ≤ 'F' then some (c.toNat - 'A'.toNat + 10)
  else none

def hex4? (a b c d : Char) : Option Nat := do
  let a ← hexValue? a
  let b ← hexValue? b
  let c ← hexValue? c
  let d ← hexValue? d
  pure (((a * 16 + b) * 16 + c) * 16 + d)

def letterEscape? (c : Char) : Option Char :=
  if c = '"' ∨ c = '\\' ∨ c = '/' then some c
  else if c = 'b' then some '\x08'
  else if c = 'f' then some '\x0c'
  else if c = 'n' then some '\n'
  else if c = 'r' then some '\r'
  else if c = 't' then some '\t'
  else none

/-- The content of a string after its opening quote: its units, how it ends, and the text after
it. -/
def scanString : List Char → List Unit16 × StringEnd × List Char
  | [] => ([], .endOfText, [])
  | '"' :: rest => ([], .closed, rest)
  | ['\\'] => ([], .endOfText, [])
  | '\\' :: 'u' :: a :: b :: c :: d :: rest =>
    match hex4? a b c d with
    | some n => let (units, e, after) := scanString rest; (.escaped n :: units, e, after)
    | none => ([], .badHex, [])
  | '\\' :: 'u' :: rest =>
    if (String.ofList rest).utf8ByteSize < 4 then ([], .endOfText, []) else ([], .badHex, [])
  | '\\' :: c :: rest =>
    match letterEscape? c with
    | some c => let (units, e, after) := scanString rest; (.char c :: units, e, after)
    | none => ([], .badLetter, [])
  | c :: rest =>
    if c.toNat < 0x20 then ([], .control, [])
    else let (units, e, after) := scanString rest; (.char c :: units, e, after)

def isLeadSurrogate (n : Nat) : Bool := decide (0xD800 ≤ n) && decide (n ≤ 0xDBFF)

def isTrailSurrogate (n : Nat) : Bool := decide (0xDC00 ≤ n) && decide (n ≤ 0xDFFF)

/-- The characters that the units of a string spell. Two escaped surrogates in their order are one
character; a surrogate alone is a fault, the one that comes first being reported. -/
def spell (ending : StringEnd) : List Unit16 → Except SyntaxFault (List Char)
  | [] => if ending = .closed then .ok [] else .error ending.fault
  | .char c :: rest => (spell ending rest).map (c :: ·)
  | .escaped n :: rest =>
    if isTrailSurrogate n then .error .loneSurrogate
    else if isLeadSurrogate n then
      match rest with
      | .escaped m :: rest =>
        if isTrailSurrogate m then
          (spell ending rest).map
            (Char.ofNat ((n - 0xD800) * 0x400 + (m - 0xDC00) + 0x10000) :: ·)
        else .error .loneSurrogate
      | .char _ :: _ => .error .unfinishedSurrogate
      | [] =>
        match ending with
        | .endOfText => .error .endInString
        | .badHex => .error .invalidEscape
        | _ => .error .unfinishedSurrogate
    else (spell ending rest).map (Char.ofNat n :: ·)

/-- A string after its opening quote: what it says, or the fault in it, and the text after it if
the string is closed. The second fault is the one that a skipper meets. -/
def readString (cs : List Char) :
    Except SyntaxFault String × Except SyntaxFault (List Char) :=
  let (units, ending, rest) := scanString cs
  ((spell ending units).map String.ofList,
    if ending = .closed then .ok rest else .error ending.fault)

/-! ### Numbers -/

/-- The largest natural number that is kept as such. -/
def maxNatural : Nat := UInt64.size - 1

/-- Digits added to a significand as long as it stays within `maxNatural`; from the first digit on
that does not, digits only count. -/
def significand : Nat → List Char → Nat × Nat
  | s, [] => (s, 0)
  | s, c :: rest =>
    let next := s * 10 + (c.toNat - '0'.toNat)
    if maxNatural < next then (s, rest.length + 1) else significand next rest

def powerOfTen (k : Nat) : Binary64 := Binary64.ofDecimal false 1 k

/-- A significand divided by ten to the power `k`, in steps of at most 308. No significand is large
enough to leave anything but zero beyond two steps. -/
def scaleDown (x : Binary64) (k : Nat) : Binary64 :=
  if k ≤ 308 then x / powerOfTen k
  else if k ≤ 616 then x / powerOfTen 308 / powerOfTen (k - 308)
  else 0

/-- A significand and a power of ten as a binary number: the nearest number to the significand is
multiplied or divided by the nearest number to the power, each time with a rounding. None if that
is too large. -/
def scaled? (negative : Bool) (s : Nat) (e : Int) : Option Binary64 :=
  let x := Binary64.ofNat s
  let signed (x : Binary64) := if negative then -x else x
  if e < 0 then some (signed (scaleDown x (-e).toNat))
  else if s = 0 then some (signed x)
  else if 308 < e then none
  else
    let y := x * powerOfTen e.toNat
    if y.isFinite then some (signed y) else none

/-- The largest exponent that is computed with. -/
def maxExponent : Nat := 2147483647

/-- The reading of a number from its parts: the digits before the point, the digits behind it if
there is a point, and the sign and digits of the exponent if there is one. -/
def ofParts (negative : Bool) (whole : List Char) (fraction : Option (List Char))
    (exponent : Option (Bool × List Char)) : Reading :=
  let (s, dropped) := significand 0 whole
  let (s, places) := match fraction with
    | none => (s, 0)
    | some ds => let (s, unused) := significand s ds; (s, ds.length - unused)
  -- Digits that found no room in the significand still count as places.
  let start : Int := (dropped : Int) - places
  let real (e : Int) : Reading :=
    match scaled? negative s e with
    | some x => .number (.real x)
    | none => .hugeNumber
  match exponent with
  | some (below, ds) =>
    let e := ds.foldl (fun e c => e * 10 + (c.toNat - '0'.toNat)) 0
    if maxExponent < e then
      if s ≠ 0 ∧ !below then .hugeNumber
      else .number (.real (if negative then -0 else 0))
    else real (if below then start - e else start + e)
  | none =>
    if fraction.isSome ∨ dropped ≠ 0 then real start
    else if !negative then .number (.natural s)
    else if 0 < s ∧ s ≤ UInt64.size / 2 then .number (.negative s)
    -- Zero with a sign, or an integer below the least one of 64 bits.
    else .number (.real (-(Binary64.ofNat s)))

/-- An exponent behind its letter. -/
def readExponent (negative : Bool) (whole : List Char) (fraction : Option (List Char))
    (cs : List Char) : Reading × Option (List Char) :=
  let (below, cs) := match cs with
    | '+' :: r => (false, r)
    | '-' :: r => (true, r)
    | r => (false, r)
  match cs with
  | [] => (.brokenScalar .endInValue .invalidNumber, none)
  | c :: _ =>
    if c.isDigit then
      (ofParts negative whole fraction (some (below, cs.takeWhile Char.isDigit)),
        some (cs.dropWhile Char.isDigit))
    else (.brokenScalar .invalidNumber .invalidNumber, none)

/-- A number behind its sign, and the text after it. There is no zero in front of other digits, and
a digit on both sides of a point. -/
def readNumber (negative : Bool) (cs : List Char) : Reading × Option (List Char) :=
  let whole := cs.takeWhile Char.isDigit
  let isExponent (c : Char) : Bool := c == 'e' || c == 'E'
  match whole, cs.dropWhile Char.isDigit with
  | [], [] => (.brokenScalar .endInValue .invalidNumber, none)
  | [], _ :: _ => (.brokenScalar .invalidNumber .invalidNumber, none)
  | '0' :: _ :: _, _ => (.brokenScalar .invalidNumber .invalidNumber, none)
  | _, '.' :: rest =>
    let fraction := rest.takeWhile Char.isDigit
    match fraction, rest.dropWhile Char.isDigit with
    | [], [] => (.brokenScalar .endInValue .invalidNumber, none)
    | [], _ :: _ => (.brokenScalar .invalidNumber .invalidNumber, none)
    | _, c :: rest =>
      if isExponent c then readExponent negative whole (some fraction) rest
      else (ofParts negative whole (some fraction) none, some (c :: rest))
    | _, [] => (ofParts negative whole (some fraction) none, some [])
  | _, c :: rest =>
    if isExponent c then readExponent negative whole none rest
    else (ofParts negative whole none none, some (c :: rest))
  | _, [] => (ofParts negative whole none none, some [])

/-! ### Values -/

/-- The blanks that may stand between the parts of a JSON text. -/
def skipBlanks (cs : List Char) : List Char :=
  cs.dropWhile fun c => c == ' ' || c == '\n' || c == '\t' || c == '\r'

/-- The letters of a word after its first one. -/
def readWord (value : Reading) : List Char → List Char → Reading × Option (List Char)
  | [], rest => (value, some rest)
  | _ :: _, [] => (.brokenScalar .endInValue .endInValue, none)
  | w :: word, c :: rest =>
    if c = w then readWord value word rest else (.brokenScalar .expectedWord .expectedWord, none)

mutual

/-- A value and the text after it; no text if the value breaks off. `fuel` bounds the length of the
text. -/
def readValue : Nat → List Char → Reading × Option (List Char)
  | 0, _ => (.missing, none)
  | fuel + 1, cs =>
    match skipBlanks cs with
    | [] => (.missing, none)
    | 'n' :: rest => readWord .null ['u', 'l', 'l'] rest
    | 't' :: rest => readWord (.bool true) ['r', 'u', 'e'] rest
    | 'f' :: rest => readWord (.bool false) ['a', 'l', 's', 'e'] rest
    | '-' :: rest => readNumber true rest
    | '"' :: rest =>
      match readString rest with
      | (.ok s, .ok rest) => (.string s, some rest)
      | (.error fault, .ok rest) => (.flawedString fault, some rest)
      | (.ok _, .error skipped) => (.brokenString skipped skipped, none)
      | (.error read, .error skipped) => (.brokenString read skipped, none)
    | '[' :: rest =>
      let (items, ending, after) := readItems fuel true rest
      (.list items ending, after)
    | '{' :: rest =>
      let (members, ending, after) := readMembers fuel true rest
      (.object members ending, after)
    | c :: rest =>
      if c.isDigit then readNumber false (c :: rest)
      else (.brokenScalar .expectedValue .expectedValue, none)

/-- The elements of a list from one of them on, the first one or one after a comma. -/
def readItem : Nat → List Char → List Reading × ListEnd × Option (List Char)
  | 0, _ => ([], .endOfText, none)
  | fuel + 1, cs =>
    match readValue fuel cs with
    | (item, none) => ([item], .inside, none)
    | (item, some rest) =>
      let (items, ending, after) := readItems fuel false rest
      (item :: items, ending, after)

/-- What is left of a list behind its bracket or an element. -/
def readItems : Nat → Bool → List Char → List Reading × ListEnd × Option (List Char)
  | 0, _, _ => ([], .endOfText, none)
  | fuel + 1, first, cs =>
    match skipBlanks cs with
    | [] => ([], .endOfText, none)
    | ']' :: rest => ([], .closed, some rest)
    | c :: rest =>
      if first then readItem fuel (c :: rest)
      else if c = ',' then
        match skipBlanks rest with
        | [] => ([], .endAfterComma, none)
        | ']' :: _ => ([], .afterComma, none)
        | rest => readItem fuel rest
      else ([], .noComma, none)

/-- The members of an object from a name on, the opening quote of which has been read. -/
def readMember : Nat → List Char →
    List (Except SyntaxFault String × Reading) × ObjectEnd × Option (List Char)
  | 0, _ => ([], .endOfText, none)
  | fuel + 1, cs =>
    match readString cs with
    | (name, .error skipped) =>
      ([], .brokenName (match name with | .ok _ => skipped | .error read => read) skipped, none)
    | (name, .ok rest) =>
      match skipBlanks rest with
      | [] => ([], .endAfterName name, none)
      | ':' :: rest =>
        match readValue fuel rest with
        | (value, none) => ([(name, value)], .inside, none)
        | (value, some rest) =>
          let (members, ending, after) := readMembers fuel false rest
          ((name, value) :: members, ending, after)
      | _ :: _ => ([], .noColon name, none)

/-- What is left of an object behind its brace or a member. -/
def readMembers : Nat → Bool → List Char →
    List (Except SyntaxFault String × Reading) × ObjectEnd × Option (List Char)
  | 0, _, _ => ([], .endOfText, none)
  | fuel + 1, first, cs =>
    match skipBlanks cs with
    | [] => ([], .endOfText, none)
    | '}' :: rest => ([], .closed, some rest)
    | c :: rest =>
      if first then
        if c = '"' then readMember fuel rest
        else ([], .strayName, none)
      else if c = ',' then
        match skipBlanks rest with
        | [] => ([], .endAfterComma, none)
        | '}' :: _ => ([], .afterComma, none)
        | '"' :: rest => readMember fuel rest
        | _ => ([], .strayName, none)
      else ([], .noComma, none)

end

/-- The reading of a text and whether anything but blanks follows the value. -/
def Reading.ofText (s : String) : Reading × Bool :=
  let cs := s.toList
  -- The reader takes at most three steps between two characters that it uses up.
  match readValue (3 * cs.length + 1) cs with
  | (value, none) => (value, false)
  | (value, some rest) => (value, !(skipBlanks rest).isEmpty)

end LinkTrials.Json
