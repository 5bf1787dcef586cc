import LinkTrials.Json.Fields
import LinkTrials.Json.Reading
import LinkTrials.Text.Quoted

/-!
Values read from JSON texts.

A decoder turns a reading into a value or reports the fault that comes first in the order of the
text, be it one of the text itself or of what the text says. Lists and objects may be nested to a
fixed depth, which a decoder counts down.
-/
namespace LinkTrials.Json

/-- What a text has in the place of something else. -/
inductive Found where
  | null
  | bool (b : Bool)
  | integer (i : Int)
  | real (x : Binary64)
  | string (s : String)
  | list
  | object
deriving DecidableEq

def Found.message : Found → String
  | .null => "null"
  | .bool b => s!"boolean `{b}`"
  | .integer i => s!"integer `{i}`"
  | .real x => "floating point `" ++ String.ofList (realText x) ++ "`"
  | .string s => "string " ++ Text.quoted s
  | .list => "sequence"
  | .object => "map"

/-- Why a text gives no value of the kind that is wanted. -/
inductive DecodeFault where
  /-- The text is no JSON, or nested too deeply. -/
  | malformed (fault : SyntaxFault)
  /-- A value of another kind. -/
  | otherKind (found : Found) (expected : String)
  /-- An integer out of range. -/
  | otherInteger (i : Int) (expected : String)
  /-- A list that is too short. -/
  | tooShort (length : Nat) (expected : String)
  | unknownVariant (name : String) (known : List String)
  | unknownMember (name : String) (known : List String)
  | missingMember (name : String)
  | repeatedMember (name : String)
  /-- A value of the right kind that says something impossible. -/
  | refused (reason : String)
deriving DecidableEq

/-- A choice among quoted names. -/
def oneOf : List String → String
  | [] => "there are no variants"
  | [a] => "`" ++ a ++ "`"
  | [a, b] => "`" ++ a ++ "` or `" ++ b ++ "`"
  | names => "one of " ++ ", ".intercalate (names.map fun n => "`" ++ n ++ "`")

/-- What is said about a fault, without the place at which it was found. -/
def DecodeFault.message : DecodeFault → String
  | .malformed fault => fault.message
  | .otherKind found expected => "invalid type: " ++ found.message ++ ", expected " ++ expected
  | .otherInteger i expected =>
    "invalid value: " ++ (Found.integer i).message ++ ", expected " ++ expected
  | .tooShort n expected => s!"invalid length {n}, expected {expected}"
  | .unknownVariant name known => "unknown variant `" ++ name ++ "`, expected " ++ oneOf known
  | .unknownMember name known => "unknown field `" ++ name ++ "`, expected " ++ oneOf known
  | .missingMember name => "missing field `" ++ name ++ "`"
  | .repeatedMember name => "duplicate field `" ++ name ++ "`"
  | .refused reason => reason

/-- How a library that reads texts says where in a text it found a fault. -/
abbrev Placing := String → DecodeFault → String

def DecodeFault.messageIn (placing : Placing) (text : String) (fault : DecodeFault) : String :=
  fault.message ++ placing text fault

/-- A reader of values at a place in a text where lists and objects may still be nested a number of
times. -/
abbrev Decoder (α : Type) := Nat → Reading → Except DecodeFault α

/-- How deep a text may be nested. -/
def maxDepth : Nat := 127

/-- The depth that is left inside a list or an object. -/
def enter : Nat → Except DecodeFault Nat
  | 0 => .error (.malformed .tooDeep)
  | depth + 1 => .ok depth

/-- The fault of a value that is not of the expected kind. A number, word or string is looked at as
a whole, so a fault in it comes first. -/
def mismatch (expected : String) : Reading → DecodeFault
  | .null => .otherKind .null expected
  | .bool b => .otherKind (.bool b) expected
  | .number (.natural n) => .otherKind (.integer n) expected
  | .number (.negative n) => .otherKind (.integer (-n)) expected
  | .number (.real x) => .otherKind (.real x) expected
  | .string s => .otherKind (.string s) expected
  | .hugeNumber => .malformed .numberOutOfRange
  | .flawedString fault => .malformed fault
  | .brokenString read _ => .malformed read
  | .brokenScalar read _ => .malformed read
  | .missing => .malformed .endInValue
  | .list .. => .otherKind .list expected
  | .object .. => .otherKind .object expected

/-! ### Ends of lists and objects -/

/-- The fault of a list whose next element is wanted but not there. Within an element there is a
fault of that element instead. -/
def ListEnd.wanted : ListEnd → SyntaxFault
  | .closed | .inside | .endOfText => .endInList
  | .noComma => .expectedCommaOrListEnd
  | .afterComma => .trailingComma
  | .endAfterComma => .endInValue

/-- Whether a list ends properly for who has all the elements that he wants. -/
def ListEnd.satisfied : ListEnd → Except DecodeFault Unit
  | .closed => .ok ()
  | .inside | .noComma | .endAfterComma => .error (.malformed .trailingCharacters)
  | .endOfText => .error (.malformed .endInList)
  | .afterComma => .error (.malformed .trailingComma)

/-- The fault of a list that is skipped. -/
def ListEnd.skipped : ListEnd → SyntaxFault
  | .closed | .inside | .endOfText => .endInList
  | .noComma => .expectedCommaOrListEnd
  | .afterComma => .expectedValue
  | .endAfterComma => .endInValue

/-- The fault of an object whose next name is wanted, before the name itself is looked at. -/
def ObjectEnd.wanted : ObjectEnd → SyntaxFault
  | .closed | .inside | .endOfText | .endAfterName _ => .endInObject
  | .noComma => .expectedCommaOrObjectEnd
  | .afterComma => .trailingComma
  | .endAfterComma => .endInValue
  | .strayName => .keyNotString
  | .brokenName read _ => read
  | .noColon _ => .expectedColon

/-- The fault of an object that is skipped. -/
def ObjectEnd.skipped : ObjectEnd → SyntaxFault
  | .closed | .inside | .endOfText | .endAfterComma | .endAfterName _ => .endInObject
  | .noComma => .expectedCommaOrObjectEnd
  | .afterComma | .strayName => .keyNotString
  | .brokenName _ skipped => skipped
  | .noColon _ => .expectedColon

mutual

/-- Whether a value that nobody needs is well formed. What it says is not looked at, nor how deep it
is nested. -/
def skip : Reading → Except DecodeFault Unit
  | .brokenString _ skipped => .error (.malformed skipped)
  | .brokenScalar _ skipped => .error (.malformed skipped)
  | .missing => .error (.malformed .endInValue)
  | .list items ending => skipItems ending items
  | .object members ending => skipMembers ending members
  | _ => .ok ()

def skipItems (ending : ListEnd) : List Reading → Except DecodeFault Unit
  | [] => if ending = .closed then .ok () else .error (.malformed ending.skipped)
  | item :: rest => do
    skip item
    skipItems ending rest

def skipMembers (ending : ObjectEnd) :
    List (Except SyntaxFault String × Reading) → Except DecodeFault Unit
  | [] => match ending with
    | .closed => .ok ()
    | ending => .error (.malformed ending.skipped)
  | (_, value) :: rest => do
    skip value
    skipMembers ending rest

end

/-! ### Plain values -/

namespace Decoder

def bool : Decoder Bool
  | _, .bool b => .ok b
  | _, r => .error (mismatch "a boolean" r)

def string : Decoder String
  | _, .string s => .ok s
  | _, r => .error (mismatch "a string" r)

/-- A natural number up to `limit`. -/
def natural (limit : Nat) (expected : String) : Decoder Nat
  | _, .number (.natural n) => if n ≤ limit then .ok n else .error (.otherInteger n expected)
  | _, .number (.negative n) => .error (.otherInteger (-n) expected)
  | _, r => .error (mismatch expected r)

def count : Decoder Nat := natural (UInt64.size - 1) "usize"

/-- A number; integers are rounded to the nearest one. -/
def real : Decoder Binary64
  | _, .number (.natural n) => .ok (Binary64.ofNat n)
  | _, .number (.negative n) => .ok (-(Binary64.ofNat n))
  | _, .number (.real x) => .ok x
  | _, r => .error (mismatch "f64" r)

def optional {α : Type} (decode : Decoder α) : Decoder (Option α)
  | _, .null => .ok none
  | depth, r => (decode depth r).map some

/-- A value with a condition on what it says. -/
def checked {α β : Type} (decode : Decoder α) (check : α → Except String β) : Decoder β :=
  fun depth r =>
    match decode depth r with
    | .ok a => (check a).mapError .refused
    | .error fault => .error fault

/-- The elements of a list from some place on. -/
def items {α : Type} (decode : Reading → Except DecodeFault α) (ending : ListEnd) :
    List Reading → Except DecodeFault (List α)
  | [] => if ending = .closed then .ok [] else .error (.malformed ending.wanted)
  | item :: rest => do
    let a ← decode item
    let others ← items decode ending rest
    .ok (a :: others)

def list {α : Type} (decode : Decoder α) : Decoder (List α)
  | depth, .list elements ending => do
    let depth ← enter depth
    items (decode depth) ending elements
  | _, r => .error (mismatch "a sequence" r)

def namedVariant {α : Type} (variants : List (String × α)) (name : String) :
    Except DecodeFault α :=
  match variants.find? fun v => v.1 == name with
  | some v => .ok v.2
  | none => .error (.unknownVariant name (variants.map (·.1)))

/-- A name of a variant in an object. -/
def variantName {α : Type} (variants : List (String × α)) :
    Except SyntaxFault String → Except DecodeFault α
  | .ok name => namedVariant variants name
  | .error fault => .error (.malformed fault)

/-- One of some named variants: its name, or an object whose only member has that name and the
value `null`. -/
def variant {α : Type} (variants : List (String × α)) : Decoder α
  | _, .string s => namedVariant variants s
  | _, .flawedString fault => .error (.malformed fault)
  | _, .brokenString read _ => .error (.malformed read)
  | _, .missing => .error (.malformed .endInValue)
  | depth, .object members ending => do
    let _ ← enter depth
    match members, ending with
    | [], .closed => .error (.malformed .expectedValue)
    | [], .endAfterName name => do
      let _ ← variantName variants name
      .error (.malformed .endInObject)
    | [], .noColon name => do
      let _ ← variantName variants name
      .error (.malformed .expectedColon)
    | [], ending => .error (.malformed ending.wanted)
    | (name, value) :: rest, ending => do
      let a ← variantName variants name
      match value with
      | .null =>
        match rest, ending with
        | [], .closed => .ok a
        | [], .endOfText => .error (.malformed .endInObject)
        | _, _ => .error (.malformed .expectedValue)
      | r => .error (mismatch "unit" r)
  | _, _ => .error (.malformed .expectedValue)

end Decoder

/-! ### Any value -/

/-- The fault of an object after its last complete member: the next name is read, then the colon
after it. -/
def ObjectEnd.fault : ObjectEnd → DecodeFault
  | .endAfterName (.error fault) | .noColon (.error fault) => .malformed fault
  | ending => .malformed ending.wanted

mutual

/-- Any value. Of members with one name the last counts, and members are sorted by name. -/
def Decoder.value : Decoder Json
  | _, .null => .ok .null
  | _, .bool b => .ok (.bool b)
  | _, .number n => .ok (.number n)
  | _, .string s => .ok (.string s)
  | depth, .list elements ending => do
    let depth ← enter depth
    let values ← Decoder.valueItems depth ending elements
    .ok (.list values)
  | depth, .object members ending => do
    let depth ← enter depth
    let members ← Decoder.valueMembers depth ending members
    .ok (.object (Fields.ofList members))
  | _, r => .error (mismatch "any valid JSON value" r)

def Decoder.valueItems (depth : Nat) (ending : ListEnd) :
    List Reading → Except DecodeFault (List Json)
  | [] => if ending = .closed then .ok [] else .error (.malformed ending.wanted)
  | item :: rest => do
    let j ← Decoder.value depth item
    let others ← Decoder.valueItems depth ending rest
    .ok (j :: others)

def Decoder.valueMembers (depth : Nat) (ending : ObjectEnd) :
    List (Except SyntaxFault String × Reading) → Except DecodeFault (List (String × Json))
  | [] => match ending with
    | .closed => .ok []
    | ending => .error ending.fault
  | (.error fault, _) :: _ => .error (.malformed fault)
  | (.ok name, value) :: rest => do
    let j ← Decoder.value depth value
    let others ← Decoder.valueMembers depth ending rest
    .ok ((name, j) :: others)

end

/-- An object as its members by name. -/
def Decoder.fields : Decoder Fields
  | depth, .object members ending => do
    let depth ← enter depth
    let members ← Decoder.valueMembers depth ending members
    .ok (Fields.ofList members)
  | _, r => .error (mismatch "a map" r)

/-- A whole text: one value with nothing but blanks around it. -/
def Decoder.ofText {α : Type} (decode : Decoder α) (s : String) : Except DecodeFault α :=
  let (reading, trailing) := Reading.ofText s
  match decode maxDepth reading with
  | .ok a => if trailing then .error (.malformed .trailingCharacters) else .ok a
  | .error fault => .error fault

end LinkTrials.Json
