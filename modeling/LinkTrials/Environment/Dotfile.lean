import LinkTrials.Environment.Basic
import LinkTrials.Folder
import LinkTrials.Text.Alphanumeric

/-!
Files that set environment variables, one assignment a line.

A line is an optional `export`, a name, `=` and a value. Single quotes keep what is between them,
double quotes keep blanks, a backslash keeps the next character, and `$NAME` or `$` with the name in
braces stands for the text of another variable. Blanks end a value that is not quoted, and only a
comment may follow. A variable that has a text already keeps it; where the system does not take the
text for a variable without one, the file is not read on.
-/
namespace LinkTrials.Dotfile

/-- A line, or the value in it, and how far into it the reading came. -/
structure LineFault where
  text : String
  position : Nat
deriving DecidableEq, Repr

def LineFault.message (fault : LineFault) : String :=
  s!"Error parsing line: '{fault.text}', error at line index: {fault.position}"

/-! ### Values -/

/-- What is being read within a value. -/
inductive State where
  | plain
  | singleQuoted
  | doubleQuoted
  /-- Behind the end of the value. -/
  | ended
deriving DecidableEq, Repr

/-- A name that is being read for the text of another variable. -/
inductive Naming where
  | none
  /-- Behind the `$`. -/
  | bare (name : List Char)
  /-- Behind the brace. -/
  | braced (name : List Char)
deriving DecidableEq, Repr

/-- The state of reading a value: what is read, whether a backslash came before, the name that is
being read, and the text so far, all of it backwards. -/
structure Progress where
  state : State := .plain
  escaped : Bool := false
  naming : Naming := .none
  output : List Char := []
deriving DecidableEq, Repr

/-- The text of a variable in front of the output so far; nothing if it has none. -/
def substituted (lookup : String → Option String) (name output : List Char) : List Char :=
  ((lookup (String.ofList name.reverse)).getD "").toList.reverse ++ output

/-- The character that a backslash keeps or stands for. -/
def unescape (c : Char) : Option Char :=
  if c = '\\' ∨ c = '\'' ∨ c = '"' ∨ c = '$' ∨ c = ' ' then some c
  else if c = 'n' then some '\n'
  else none

/-- A character outside names, single quotes and escapes. -/
def plainStep (p : Progress) (c : Char) : Progress :=
  if c = '$' then { p with naming := .bare [] }
  else if p.state = .doubleQuoted then
    if c = '"' then { p with state := .plain }
    else if c = '\\' then { p with escaped := true }
    else { p with output := c :: p.output }
  else if c = '\'' then { p with state := .singleQuoted }
  else if c = '"' then { p with state := .doubleQuoted }
  else if c = '\\' then { p with escaped := true }
  else if c = ' ' ∨ c = '\t' then { p with state := .ended }
  else { p with output := c :: p.output }

/-- A character within a name. The one that ends a bare name is kept as it is, unless it begins
another name. -/
def nameStep (lookup : String → Option String) (p : Progress) (c : Char) : Progress :=
  match p.naming with
  | .none => plainStep p c
  | .bare name =>
    if Text.isAlphanumeric c then { p with naming := .bare (c :: name) }
    -- Braces only stand right behind the sign; elsewhere they end the name like any other character.
    else if c = '{' ∧ name = [] then { p with naming := .braced [] }
    else
      let output := substituted lookup name p.output
      if c = '$' then { p with naming := .bare [], output := output }
      else { p with naming := .none, output := c :: output }
  | .braced name =>
    if c = '}' then { p with naming := .none, output := substituted lookup name p.output }
    else { p with naming := .braced (c :: name) }

/-- One character of a value; none if it may not stand there. -/
def step? (lookup : String → Option String) (p : Progress) (c : Char) : Option Progress :=
  if p.state = .ended then (if c = ' ' ∨ c = '\t' then some p else none)
  else if p.escaped then
    (unescape c).map fun d => { p with escaped := false, output := d :: p.output }
  else if p.state = .singleQuoted then
    some (if c = '\'' then { p with state := .plain } else { p with output := c :: p.output })
  else some (nameStep lookup p c)

/-- The characters of a value from some place on; the place of the one that may not stand there
otherwise. -/
def readValue (lookup : String → Option String) :
    Nat → Progress → List Char → Except Nat Progress
  | _, p, [] => .ok p
  | i, p, c :: rest =>
    if p.state = .ended ∧ c = '#' then .ok p
    else
      match step? lookup p c with
      | some next => readValue lookup (i + 1) next rest
      | none => .error i

/-- Something that was opened is not closed. -/
def Progress.isOpen (p : Progress) : Bool :=
  p.state == .singleQuoted || p.state == .doubleQuoted ||
    match p.naming with
    | .braced _ => true
    | _ => false

/-- The text of a value, given the texts of other variables. -/
def valueText (lookup : String → Option String) (cs : List Char) : Except LineFault String :=
  let whole := String.ofList cs
  match readValue lookup 0 {} cs with
  | .error i => .error ⟨whole, i⟩
  | .ok p =>
    if p.isOpen then .error ⟨whole, whole.utf8ByteSize - 1⟩
    else
      -- A bare name may reach up to the end of the value.
      let output := match p.naming with
        | .bare name => substituted lookup name p.output
        | _ => p.output
      .ok (String.ofList output.reverse)

/-! ### Lines -/

/-- A place in a line: how many bytes lie before it, and what follows. -/
structure Cursor where
  position : Nat
  rest : List Char
deriving DecidableEq, Repr

def byteCount (cs : List Char) : Nat := cs.foldr (fun c n => c.utf8Size + n) 0

/-- The place behind the characters that fulfil a condition, and these characters. -/
def Cursor.takeWhile (c : Cursor) (accept : Char → Bool) : List Char × Cursor :=
  let taken := c.rest.takeWhile accept
  (taken, ⟨c.position + byteCount taken, c.rest.dropWhile accept⟩)

def Cursor.skipBlanks (c : Cursor) : Cursor := (c.takeWhile Text.isBlank).2

def isNameStart (c : Char) : Bool := c.isAlpha || c == '_'

def isNamePart (c : Char) : Bool := c.isAlphanum || c == '_' || c == '.'

/-- The name of a variable; the place where it should begin otherwise. -/
def Cursor.name (c : Cursor) : Except Nat (String × Cursor) :=
  match c.rest with
  | first :: _ =>
    if isNameStart first then
      let (name, after) := c.takeWhile isNamePart
      .ok (String.ofList name, after)
    else .error c.position
  | [] => .error c.position

def Cursor.equals (c : Cursor) : Except Nat Cursor :=
  match c.rest with
  | '=' :: rest => .ok ⟨c.position + 1, rest⟩
  | _ => .error c.position

/-- The name before the `=`, and what is behind. The word `export` is a name of its own only if the
`=` follows. -/
def Cursor.target (c : Cursor) : Except Nat (String × Cursor) := do
  let (name, after) ← c.name
  let after := after.skipBlanks
  if name = "export" then
    match after.equals with
    | .ok behind => .ok (name, behind)
    | .error _ => do
      let (name, after) ← after.name
      let behind ← after.skipBlanks.equals
      .ok (name, behind)
  else
    let behind ← after.equals
    .ok (name, behind)

/-- Nothing follows but a comment. -/
def Cursor.atEnd (c : Cursor) : Bool :=
  match c.rest with
  | [] => true
  | first :: _ => first == '#'

/-- The assignment of a line, if there is one. -/
def assignment? (lookup : String → Option String) (line : String) :
    Except LineFault (Option (String × String)) :=
  let start : Cursor := Cursor.skipBlanks ⟨0, Text.trimBack line.toList⟩
  if start.atEnd then .ok none
  else
    match start.target with
    | .error position => .error ⟨line, position⟩
    | .ok (name, behind) =>
      let value := behind.skipBlanks
      if value.atEnd then .ok (some (name, ""))
      else (valueText lookup value.rest).map fun text => some (name, text)

/-! ### Files -/

/-- Why a file of assignments is not read to its end. -/
inductive Fault where
  | line (fault : LineFault)
  | file (fault : FileFault)
deriving DecidableEq, Repr

def Fault.message : Fault → String
  | .line fault => fault.message
  | .file fault => fault.message

/-- The bytes of a line without the carriage return before its end. -/
def withoutReturn (line : List UInt8) : List UInt8 :=
  if line.getLast? = some 13 then line.dropLast else line

/-- The lines of a file, each without its end; `line` is what is read of the first, backwards. -/
def lines : List UInt8 → List UInt8 → List (List UInt8)
  | [], [] => []
  | line, [] => [line.reverse]
  | line, b :: rest =>
    if b = 10 then withoutReturn line.reverse :: lines [] rest else lines (b :: line) rest

/-- The assignments of some lines, one after the other, up to the first fault or panic. -/
def applyLines : Environment → List (List UInt8) → Environment × Except (Halt Fault) Unit
  | env, [] => (env, .ok ())
  | env, line :: rest =>
    match String.fromUTF8? ⟨line.toArray⟩ with
    | none => (env, .error (.fault (.file .notText)))
    | some text =>
      match assignment? env.answer? text with
      | .error fault => (env, .error (.fault (.line fault)))
      | .ok none => applyLines env rest
      | .ok (some (name, value)) =>
        match env.setIfUnread name value with
        | .error panic => (env, .error (.panic panic))
        | .ok after => applyLines after rest

/-- The assignments of a file, if it is there, and whether it is. -/
def load (folder : Folder) (path : String) (env : Environment) :
    Environment × Except (Halt Fault) Bool :=
  if folder.contains path then
    match folder.read path with
    | .error fault => (env, .error (.fault (.file fault)))
    | .ok content =>
      let (after, outcome) := applyLines env (lines [] content.toList)
      (after, outcome.map fun _ => true)
  else (env, .ok false)

end LinkTrials.Dotfile
