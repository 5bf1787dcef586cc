import LinkTrials.Fault
import LinkTrials.Json.Decode
import LinkTrials.Text.Numeral
import LinkTrials.Text.UpperCase

/-!
Closed sets of things that have a number and a name.

The numbers are fixed by the protocol of the devices and stand in JSON texts; numbers between them
are reserved. A person may write the number or the name, in any case and with hyphens for
underscores.
-/
namespace LinkTrials

/-- A closed set of coded things. -/
class Coded (α : Type) where
  /-- What a message calls such a thing. -/
  title : String
  /-- All of them in the order of their codes. -/
  all : List α
  code : α → Nat
  name : α → String

namespace Coded

variable {α : Type} [Coded α]

/-- Why a text or a number is none of the things. -/
inductive Fault where
  | reservedCode (title : String) (code : Nat)
  | unknownName (title : String) (text : String)
deriving DecidableEq, Repr

def Fault.message : Fault → String
  | .reservedCode title code => s!"Invalid {title} code: {code}"
  | .unknownName title text => s!"Invalid {title} value: {text}"

def Fault.toFault (fault : Fault) : LinkTrials.Fault := .parse fault.message

def ofCode (n : Nat) : Except Fault α :=
  match (all : List α).find? fun a => code a == n with
  | some a => .ok a
  | none => .error (.reservedCode (title α) n)

/-- A name as it is compared: in upper case, with underscores. -/
def normalized (s : String) : String :=
  String.ofList ((Text.upper s).toList.map fun c => if c = '-' then '_' else c)

/-- The thing that a text names by its code, any number of one byte, or else by its name. -/
def ofText (s : String) : Except Fault α :=
  let trimmed := Text.trim s
  match Text.readNat 255 trimmed with
  | .ok n => ofCode n
  | .error _ =>
    match (all : List α).find? fun a => name a == normalized trimmed with
    | some a => .ok a
    | none => .error (.unknownName (title α) s)

def toJson (a : α) : Json := .ofNat (code a)

def decoder : Json.Decoder α :=
  Json.Decoder.checked (Json.Decoder.natural 255 "u8") fun n =>
    (ofCode n).mapError fun fault => fault.toFault.text

end Coded

end LinkTrials
