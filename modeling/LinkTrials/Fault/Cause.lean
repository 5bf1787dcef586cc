import LinkTrials.Environment.Dotfile
import LinkTrials.Fault
import LinkTrials.Json.Decode
import LinkTrials.Text.Numeral

/-!
Faults of reading numbers, texts and files as faults of a run.
-/
namespace LinkTrials

def Text.IntegerFault.toFault (fault : Text.IntegerFault) : Fault :=
  .parse ("Invalid integer: " ++ fault.message)

def Text.NumberFault.toFault (fault : Text.NumberFault) : Fault :=
  .parse ("Invalid number: " ++ fault.message)

def Text.BoolFault.toFault (fault : Text.BoolFault) : Fault :=
  .parse ("Invalid boolean: " ++ fault.message)

def Json.DecodeFault.toFault (placing : Json.Placing) (text : String) (fault : Json.DecodeFault) :
    Fault :=
  .parse ("JSON parse error: " ++ fault.messageIn placing text)

def FileFault.toFault (fault : FileFault) : Fault := .io fault.message

def Dotfile.Fault.toFault (fault : Dotfile.Fault) : LinkTrials.Fault :=
  .config ("Failed to load .env file: " ++ fault.message)

end LinkTrials
