/-!
Coloured text for terminals: escape sequences that switch a style on before a text and off after
it.
-/
namespace LinkTrials.Terminal

inductive Colour where
  | red
  | green
  | yellow
  | blue
  | magenta
  | cyan
  | white
  | brightRed
deriving DecidableEq, Repr

def Colour.code : Colour → String
  | .red => "31"
  | .green => "32"
  | .yellow => "33"
  | .blue => "34"
  | .magenta => "35"
  | .cyan => "36"
  | .white => "37"
  | .brightRed => "91"

/-- The sequence that switches a style on. -/
def switchOn (bold : Bool) (colour : Colour) : String :=
  "\x1b[" ++ (if bold then "1;" else "") ++ colour.code ++ "m"

def switchOff : String := "\x1b[0m"

/-- The text with `style` switched on again wherever a sequence in it ends every style. -/
def reopen (style : List Char) : List Char → List Char
  | '\x1b' :: '[' :: '0' :: 'm' :: rest => switchOff.toList ++ style ++ reopen style rest
  | c :: rest => c :: reopen style rest
  | [] => []

/-- A text in colour, or as it is if colours are not enabled. -/
def paint (enabled bold : Bool) (colour : Colour) (s : String) : String :=
  if enabled then
    let style := switchOn bold colour
    style ++ String.ofList (reopen style.toList s.toList) ++ switchOff
  else s

end LinkTrials.Terminal
