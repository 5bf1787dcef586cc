/-!
Upper case, as far as it decides whether a text names something in ASCII letters.

Names are compared after full upper-casing. Ten characters beyond ASCII have an upper case within
ASCII, some of them of several letters; the upper case of every other character beyond ASCII holds
a character beyond ASCII, so it never is part of a name and stands for itself here.
-/
namespace LinkTrials.Text

/-- The upper case of a character, if it lies in ASCII; the character itself otherwise. -/
def upperChar (c : Char) : List Char :=
  if c = '\u00df' then ['S', 'S']
  else if c = '\u0131' then ['I']
  else if c = '\u017f' then ['S']
  else if c = '\ufb00' then ['F', 'F']
  else if c = '\ufb01' then ['F', 'I']
  else if c = '\ufb02' then ['F', 'L']
  else if c = '\ufb03' then ['F', 'F', 'I']
  else if c = '\ufb04' then ['F', 'F', 'L']
  else if c = '\ufb05' ∨ c = '\ufb06' then ['S', 'T']
  else [c.toUpper]

def upper (s : String) : String := String.ofList (s.toList.flatMap upperChar)

end LinkTrials.Text
