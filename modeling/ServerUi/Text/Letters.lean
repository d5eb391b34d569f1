/-! Case mapping for comparison with ASCII names. A letter is mapped if its counterpart is an
ASCII letter; any other character could not occur in such a name and stays as it is. -/

namespace ServerUi

/-- `A` to `Z` and the Kelvin sign. -/
def lowerLetter (c : Char) : Char :=
  if c = '\u212a' then 'k' else c.toLower

/-- `a` to `z`, the dotless i and the long s. -/
def upperLetter (c : Char) : Char :=
  if c = '\u0131' then 'I' else if c = '\u017f' then 'S' else c.toUpper

def lowered (s : String) : String := String.ofList (s.toList.map lowerLetter)

def uppered (s : String) : String := String.ofList (s.toList.map upperLetter)

end ServerUi
