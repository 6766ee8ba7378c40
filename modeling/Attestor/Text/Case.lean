namespace Attestor.Text

/-- The sign for kelvin, the only letter outside ASCII whose lower case is an ASCII letter. -/
def kelvin : Char := '\u212a'

def lowerChar (c : Char) : Char :=
  if c = kelvin then 'k' else c.toLower

def lower (text : String) : String :=
  text.map lowerChar

end Attestor.Text
