import ListeningCharts.DomainName.Label

/-! # Domain names in ASCII

The name under which a host is looked up: in lower case, with every label that has characters
outside ASCII written in letters, digits and hyphens.
-/

namespace ListeningCharts.DomainName

/-- Whether a name has only characters in ASCII, and no label in a written form of its own. -/
def isPlain (name : Text) : Bool :=
  isAscii name &&
    (name.splitOn '.').all fun label => !Label.extendedStart.isPrefixOf (Text.toAsciiLower label)

/-- The name in ASCII; none if it is not a name. -/
def toAscii? (name : Text) : Option Text :=
  if isPlain name then
    if name.any isDenied then none else some (Text.toAsciiLower name)
  else do
    let mapped ← name.mapM mapChar?
    let labels ← ((compose mapped.flatten).splitOn '.').mapM Label.read?
    let meanings := labels.map Label.meaning
    if meanings.any (·.any isFromRight) && !meanings.all isOneWay then none
    else return ['.'].intercalate (labels.map Label.ascii)

end ListeningCharts.DomainName
