/-!
# Comparing names without regard to ASCII case

Scalar names, header names and class names given as types are compared after `A` to `Z` have been lowered; every
other character stands for itself.
-/

namespace EntityGraph.Text

/-- Lowers `A` to `Z` and nothing else. -/
def asciiLower (s : String) : String := String.ofList (s.toList.map Char.toLower)

def equalsIgnoringCase (s t : String) : Bool := asciiLower s == asciiLower t

end EntityGraph.Text
