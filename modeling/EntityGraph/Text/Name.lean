/-!
# Names of the query language

Names in a schema are not checked, but a request can only speak of what has such a name.
-/

namespace EntityGraph.Text

def isNameStart (c : Char) : Bool := c == '_' || c.isAlpha

def isNamePart (c : Char) : Bool := isNameStart c || c.isDigit

/-- A letter or underscore, then letters, digits and underscores, all of them ASCII. -/
def isGraphName (s : String) : Bool :=
  match s.toList with
  | [] => false
  | c :: cs => isNameStart c && cs.all isNamePart

end EntityGraph.Text
