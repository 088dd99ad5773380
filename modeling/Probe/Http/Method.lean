/-!
# Methods

The methods that a request may have, and their names. Names are read in any mixture of cases. Main
statement: `ofName?_name`.
-/

namespace Probe

/-- A method of a request. -/
inductive Method where
  | get
  | post
  | put
  | delete
  | patch
  deriving DecidableEq, Repr

namespace Method

/-- The name of a method. -/
def name : Method → String
  | get => "GET"
  | post => "POST"
  | put => "PUT"
  | delete => "DELETE"
  | patch => "PATCH"

/-- Whether requests of a method have a body. -/
def hasBody : Method → Bool
  | get => false
  | _ => true

/-- The upper-case form of a character. Besides the ASCII letters, the long s and two ligatures have
upper-case forms that are ASCII; the others that are not ASCII are left as they are. -/
def upper (c : Char) : List Char :=
  if c = 'ſ' then ['S']
  else if c = 'ﬅ' ∨ c = 'ﬆ' then ['S', 'T']
  else [c.toUpper]

/-- All methods. -/
def all : List Method := [get, post, put, delete, patch]

/-- The method of a name, in any mixture of cases. -/
def ofName? (s : String) : Option Method :=
  all.find? fun m => m.name.toList = s.toList.flatMap upper

/-- A method is found under its name. -/
theorem ofName?_name (m : Method) : ofName? m.name = some m := by
  cases m <;> decide

end Method

end Probe
