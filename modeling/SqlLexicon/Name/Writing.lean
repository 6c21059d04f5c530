import SqlLexicon.Name.Simple
/-!
# Writing a name

A simple name is written as it is, and any other between double quotes, with each quote inside it
written twice.
-/

namespace SqlLexicon.Name

inductive Written
  | bare (name : String)
  | quoted (body : String)
deriving DecidableEq, Repr

/-- Writes each double quote twice and all else once. -/
def doubleQuotes (chars : List Char) : List Char :=
  chars.flatMap fun c => if c = '"' then [c, c] else [c]

def write (name : String) : Written :=
  if isSimple name then .bare name
  else .quoted (String.ofList (doubleQuotes name.toList))

namespace Written

def text : Written → String
  | .bare name => name
  | .quoted body => "\"" ++ body ++ "\""

def isBare : Written → Bool
  | .bare _ => true
  | .quoted _ => false

end Written

@[simp] theorem doubleQuotes_nil : doubleQuotes [] = [] := rfl

@[simp] theorem doubleQuotes_cons (c : Char) (chars : List Char) :
    doubleQuotes (c :: chars) = (if c = '"' then [c, c] else [c]) ++ doubleQuotes chars := rfl

@[simp] theorem isBare_write (name : String) : (write name).isBare = isSimple name := by
  cases h : isSimple name <;> simp [write, h, Written.isBare]

end SqlLexicon.Name
