import SqlLexicon.Name.CharClass
/-!
# Reading a name

A statement is read from the front. A name that starts with a double quote goes on to the first
quote that is not written twice; any other goes on as long as its characters can continue a name,
and its ASCII letters are then folded to upper case.
-/

namespace SqlLexicon.Name

/-- Reads up to the quote that closes a name; a name without one cannot be read. -/
def readQuoted? : List Char → Option (List Char × List Char)
  | [] => none
  | '"' :: '"' :: chars => (readQuoted? chars).map fun (name, rest) => ('"' :: name, rest)
  | c :: chars =>
    if c = '"' then some ([], chars)
    else (readQuoted? chars).map fun (name, rest) => (c :: name, rest)

def continues (c : Char) : Bool :=
  (CharClass.of c).canContinue

def readBare (chars : List Char) : List Char × List Char :=
  ((chars.takeWhile continues).map Char.toUpper, chars.dropWhile continues)

/-- The name at the front of a statement and the rest of the statement. -/
def read? (chars : List Char) : Option (List Char × List Char) :=
  match chars with
  | '"' :: body => readQuoted? body
  | _ => some (readBare chars)

end SqlLexicon.Name
