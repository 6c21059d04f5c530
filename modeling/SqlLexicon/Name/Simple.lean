import SqlLexicon.Lexicon.Lookup
import SqlLexicon.Name.CharClass
/-!
# Names that need no quotes

A name may stand without quotes if it already has the form that unquoted names are folded to, and
if it is not a keyword of any kind. The first thing that is wrong with a name is what `inspect`
finds: its shape is looked at from left to right before its spelling.
-/

namespace SqlLexicon.Name

inductive Finding
  | simple
  | empty
  | badStart (shape : CharClass)
  | badChar (offset : Nat) (shape : CharClass)
  | keyword
deriving DecidableEq, Repr

/-- The policy by which a name is a keyword: every keyword counts, and case counts, since a name
of good shape has no lower-case letter to fold. -/
def exactPolicy : Policy :=
  { ignoreCase := false, additionalKeywords := true }

/-- The byte offset and the class of the first character that a name cannot go on with. -/
def firstOffender? (offset : Nat) : List Char → Option (Nat × CharClass)
  | [] => none
  | c :: chars =>
    let shape := CharClass.of c
    if shape.canContinue then firstOffender? (offset + c.utf8Size) chars
    else some (offset, shape)

/-- The first thing that keeps a name from standing without quotes. -/
def inspect (name : String) : Finding :=
  match name.toList with
  | [] => .empty
  | c :: chars =>
    let shape := CharClass.of c
    if shape.canStart then
      match firstOffender? c.utf8Size chars with
      | some (offset, shape) => .badChar offset shape
      | none => if exactPolicy.isKeyword name then .keyword else .simple
    else .badStart shape

def isSimple (name : String) : Bool :=
  inspect name == .simple

theorem isSimple_iff {name : String} : isSimple name = true ↔ inspect name = .simple := by
  simp [isSimple]

theorem firstOffender?_eq_none_iff {offset : Nat} {chars : List Char} :
    firstOffender? offset chars = none ↔ ∀ c ∈ chars, (CharClass.of c).canContinue = true := by
  induction chars generalizing offset with
  | nil => simp [firstOffender?]
  | cons c chars ih =>
      simp only [firstOffender?, List.mem_cons, forall_eq_or_imp]
      split
      · rename_i hcontinue
        rw [ih]
        simp [hcontinue]
      · rename_i hstop
        simp [hstop]

end SqlLexicon.Name
