import SqlLexicon.Unicode.Category
/-!
# Classes of the characters of a name

What a character does in a name depends on its general category alone, except for the underscore.
A name that stands without quotes is re-cased when it is read, so a lower-case letter has a class
of its own.
-/

namespace SqlLexicon

inductive CharClass
  | letter
  | lowerCaseLetter
  | underscore
  | digit
  | other
deriving DecidableEq, Repr

namespace CharClass

def of (c : Char) : CharClass :=
  if c = '_' then .underscore
  else
    match Unicode.category c with
    | .uppercaseLetter | .titlecaseLetter | .modifierLetter | .otherLetter => .letter
    | .lowercaseLetter => .lowerCaseLetter
    | .decimalNumber => .digit
    | _ => .other

def label : CharClass → String
  | .letter => "letter"
  | .lowerCaseLetter => "lower-case letter"
  | .underscore => "underscore"
  | .digit => "digit"
  | .other => "other"

def canStart : CharClass → Bool
  | .letter | .underscore => true
  | _ => false

def canContinue : CharClass → Bool
  | .digit => true
  | shape => shape.canStart

theorem canContinue_of_canStart {shape : CharClass} (h : shape.canStart = true) :
    shape.canContinue = true := by
  cases shape <;> simp_all [canStart, canContinue]

/-! ## Runs of one class -/

structure Run where
  first : Nat
  last : Nat
  shape : CharClass
deriving DecidableEq, Repr

/-- The character with a code point; surrogates are no characters. -/
def charAt? (n : Nat) : Option Char :=
  if n.isValidChar then some (Char.ofNat n) else none

/-- Puts a code point before runs that start after it. -/
def Run.extend (n : Nat) (shape : CharClass) : List Run → List Run
  | [] => [⟨n, n, shape⟩]
  | run :: runs =>
    if run.first = n + 1 ∧ run.shape = shape then ⟨n, run.last, shape⟩ :: runs
    else ⟨n, n, shape⟩ :: run :: runs

/-- The longest runs of one class from one code point to another, in ascending order. -/
def runs (first last : Nat) : List Run :=
  (List.range' first (min last 0x10FFFF + 1 - first)).foldr
    (fun n found =>
      match charAt? n with
      | some c => Run.extend n (of c) found
      | none => found)
    []

end CharClass

end SqlLexicon
