import SqlLexicon.Unicode.CasedLetter
import SqlLexicon.Unicode.DecimalNumber
import SqlLexicon.Unicode.UncasedLetter
/-!
# General categories

The general categories of Unicode 16.0 that tell the characters of a name apart, each with its own
table. All other categories count as one here: marks, letter numbers, other numbers, punctuation,
symbols, separators, and the code points that are not assigned.
-/

namespace SqlLexicon.Unicode

/-- The categories `Lu`, `Ll`, `Lt`, `Lm`, `Lo` and `Nd`, and one that stands for all others. -/
inductive GeneralCategory
  | uppercaseLetter
  | lowercaseLetter
  | titlecaseLetter
  | modifierLetter
  | otherLetter
  | decimalNumber
  | unlisted
deriving DecidableEq, Repr

def category (c : Char) : GeneralCategory :=
  if listed uppercaseLetters c then .uppercaseLetter
  else if listed lowercaseLetters c then .lowercaseLetter
  else if listed titlecaseLetters c then .titlecaseLetter
  else if listed modifierLetters c then .modifierLetter
  else if listed otherLetters c then .otherLetter
  else if listed decimalNumbers c then .decimalNumber
  else .unlisted

variable {c : Char}

theorem category_of_upperAscii (h : 0x41 ≤ c.toNat ∧ c.toNat ≤ 0x5A) :
    category c = .uppercaseLetter := by
  have hupper : listed uppercaseLetters c = true := listed_of_mem List.mem_cons_self h
  rw [category, if_pos hupper]

theorem category_of_lowerAscii (h : 0x61 ≤ c.toNat ∧ c.toNat ≤ 0x7A) :
    category c = .lowercaseLetter := by
  have hupper : listed uppercaseLetters c = false := not_listed_of_outside (by decide) h
  have hlower : listed lowercaseLetters c = true := listed_of_mem List.mem_cons_self h
  rw [category, hupper, if_neg Bool.false_ne_true, if_pos hlower]

/-- Each of the six categories, and four characters that only look like them: a letter number,
another number, a mark and a symbol. -/
example :
    ['É', 'é', 'ǅ', 'ʰ', '中', '٣', 'Ⅻ', '½', '\u0301', '₳'].map category =
      [.uppercaseLetter, .lowercaseLetter, .titlecaseLetter, .modifierLetter, .otherLetter,
        .decimalNumber, .unlisted, .unlisted, .unlisted, .unlisted] := by
  decide +kernel

/-- The tables hold as many code points as their categories have. -/
example :
    [uppercaseLetters, lowercaseLetters, titlecaseLetters, modifierLetters, otherLetters,
        decimalNumbers].map
      (·.foldl (fun count s => count + ((s.last - s.first) / s.step + 1)) 0) =
        [1858, 2258, 31, 404, 136477, 760] := by
  decide +kernel

end SqlLexicon.Unicode
