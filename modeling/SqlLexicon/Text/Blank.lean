/-!
# White space

The characters with the Unicode property `White_Space`, and the text between its first and last
character that is not one of them.
-/

namespace SqlLexicon.Text

/-- A character with the Unicode property `White_Space`. -/
def isBlank (c : Char) : Bool :=
  let n := c.toNat
  (0x09 ≤ n && n ≤ 0x0D) || n == 0x20 || n == 0x85 || n == 0xA0 || n == 0x1680 ||
    (0x2000 ≤ n && n ≤ 0x200A) || n == 0x2028 || n == 0x2029 || n == 0x202F || n == 0x205F ||
    n == 0x3000

def dropBlanks (chars : List Char) : List Char :=
  chars.dropWhile isBlank

/-- The characters between the leading and the trailing blanks. -/
def trimChars (chars : List Char) : List Char :=
  (dropBlanks (dropBlanks chars).reverse).reverse

def trim (text : String) : String :=
  String.ofList (trimChars text.toList)

@[simp] theorem trim_empty : trim "" = "" := rfl

theorem dropBlanks_append_of_blank {pad : List Char} (hpad : ∀ c ∈ pad, isBlank c = true)
    (chars : List Char) : dropBlanks (pad ++ chars) = dropBlanks chars := by
  simp only [dropBlanks]
  exact List.dropWhile_append_of_pos hpad

end SqlLexicon.Text
