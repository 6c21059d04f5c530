/-!
# Texts as bytes

Keywords are matched byte by byte, so a word is looked at through its UTF-8 encoding as a list of
bytes. Case folding is ASCII folding and acts on single bytes: no byte of a character beyond ASCII
is an ASCII letter, so such characters never fold.
-/

namespace SqlLexicon.Text

def bytes (text : String) : List UInt8 :=
  text.toList.flatMap String.utf8EncodeChar

def byteLength : List Char → Nat
  | [] => 0
  | c :: chars => c.utf8Size + byteLength chars

/-- The upper-case form of a byte that is an ASCII letter; every other byte is its own. -/
def upperByte (b : UInt8) : UInt8 :=
  if 0x61 ≤ b ∧ b ≤ 0x7A then b - 0x20 else b

/-- The lower-case form of a byte that is an ASCII letter; every other byte is its own. -/
def lowerByte (b : UInt8) : UInt8 :=
  if 0x41 ≤ b ∧ b ≤ 0x5A then b + 0x20 else b

/-- Whether two spans are equal when the case of ASCII letters is ignored. -/
def equalIgnoringCase (left right : List UInt8) : Bool :=
  left.map lowerByte == right.map lowerByte

/-- The canonical form of a span of bytes: its upper-case form if case is ignored, else itself. -/
def fold (ignoreCase : Bool) (span : List UInt8) : List UInt8 :=
  if ignoreCase then span.map upperByte else span

@[simp] theorem bytes_append (s t : String) : bytes (s ++ t) = bytes s ++ bytes t := by
  simp [bytes]

@[simp] theorem length_bytes (text : String) : (bytes text).length = text.utf8ByteSize := by
  rw [← String.size_toByteArray, ← String.utf8Encode_toList]
  simp [bytes, List.utf8Encode]

@[simp] theorem byteLength_nil : byteLength [] = 0 := rfl

@[simp] theorem byteLength_cons (c : Char) (chars : List Char) :
    byteLength (c :: chars) = c.utf8Size + byteLength chars := rfl

@[simp] theorem byteLength_append (left right : List Char) :
    byteLength (left ++ right) = byteLength left + byteLength right := by
  induction left with
  | nil => simp
  | cons c left ih => simp [ih, Nat.add_assoc]

theorem byteLength_toList (text : String) : byteLength text.toList = text.utf8ByteSize := by
  rw [← length_bytes, bytes]
  induction text.toList with
  | nil => rfl
  | cons c chars ih => simp [ih]

theorem byteLength_eq_zero {chars : List Char} : byteLength chars = 0 ↔ chars = [] := by
  cases chars with
  | nil => simp
  | cons c chars =>
      have hpos := c.utf8Size_pos
      simp only [byteLength_cons, reduceCtorEq, iff_false]
      omega

@[simp] theorem length_fold (ignoreCase : Bool) (span : List UInt8) :
    (fold ignoreCase span).length = span.length := by
  cases ignoreCase <;> simp [fold]

end SqlLexicon.Text
