import SqlLexicon.Reserved
import SqlLexicon.Text.Bytes
import SqlLexicon.Text.Fields
/-!
# The index by first letter

Keywords are filed under their first letter, so that a word is compared with a handful of them.
The index is right because each keyword stands under its own first letter and nowhere else, which
`mem_reservedAt` and `mem_additionalAt` state byte by byte.

The order inside the index is the order in which the words are listed.
-/

namespace SqlLexicon.Lexicon

open Text

/-- The reserved keywords under their first letters, each with its spelling. -/
def reservedIndex : List (Char × List (String × Reserved)) :=
  [('A', [("ALL", .kwAll)]),
    ('C',
      [("CHECK", .kwCheck), ("CONSTRAINT", .kwConstraint), ("CROSS", .kwCross),
        ("CURRENT_DATE", .kwCurrentDate), ("CURRENT_TIME", .kwCurrentTime),
        ("CURRENT_TIMESTAMP", .kwCurrentTimestamp)]),
    ('D', [("DISTINCT", .kwDistinct)]),
    ('E', [("EXCEPT", .kwExcept), ("EXISTS", .kwExists)]),
    ('F',
      [("FETCH", .kwFetch), ("FROM", .kwFrom), ("FOR", .kwFor), ("FOREIGN", .kwForeign),
        ("FULL", .kwFull), ("FALSE", .kwFalse)]),
    ('G', [("GROUP", .kwGroup)]),
    ('H', [("HAVING", .kwHaving)]),
    ('I', [("INNER", .kwInner), ("INTERSECT", .kwIntersect), ("IS", .kwIs)]),
    ('J', [("JOIN", .kwJoin)]),
    ('L',
      [("LIMIT", .kwLimit), ("LIKE", .kwLike), ("LOCALTIME", .kwLocalTime),
        ("LOCALTIMESTAMP", .kwLocalTimestamp)]),
    ('M', [("MINUS", .kwMinus)]),
    ('N', [("NOT", .kwNot), ("NATURAL", .kwNatural), ("NULL", .kwNull)]),
    ('O', [("OFFSET", .kwOffset), ("ON", .kwOn), ("ORDER", .kwOrder)]),
    ('P', [("PRIMARY", .kwPrimary)]),
    ('R', [("ROWNUM", .kwRowNum)]),
    ('S', [("SELECT", .kwSelect)]),
    ('T', [("TRUE", .kwTrue)]),
    ('U', [("UNIQUE", .kwUnique), ("UNION", .kwUnion)]),
    ('W', [("WHERE", .kwWhere), ("WINDOW", .kwWindow), ("WITH", .kwWith)])]

def additionalIndex : List (Char × List String) :=
  [('I', ["INTERSECTS"]),
    ('S', ["SYSDATE", "SYSTIME", "SYSTIMESTAMP"]),
    ('T', ["TODAY", "TOP"])]

/-- What an index files under a first byte. -/
def filedAt {α : Type} (index : List (Char × List α)) (first : UInt8) : List α :=
  (index.lookup (Char.ofUInt8 first)).getD []

def reservedAt (first : UInt8) : List (String × Reserved) :=
  filedAt reservedIndex first

def additionalAt (first : UInt8) : List String :=
  filedAt additionalIndex first

/-- The bytes of the letters `A` to `Z`, in whose order the index is walked. -/
def firstLetters : List UInt8 :=
  (List.range' 0x41 26).map UInt8.ofNat

def reservedWords : List String :=
  firstLetters.flatMap fun first => (reservedAt first).map Prod.fst

def additionalWords : List String :=
  firstLetters.flatMap additionalAt

/-- The keywords in ascending order. -/
def sortedWords : List String :=
  (reservedWords ++ additionalWords).mergeSort fun v w => decide (v ≤ w)

/-- The keywords in one text, separated by commas, as metadata reports them. -/
def keywordList : String :=
  joinFields sortedWords

private theorem ofUInt8_inj {b c : UInt8} (h : Char.ofUInt8 b = Char.ofUInt8 c) : b = c := by
  have hcode : b.toUInt32 = c.toUInt32 := congrArg Char.val h
  have hnat := congrArg UInt32.toNat hcode
  exact UInt8.toNat_inj.mp (by simpa using hnat)

/-- What is filed under a first byte is a bucket of that name, or nothing. -/
theorem filedAt_eq_nil_or_bucket {α : Type} (index : List (Char × List α)) (first : UInt8) :
    filedAt index first = [] ∨
      ∃ bucket ∈ index, bucket.1 = Char.ofUInt8 first ∧ filedAt index first = bucket.2 := by
  unfold filedAt
  cases hlookup : index.lookup (Char.ofUInt8 first) with
  | none => exact Or.inl rfl
  | some bucket =>
      obtain ⟨before, after, hindex, -⟩ := List.lookup_eq_some_iff.mp hlookup
      exact Or.inr ⟨(Char.ofUInt8 first, bucket), by simp [hindex], rfl, rfl⟩

private theorem mem_filedAt {α : Type} {index : List (Char × List α)} {first : UInt8} {filed : α}
    (h : filed ∈ filedAt index first) :
    ∃ bucket ∈ index, bucket.1 = Char.ofUInt8 first ∧ filed ∈ bucket.2 := by
  obtain hnil | ⟨bucket, hbucket, hname, hfiled⟩ := filedAt_eq_nil_or_bucket index first
  · rw [hnil] at h
    cases h
  · exact ⟨bucket, hbucket, hname, hfiled ▸ h⟩

/-- What an index files under a first byte starts with it, if every bucket is named after the
words in it. -/
private theorem head?_of_mem_filedAt {α : Type} {index : List (Char × List α)} {first : UInt8}
    {filed : α} (spelling : α → String)
    (hnamed : (index.all fun bucket => bucket.2.all fun filed =>
      (bytes (spelling filed)).head?.map Char.ofUInt8 == some bucket.1) = true)
    (h : filed ∈ filedAt index first) : (bytes (spelling filed)).head? = some first := by
  obtain ⟨bucket, hbucket, hname, hfiled⟩ := mem_filedAt h
  have hhead := List.all_eq_true.mp (List.all_eq_true.mp hnamed bucket hbucket) filed hfiled
  obtain ⟨b, hb, hname'⟩ := Option.map_eq_some_iff.mp (beq_iff_eq.mp hhead)
  rw [hb, ofUInt8_inj (hname'.trans hname)]

private theorem spelling_of_mem_reservedIndex :
    (reservedIndex.all fun bucket => bucket.2.all fun filed =>
      filed.1 == filed.2.spelling) = true := by
  decide

private theorem mem_reservedAt_head :
    ∀ word ∈ Reserved.all, ((bytes word.spelling).head?.all fun first =>
      (reservedAt first).contains (word.spelling, word)) = true := by
  decide

private theorem mem_additionalWords_of_mem_index :
    (additionalIndex.all fun bucket => bucket.2.all additionalWords.contains) = true := by
  decide

private theorem mem_additionalAt_head :
    (additionalWords.all fun word => (bytes word).head?.all fun first =>
      (additionalAt first).contains word) = true := by
  decide

/-- Each reserved keyword is filed with its own spelling, under the first byte of it. -/
theorem mem_reservedAt {spelling : String} {word : Reserved} {first : UInt8} :
    (spelling, word) ∈ reservedAt first ↔
      spelling = word.spelling ∧ (bytes spelling).head? = some first := by
  constructor
  · intro h
    obtain ⟨bucket, hbucket, -, hfiled⟩ := mem_filedAt h
    have hspelling := List.all_eq_true.mp
      (List.all_eq_true.mp spelling_of_mem_reservedIndex bucket hbucket) _ hfiled
    have hhead := head?_of_mem_filedAt Prod.fst (by decide) h
    exact ⟨beq_iff_eq.mp hspelling, hhead⟩
  · intro h
    obtain ⟨hspelling, hhead⟩ := h
    subst hspelling
    have hfiled := mem_reservedAt_head word (Reserved.mem_all word)
    rw [hhead, Option.all_some] at hfiled
    exact List.contains_iff_mem.mp hfiled

/-- Each additional keyword is filed under its first byte. -/
theorem mem_additionalAt {word : String} {first : UInt8} :
    word ∈ additionalAt first ↔ word ∈ additionalWords ∧ (bytes word).head? = some first := by
  constructor
  · intro h
    obtain ⟨bucket, hbucket, -, hfiled⟩ := mem_filedAt h
    have hmem := List.all_eq_true.mp
      (List.all_eq_true.mp mem_additionalWords_of_mem_index bucket hbucket) word hfiled
    have hhead := head?_of_mem_filedAt id (by decide) h
    exact ⟨List.contains_iff_mem.mp hmem, hhead⟩
  · intro h
    obtain ⟨hmem, hhead⟩ := h
    have hfiled := List.all_eq_true.mp mem_additionalAt_head word hmem
    rw [hhead, Option.all_some] at hfiled
    exact List.contains_iff_mem.mp hfiled

end SqlLexicon.Lexicon
