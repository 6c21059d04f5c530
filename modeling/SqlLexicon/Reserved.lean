/-!
# Reserved keywords

The words that the grammar keeps for itself. The set is closed, each word has one upper-case
spelling, and no two words share a spelling.
-/

namespace SqlLexicon

/-- A keyword of the grammar, in alphabetical order. -/
inductive Reserved
  | kwAll | kwCheck | kwConstraint | kwCross | kwCurrentDate | kwCurrentTime | kwCurrentTimestamp
  | kwDistinct | kwExcept | kwExists | kwFalse | kwFetch | kwFor | kwForeign | kwFrom | kwFull
  | kwGroup | kwHaving | kwInner | kwIntersect | kwIs | kwJoin | kwLike | kwLimit | kwLocalTime
  | kwLocalTimestamp | kwMinus | kwNatural | kwNot | kwNull | kwOffset | kwOn | kwOrder | kwPrimary
  | kwRowNum | kwSelect | kwTrue | kwUnion | kwUnique | kwWhere | kwWindow | kwWith
deriving DecidableEq, Ord, Repr

namespace Reserved

def spelling : Reserved → String
  | .kwAll => "ALL"
  | .kwCheck => "CHECK"
  | .kwConstraint => "CONSTRAINT"
  | .kwCross => "CROSS"
  | .kwCurrentDate => "CURRENT_DATE"
  | .kwCurrentTime => "CURRENT_TIME"
  | .kwCurrentTimestamp => "CURRENT_TIMESTAMP"
  | .kwDistinct => "DISTINCT"
  | .kwExcept => "EXCEPT"
  | .kwExists => "EXISTS"
  | .kwFalse => "FALSE"
  | .kwFetch => "FETCH"
  | .kwFor => "FOR"
  | .kwForeign => "FOREIGN"
  | .kwFrom => "FROM"
  | .kwFull => "FULL"
  | .kwGroup => "GROUP"
  | .kwHaving => "HAVING"
  | .kwInner => "INNER"
  | .kwIntersect => "INTERSECT"
  | .kwIs => "IS"
  | .kwJoin => "JOIN"
  | .kwLike => "LIKE"
  | .kwLimit => "LIMIT"
  | .kwLocalTime => "LOCALTIME"
  | .kwLocalTimestamp => "LOCALTIMESTAMP"
  | .kwMinus => "MINUS"
  | .kwNatural => "NATURAL"
  | .kwNot => "NOT"
  | .kwNull => "NULL"
  | .kwOffset => "OFFSET"
  | .kwOn => "ON"
  | .kwOrder => "ORDER"
  | .kwPrimary => "PRIMARY"
  | .kwRowNum => "ROWNUM"
  | .kwSelect => "SELECT"
  | .kwTrue => "TRUE"
  | .kwUnion => "UNION"
  | .kwUnique => "UNIQUE"
  | .kwWhere => "WHERE"
  | .kwWindow => "WINDOW"
  | .kwWith => "WITH"

/-- All reserved keywords in the order of their declaration. -/
def all : List Reserved :=
  [.kwAll, .kwCheck, .kwConstraint, .kwCross, .kwCurrentDate, .kwCurrentTime, .kwCurrentTimestamp,
    .kwDistinct, .kwExcept, .kwExists, .kwFalse, .kwFetch, .kwFor, .kwForeign, .kwFrom, .kwFull,
    .kwGroup, .kwHaving, .kwInner, .kwIntersect, .kwIs, .kwJoin, .kwLike, .kwLimit, .kwLocalTime,
    .kwLocalTimestamp, .kwMinus, .kwNatural, .kwNot, .kwNull, .kwOffset, .kwOn, .kwOrder,
    .kwPrimary, .kwRowNum, .kwSelect, .kwTrue, .kwUnion, .kwUnique, .kwWhere, .kwWindow, .kwWith]

theorem mem_all (word : Reserved) : word ∈ all := by
  cases word <;> decide

theorem find?_spelling (word : Reserved) :
    all.find? (·.spelling == word.spelling) = some word := by
  cases word <;> decide

theorem spelling_inj {v w : Reserved} : v.spelling = w.spelling ↔ v = w := by
  constructor
  · intro h
    have hfound := find?_spelling v
    rw [h, find?_spelling w] at hfound
    exact (Option.some.inj hfound).symm
  · intro h
    rw [h]

end Reserved

end SqlLexicon
