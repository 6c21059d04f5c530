/-!
# Comma separated fields

Words joined by commas, and the fields of a text that is split at every comma.
-/

namespace SqlLexicon.Text

/-- The words in order, with a comma between neighbours. -/
def joinFields (words : List String) : String :=
  ",".intercalate words

def fields (text : String) : List String :=
  (text.toList.splitOn ',').map String.ofList

/-- Joined words are the fields of the text, if no word holds a comma. -/
theorem fields_joinFields {words : List String} (hne : words ≠ [])
    (hcomma : ∀ word ∈ words, ',' ∉ word.toList) : fields (joinFields words) = words := by
  have hchars : (joinFields words).toList = [','].intercalate (words.map String.toList) :=
    String.toList_intercalate
  rw [fields, hchars, List.splitOn_intercalate]
  · rw [List.map_map]
    simp
  · intro chars hchars
    obtain ⟨word, hword, rfl⟩ := List.mem_map.mp hchars
    exact hcomma word hword
  · simpa using hne

end SqlLexicon.Text
