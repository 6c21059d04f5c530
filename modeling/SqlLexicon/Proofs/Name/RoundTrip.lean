import SqlLexicon.Name.Reading
import SqlLexicon.Name.Writing
import SqlLexicon.Proofs.Name.Language
/-!
# A written name reads back

A name is written bare or between quotes, and one reader reads both forms.

* `readQuoted?_doubleQuotes` — the reader of a quoted name undoes the doubling of the quotes and
  stops at the quote that closes the name;
* `readBare_append` — the reader of a bare name stops where the name can go on no longer and, as
  the name has no lower-case ASCII letter, re-cases nothing;
* `read?_write_append` — the reader gives back the name and the text after it, so that no name
  reaches beyond its written form.
-/

namespace SqlLexicon.Name

/-! ## Quoted names -/

theorem readQuoted?_quote_quote (chars : List Char) :
    readQuoted? ('"' :: '"' :: chars) =
      (readQuoted? chars).map fun (name, rest) => ('"' :: name, rest) := rfl

theorem readQuoted?_of_ne {c : Char} (h : c ≠ '"') (chars : List Char) :
    readQuoted? (c :: chars) =
      (readQuoted? chars).map fun (name, rest) => (c :: name, rest) := by
  rw [readQuoted?]
  · rw [if_neg h]
  · intro _ hc
    exact absurd hc h

theorem readQuoted?_close {rest : List Char} (h : rest.head? ≠ some '"') :
    readQuoted? ('"' :: rest) = some ([], rest) := by
  cases rest with
  | nil => rfl
  | cons c rest =>
      have hc : c ≠ '"' := by simpa using h
      rw [readQuoted?]
      · rw [if_pos rfl]
      · intro tail _ htail
        exact hc (List.cons.inj htail).1

theorem readQuoted?_doubleQuotes (chars : List Char) {rest : List Char}
    (h : rest.head? ≠ some '"') :
    readQuoted? (doubleQuotes chars ++ '"' :: rest) = some (chars, rest) := by
  induction chars with
  | nil =>
      rw [doubleQuotes_nil, List.nil_append]
      exact readQuoted?_close h
  | cons c chars ih =>
      rw [doubleQuotes_cons]
      by_cases hc : c = '"'
      · rw [if_pos hc, hc, List.append_assoc, List.cons_append, List.cons_append, List.nil_append,
          readQuoted?_quote_quote, ih]
        rfl
      · rw [if_neg hc, List.append_assoc, List.cons_append, List.nil_append,
          readQuoted?_of_ne hc, ih]
        rfl

/-! ## Bare names -/

theorem not_continues_quote : continues '"' = false := by
  decide +kernel

theorem toUpper_of_continues {c : Char} (h : continues c = true) : c.toUpper = c := by
  have hlower := CharClass.not_lower_of_canContinue h
  unfold Char.toUpper
  exact dif_neg hlower

theorem readBare_append {chars rest : List Char} (hchars : ∀ c ∈ chars, continues c = true)
    (hrest : ∀ c ∈ rest.head?, continues c = false) :
    readBare (chars ++ rest) = (chars, rest) := by
  have htake : rest.takeWhile continues = [] := by
    cases rest with
    | nil => rfl
    | cons c rest => exact List.takeWhile_cons_of_neg (by simp [hrest c rfl])
  have hdrop : rest.dropWhile continues = rest := by
    cases rest with
    | nil => rfl
    | cons c rest => exact List.dropWhile_cons_of_neg (by simp [hrest c rfl])
  have hupper : chars.map Char.toUpper = chars := by
    rw [List.map_congr_left fun c hc => toUpper_of_continues (hchars c hc), List.map_id']
  rw [readBare, List.takeWhile_append_of_pos hchars, List.dropWhile_append_of_pos hchars, htake,
    hdrop, List.append_nil, hupper]

/-! ## Reading what was written -/

/-- What may follow a name: nothing, or a character that is neither a quote nor of a name. -/
def Ends (rest : String) : Prop :=
  ∀ c ∈ rest.toList.head?, c ≠ '"' ∧ continues c = false

theorem read?_of_ne {c : Char} (h : c ≠ '"') (chars : List Char) :
    read? (c :: chars) = some (readBare (c :: chars)) := by
  unfold read?
  split
  · rename_i hquote
    exact absurd (List.cons.inj hquote).1 h
  · rfl

theorem read?_bare {name : String} (hsimple : isSimple name = true) {rest : String}
    (hrest : Ends rest) :
    read? (name.toList ++ rest.toList) = some (name.toList, rest.toList) := by
  have hshaped := (isSimple_iff_shaped.mp hsimple).1
  have hbare := readBare_append hshaped.canContinue fun c hc => (hrest c hc).2
  cases hname : name.toList with
  | nil =>
      rw [hname] at hshaped
      contradiction
  | cons c chars =>
      have hc : c ≠ '"' := by
        intro hquote
        have hcontinues : continues c = true := by
          apply hshaped.canContinue
          rw [hname]
          exact List.mem_cons_self
        rw [hquote, not_continues_quote] at hcontinues
        contradiction
      rw [hname] at hbare
      rw [List.cons_append, read?_of_ne hc, ← List.cons_append, hbare]

theorem text_write_of_simple {name : String} (h : isSimple name = true) :
    (write name).text = name := by
  rw [write, if_pos h]
  rfl

theorem text_write_of_not_simple {name : String} (h : isSimple name = false) :
    (write name).text = "\"" ++ String.ofList (doubleQuotes name.toList) ++ "\"" := by
  rw [write, if_neg (Bool.eq_false_iff.mp h)]
  rfl

theorem read?_text_write (name : String) {rest : String} (hrest : Ends rest) :
    read? ((write name).text ++ rest).toList = some (name.toList, rest.toList) := by
  cases h : isSimple name with
  | true =>
      rw [text_write_of_simple h, String.toList_append]
      exact read?_bare h hrest
  | false =>
      have hquote : rest.toList.head? ≠ some '"' := fun hhead => (hrest '"' hhead).1 rfl
      have htext : ((write name).text ++ rest).toList =
          '"' :: (doubleQuotes name.toList ++ '"' :: rest.toList) := by
        rw [text_write_of_not_simple h]
        simp
      rw [htext]
      exact readQuoted?_doubleQuotes name.toList hquote

/-- A statement determines the name at its front and what comes after it. -/
theorem eq_of_text_write_append_eq {name other rest otherRest : String} (hrest : Ends rest)
    (hother : Ends otherRest) (h : (write other).text ++ otherRest = (write name).text ++ rest) :
    other = name ∧ otherRest = rest := by
  have hread := read?_text_write other hother
  rw [h, read?_text_write name hrest, Option.some.injEq, Prod.mk.injEq, String.toList_inj,
    String.toList_inj] at hread
  exact ⟨hread.1.symm, hread.2.symm⟩

theorem ends_empty : Ends "" := by
  intro c hc
  cases hc

/-- **A written name reads back exactly.** Whatever the name, reading its written form gives back
the name and leaves what comes after it; so no other name and remainder make up the same text, and
no two names have one written form. -/
theorem read?_write_append (name : String) {rest : String} (hrest : Ends rest) :
    read? ((write name).text ++ rest).toList = some (name.toList, rest.toList) ∧
      (∀ other otherRest, Ends otherRest →
        (write other).text ++ otherRest = (write name).text ++ rest →
          other = name ∧ otherRest = rest) ∧
      Function.Injective fun name => (write name).text := by
  refine ⟨read?_text_write name hrest, ?_, ?_⟩
  · intro other otherRest hother h
    exact eq_of_text_write_append_eq hrest hother h
  · intro other name h
    have happend : (write other).text ++ "" = (write name).text ++ "" := congrArg (· ++ "") h
    exact (eq_of_text_write_append_eq ends_empty ends_empty happend).1

/-- The theorem at a name with quotes in it and at its end, in the middle of a statement. -/
theorem read?_write_quotes :
    Ends ", X" ∧
      read? ((write "a\"\"b\"").text ++ ", X").toList =
        some ("a\"\"b\"".toList, ", X".toList) := by
  have hends : Ends ", X" := by
    intro c hc
    cases hc
    exact ⟨by decide, by decide +kernel⟩
  exact ⟨hends, (read?_write_append "a\"\"b\"" hends).1⟩

end SqlLexicon.Name
