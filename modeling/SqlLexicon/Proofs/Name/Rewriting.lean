import Mathlib.Algebra.Ring.Nat
import Mathlib.Logic.Function.Iterate
import SqlLexicon.Proofs.Name.Image
import SqlLexicon.Proofs.Name.Shielding
/-!
# Writing a written name again

A name that needs no quotes is written as it is, again and again. Any other gets two quotes around
it and one more for each quote inside it, and needs quotes again.

* `text_write_eq_self_iff` — writing changes a name exactly if the name is not simple;
* `quoteCount_rewrite`, `utf8ByteSize_rewrite` — what writing adds to a name that is not simple;
* `quoteCount_iterate`, `utf8ByteSize_iterate` — what writing it `n` times adds, where the quotes
  that are in the name and the two around it double each time.
-/

namespace SqlLexicon.Name

open Text

variable {name : String}

def quoteCount (name : String) : Nat :=
  name.toList.count '"'

/-- The written form of a name, taken as a name. -/
def rewrite (name : String) : String :=
  (write name).text

/-! ## Doubling the quotes -/

theorem utf8Size_quote : ('"').utf8Size = 1 := rfl

theorem count_doubleQuotes (chars : List Char) :
    (doubleQuotes chars).count '"' = 2 * chars.count '"' := by
  induction chars with
  | nil => rfl
  | cons c chars ih =>
      rw [doubleQuotes_cons, List.count_append, ih]
      by_cases hc : c = '"'
      · rw [if_pos hc, hc, List.count_cons_self, List.count_cons_self, List.count_cons_self,
          List.count_nil]
        omega
      · rw [if_neg hc, List.count_cons_of_ne hc, List.count_cons_of_ne hc, List.count_nil]
        omega

theorem byteLength_doubleQuotes (chars : List Char) :
    byteLength (doubleQuotes chars) = byteLength chars + chars.count '"' := by
  induction chars with
  | nil => rfl
  | cons c chars ih =>
      rw [doubleQuotes_cons, byteLength_append, byteLength_cons, ih]
      by_cases hc : c = '"'
      · rw [if_pos hc, hc, List.count_cons_self, byteLength_cons, byteLength_cons,
          byteLength_nil, utf8Size_quote]
        omega
      · rw [if_neg hc, List.count_cons_of_ne hc, byteLength_cons, byteLength_nil]
        omega

/-! ## One more time -/

theorem toList_rewrite (h : isSimple name = false) :
    (rewrite name).toList = '"' :: (doubleQuotes name.toList ++ ['"']) := by
  rw [rewrite, text_write_of_not_simple h]
  simp

theorem isSimple_rewrite (h : isSimple name = false) : isSimple (rewrite name) = false :=
  isSimple_eq_false_of_mem_quote (quote_mem_text_write h)

theorem quoteCount_rewrite (h : isSimple name = false) :
    quoteCount (rewrite name) = 2 * quoteCount name + 2 := by
  rw [quoteCount, quoteCount, toList_rewrite h, List.count_cons_self, List.count_append,
    count_doubleQuotes, List.count_singleton_self]

theorem utf8ByteSize_rewrite (h : isSimple name = false) :
    (rewrite name).utf8ByteSize = name.utf8ByteSize + quoteCount name + 2 := by
  rw [← byteLength_toList, ← byteLength_toList, toList_rewrite h, byteLength_cons,
    byteLength_append, byteLength_doubleQuotes, byteLength_cons, byteLength_nil,
    utf8Size_quote, quoteCount]
  omega

theorem text_write_eq_self_iff : (write name).text = name ↔ isSimple name = true := by
  constructor
  · intro hsame
    rw [← Bool.not_eq_false]
    intro hsimple
    have hsize := utf8ByteSize_rewrite hsimple
    rw [rewrite, hsame] at hsize
    omega
  · exact text_write_of_simple

/-! ## Any number of times -/

theorem isSimple_iterate (h : isSimple name = false) (n : Nat) :
    isSimple (rewrite^[n] name) = false := by
  induction n with
  | zero => exact h
  | succ n ih =>
      rw [Function.iterate_succ_apply']
      exact isSimple_rewrite ih

theorem quoteCount_iterate (h : isSimple name = false) (n : Nat) :
    quoteCount (rewrite^[n] name) + 2 = (quoteCount name + 2) * 2 ^ n := by
  induction n with
  | zero => simp
  | succ n ih =>
      rw [Function.iterate_succ_apply', quoteCount_rewrite (isSimple_iterate h n), pow_succ,
        ← mul_assoc, ← ih]
      omega

-- Every time, the size grows by as many bytes as there are quotes, and two more.
theorem utf8ByteSize_iterate (h : isSimple name = false) (n : Nat) :
    (rewrite^[n] name).utf8ByteSize + (quoteCount name + 2) =
      name.utf8ByteSize + (quoteCount name + 2) * 2 ^ n := by
  induction n with
  | zero => simp
  | succ n ih =>
      have hquotes := quoteCount_iterate h n
      rw [Function.iterate_succ_apply', utf8ByteSize_rewrite (isSimple_iterate h n), pow_succ,
        ← mul_assoc]
      omega

/-- **Writing settles at once or doubles for ever.** A name is written bare exactly if writing does
not change it, exactly if it is simple, and exactly if writing it again changes nothing. A name
that is not simple is never written bare, however often it has been written before; with `k`
quotes in it, what it is after `n` times has `(k + 2) * 2 ^ n - 2` quotes and is
`(k + 2) * (2 ^ n - 1)` bytes longer. -/
theorem write_settles_or_doubles (name : String) :
    ((write name).isBare = true ↔ (write name).text = name) ∧
    ((write name).text = name ↔ isSimple name = true) ∧
    (isSimple name = true ↔ (write (write name).text).text = (write name).text) ∧
    (isSimple name = false → ∀ n,
      (write (rewrite^[n] name)).isBare = false ∧
      (rewrite^[n] name).utf8ByteSize =
        name.utf8ByteSize + (quoteCount name + 2) * (2 ^ n - 1) ∧
      quoteCount (rewrite^[n] name) = (quoteCount name + 2) * 2 ^ n - 2) := by
  refine ⟨?_, text_write_eq_self_iff, ?_, ?_⟩
  · rw [isBare_write, text_write_eq_self_iff]
  · rw [text_write_inj, text_write_eq_self_iff]
  · intro h n
    have hquotes := quoteCount_iterate h n
    have hsize := utf8ByteSize_iterate h n
    refine ⟨?_, ?_, ?_⟩
    · rw [isBare_write]
      exact isSimple_iterate h n
    · have hpow : quoteCount name + 2 ≤ (quoteCount name + 2) * 2 ^ n :=
        Nat.le_mul_of_pos_right _ (Nat.two_pow_pos n)
      rw [Nat.mul_sub_one]
      omega
    · omega

/-- The theorem at a name with one quote and a two-byte character, written three times. -/
theorem write_settles_or_doubles_thrice :
    isSimple "É\"x" = false ∧ (write (rewrite^[3] "É\"x")).isBare = false ∧
      (rewrite^[3] "É\"x").utf8ByteSize = 4 + (1 + 2) * (2 ^ 3 - 1) ∧
      quoteCount (rewrite^[3] "É\"x") = (1 + 2) * 2 ^ 3 - 2 := by
  have hsimple : isSimple "É\"x" = false := isSimple_eq_false_of_mem_quote (by decide)
  obtain ⟨-, -, -, hgrows⟩ := write_settles_or_doubles "É\"x"
  exact ⟨hsimple, hgrows hsimple 3⟩

end SqlLexicon.Name
