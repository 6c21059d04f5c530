import SqlLexicon.Proofs.Name.RoundTrip
/-!
# The written forms of names

Not every text is the written form of a name. The written forms are the simple names and the
quoted texts in which quotes stand in pairs, unless what is between the quotes need not have been
quoted.

* `doubleQuotes_halveQuotes_iff` — doubling the quotes again after halving them gives back the
  text exactly if every longest run of quotes in it has even length;
* `text_write_eq_iff` — the only name with a given written form, in either form;
* `exists_text_write_eq_iff` — which texts are written forms, and of which name.
-/

namespace SqlLexicon.Name

/-! ## Pairs of quotes -/

/-- Writes each pair of double quotes once, from left to right, and all else as it is. -/
def halveQuotes : List Char → List Char
  | '"' :: '"' :: chars => '"' :: halveQuotes chars
  | c :: chars => c :: halveQuotes chars
  | [] => []

/-- Every longest run of double quotes has even length. -/
def Paired (chars : List Char) : Prop :=
  ∀ front n back, chars = front ++ List.replicate n '"' ++ back →
    front.getLast? ≠ some '"' → back.head? ≠ some '"' → 2 ∣ n

variable {c : Char} {chars : List Char}

theorem halveQuotes_cons_of_ne (hc : c ≠ '"') :
    halveQuotes (c :: chars) = c :: halveQuotes chars := by
  rw [halveQuotes]
  intro _ hquote
  exact absurd hquote hc

theorem halveQuotes_doubleQuotes (chars : List Char) :
    halveQuotes (doubleQuotes chars) = chars := by
  induction chars with
  | nil => rfl
  | cons c chars ih =>
      rw [doubleQuotes_cons]
      by_cases hc : c = '"'
      · rw [if_pos hc, hc, List.cons_append, List.cons_append, List.nil_append, halveQuotes, ih]
      · rw [if_neg hc, List.cons_append, List.nil_append, halveQuotes_cons_of_ne hc, ih]

theorem getLast?_ne_of_cons {front : List Char} (h : (c :: front).getLast? ≠ some '"') :
    front.getLast? ≠ some '"' := by
  cases front with
  | nil => simp
  | cons d front => simpa using h

theorem paired_nil : Paired [] := by
  intro front n back hparts _ _
  have hlength := congrArg List.length hparts
  simp only [List.length_nil, List.length_append, List.length_replicate] at hlength
  have hn : n = 0 := by omega
  exact hn ▸ Nat.dvd_zero 2

theorem paired_cons_iff (hc : c ≠ '"') : Paired (c :: chars) ↔ Paired chars := by
  constructor
  · intro h front n back hparts hfront hback
    refine h (c :: front) n back (by simp [hparts]) ?_ hback
    cases front with
    | nil => simpa using hc
    | cons d front => simpa using hfront
  · intro h front n back hparts hfront hback
    cases front with
    | nil =>
        -- A run at the front of the text is empty, as the text starts with another character.
        cases n with
        | zero => exact Nat.dvd_zero 2
        | succ n =>
            rw [List.nil_append, List.replicate_succ, List.cons_append, List.cons.injEq] at hparts
            exact absurd hparts.1 hc
    | cons d front =>
        rw [List.cons_append, List.cons_append, List.cons.injEq] at hparts
        exact h front n back hparts.2 (getLast?_ne_of_cons hfront) hback

theorem paired_quote_quote_iff : Paired ('"' :: '"' :: chars) ↔ Paired chars := by
  constructor
  · intro h front n back hparts hfront hback
    cases front with
    | nil =>
        have hrun := h [] (n + 2) back (by simp [hparts, List.replicate_succ]) (by simp) hback
        exact (Nat.dvd_add_left (Nat.dvd_refl 2)).mp hrun
    | cons d front =>
        exact h ('"' :: '"' :: d :: front) n back (by simp [hparts]) (by simpa using hfront) hback
  · intro h front n back hparts hfront hback
    match front with
    | [] =>
        match n with
        | 0 => exact Nat.dvd_zero 2
        | 1 =>
            rw [List.nil_append, List.replicate_one, List.singleton_append,
              List.cons.injEq] at hparts
            rw [← hparts.2] at hback
            exact absurd rfl hback
        | n + 2 =>
            simp only [List.nil_append, List.replicate_succ, List.cons_append, List.cons.injEq,
              true_and] at hparts
            have hrun := h [] n back (by simp [hparts]) (by simp) hback
            exact (Nat.dvd_add_left (Nat.dvd_refl 2)).mpr hrun
    | [d] =>
        rw [List.cons_append, List.cons_append, List.cons.injEq] at hparts
        rw [← hparts.1] at hfront
        exact absurd rfl hfront
    | d :: e :: front =>
        simp only [List.cons_append, List.cons.injEq] at hparts
        obtain ⟨rfl, rfl, hparts⟩ := hparts
        have hrest := getLast?_ne_of_cons (getLast?_ne_of_cons hfront)
        exact h front n back hparts hrest hback

theorem not_paired_quote (h : chars.head? ≠ some '"') : ¬Paired ('"' :: chars) := by
  intro hpaired
  have hone := hpaired [] 1 chars rfl (by simp) h
  omega

/-- Halving the quotes of a text loses nothing exactly if they stand in pairs. -/
theorem doubleQuotes_halveQuotes_iff (chars : List Char) :
    doubleQuotes (halveQuotes chars) = chars ↔ Paired chars := by
  fun_induction halveQuotes chars with
  | case1 chars ih =>
      rw [doubleQuotes_cons, if_pos rfl, paired_quote_quote_iff, ← ih]
      simp
  | case2 c chars hsingle ih =>
      rw [doubleQuotes_cons]
      by_cases hc : c = '"'
      · have hhead : chars.head? ≠ some '"' := by
          intro hhead
          obtain ⟨tail, htail⟩ := List.head?_eq_some_iff.mp hhead
          exact hsingle tail hc htail
        subst hc
        rw [if_pos rfl, List.cons_append, List.cons_append, List.nil_append]
        constructor
        · intro hsame
          rw [← (List.cons.inj hsame).2] at hhead
          exact absurd rfl hhead
        · intro hpaired
          exact absurd hpaired (not_paired_quote hhead)
      · rw [if_neg hc, paired_cons_iff hc, ← ih]
        simp
  | case3 => simp [paired_nil]

instance (chars : List Char) : Decidable (Paired chars) :=
  decidable_of_iff _ (doubleQuotes_halveQuotes_iff chars)

example : Paired "\"\"a\"\"\"\"".toList ∧ ¬Paired "\"\"a\"".toList := by decide

theorem paired_doubleQuotes (chars : List Char) : Paired (doubleQuotes chars) := by
  rw [← doubleQuotes_halveQuotes_iff, halveQuotes_doubleQuotes]

/-! ## Written forms -/

/-- The name that a quoted text stands for, given what is between the outer quotes. -/
def unquote (body : String) : String :=
  String.ofList (halveQuotes body.toList)

theorem ofList_doubleQuotes_eq_iff {name body : String} :
    String.ofList (doubleQuotes name.toList) = body ↔
      Paired body.toList ∧ name = unquote body := by
  constructor
  · intro h
    subst h
    rw [unquote, String.toList_ofList, halveQuotes_doubleQuotes, String.ofList_toList]
    exact ⟨paired_doubleQuotes name.toList, rfl⟩
  · intro h
    obtain ⟨hpaired, rfl⟩ := h
    rw [unquote, String.toList_ofList, (doubleQuotes_halveQuotes_iff body.toList).mpr hpaired,
      String.ofList_toList]

theorem quoted_inj {body other : String} :
    "\"" ++ body ++ "\"" = "\"" ++ other ++ "\"" ↔ body = other := by
  rw [← String.toList_inj, ← String.toList_inj]
  simp

theorem isSimple_eq_false_of_mem_quote {name : String} (h : '"' ∈ name.toList) :
    isSimple name = false := by
  rw [← Bool.not_eq_true]
  intro hsimple
  have hcontinues : continues '"' = true := (isSimple_iff_shaped.mp hsimple).1.canContinue '"' h
  rw [not_continues_quote] at hcontinues
  contradiction

theorem text_write_inj {name other : String} :
    (write name).text = (write other).text ↔ name = other := by
  constructor
  · intro h
    have happend : (write name).text ++ "" = (write other).text ++ "" := congrArg (· ++ "") h
    exact (eq_of_text_write_append_eq ends_empty ends_empty happend).1
  · intro h
    rw [h]

theorem text_write_eq_iff {name text : String} :
    (write name).text = text ↔
      (isSimple name = true ∧ name = text) ∨
        ∃ body, text = "\"" ++ body ++ "\"" ∧ Paired body.toList ∧
          isSimple (unquote body) = false ∧ name = unquote body := by
  cases hsimple : isSimple name with
  | true =>
      rw [text_write_of_simple hsimple]
      constructor
      · intro h
        exact Or.inl ⟨rfl, h⟩
      · intro h
        obtain ⟨-, h⟩ | ⟨body, -, -, hbody, rfl⟩ := h
        · exact h
        · rw [hbody] at hsimple
          contradiction
  | false =>
      rw [text_write_of_not_simple hsimple]
      constructor
      · intro h
        obtain ⟨hpaired, hname⟩ := ofList_doubleQuotes_eq_iff.mp rfl
        exact Or.inr ⟨_, h.symm, hpaired, hname ▸ hsimple, hname⟩
      · intro h
        obtain ⟨hfalse, -⟩ | ⟨body, htext, hpaired, -, hname⟩ := h
        · contradiction
        · rw [htext, quoted_inj]
          exact ofList_doubleQuotes_eq_iff.mpr ⟨hpaired, hname⟩

/-- **The written forms of names.** A text is the written form of a name exactly if it is a simple
name, or a text between quotes in which quotes stand in pairs and which stands for a name that is
not simple. It is then the written form of that name and of no other. -/
theorem exists_text_write_eq_iff (text : String) :
    ((∃ name, (write name).text = text) ↔
      isSimple text = true ∨
        ∃ body, text = "\"" ++ body ++ "\"" ∧ Paired body.toList ∧
          isSimple (unquote body) = false) ∧
    (isSimple text = true → ∀ name, (write name).text = text ↔ name = text) ∧
    ∀ body, text = "\"" ++ body ++ "\"" → Paired body.toList → isSimple (unquote body) = false →
      ∀ name, (write name).text = text ↔ name = unquote body := by
  refine ⟨?_, ?_, ?_⟩
  · constructor
    · intro h
      obtain ⟨name, hname⟩ := h
      obtain ⟨hsimple, rfl⟩ | ⟨body, htext, hpaired, hsimple, -⟩ := text_write_eq_iff.mp hname
      · exact Or.inl hsimple
      · exact Or.inr ⟨body, htext, hpaired, hsimple⟩
    · intro h
      obtain hsimple | ⟨body, htext, hpaired, hsimple⟩ := h
      · exact ⟨text, text_write_of_simple hsimple⟩
      · exact ⟨unquote body, text_write_eq_iff.mpr (Or.inr ⟨body, htext, hpaired, hsimple, rfl⟩)⟩
  · intro hsimple name
    have hinj := @text_write_inj name text
    rwa [text_write_of_simple hsimple] at hinj
  · intro body htext hpaired hsimple name
    have hwritten : (write (unquote body)).text = text :=
      text_write_eq_iff.mpr (Or.inr ⟨body, htext, hpaired, hsimple, rfl⟩)
    have hinj := @text_write_inj name (unquote body)
    rwa [hwritten] at hinj

/-- The theorem at a quoted text with a pair of quotes inside it and a pair at its end, and at a
simple name. -/
theorem exists_text_write_eq_pairs :
    "\"a\"\"b\"\"\"" = "\"" ++ "a\"\"b\"\"" ++ "\"" ∧ Paired "a\"\"b\"\"".toList ∧
      isSimple (unquote "a\"\"b\"\"") = false ∧ isSimple "T" = true ∧
      (∃ name, (write name).text = "\"a\"\"b\"\"\"") ∧
      (∀ name, (write name).text = "\"a\"\"b\"\"\"" ↔ name = unquote "a\"\"b\"\"") ∧
      ∀ name, (write name).text = "T" ↔ name = "T" := by
  have htext : "\"a\"\"b\"\"\"" = "\"" ++ "a\"\"b\"\"" ++ "\"" := by decide
  have hpaired : Paired "a\"\"b\"\"".toList := by decide
  have hquoted : isSimple (unquote "a\"\"b\"\"") = false :=
    isSimple_eq_false_of_mem_quote (by decide)
  have hbare : isSimple "T" = true := by decide
  obtain ⟨hform, -, hname⟩ := exists_text_write_eq_iff "\"a\"\"b\"\"\""
  obtain ⟨-, hself, -⟩ := exists_text_write_eq_iff "T"
  exact ⟨htext, hpaired, hquoted, hbare, hform.mpr (Or.inr ⟨_, htext, hpaired, hquoted⟩),
    hname _ htext hpaired hquoted, hself hbare⟩

end SqlLexicon.Name
