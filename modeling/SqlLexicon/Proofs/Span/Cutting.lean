import Mathlib.Algebra.Ring.Nat
import Mathlib.Data.List.Forall2
import SqlLexicon.Proofs.Span.Offsets
/-!
# A text cut into spans

Offsets that ascend from the start of a text to its end cut it into spans, one from each offset to
the next. An offset between two spans is checked twice, as the stop of the one and as the start of
the other.

* `forall_neighbours_iff` — all spans exist exactly if no offset splits a character;
* `join_words` — the words of the spans, in their order, are what lies between the first offset and
  the last;
* `exists_first_splitting` — otherwise the first offset that splits a character is the stop of a
  span whose start does not;
* `ofCuts_divides_text` — so a text that is cut into spans is these spans and nothing else.
-/

namespace SqlLexicon.Span

open Text

/-! ## Neighbouring offsets -/

/-- Each offset with the one after it. -/
def neighbours (offsets : List Nat) : List (Nat × Nat) :=
  offsets.zip offsets.tail

section

variable {offsets before after : List Nat} {start stop : Nat} {cut : Nat × Nat}

theorem neighbours_cons_cons :
    neighbours (start :: stop :: offsets) = (start, stop) :: neighbours (stop :: offsets) := rfl

theorem neighbours_append :
    neighbours (before ++ start :: stop :: after) =
      neighbours (before ++ [start]) ++ (start, stop) :: neighbours (stop :: after) := by
  induction before with
  | nil => rfl
  | cons first before ih =>
      cases before with
      | nil => rfl
      | cons second before => exact congrArg ((first, second) :: ·) ih

theorem mem_of_mem_neighbours (hcut : cut ∈ neighbours offsets) :
    cut.1 ∈ offsets ∧ cut.2 ∈ offsets := by
  obtain ⟨hstart, hstop⟩ := List.of_mem_zip hcut
  exact ⟨hstart, List.mem_of_mem_tail hstop⟩

theorem lt_of_mem_neighbours (hascending : offsets.Pairwise (· < ·))
    (hcut : cut ∈ neighbours offsets) : cut.1 < cut.2 := by
  induction offsets with
  | nil => cases hcut
  | cons start offsets ih =>
      cases offsets with
      | nil => cases hcut
      | cons stop offsets =>
          rw [neighbours_cons_cons] at hcut
          obtain ⟨hstart, htail⟩ := List.pairwise_cons.mp hascending
          cases hcut with
          | head => exact hstart stop List.mem_cons_self
          | tail _ hcut => exact ih htail hcut

/-- Every offset but the first comes after another. -/
theorem exists_mem_neighbours (hstop : stop ∈ offsets.tail) :
    ∃ start, (start, stop) ∈ neighbours offsets := by
  induction offsets with
  | nil => cases hstop
  | cons first offsets ih =>
      cases offsets with
      | nil => cases hstop
      | cons second offsets =>
          cases hstop with
          | head => exact ⟨first, List.mem_cons_self⟩
          | tail _ hstop =>
              obtain ⟨start, hcut⟩ := ih hstop
              exact ⟨start, List.mem_cons_of_mem _ hcut⟩

end

/-! ## Computations in a row -/

section

variable {ε α β : Type} {f : α → Except ε β} {xs before after : List α} {ys : List β} {x : α}

theorem mapM_eq_ok_iff :
    xs.mapM f = .ok ys ↔ List.Forall₂ (fun x y => f x = .ok y) xs ys := by
  induction xs generalizing ys with
  | nil => cases ys <;> simp [pure, Except.pure]
  | cons x xs ih =>
      rw [List.mapM_cons, List.forall₂_cons_left_iff]
      simp only [← ih]
      cases f x with
      | error error => simp [bind, Except.bind]
      | ok y =>
          cases xs.mapM f with
          | error error => simp [bind, Except.bind]
          | ok rest => simp [bind, Except.bind, pure, Except.pure, eq_comm]

theorem exists_mapM_eq_ok (hok : ∀ x ∈ xs, ∃ y, f x = .ok y) : ∃ ys, xs.mapM f = .ok ys := by
  induction xs with
  | nil => exact ⟨[], rfl⟩
  | cons x xs ih =>
      obtain ⟨y, hy⟩ := hok x List.mem_cons_self
      obtain ⟨ys, hys⟩ := ih fun x hx => hok x (List.mem_cons_of_mem _ hx)
      refine ⟨y :: ys, ?_⟩
      rw [List.mapM_cons, hy, hys]
      rfl

/-- The first error ends the row. -/
theorem mapM_eq_error {error : ε} (hok : ∀ x ∈ before, ∃ y, f x = .ok y)
    (herror : f x = .error error) : (before ++ x :: after).mapM f = .error error := by
  obtain ⟨ys, hys⟩ := exists_mapM_eq_ok hok
  rw [List.mapM_append, List.mapM_cons, hys, herror]
  rfl

end

/-! ## The spans between offsets -/

/-- Offsets that lead from the start of a text to its end, each beyond the one before. -/
structure Cuts (text : String) (offsets : List Nat) : Prop where
  ascending : offsets.Pairwise (· < ·)
  head?_eq : offsets.head? = some 0
  getLast?_eq : offsets.getLast? = some text.utf8ByteSize

/-- The spans from each offset to the next one, made from left to right. The first offsets that mark
no span end it with their error. -/
def ofCuts (text : String) (offsets : List Nat) : Except SpanError (List Span) :=
  (neighbours offsets).mapM fun cut => ofOffsets text cut.1 cut.2

variable {text : String} {offsets : List Nat} {start stop : Nat} {span : Span} {spans : List Span}

theorem isBoundary_zero (text : String) : IsBoundary text 0 :=
  isBoundary_iff.mpr ⟨"", text, by simp, by simp⟩

theorem isBoundary_stop_of_ofOffsets (hspan : ofOffsets text start stop = .ok span) :
    IsBoundary text stop := by
  obtain ⟨rfl, -, rfl⟩ := ofOffsets_eq_ok_iff.mp hspan
  exact isBoundary_iff.mpr ⟨span.before ++ span.word, span.after, rfl, String.utf8ByteSize_append⟩

theorem le_of_mem_cuts (hcuts : Cuts text offsets) {offset : Nat} (hoffset : offset ∈ offsets) :
    offset ≤ text.utf8ByteSize := by
  obtain ⟨before, rfl⟩ := List.getLast?_eq_some_iff.mp hcuts.getLast?_eq
  obtain ⟨-, -, hlast⟩ := List.pairwise_append.mp hcuts.ascending
  rcases List.mem_append.mp hoffset with hbefore | hend
  · exact Nat.le_of_lt (hlast offset hbefore _ List.mem_cons_self)
  · exact Nat.le_of_eq (List.mem_singleton.mp hend)

/-- Neighbours that lie within the text and split no character mark a span. -/
theorem exists_span_of_boundaries (hascending : offsets.Pairwise (· < ·))
    (hle : ∀ offset ∈ offsets, offset ≤ text.utf8ByteSize)
    (hboundary : ∀ offset ∈ offsets, IsBoundary text offset) :
    ∀ cut ∈ neighbours offsets, ∃ span, ofOffsets text cut.1 cut.2 = .ok span := by
  intro cut hcut
  obtain ⟨hstart, hstop⟩ := mem_of_mem_neighbours hcut
  have hlt := lt_of_mem_neighbours hascending hcut
  exact exists_ofOffsets_eq_ok ⟨hlt, hle _ hstop⟩ (hboundary _ hstart) (hboundary _ hstop)

theorem forall_neighbours_iff (hcuts : Cuts text offsets) :
    (∀ cut ∈ neighbours offsets, ∃ span, ofOffsets text cut.1 cut.2 = .ok span) ↔
      ∀ offset ∈ offsets, IsBoundary text offset := by
  constructor
  · intro hspans offset hoffset
    obtain ⟨stops, rfl⟩ := List.head?_eq_some_iff.mp hcuts.head?_eq
    cases hoffset with
    | head => exact isBoundary_zero text
    | tail _ hstop =>
        have hbehind : offset ∈ (0 :: stops).tail := hstop
        obtain ⟨start, hcut⟩ := exists_mem_neighbours hbehind
        obtain ⟨span, hspan⟩ := hspans _ hcut
        exact isBoundary_stop_of_ofOffsets hspan
  · exact exists_span_of_boundaries hcuts.ascending fun _ => le_of_mem_cuts hcuts

/-! ## Pasting the words together -/

/-- The parts of a span are the two sides of a cut at its start. -/
theorem parts_of_cut {front back : String} (htext : text = front ++ back)
    (hspan : ofOffsets text front.utf8ByteSize stop = .ok span) :
    span.before = front ∧ span.word ++ span.after = back := by
  obtain ⟨hsource, hstart, -⟩ := ofOffsets_eq_ok_iff.mp hspan
  have hcut := span.cutAt?_start
  rw [hsource, hstart, htext, cutAt?_append] at hcut
  cases hcut
  exact ⟨rfl, rfl⟩

-- The induction goes along the offsets, with the text before the next one as its front.
theorem join_words {front back : String} (htext : text = front ++ back)
    (hlast : (front.utf8ByteSize :: offsets).getLast? = some text.utf8ByteSize)
    (hspans : List.Forall₂ (fun cut span => ofOffsets text cut.1 cut.2 = .ok span)
      (neighbours (front.utf8ByteSize :: offsets)) spans) :
    String.join (spans.map word) = back := by
  induction offsets generalizing front back spans with
  | nil =>
      cases hspans
      have hempty : back.utf8ByteSize = 0 := by
        rw [List.getLast?_singleton, Option.some.injEq, htext, String.utf8ByteSize_append] at hlast
        omega
      rw [String.utf8ByteSize_eq_zero_iff.mp hempty]
      rfl
  | cons stop offsets ih =>
      rw [neighbours_cons_cons, List.forall₂_cons_left_iff] at hspans
      obtain ⟨span, rest, hspan, hrest, rfl⟩ := hspans
      obtain ⟨rfl, rfl⟩ := parts_of_cut htext hspan
      obtain ⟨-, -, rfl⟩ := ofOffsets_eq_ok_iff.mp hspan
      have hstop : (span.before ++ span.word).utf8ByteSize = span.stop :=
        String.utf8ByteSize_append
      have hnext : text = (span.before ++ span.word) ++ span.after := by
        rw [htext, String.append_assoc]
      have hafter : String.join (rest.map word) = span.after := by
        refine ih hnext ?_ ?_
        · rw [hstop]
          exact hlast
        · rw [hstop]
          exact hrest
      rw [List.map_cons, String.join_cons, hafter]

theorem sum_length (spans : List Span) :
    (spans.map length).sum = (String.join (spans.map word)).utf8ByteSize := by
  induction spans with
  | nil => rfl
  | cons span spans ih =>
      rw [List.map_cons, List.sum_cons, ih, List.map_cons, String.join_cons,
        String.utf8ByteSize_append]
      rfl

theorem length_of_ofOffsets (hspan : ofOffsets text start stop = .ok span) :
    span.length = stop - start := by
  obtain ⟨-, rfl, rfl⟩ := ofOffsets_eq_ok_iff.mp hspan
  rw [stop_sub_start]

/-! ## Split characters -/

theorem exists_first_splitting (hcuts : Cuts text offsets)
    (hsplits : ∃ offset ∈ offsets, ¬IsBoundary text offset) :
    ∃ before start stop after, offsets = before ++ start :: stop :: after ∧
      (∀ offset ∈ before ++ [start], IsBoundary text offset) ∧ ¬IsBoundary text stop := by
  obtain ⟨offset, hoffset, hinside⟩ := hsplits
  have hfound : (offsets.find? fun offset => !decide (IsBoundary text offset)).isSome = true :=
    List.find?_isSome.mpr ⟨offset, hoffset, by simpa using hinside⟩
  obtain ⟨stop, hfind⟩ := Option.isSome_iff_exists.mp hfound
  obtain ⟨hfails, front, after, rfl, hfront⟩ := List.find?_eq_some_iff_append.mp hfind
  have hstop : ¬IsBoundary text stop := by simpa using hfails
  -- The front is not empty, as the first offset is 0 and splits nothing.
  obtain rfl | ⟨before, start, rfl⟩ := List.eq_nil_or_concat front
  · have hzero : stop = 0 := by simpa using hcuts.head?_eq
    rw [hzero] at hstop
    exact absurd (isBoundary_zero text) hstop
  · refine ⟨before, start, stop, after, by simp, ?_, hstop⟩
    intro offset hoffset
    rw [← List.concat_eq_append] at hoffset
    simpa using hfront offset hoffset

/-- **A text that is cut into spans is these spans and nothing else.** Offsets that ascend from the
start of a text to its end mark spans between them exactly if none of them splits a character. The
words of these spans in their order are then the text, and their lengths add up to its length.
Otherwise the spans before the first offset that splits a character exist, and the one that stops
there is refused because of that offset. -/
theorem ofCuts_divides_text (hcuts : Cuts text offsets) :
    ((∀ cut ∈ neighbours offsets, ∃ span, ofOffsets text cut.1 cut.2 = .ok span) ↔
      ∀ offset ∈ offsets, IsBoundary text offset) ∧
    ((∀ offset ∈ offsets, IsBoundary text offset) →
      ∃ spans, ofCuts text offsets = .ok spans ∧
        List.Forall₂ (fun cut span =>
          ofOffsets text cut.1 cut.2 = .ok span ∧ span.length = cut.2 - cut.1)
          (neighbours offsets) spans ∧
        String.join (spans.map word) = text ∧
        (spans.map length).sum = text.utf8ByteSize) ∧
    ((∃ offset ∈ offsets, ¬IsBoundary text offset) →
      ∃ before start stop after, offsets = before ++ start :: stop :: after ∧
        (∀ offset ∈ before ++ [start], IsBoundary text offset) ∧ ¬IsBoundary text stop ∧
        (∀ cut ∈ neighbours (before ++ [start]),
          ∃ span, ofOffsets text cut.1 cut.2 = .ok span) ∧
        ofOffsets text start stop = .error (.splitsCharacter stop) ∧
        ofCuts text offsets = .error (.splitsCharacter stop)) := by
  refine ⟨forall_neighbours_iff hcuts, ?_, ?_⟩
  · intro hboundary
    obtain ⟨spans, hspans⟩ := exists_mapM_eq_ok ((forall_neighbours_iff hcuts).mpr hboundary)
    have hmarked := mapM_eq_ok_iff.mp hspans
    have hwords : String.join (spans.map word) = text := by
      obtain ⟨stops, rfl⟩ := List.head?_eq_some_iff.mp hcuts.head?_eq
      have htext : text = "" ++ text := String.empty_append.symm
      exact join_words htext hcuts.getLast?_eq hmarked
    refine ⟨spans, hspans, ?_, hwords, ?_⟩
    · exact hmarked.imp fun _ _ hspan => ⟨hspan, length_of_ofOffsets hspan⟩
    · rw [sum_length, hwords]
  · intro hsplits
    obtain ⟨before, start, stop, after, rfl, hboundary, hinside⟩ :=
      exists_first_splitting hcuts hsplits
    have hfront : (before ++ [start]).Sublist (before ++ start :: stop :: after) :=
      List.Sublist.append_left (List.singleton_sublist.mpr List.mem_cons_self) before
    have hspans := exists_span_of_boundaries (hcuts.ascending.sublist hfront)
      (fun _ hoffset => le_of_mem_cuts hcuts (hfront.subset hoffset)) hboundary
    have hrange : start < stop ∧ stop ≤ text.utf8ByteSize := by
      have hcut : (start, stop) ∈ neighbours (before ++ start :: stop :: after) := by
        rw [neighbours_append]
        simp
      exact ⟨lt_of_mem_neighbours hcuts.ascending hcut, le_of_mem_cuts hcuts (by simp)⟩
    have herror := ofOffsets_of_stop_splits hrange (hboundary start (by simp)) hinside
    refine ⟨before, start, stop, after, rfl, hboundary, hinside, hspans, herror, ?_⟩
    rw [ofCuts, neighbours_append]
    exact mapM_eq_error hspans herror

/-- The theorem at cuts around a two-byte character, and at cuts through it. -/
theorem ofCuts_divides_text_on :
    Cuts "xÉON" [0, 1, 3, 5] ∧ Cuts "xÉON" [0, 1, 2, 5] ∧
      (∃ spans, ofCuts "xÉON" [0, 1, 3, 5] = .ok spans ∧
        String.join (spans.map word) = "xÉON" ∧ (spans.map length).sum = 5) ∧
      (∃ offset ∈ [0, 1, 2, 5], ¬IsBoundary "xÉON" offset) ∧
      ∃ stop ∈ [0, 1, 2, 5], ¬IsBoundary "xÉON" stop ∧
        ofCuts "xÉON" [0, 1, 2, 5] = .error (.splitsCharacter stop) := by
  have hwhole : Cuts "xÉON" [0, 1, 3, 5] := ⟨by decide, rfl, rfl⟩
  have hsplit : Cuts "xÉON" [0, 1, 2, 5] := ⟨by decide, rfl, rfl⟩
  have hinside : ∃ offset ∈ [0, 1, 2, 5], ¬IsBoundary "xÉON" offset := ⟨2, by decide, by decide⟩
  obtain ⟨-, hspans, -⟩ := ofCuts_divides_text hwhole
  obtain ⟨-, -, hsplits⟩ := ofCuts_divides_text hsplit
  obtain ⟨spans, hok, -, hwords, hsum⟩ := hspans (by decide)
  obtain ⟨before, start, stop, after, hoffsets, -, hstop, -, -, herror⟩ := hsplits hinside
  refine ⟨hwhole, hsplit, ⟨spans, hok, hwords, hsum⟩, hinside, stop, ?_, hstop, herror⟩
  rw [hoffsets]
  simp

end SqlLexicon.Span
