import SqlLexicon.Journal
import SqlLexicon.Proofs.Name.Language
import SqlLexicon.Proofs.Text.Boundary
/-!
# What is wrong with a name

The check of a name reports why it refuses the shape of the name, and is silent otherwise. As the
report is about the first character that does not fit, it says as much about every longer text.

* `shaped_of_mem_spellings` — a keyword has the shape of a name, so that it is its spelling alone
  that makes it refused;
* `inspect_eq_iff` — the inspection finds what holds of the name, and only one finding does;
* `refuses_start_iff`, `refuses_char_iff` — which finding a report stands for;
* `refuses_append` — a report stands whatever the name goes on with;
* `isSimple_events_diagnose` — what the events and the result of the check tell together.
-/

namespace SqlLexicon.Name

open Lexicon Text Unicode

/-! ## Keywords have the shape of names -/

theorem canStart_of_upper {c : Char} (h : 0x41 ≤ c.toNat ∧ c.toNat ≤ 0x5A) :
    (CharClass.of c).canStart = true := by
  rw [CharClass.canStart_iff, category_of_upperAscii h]
  exact Or.inr List.mem_cons_self

theorem canStart_of_mem_spelling {word : String} (hword : word ∈ spellings) {c : Char}
    (hc : c ∈ word.toList) : (CharClass.of c).canStart = true := by
  obtain ⟨entry, hentry, rfl⟩ := List.mem_map.mp hword
  have hascii : c.toNat < 0x80 := by
    apply toNat_lt_of_mem_toList _ c hc
    intro b hb
    exact toNat_lt_of_isSpellingByte (isSpellingByte_of_mem hentry hb)
  have hbyte := isSpellingByte_of_mem hentry (mem_bytes_of_mem hc hascii)
  have htoNat : (UInt8.ofNat c.toNat).toNat = c.toNat := by
    rw [UInt8.toNat_ofNat']
    omega
  simp only [isSpellingByte, Bool.or_eq_true, Bool.and_eq_true, decide_eq_true_eq, beq_iff_eq,
    UInt8.le_iff_toNat_le, ← UInt8.toNat_inj, UInt8.reduceToNat, htoNat] at hbyte
  rcases hbyte with hupper | hunderscore
  · exact canStart_of_upper hupper
  · rw [CharClass.canStart_iff]
    left
    exact Char.toNat_inj.mp hunderscore

theorem shaped_of_mem_spellings {word : String} (hword : word ∈ spellings) :
    Shaped word.toList := by
  have hstart : ∀ c ∈ word.toList, (CharClass.of c).canStart = true :=
    fun c hc => canStart_of_mem_spelling hword hc
  have hne : ∀ word ∈ spellings, word.toList ≠ [] := by decide
  cases hchars : word.toList with
  | nil => exact absurd hchars (hne word hword)
  | cons c chars =>
      rw [hchars] at hstart
      refine ⟨hstart c List.mem_cons_self, ?_⟩
      intro d hd
      exact CharClass.canContinue_of_canStart (hstart d (List.mem_cons_of_mem c hd))

theorem isKeyword_exactPolicy_iff_mem {name : String} :
    exactPolicy.isKeyword name = true ↔ name ∈ spellings := by
  rw [isKeyword_exactPolicy_iff, spellings, List.mem_map]
  simp only [bytes_inj, eq_comm]

/-! ## Findings -/

/-- What a finding says about a name. -/
def Finding.Holds (name : String) : Finding → Prop
  | .simple => Shaped name.toList ∧ name ∉ spellings
  | .empty => name = ""
  | .badStart shape =>
    ∃ first rest, name.toList = first :: rest ∧ CharClass.of first = shape ∧
      shape.canStart = false
  | .badChar offset shape =>
    ∃ before c after, name = before ++ String.singleton c ++ after ∧
      before.utf8ByteSize = offset ∧ Shaped before.toList ∧ CharClass.of c = shape ∧
      shape.canContinue = false
  | .keyword => name ∈ spellings

theorem firstOffender?_append {offset : Nat} {front back : List Char} {c : Char}
    (hfront : ∀ d ∈ front, (CharClass.of d).canContinue = true)
    (hstop : (CharClass.of c).canContinue = false) :
    firstOffender? offset (front ++ c :: back) =
      some (offset + byteLength front, CharClass.of c) := by
  induction front generalizing offset with
  | nil => simp [firstOffender?, hstop]
  | cons d front ih =>
      obtain ⟨hd, hrest⟩ := List.forall_mem_cons.mp hfront
      rw [List.cons_append, firstOffender?, if_pos hd, ih hrest, byteLength_cons, Nat.add_assoc]

theorem exists_of_firstOffender? {offset found : Nat} {chars : List Char} {shape : CharClass}
    (h : firstOffender? offset chars = some (found, shape)) :
    ∃ front c back, chars = front ++ c :: back ∧
      (∀ d ∈ front, (CharClass.of d).canContinue = true) ∧ offset + byteLength front = found ∧
      CharClass.of c = shape ∧ shape.canContinue = false := by
  induction chars generalizing offset with
  | nil => cases h
  | cons c chars ih =>
      by_cases hcontinue : (CharClass.of c).canContinue = true
      · rw [firstOffender?, if_pos hcontinue] at h
        obtain ⟨front, d, back, rfl, hfront, hfound, hd⟩ := ih h
        refine ⟨c :: front, d, back, rfl, List.forall_mem_cons.mpr ⟨hcontinue, hfront⟩, ?_, hd⟩
        rw [byteLength_cons, ← Nat.add_assoc, hfound]
      · rw [firstOffender?, if_neg hcontinue, Option.some.injEq, Prod.mk.injEq] at h
        obtain ⟨rfl, rfl⟩ := h
        exact ⟨[], c, chars, rfl, by simp, by simp, rfl, Bool.eq_false_iff.mpr hcontinue⟩

theorem holds_inspect (name : String) : (inspect name).Holds name := by
  unfold inspect
  split
  · rename_i hname
    exact String.toList_eq_nil_iff.mp hname
  · rename_i c chars hname
    simp only
    split
    · rename_i hstart
      split
      · rename_i offset shape hoffender
        obtain ⟨front, d, back, rfl, hfront, hfound, hd⟩ := exists_of_firstOffender? hoffender
        refine ⟨String.ofList (c :: front), d, String.ofList back, ?_, ?_, ?_, hd⟩
        · rw [← String.toList_inj, hname]
          simp
        · rw [utf8ByteSize_ofList]
          exact hfound
        · simpa using ⟨hstart, hfront⟩
      · rename_i hoffender
        have hshaped : Shaped name.toList := by
          rw [hname]
          exact ⟨hstart, firstOffender?_eq_none_iff.mp hoffender⟩
        split
        · rename_i hkeyword
          exact isKeyword_exactPolicy_iff_mem.mp hkeyword
        · rename_i hkeyword
          exact ⟨hshaped, mt isKeyword_exactPolicy_iff_mem.mpr hkeyword⟩
    · rename_i hstart
      exact ⟨c, chars, hname, rfl, Bool.eq_false_iff.mpr hstart⟩

theorem inspect_of_holds {name : String} {finding : Finding} (h : finding.Holds name) :
    inspect name = finding := by
  cases finding with
  | simple =>
      rw [inspect_eq_simple_iff, ← Bool.not_eq_true, isKeyword_exactPolicy_iff_mem]
      exact h
  | empty =>
      subst h
      rfl
  | badStart shape =>
      obtain ⟨first, rest, hname, rfl, hstart⟩ := h
      simp [inspect, hname, hstart]
  | badChar offset shape =>
      obtain ⟨before, c, after, rfl, rfl, hshaped, rfl, hstop⟩ := h
      cases hbefore : before.toList with
      | nil =>
          rw [hbefore] at hshaped
          contradiction
      | cons first front =>
          rw [hbefore] at hshaped
          obtain ⟨hstart, hfront⟩ := hshaped
          have hsize : before.utf8ByteSize = first.utf8Size + byteLength front := by
            rw [← byteLength_toList, hbefore, byteLength_cons]
          have hname : (before ++ String.singleton c ++ after).toList =
              first :: (front ++ c :: after.toList) := by
            simp [hbefore]
          simp only [inspect, hname, hstart, if_true, firstOffender?_append hfront hstop, hsize]
  | keyword =>
      have hkeyword := isKeyword_exactPolicy_iff_mem.mpr h
      have hshaped := shaped_of_mem_spellings h
      cases hname : name.toList with
      | nil =>
          rw [hname] at hshaped
          contradiction
      | cons first rest =>
          rw [hname] at hshaped
          have hoffender := @firstOffender?_eq_none_iff first.utf8Size rest
          simp only [inspect, hname, hshaped.1, if_true, hoffender.mpr hshaped.2, hkeyword]

/-- The inspection finds what holds of the name, and only one finding does. -/
theorem inspect_eq_iff {name : String} {finding : Finding} :
    inspect name = finding ↔ finding.Holds name := by
  constructor
  · intro h
    rw [← h]
    exact holds_inspect name
  · exact inspect_of_holds

/-! ## Reports -/

/-- The run refuses its name and reports so in one event with this message and these fields. -/
def Refuses (run : Logged Bool) (message : String) (fields : List (String × FieldValue)) : Prop :=
  run.value = false ∧
    ∃ event, run.events = [event] ∧ event.level = .trace ∧ event.message = message ∧
      event.fields = fields

theorem label_inj {v w : CharClass} : v.label = w.label ↔ v = w := by
  cases v <;> cases w <;> simp [CharClass.label]

theorem refuses_start_iff {name : String} {shape : CharClass} :
    Refuses (Journal.isSimple name) "Identifier cannot start with this character"
        [("text", .text name), ("class", .text shape.label)] ↔
      inspect name = .badStart shape := by
  cases hfound : inspect name <;>
    simp [Refuses, Journal.isSimple, isSimple, hfound, Finding.event?, Event.level, Event.message,
      Event.fields, label_inj]

theorem refuses_char_iff {name : String} {offset : Nat} {shape : CharClass} :
    Refuses (Journal.isSimple name) "Identifier contains a character that needs quoting"
        [("text", .text name), ("offset", .number offset), ("class", .text shape.label)] ↔
      inspect name = .badChar offset shape := by
  cases hfound : inspect name <;>
    simp [Refuses, Journal.isSimple, isSimple, hfound, Finding.event?, Event.level, Event.message,
      Event.fields, label_inj]

theorem silent_true_iff {name : String} :
    (Journal.isSimple name).value = true ∧ (Journal.isSimple name).events = [] ↔
      inspect name = .simple := by
  cases hfound : inspect name <;>
    simp [Journal.isSimple, isSimple, hfound, Finding.event?]

theorem silent_false_iff {name : String} :
    (Journal.isSimple name).value = false ∧ (Journal.isSimple name).events = [] ↔
      inspect name = .empty ∨ inspect name = .keyword := by
  cases hfound : inspect name <;>
    simp [Journal.isSimple, isSimple, hfound, Finding.event?]

/-! ## Longer names -/

theorem inspect_append_of_badStart {name : String} {shape : CharClass}
    (h : inspect name = .badStart shape) (more : String) :
    inspect (name ++ more) = .badStart shape := by
  obtain ⟨first, rest, hname, hshape⟩ := inspect_eq_iff.mp h
  apply inspect_eq_iff.mpr
  exact ⟨first, rest ++ more.toList, by rw [String.toList_append, hname]; rfl, hshape⟩

theorem inspect_append_of_badChar {name : String} {offset : Nat} {shape : CharClass}
    (h : inspect name = .badChar offset shape) (more : String) :
    inspect (name ++ more) = .badChar offset shape := by
  obtain ⟨before, c, after, rfl, hoffender⟩ := inspect_eq_iff.mp h
  apply inspect_eq_iff.mpr
  exact ⟨before, c, after ++ more, String.append_assoc, hoffender⟩

/-- A refusal that is reported stands whatever the name goes on with. -/
theorem refuses_append {name : String} {event : Event}
    (hevent : event ∈ (Journal.isSimple name).events) (more : String) :
    Refuses (Journal.isSimple (name ++ more)) event.message
      (("text", .text (name ++ more)) :: event.fields.tail) := by
  rw [Journal.isSimple, Option.mem_toList] at hevent
  cases hfound : inspect name with
  | badStart shape =>
      rw [hfound] at hevent
      cases hevent
      exact refuses_start_iff.mpr (inspect_append_of_badStart hfound more)
  | badChar offset shape =>
      rw [hfound] at hevent
      cases hevent
      exact refuses_char_iff.mpr (inspect_append_of_badChar hfound more)
  | simple | empty | keyword =>
      rw [hfound] at hevent
      cases hevent

theorem text_of_mem_events {name : String} {event : Event}
    (hevent : event ∈ (Journal.isSimple name).events) :
    event.fields.head? = some ("text", .text name) := by
  rw [Journal.isSimple, Option.mem_toList] at hevent
  cases hfound : inspect name <;> rw [hfound] at hevent <;> cases hevent <;> rfl

/-- **The events of the check tell what is wrong with a name.** There is at most one event. A name
that passes in silence is simple, and one that is refused in silence is empty or a keyword as it
is spelled. Else the event gives the class of a first character that cannot start a name, or the
byte offset and the class of the first character that a well-started name cannot go on with. A
refusal with an event names the whole text, stands for every longer text, and is what writing the
name reports too. -/
theorem isSimple_events_diagnose (name : String) :
    let run := Journal.isSimple name
    run.events.length ≤ 1 ∧ spellings.length = 48 ∧
    (run.value = true ∧ run.events = [] ↔ Shaped name.toList ∧ name ∉ spellings) ∧
    (run.value = false ∧ run.events = [] ↔ name = "" ∨ name ∈ spellings) ∧
    (∀ shape,
      Refuses run "Identifier cannot start with this character"
          [("text", .text name), ("class", .text shape.label)] ↔
        ∃ first rest, name.toList = first :: rest ∧ CharClass.of first = shape ∧
          shape.canStart = false) ∧
    (∀ offset shape,
      Refuses run "Identifier contains a character that needs quoting"
          [("text", .text name), ("offset", .number offset), ("class", .text shape.label)] ↔
        ∃ before c after, name = before ++ String.singleton c ++ after ∧
          before.utf8ByteSize = offset ∧ Shaped before.toList ∧ CharClass.of c = shape ∧
          shape.canContinue = false) ∧
    (∀ event ∈ run.events, event.fields.head? = some ("text", .text name) ∧
      ∀ more, Refuses (Journal.isSimple (name ++ more)) event.message
        (("text", .text (name ++ more)) :: event.fields.tail)) ∧
    (Journal.write name).events = run.events := by
  intro run
  refine ⟨?_, rfl, ?_, ?_, ?_, ?_, ?_, rfl⟩
  · exact Option.length_toList_le
  · exact silent_true_iff.trans inspect_eq_iff
  · exact silent_false_iff.trans (or_congr inspect_eq_iff inspect_eq_iff)
  · intro shape
    exact refuses_start_iff.trans inspect_eq_iff
  · intro offset shape
    exact refuses_char_iff.trans inspect_eq_iff
  · intro event hevent
    exact ⟨text_of_mem_events hevent, refuses_append hevent⟩

/-- The theorem at a lower-case letter after a two-byte one. -/
theorem isSimple_events_at_lower :
    Refuses (Journal.isSimple "Éb") "Identifier contains a character that needs quoting"
        [("text", .text "Éb"), ("offset", .number 2), ("class", .text "lower-case letter")] ∧
      ∃ event ∈ (Journal.isSimple "Éb").events,
        Refuses (Journal.isSimple ("Éb" ++ "Ω")) event.message
          (("text", .text ("Éb" ++ "Ω")) :: event.fields.tail) := by
  obtain ⟨-, -, -, -, -, hchar, hmore, -⟩ := isSimple_events_diagnose "Éb"
  have hlower : CharClass.of 'b' = .lowerCaseLetter := by
    rw [CharClass.of, if_neg (by decide), category_of_lowerAscii (by decide)]
  have hrefuses := (hchar 2 .lowerCaseLetter).mpr
    ⟨"É", 'b', "", by decide, by decide, ⟨by decide, List.forall_mem_nil _⟩, hlower, rfl⟩
  obtain ⟨-, event, hevents, -⟩ := id hrefuses
  have hevent : event ∈ (Journal.isSimple "Éb").events := by
    rw [hevents]
    exact List.mem_singleton_self event
  exact ⟨hrefuses, event, hevent, (hmore event hevent).2 "Ω"⟩

end SqlLexicon.Name
