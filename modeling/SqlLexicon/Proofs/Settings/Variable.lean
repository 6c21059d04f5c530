import SqlLexicon.Proofs.Text.Trim
import SqlLexicon.Settings
/-!
# What the variables say

A switch is read from the raw bytes of one variable.

* `read_eq_ok_iff` — what a variable says about its switch;
* `read_eq_error_iff` — what is reported about a variable that is not acceptable;
* `load_eq_ok_iff`, `load_eq_error_iff` — a policy is read switch by switch, and the first report
  is the one that is made.
-/

namespace SqlLexicon

open Text

/-- The bytes of a text are the UTF-8 encoding that is decoded to it. -/
theorem fromUTF8?_eq_some_iff {raw : ByteArray} {text : String} :
    String.fromUTF8? raw = some text ↔ raw = text.toUTF8 := by
  constructor
  · intro h
    by_cases hvalid : raw.IsValidUTF8
    · have hdecoded : String.fromUTF8? raw = some (String.fromUTF8 raw hvalid) := dif_pos hvalid
      rw [hdecoded] at h
      cases h
      rfl
    · have hdecoded : String.fromUTF8? raw = none := dif_neg hvalid
      rw [hdecoded] at h
      cases h
  · intro h
    subst h
    exact dif_pos text.isValidUTF8

theorem toUTF8_eq_iff {s t : String} : s.toUTF8 = t.toUTF8 ↔ s = t :=
  String.toByteArray_inj

namespace Switch

/-- The words for the settings, in lower case. -/
def settingWords : List (String × Bool) :=
  [("1", true), ("true", true), ("yes", true), ("0", false), ("false", false), ("no", false)]

/-- An empty variable counts as unset. -/
def IsUnset (value : Option ByteArray) : Prop :=
  value = none ∨ value = some "".toUTF8

/-- The value is UTF-8, and without the white space at its ends it is a word for the setting in
any ASCII case. -/
def IsWordFor (setting : Bool) (value : Option ByteArray) : Prop :=
  ∃ text word, value = some text.toUTF8 ∧ TrimsTo text word ∧ (word.toLower, setting) ∈ settingWords

/-- What a variable says about a switch that has a setting of its own for want of any other. -/
def Says (fallback : Bool) (value : Option ByteArray) (setting : Bool) : Prop :=
  IsUnset value ∧ setting = fallback ∨ IsWordFor setting value

def Acceptable (value : Option ByteArray) : Prop :=
  IsUnset value ∨ ∃ setting, IsWordFor setting value

/-- The value is set, and is not the UTF-8 encoding of any text. -/
def NotUtf8 (value : Option ByteArray) : Prop :=
  ∃ raw, value = some raw ∧ ∀ text : String, raw ≠ text.toUTF8

/-- What is reported about the variable of a switch: that its value is not UTF-8, or which word
its value is without the white space at its ends. -/
def Reports (switch : Switch) (value : Option ByteArray) (error : LoadError) : Prop :=
  NotUtf8 value ∧ error = .notUnicode switch ∨
  ∃ text word, value = some text.toUTF8 ∧ TrimsTo text word ∧ error = .notBool switch word

variable {switch : Switch} {env : Environment} {value : Option ByteArray} {text word : String}
  {setting fallback : Bool} {error : LoadError}

theorem acceptable_iff (fallback : Bool) :
    Acceptable value ↔ ∃ setting, Says fallback value setting := by
  simp only [Acceptable, Says, exists_or, exists_and_left, exists_eq, and_true]

/-! ## Words -/

theorem ofWord?_eq_some_iff :
    ofWord? word = some setting ↔ (word.toLower, setting) ∈ settingWords := by
  have hlower : String.ofList (word.toList.map Char.toLower) = word.toLower := by
    rw [← String.toList_inj, String.toList_ofList, toList_toLower]
  rw [ofWord?, hlower]
  generalize word.toLower = lower
  have hwords : (lower, setting) ∈ settingWords ↔
      lower ∈ if setting then onWords else offWords := by
    cases setting <;> simp [settingWords, onWords, offWords]
  have hapart : ∀ word ∈ onWords, word ∉ offWords := by decide
  rw [hwords]
  by_cases hon : lower ∈ onWords
  · cases setting <;> simp [hon, hapart lower hon]
  · by_cases hoff : lower ∈ offWords <;> cases setting <;> simp [hon, hoff]

theorem ofWord?_empty : ofWord? "" = none := by decide

/-! ## Texts -/

theorem isUnset_text : IsUnset (some text.toUTF8) ↔ text = "" := by
  simp only [IsUnset, reduceCtorEq, Option.some.injEq, toUTF8_eq_iff, false_or]

theorem isWordFor_text :
    IsWordFor setting (some text.toUTF8) ↔ ofWord? (trim text) = some setting := by
  simp only [IsWordFor, Option.some.injEq, toUTF8_eq_iff, ← trim_eq_iff, ofWord?_eq_some_iff]
  simp

theorem acceptable_text :
    Acceptable (some text.toUTF8) ↔ text = "" ∨ ∃ setting, ofWord? (trim text) = some setting := by
  simp only [Acceptable, isUnset_text, isWordFor_text]

theorem ofText_eq_ok_iff :
    switch.ofText text = .ok setting ↔ Says switch.default (some text.toUTF8) setting := by
  rw [Says, isUnset_text, isWordFor_text, ofText]
  cases hword : ofWord? (trim text) with
  | some found =>
      have hne : text ≠ "" := by
        rintro rfl
        rw [trim_empty, ofWord?_empty] at hword
        cases hword
      simp [hne]
  | none =>
      by_cases hempty : text = "" <;> simp [hempty, eq_comm]

theorem not_notUtf8_text : ¬NotUtf8 (some text.toUTF8) := by
  rintro ⟨raw, hraw, hother⟩
  exact hother text (Option.some.inj hraw).symm

theorem reports_text :
    Reports switch (some text.toUTF8) error ↔ error = .notBool switch (trim text) := by
  constructor
  · rintro (⟨hvalue, -⟩ | ⟨other, word, htext, htrim, herror⟩)
    · exact absurd hvalue not_notUtf8_text
    · rw [toUTF8_eq_iff.mp (Option.some.inj htext), trim_eq_iff.mpr htrim, herror]
  · intro herror
    exact Or.inr ⟨text, trim text, rfl, trimsTo_trim text, herror⟩

theorem ofText_eq_error_iff :
    switch.ofText text = .error error ↔
      ¬Acceptable (some text.toUTF8) ∧ Reports switch (some text.toUTF8) error := by
  rw [reports_text, acceptable_text, ofText]
  cases ofWord? (trim text) with
  | some found => simp
  | none => by_cases hempty : text = "" <;> simp [hempty, eq_comm]

/-! ## Variables -/

/-- A variable is unset, or its value encodes a text, or its value is not UTF-8. -/
theorem value_cases (value : Option ByteArray) :
    value = none ∨ (∃ text : String, value = some text.toUTF8) ∨ NotUtf8 value := by
  cases value with
  | none => exact Or.inl rfl
  | some raw =>
      by_cases htext : ∃ text : String, raw = text.toUTF8
      · obtain ⟨text, rfl⟩ := htext
        exact Or.inr (Or.inl ⟨text, rfl⟩)
      · exact Or.inr (Or.inr ⟨raw, rfl, not_exists.mp htext⟩)

theorem read_of_text (h : env switch.variableName = some text.toUTF8) :
    switch.read env = switch.ofText text := by
  have hdecoded : String.fromUTF8? text.toUTF8 = some text := fromUTF8?_eq_some_iff.mpr rfl
  simp only [read, h, hdecoded]

theorem read_of_notUtf8 (h : NotUtf8 (env switch.variableName)) :
    switch.read env = .error (.notUnicode switch) := by
  obtain ⟨raw, hvalue, hraw⟩ := h
  have hdecoded : String.fromUTF8? raw = none := by
    rw [Option.eq_none_iff_forall_ne_some]
    intro text htext
    exact hraw text (fromUTF8?_eq_some_iff.mp htext)
  simp only [read, hvalue, hdecoded]

theorem not_says_of_notUtf8 (h : NotUtf8 value) : ¬Says fallback value setting := by
  obtain ⟨raw, rfl, hraw⟩ := h
  rintro (⟨hunset, -⟩ | ⟨text, word, htext, -⟩)
  · obtain hnone | hempty := hunset
    · cases hnone
    · exact hraw "" (Option.some.inj hempty)
  · exact hraw text (Option.some.inj htext)

theorem reports_of_notUtf8 (h : NotUtf8 value) :
    Reports switch value error ↔ error = .notUnicode switch := by
  constructor
  · rintro (⟨-, herror⟩ | ⟨text, word, rfl, -⟩)
    · exact herror
    · exact absurd h not_notUtf8_text
  · intro herror
    exact Or.inl ⟨h, herror⟩

theorem read_eq_ok_iff :
    switch.read env = .ok setting ↔
      Says switch.default (env switch.variableName) setting := by
  obtain hvalue | ⟨text, hvalue⟩ | hvalue := value_cases (env switch.variableName)
  · rw [read_of_unset hvalue, hvalue]
    simp [Says, IsUnset, IsWordFor, eq_comm]
  · rw [read_of_text hvalue, hvalue, ofText_eq_ok_iff]
  · rw [read_of_notUtf8 hvalue]
    simp [not_says_of_notUtf8 hvalue]

theorem read_eq_error_iff :
    switch.read env = .error error ↔
      ¬Acceptable (env switch.variableName) ∧
        Reports switch (env switch.variableName) error := by
  obtain hvalue | ⟨text, hvalue⟩ | hvalue := value_cases (env switch.variableName)
  · rw [read_of_unset hvalue, hvalue]
    simp [Acceptable, IsUnset]
  · rw [read_of_text hvalue, hvalue, ofText_eq_error_iff]
  · have hrefused : ¬Acceptable (env switch.variableName) := by
      rw [acceptable_iff switch.default]
      exact not_exists.mpr fun _ => not_says_of_notUtf8 hvalue
    rw [read_of_notUtf8 hvalue, reports_of_notUtf8 hvalue]
    simp [hrefused, eq_comm]

end Switch

/-! ## Policies -/

/-- A policy is loaded exactly if each variable gives its own switch. -/
theorem load_eq_ok_iff {env : Environment} {policy : Policy} :
    Policy.load env = .ok policy ↔
      ∀ switch : Switch, switch.read env = .ok (switch.get policy) := by
  rw [Policy.load_eq_ok_iff_config]
  constructor
  · intro h switch
    unfold Config.load at h
    cases hignore : Switch.read .ignoreCase env with
    | error error => rw [hignore] at h; cases h
    | ok ignoreCase =>
        cases hextra : Switch.read .additionalKeywords env with
        | error error => rw [hignore, hextra] at h; cases h
        | ok additionalKeywords =>
            rw [hignore, hextra] at h
            cases h
            cases switch with
            | ignoreCase => exact hignore
            | additionalKeywords => exact hextra
  · intro h
    rw [Config.load, h .ignoreCase, h .additionalKeywords]
    rfl

/-- The additional keywords are not looked at once the case switch is refused. -/
theorem load_eq_error_iff {env : Environment} {error : LoadError} :
    Policy.load env = .error error ↔
      Switch.read .ignoreCase env = .error error ∨
        (∃ setting, Switch.read .ignoreCase env = .ok setting) ∧
          Switch.read .additionalKeywords env = .error error := by
  rw [Policy.load_eq_error_iff_config]
  unfold Config.load
  cases Switch.read .ignoreCase env with
  | error first =>
      change Except.error first = Except.error error ↔ _
      simp
  | ok ignoreCase =>
      cases Switch.read .additionalKeywords env with
      | error second =>
          change Except.error second = Except.error error ↔ _
          simp
      | ok additionalKeywords =>
          change Except.ok _ = Except.error error ↔ _
          simp

end SqlLexicon
