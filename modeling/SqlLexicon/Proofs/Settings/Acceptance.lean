import Mathlib.Logic.Function.Basic
import SqlLexicon.Proofs.Settings.Variable
import SqlLexicon.Session
/-!
# Which environments give a policy, and which policy

* `read_congr` — a switch looks at no variable but its own;
* `ofText_respelled` — more white space around a word and another case of its letters leave the
  setting as it is;
* `load_accepts_words` — so a policy is loaded exactly if both variables are acceptable, and is
  then made of what each of them says.
-/

namespace SqlLexicon

open Text

namespace Switch

variable {switch : Switch} {env other : Environment} {setting : Bool}
  {text respelled front back : String}

theorem read_congr (h : env switch.variableName = other switch.variableName) :
    switch.read env = switch.read other := by
  rw [read, read, h]

theorem ofText_respelled (hne : text ≠ "") (hcase : respelled.toLower = text.toLower)
    (hfront : Blank front) (hback : Blank back) (h : switch.ofText text = .ok setting) :
    switch.ofText (front ++ respelled ++ back) = .ok setting := by
  rw [ofText_eq_ok_iff, Says, isUnset_text, isWordFor_text] at h
  have hword := ofWord?_eq_some_iff.mp (h.resolve_left fun hempty => hne hempty.1)
  have hlower : (trim (front ++ respelled ++ back)).toLower = (trim text).toLower := by
    rw [trim_append hfront hback, ← trim_toLower, hcase, trim_toLower]
  rw [ofText_eq_ok_iff, Says, isUnset_text, isWordFor_text, ofWord?_eq_some_iff, hlower]
  exact Or.inr hword

theorem eq_of_says_of_isUnset {value : Option ByteArray} {fallback : Bool} (hunset : IsUnset value)
    (h : Says fallback value setting) : setting = fallback := by
  obtain ⟨-, hfallback⟩ | hword := h
  · exact hfallback
  · obtain rfl | rfl := hunset
    · obtain ⟨text, word, hnone, -⟩ := hword
      cases hnone
    · rw [isWordFor_text, trim_empty, ofWord?_empty] at hword
      cases hword

/-- White space alone is a value, and no word. -/
theorem not_acceptable_of_blank (hne : text ≠ "") (hblank : Blank text) :
    ¬Acceptable (some text.toUTF8) := by
  rw [acceptable_text, trim_of_blank hblank, ofWord?_empty]
  rintro (hempty | ⟨setting, hword⟩)
  · exact hne hempty
  · cases hword

end Switch

open Switch

/-! ## Sessions -/

theorem Session.value_ofEnvironment (env : Environment) :
    (Session.ofEnvironment env).value = (Policy.load env).map fun policy => { policy } := by
  rw [← Journal.value_load]
  rfl

theorem Session.step_load_iff {session : Session} {env : Environment} {policy : Policy} :
    (session.step (.load env)).value = (.done, session.adopt policy) ↔
      Policy.load env = .ok policy := by
  simp only [step, Logged.value_bind, Journal.value_load]
  cases Policy.load env with
  | error error => simp
  | ok loaded => simp [adopt]

/-! ## Loading -/

variable {env : Environment} {policy : Policy}

theorem load_eq_ok_iff_says {ignoreCase additionalKeywords : Bool} :
    Policy.load env = .ok ⟨ignoreCase, additionalKeywords⟩ ↔
      Says true (env "SQLIDENT_IGNORE_CASE") ignoreCase ∧
        Says false (env "SQLIDENT_ADDITIONAL_KEYWORDS") additionalKeywords := by
  rw [load_eq_ok_iff]
  constructor
  · intro h
    exact ⟨read_eq_ok_iff.mp (h .ignoreCase), read_eq_ok_iff.mp (h .additionalKeywords)⟩
  · intro h switch
    cases switch with
    | ignoreCase => exact read_eq_ok_iff.mpr h.1
    | additionalKeywords => exact read_eq_ok_iff.mpr h.2

theorem exists_load_eq_ok_iff :
    (∃ policy, Policy.load env = .ok policy) ↔
      Acceptable (env "SQLIDENT_IGNORE_CASE") ∧
        Acceptable (env "SQLIDENT_ADDITIONAL_KEYWORDS") := by
  rw [acceptable_iff true, acceptable_iff false]
  constructor
  · rintro ⟨policy, h⟩
    obtain ⟨hignore, hextra⟩ := load_eq_ok_iff_says.mp h
    exact ⟨⟨_, hignore⟩, _, hextra⟩
  · rintro ⟨⟨ignoreCase, hignore⟩, additionalKeywords, hextra⟩
    exact ⟨_, load_eq_ok_iff_says.mpr ⟨hignore, hextra⟩⟩

theorem get_eq_of_load {other : Environment} {otherPolicy : Policy} {switch : Switch}
    (hsame : env switch.variableName = other switch.variableName)
    (h : Policy.load env = .ok policy) (hother : Policy.load other = .ok otherPolicy) :
    switch.get policy = switch.get otherPolicy := by
  have hread := load_eq_ok_iff.mp h switch
  rw [read_congr hsame, load_eq_ok_iff.mp hother switch] at hread
  exact (Except.ok.inj hread).symm

theorem load_update_respelled {switch : Switch} {text respelled front back : String}
    (hvalue : env switch.variableName = some text.toUTF8) (hne : text ≠ "")
    (hcase : respelled.toLower = text.toLower) (hfront : Blank front) (hback : Blank back)
    (h : Policy.load env = .ok policy) :
    Policy.load (Function.update env switch.variableName
      (some (front ++ respelled ++ back).toUTF8)) = .ok policy := by
  rw [load_eq_ok_iff] at h ⊢
  intro next
  by_cases hnext : next = switch
  · subst hnext
    have hread := h next
    rw [read_of_text hvalue] at hread
    rw [read_of_text (Function.update_self _ _ _)]
    exact ofText_respelled hne hcase hfront hback hread
  · have hname : next.variableName ≠ switch.variableName := mt variableName_inj.mp hnext
    rw [read_congr (Function.update_of_ne hname _ _)]
    exact h next

theorem load_ne_ok_of_blank {switch : Switch} {text : String}
    (hvalue : env switch.variableName = some text.toUTF8) (hne : text ≠ "")
    (hblank : Blank text) : Policy.load env ≠ .ok policy := by
  intro h
  have hsays := read_eq_ok_iff.mp (load_eq_ok_iff.mp h switch)
  have hacceptable := (acceptable_iff switch.default).mpr ⟨_, hsays⟩
  rw [hvalue] at hacceptable
  exact not_acceptable_of_blank hne hblank hacceptable

/-- **An environment gives a policy exactly if both variables are acceptable, and each switch is
what its own variable says.** A variable that is unset or empty says what the switch is without
it: case is ignored, and additional keywords do not count. What it says is the same with more
white space around the word and with the letters of the word in another case, while white space
alone is refused. The configuration that is loaded by itself, a session that is opened on the
environment and one that loads it have the same switches, and have them for the same
environments. -/
theorem load_accepts_words (env : Environment) :
    ((∃ policy, Policy.load env = .ok policy) ↔
      Acceptable (env "SQLIDENT_IGNORE_CASE") ∧
        Acceptable (env "SQLIDENT_ADDITIONAL_KEYWORDS")) ∧
    (∀ ignoreCase additionalKeywords,
      Policy.load env = .ok ⟨ignoreCase, additionalKeywords⟩ ↔
        Says true (env "SQLIDENT_IGNORE_CASE") ignoreCase ∧
          Says false (env "SQLIDENT_ADDITIONAL_KEYWORDS") additionalKeywords) ∧
    (∀ ignoreCase additionalKeywords,
      Config.load env = .ok ⟨ignoreCase, additionalKeywords⟩ ↔
        Policy.load env = .ok ⟨ignoreCase, additionalKeywords⟩) ∧
    (∀ (switch : Switch) (other : Environment) (policy otherPolicy : Policy),
      env switch.variableName = other switch.variableName →
      Policy.load env = .ok policy → Policy.load other = .ok otherPolicy →
        switch.get policy = switch.get otherPolicy) ∧
    (∀ policy : Policy, Policy.load env = .ok policy →
      (IsUnset (env "SQLIDENT_IGNORE_CASE") → policy.ignoreCase = true) ∧
      (IsUnset (env "SQLIDENT_ADDITIONAL_KEYWORDS") → policy.additionalKeywords = false)) ∧
    (∀ (switch : Switch) (policy : Policy) (text respelled front back : String),
      env switch.variableName = some text.toUTF8 → text ≠ "" →
      respelled.toLower = text.toLower → Blank front → Blank back →
      Policy.load env = .ok policy →
        Policy.load (Function.update env switch.variableName
          (some (front ++ respelled ++ back).toUTF8)) = .ok policy) ∧
    (∀ (switch : Switch) (text : String), env switch.variableName = some text.toUTF8 →
      text ≠ "" → Blank text → ∃ error, Policy.load env = .error error) ∧
    (Session.ofEnvironment env).value = (Policy.load env).map (fun policy => { policy }) ∧
    ∀ (session : Session) (policy : Policy),
      (session.step (.load env)).value = (.done, session.adopt policy) ↔
        Policy.load env = .ok policy := by
  refine ⟨exists_load_eq_ok_iff, fun _ _ => load_eq_ok_iff_says,
    fun _ _ => (Policy.load_eq_ok_iff_config ⟨_, _⟩).symm, ?_, ?_, ?_, ?_,
    Session.value_ofEnvironment env, fun _ _ => Session.step_load_iff⟩
  · intro switch other policy otherPolicy hsame h hother
    exact get_eq_of_load hsame h hother
  · intro policy h
    obtain ⟨hignore, hextra⟩ := load_eq_ok_iff_says.mp h
    exact ⟨fun hunset => eq_of_says_of_isUnset hunset hignore,
      fun hunset => eq_of_says_of_isUnset hunset hextra⟩
  · intro switch policy text respelled front back hvalue hne hcase hfront hback h
    exact load_update_respelled hvalue hne hcase hfront hback h
  · intro switch text hvalue hne hblank
    cases hload : Policy.load env with
    | error error => exact ⟨error, rfl⟩
    | ok policy => exact absurd hload (load_ne_ok_of_blank hvalue hne hblank)

/-- The theorem where one variable holds a word that is not in lower case, and the other one is
unset. -/
theorem load_accepts_words_no :
    let env : Environment := fun name =>
      if name = "SQLIDENT_IGNORE_CASE" then some "No".toUTF8 else none
    let respelled := Function.update env Switch.ignoreCase.variableName
      (some (" " ++ "nO" ++ "\u2003").toUTF8)
    let blank := Function.update env Switch.additionalKeywords.variableName (some " ".toUTF8)
    let cleared : Environment := fun _ => none
    Policy.load env = .ok ⟨false, false⟩ ∧ Policy.load respelled = .ok ⟨false, false⟩ ∧
      (∃ error, Policy.load blank = .error error) ∧
      IsUnset (env "SQLIDENT_ADDITIONAL_KEYWORDS") ∧ Policy.load cleared = .ok ⟨true, false⟩ ∧
      Switch.additionalKeywords.get ⟨false, false⟩ =
        Switch.additionalKeywords.get ⟨true, false⟩ := by
  intro env respelled blank cleared
  obtain ⟨-, hpolicy, -, hsame, -, hrespelled, -⟩ := load_accepts_words env
  have hlower : "No".toLower = "no" := by
    rw [← String.toList_inj, toList_toLower]
    decide
  have hcase : "nO".toLower = "No".toLower := by
    rw [← String.toList_inj, toList_toLower, toList_toLower]
    decide
  have hword : IsWordFor false (some "No".toUTF8) := by
    refine ⟨"No", "No", rfl, trim_eq_iff.mp (by decide), ?_⟩
    rw [hlower]
    decide
  have hnone : IsUnset none := Or.inl rfl
  have hload : Policy.load env = .ok ⟨false, false⟩ :=
    (hpolicy false false).mpr ⟨Or.inr hword, Or.inl ⟨hnone, rfl⟩⟩
  have hcleared : Policy.load cleared = .ok ⟨true, false⟩ :=
    ((load_accepts_words cleared).2.1 true false).mpr
      ⟨Or.inl ⟨hnone, rfl⟩, Or.inl ⟨hnone, rfl⟩⟩
  refine ⟨hload, ?_, ?_, hnone, hcleared, ?_⟩
  · exact hrespelled .ignoreCase _ "No" "nO" " " "\u2003" rfl (by decide) hcase (by decide)
      (by decide) hload
  · obtain ⟨-, -, -, -, -, -, hrefused, -⟩ := load_accepts_words blank
    exact hrefused .additionalKeywords " " (Function.update_self _ _ _) (by decide) (by decide)
  · exact hsame .additionalKeywords cleared _ _ rfl hload hcleared

end SqlLexicon
