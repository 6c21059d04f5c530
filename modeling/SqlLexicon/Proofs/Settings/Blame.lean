import SqlLexicon.Proofs.Settings.Variable
import SqlLexicon.Session
/-!
# The first bad variable is blamed

A load that fails names one switch, its variable and what is wrong with the value.

* `blames_iff` — what a report says, word for word;
* `load_eq_error_iff_reports` — a switch is reported for a value that is not acceptable, the
  additional keywords only where the case switch is not;
* `load_blames_first` — and the failure leaves neither an event nor half a policy.
-/

namespace SqlLexicon

open Text Switch

/-- The error is about the field and its variable, and says of the value that it is not UTF-8, or
quotes it without the white space at its ends. -/
def Blames (field name : String) (value : Option ByteArray) (error : LoadError) : Prop :=
  error.switch.field = field ∧ error.switch.variableName = name ∧
  (NotUtf8 value ∧ error = .notUnicode error.switch ∧
      error.message = "Configuration error: failed to load value `Config::" ++ field ++
        "` from environment variable `" ++ name ++ "`: value is not valid unicode" ∨
    ∃ text word, value = some text.toUTF8 ∧ TrimsTo text word ∧
      error = .notBool error.switch word ∧
      error.message = "Configuration error: failed to deserialize value `Config::" ++ field ++
        "` from environment variable `" ++ name ++ "`: invalid value for bool: '" ++ word ++ "'")

variable {env : Environment} {switch : Switch} {value : Option ByteArray} {error : LoadError}

theorem message_notUnicode (switch : Switch) :
    (LoadError.notUnicode switch).message =
      "Configuration error: failed to load value `Config::" ++ switch.field ++
        "` from environment variable `" ++ switch.variableName ++
        "`: value is not valid unicode" :=
  String.append_assoc

theorem message_notBool (switch : Switch) (word : String) :
    (LoadError.notBool switch word).message =
      "Configuration error: failed to deserialize value `Config::" ++ switch.field ++
        "` from environment variable `" ++ switch.variableName ++
        "`: invalid value for bool: '" ++ word ++ "'" := by
  have hreason (front : String) :
      front ++ "`: " ++ ("invalid value for bool: '" ++ word ++ "'") =
        front ++ "`: invalid value for bool: '" ++ word ++ "'" := by
    have hlabel : "`: invalid value for bool: '" = "`: " ++ "invalid value for bool: '" := by
      decide
    simp only [hlabel, String.append_assoc]
  exact hreason _

theorem blames_iff :
    Blames switch.field switch.variableName value error ↔ Reports switch value error := by
  constructor
  · rintro ⟨-, hname, hform⟩
    have hswitch : error.switch = switch := variableName_inj.mp hname
    rw [hswitch] at hform
    obtain ⟨hvalue, herror, -⟩ | ⟨text, word, hvalue, htrim, herror, -⟩ := hform
    · exact Or.inl ⟨hvalue, herror⟩
    · exact Or.inr ⟨text, word, hvalue, htrim, herror⟩
  · rintro (⟨hvalue, rfl⟩ | ⟨text, word, hvalue, htrim, rfl⟩)
    · exact ⟨rfl, rfl, Or.inl ⟨hvalue, rfl, message_notUnicode switch⟩⟩
    · exact ⟨rfl, rfl, Or.inr ⟨text, word, hvalue, htrim, rfl, message_notBool switch word⟩⟩

theorem notUnicode_iff_of_reports (h : Reports switch value error) :
    error = .notUnicode error.switch ↔ NotUtf8 value := by
  obtain ⟨hvalue, rfl⟩ | ⟨text, word, rfl, -, rfl⟩ := h
  · exact iff_of_true rfl hvalue
  · exact iff_of_false (fun herror => by cases herror) not_notUtf8_text

theorem switch_of_reports (h : Reports switch value error) : error.switch = switch := by
  obtain ⟨-, rfl⟩ | ⟨-, -, -, -, rfl⟩ := h <;> rfl

/-! ## The variable that is blamed -/

theorem load_eq_error_iff_reports :
    Policy.load env = .error error ↔
      ¬Acceptable (env "SQLIDENT_IGNORE_CASE") ∧
          Reports .ignoreCase (env "SQLIDENT_IGNORE_CASE") error ∨
        Acceptable (env "SQLIDENT_IGNORE_CASE") ∧
          ¬Acceptable (env "SQLIDENT_ADDITIONAL_KEYWORDS") ∧
          Reports .additionalKeywords (env "SQLIDENT_ADDITIONAL_KEYWORDS") error := by
  simp only [load_eq_error_iff, read_eq_error_iff, read_eq_ok_iff, ← acceptable_iff,
    variableName]

/-- Whatever is reported is about the value of the switch that is named. -/
theorem reports_of_load_eq_error (h : Policy.load env = .error error) :
    Reports error.switch (env error.switch.variableName) error := by
  obtain ⟨-, hreport⟩ | ⟨-, -, hreport⟩ := load_eq_error_iff_reports.mp h
  · rw [switch_of_reports hreport]
    exact hreport
  · rw [switch_of_reports hreport]
    exact hreport

/-- **A load that fails blames the first bad variable and leaves no trace.** The error is about the
case switch if the value of its variable is not acceptable, whatever the other variable holds, and
about the additional keywords only where the case switch is acceptable. It says that the value is
not UTF-8 exactly if that is so, and otherwise quotes the value without the white space at its
ends. No event is reported, whether a configuration or a policy is asked for; both fail with the
same error, as does a session opened on the environment; and a session that loads it stays as it
is. -/
theorem load_blames_first (env : Environment) (error : LoadError) :
    (Policy.load env = .error error ↔
      ¬Acceptable (env "SQLIDENT_IGNORE_CASE") ∧
          Blames "ignore_case" "SQLIDENT_IGNORE_CASE" (env "SQLIDENT_IGNORE_CASE") error ∨
        Acceptable (env "SQLIDENT_IGNORE_CASE") ∧
          ¬Acceptable (env "SQLIDENT_ADDITIONAL_KEYWORDS") ∧
          Blames "additional_keywords" "SQLIDENT_ADDITIONAL_KEYWORDS"
            (env "SQLIDENT_ADDITIONAL_KEYWORDS") error) ∧
    (Config.load env = .error error ↔ Policy.load env = .error error) ∧
    (Policy.load env = .error error →
      (error = .notUnicode error.switch ↔ NotUtf8 (env error.switch.variableName)) ∧
      Journal.loadConfig env = ⟨.error error, []⟩ ∧
      Journal.load env = ⟨.error error, []⟩ ∧
      Session.ofEnvironment env = ⟨.error error, []⟩ ∧
      ∀ session : Session, session.step (.load env) = ⟨(.failed error, session), []⟩) := by
  refine ⟨?_, Policy.load_eq_error_iff_config.symm, ?_⟩
  · rw [load_eq_error_iff_reports, ← blames_iff, ← blames_iff]
    rfl
  · intro h
    exact ⟨notUnicode_iff_of_reports (reports_of_load_eq_error h),
      Journal.loadConfig_of_error (Policy.load_eq_error_iff_config.mp h), Journal.load_of_error h,
      Session.ofEnvironment_of_error h, Session.step_load_of_error h⟩

/-- The theorem where both variables are bad, the second one in its encoding. -/
theorem load_blames_first_maybe :
    let env : Environment := fun name =>
      if name = "SQLIDENT_IGNORE_CASE" then some " Maybe\u2003".toUTF8 else some ⟨#[0xFF]⟩
    let error := LoadError.notBool .ignoreCase "Maybe"
    NotUtf8 (env "SQLIDENT_ADDITIONAL_KEYWORDS") ∧ Policy.load env = .error error ∧
      (error = .notUnicode .ignoreCase ↔ NotUtf8 (some " Maybe\u2003".toUTF8)) ∧
      Journal.load env = ⟨.error error, []⟩ ∧
      Session.ofEnvironment env = ⟨.error error, []⟩ ∧
      Session.step {} (.load env) = ⟨(.failed error, {}), []⟩ := by
  intro env error
  obtain ⟨hblamed, -, htrace⟩ := load_blames_first env error
  have hvalue : env "SQLIDENT_IGNORE_CASE" = some " Maybe\u2003".toUTF8 := rfl
  have htrim : trim " Maybe\u2003" = "Maybe" := by decide
  have hword : ofWord? "Maybe" = none := by decide
  have hrefused : ¬Acceptable (env "SQLIDENT_IGNORE_CASE") := by
    rw [hvalue, acceptable_text, htrim, hword]
    simp
  have hreport : Reports .ignoreCase (env "SQLIDENT_IGNORE_CASE") error := by
    rw [hvalue, reports_text, htrim]
  have hload : Policy.load env = .error error :=
    hblamed.mpr (Or.inl ⟨hrefused, blames_iff.mpr hreport⟩)
  have hbytes : NotUtf8 (some ⟨#[0xFF]⟩) := by
    refine ⟨_, rfl, fun text htext => ?_⟩
    have hnone : String.fromUTF8? ⟨#[0xFF]⟩ = none := by decide
    rw [fromUTF8?_eq_some_iff.mpr htext] at hnone
    cases hnone
  obtain ⟨hform, -, hjournal, hopened, hstep⟩ := htrace hload
  exact ⟨hbytes, hload, hform, hjournal, hopened, hstep {}⟩

end SqlLexicon
