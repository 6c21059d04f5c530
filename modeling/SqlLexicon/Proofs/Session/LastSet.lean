import Mathlib.Data.List.Induction
import SqlLexicon.Proofs.Settings.Variable
import SqlLexicon.Session
/-!
# The last command to set a switch wins

A session is told its policy switch by switch, by commands of several kinds, and some of them fail.

* `get_step` — what one command does to one switch, and that it does nothing else to the policy;
* `lastSet_iff` — over a run, a switch is as the last command that set it left it;
* `getElem?_run` — what a run says at each command is what the session reached there says;
* `run_lastSet` — so every question is answered by the two settings that were given last.
-/

namespace SqlLexicon

/-! ## One command -/

namespace Command

/-- The setting that a command gives to a switch, if it gives one, where `saved` is the copy that
is at hand. -/
def setting? (saved : Policy) (switch : Switch) : Command → Option Bool
  | .reset => some switch.default
  | .choose ignoreCase additionalKeywords => some (switch.get { ignoreCase, additionalKeywords })
  | .configure ⟨ignoreCase, additionalKeywords⟩ =>
    some (switch.get { ignoreCase, additionalKeywords })
  | .load env =>
    match Policy.load env with
    | .ok _ => (switch.read env).toOption
    | .error _ => none
  | .setIgnoreCase value => if switch = .ignoreCase then some value else none
  | .setAdditionalKeywords value => if switch = .additionalKeywords then some value else none
  | .restore => some (switch.get saved)
  | .ask _ | .save | .compareSaved => none

/-- The command gives no setting to the switch. -/
def Leaves (switch : Switch) (command : Command) : Prop :=
  ∀ saved, command.setting? saved switch = none

theorem leaves_of_setting?_eq_none {command : Command} {saved : Policy} {switch : Switch}
    (h : command.setting? saved switch = none) : command.Leaves switch := by
  intro other
  cases command with
  | restore => cases h
  | _ => exact h

end Command

namespace Session

variable {session start : Session} {command : Command} {commands before later : List Command}
  {switch : Switch} {value : Bool}

theorem get_step (session : Session) (command : Command) (switch : Switch) :
    switch.get (session.step command).value.2.policy =
      (command.setting? session.saved switch).getD (switch.get session.policy) := by
  cases command with
  | load env =>
      simp only [step, Command.setting?, Logged.value_bind, Journal.value_load]
      cases hload : Policy.load env with
      | ok policy =>
          rw [load_eq_ok_iff.mp hload switch]
          rfl
      | error error => rfl
  | setIgnoreCase value => cases switch <;> rfl
  | setAdditionalKeywords value => cases switch <;> rfl
  | _ => rfl

theorem saved_step (h : command ≠ .save) :
    (session.step command).value.2.saved = session.saved := by
  cases command with
  | save => contradiction
  | load env =>
      simp only [step, Logged.value_bind, Journal.value_load]
      cases Policy.load env <;> rfl
  | _ => rfl

/-! ## Runs -/

theorem after_append (session : Session) (commands later : List Command) :
    session.after (commands ++ later) = (session.after commands).after later :=
  List.foldl_append

theorem after_cons (session : Session) (command : Command) (commands : List Command) :
    session.after (command :: commands) = (session.step command).value.2.after commands := rfl

theorem get_after_of_leaves (h : ∀ command ∈ commands, command.Leaves switch) :
    switch.get (session.after commands).policy = switch.get session.policy := by
  induction commands generalizing session with
  | nil => rfl
  | cons command commands ih =>
      obtain ⟨hcommand, hrest⟩ := List.forall_mem_cons.mp h
      rw [after_cons, ih hrest, get_step, hcommand, Option.getD_none]

theorem saved_after (h : .save ∉ commands) :
    (session.after commands).saved = session.saved := by
  induction commands generalizing session with
  | nil => rfl
  | cons command commands ih =>
      obtain ⟨hcommand, hrest⟩ := not_or.mp (mt List.mem_cons.mpr h)
      rw [after_cons, ih hrest, saved_step (Ne.symm hcommand)]

/-- The last command of a run to set the switch gave it the value; or no command set it, and it
had the value before the run. -/
def LastSet (start : Session) (switch : Switch) (commands : List Command) (value : Bool) : Prop :=
  (∃ before command later, commands = before ++ command :: later ∧
    command.setting? (start.after before).saved switch = some value ∧
    ∀ next ∈ later, next.Leaves switch) ∨
  ((∀ command ∈ commands, command.Leaves switch) ∧ switch.get start.policy = value)

theorem get_after_of_lastSet (h : LastSet start switch commands value) :
    switch.get (start.after commands).policy = value := by
  obtain ⟨before, command, later, rfl, hset, hlater⟩ | ⟨hleaves, hstart⟩ := h
  · rw [after_append, after_cons, get_after_of_leaves hlater, get_step, hset, Option.getD_some]
  · rw [get_after_of_leaves hleaves, hstart]

-- A run is taken apart at its end, as it is the newest command that matters.
theorem exists_lastSet (start : Session) (switch : Switch) (commands : List Command) :
    ∃ value, LastSet start switch commands value := by
  induction commands using List.reverseRecOn with
  | nil => exact ⟨_, Or.inr ⟨by simp, rfl⟩⟩
  | append_singleton commands command ih =>
      cases hset : command.setting? (start.after commands).saved switch with
      | some value => exact ⟨value, Or.inl ⟨commands, command, [], rfl, hset, by simp⟩⟩
      | none =>
          have hleaves := Command.leaves_of_setting?_eq_none hset
          obtain ⟨value, ⟨before, writer, later, rfl, hwriter, hlater⟩ | ⟨hnone, hstart⟩⟩ := ih
          · refine ⟨value, Or.inl ⟨before, writer, later ++ [command], by simp, hwriter, ?_⟩⟩
            exact List.forall_mem_append.mpr ⟨hlater, List.forall_mem_singleton.mpr hleaves⟩
          · refine ⟨value, Or.inr ⟨?_, hstart⟩⟩
            exact List.forall_mem_append.mpr ⟨hnone, List.forall_mem_singleton.mpr hleaves⟩

theorem lastSet_iff :
    LastSet start switch commands value ↔ switch.get (start.after commands).policy = value := by
  constructor
  · exact get_after_of_lastSet
  · intro h
    obtain ⟨last, hlast⟩ := exists_lastSet start switch commands
    rw [← h, get_after_of_lastSet hlast]
    exact hlast

/-! ## Questions -/

theorem run_cons (session : Session) (command : Command) (commands : List Command) :
    (session.run (command :: commands)).value =
      (session.step command).value :: ((session.step command).value.2.run commands).value := rfl

/-- What a run says at a command is what the session that was reached says to it. -/
theorem getElem?_run (session : Session) (commands : List Command) (i : Nat) :
    (session.run commands).value[i]? =
      commands[i]?.map fun command => ((session.after (commands.take i)).step command).value := by
  induction commands generalizing session i with
  | nil => rfl
  | cons command commands ih =>
      rw [run_cons]
      cases i with
      | zero => rfl
      | succ i =>
          rw [List.getElem?_cons_succ, ih, List.getElem?_cons_succ, List.take_succ_cons, after_cons]

theorem step_ask (session : Session) (query : Query) :
    (session.step (.ask query)).value = (.answer (session.policy.reply query), session) := by
  rw [← Policy.value_answer]
  rfl

/-- A question in the middle of a run is answered by the policy that was reached there. -/
theorem getElem?_run_ask (start : Session) (commands : List Command) (query : Query)
    (later : List Command) :
    (start.run (commands ++ .ask query :: later)).value[commands.length]? =
      some (.answer ((start.after commands).policy.reply query), start.after commands) := by
  rw [getElem?_run, List.take_left, List.getElem?_append_right (Nat.le_refl _), Nat.sub_self,
    List.getElem?_cons_zero, Option.map_some, step_ask]

/-- **The last write wins, switch by switch, and nothing else counts.** Whatever a run that starts
with the default policy consists of, each switch is as the last command that set it left it, and
at its default if there is none. A command that sets one switch leaves the other, questions and
failed loads leave both, and a saved copy keeps the policy whatever comes after it. A question in
the middle of a run is answered by the policy of the two settings that were given last. -/
theorem run_lastSet (commands : List Command) :
    let reached := Session.after {} commands
    (∀ switch value, LastSet {} switch commands value ↔ switch.get reached.policy = value) ∧
    ((∀ command ∈ commands, command.Leaves .ignoreCase) → reached.policy.ignoreCase = true) ∧
    ((∀ command ∈ commands, command.Leaves .additionalKeywords) →
      reached.policy.additionalKeywords = false) ∧
    (∀ value, (reached.step (.setIgnoreCase value)).value.2.policy =
      ⟨value, reached.policy.additionalKeywords⟩) ∧
    (∀ value, (reached.step (.setAdditionalKeywords value)).value.2.policy =
      ⟨reached.policy.ignoreCase, value⟩) ∧
    (∀ query, (reached.step (.ask query)).value.2 = reached) ∧
    (∀ env error, Policy.load env = .error error →
      (reached.step (.load env)).value = (.failed error, reached)) ∧
    (∀ later, .save ∉ later →
      (Session.after {} (commands ++ .save :: later)).saved = reached.policy) ∧
    ∀ query later ignoreCase additionalKeywords,
      LastSet {} .ignoreCase commands ignoreCase →
      LastSet {} .additionalKeywords commands additionalKeywords →
        (Session.run {} (commands ++ .ask query :: later)).value[commands.length]? =
          some (.answer (Policy.reply ⟨ignoreCase, additionalKeywords⟩ query), reached) := by
  intro reached
  refine ⟨fun switch value => lastSet_iff, ?_, ?_, fun _ => rfl, fun _ => rfl, fun _ => rfl,
    ?_, ?_, ?_⟩
  · intro h
    exact lastSet_iff.mp (Or.inr ⟨h, rfl⟩ : LastSet {} .ignoreCase commands true)
  · intro h
    exact lastSet_iff.mp (Or.inr ⟨h, rfl⟩ : LastSet {} .additionalKeywords commands false)
  · intro env error h
    rw [step_load_of_error h, Logged.value_pure]
  · intro later h
    rw [after_append, after_cons, saved_after h]
    rfl
  · intro query later ignoreCase additionalKeywords hignore hextra
    have hpolicy : reached.policy = ⟨ignoreCase, additionalKeywords⟩ := by
      rw [← lastSet_iff.mp hignore, ← lastSet_iff.mp hextra]
      rfl
    rw [getElem?_run_ask, ← hpolicy]

/-- The theorem at a run that ends with the two switches set by different commands, with a load
in between that sets both. -/
theorem run_lastSet_today :
    let commands : List Command :=
      [.choose false false, .load fun _ => none, .setAdditionalKeywords true]
    LastSet {} .ignoreCase commands true ∧ LastSet {} .additionalKeywords commands true ∧
      .save ∉ [Command.reset] ∧
      (Session.after {} (commands ++ [.save, .reset])).saved = ⟨true, true⟩ ∧
      (Session.run {} (commands ++ [.ask (.token "today"), .reset])).value[3]? =
        some (.answer (.token .additional), Session.after {} commands) := by
  intro commands
  obtain ⟨hlast, -, -, -, -, -, -, hsaved, hanswer⟩ := run_lastSet commands
  have hignore : LastSet {} .ignoreCase commands true := (hlast _ _).mpr rfl
  have hextra : LastSet {} .additionalKeywords commands true := (hlast _ _).mpr rfl
  have hsave : .save ∉ [Command.reset] := by simp
  refine ⟨hignore, hextra, hsave, hsaved [.reset] hsave, ?_⟩
  exact hanswer (.token "today") [.reset] true true hignore hextra

end Session

end SqlLexicon
