import Registrar.Chat.Message

/-!
Which texts are commands, and of which name.

A text `Calls` a name if it is a slash, the name, and what may follow a name: nothing, or something
that begins with an at sign or with white space. The name itself holds neither. What stands behind the
first such character does not matter, so that an address and an argument may follow in any form.

* `command_eq_some_iff`: a message is the command of a name exactly if its text calls the name.
* `Calls.unique`: no text calls two names.
* `command_grammar`: the grammar as a whole, with and without an address.
-/

namespace Registrar

/-- A text can be the name of a command: there is something of it, and neither an at sign nor white
space is in it. -/
def IsCommandName (name : String) : Prop :=
  name ≠ "" ∧ ∀ c ∈ name.toList, c ≠ '@' ∧ Text.isWhiteSpace c = false

/-- A text can follow the name of a command: it is empty, or begins with an at sign or with white
space. -/
def FollowsName (rest : String) : Prop :=
  rest = "" ∨ ∃ c cs, rest.toList = c :: cs ∧ (c = '@' ∨ Text.isWhiteSpace c = true)

/-- The text is a slash, the name, and what can follow one. -/
def Calls (text name : String) : Prop :=
  IsCommandName name ∧ ∃ rest, text = "/" ++ name ++ rest ∧ FollowsName rest

theorem endsCommandName_eq_true_iff {c : Char} :
    endsCommandName c = true ↔ c = '@' ∨ Text.isWhiteSpace c = true := by
  simp [endsCommandName, or_comm]

theorem endsCommandName_eq_false_iff {c : Char} :
    endsCommandName c = false ↔ c ≠ '@' ∧ Text.isWhiteSpace c = false := by
  simp [endsCommandName, and_comm]

theorem followsName_iff {rest : String} :
    FollowsName rest ↔ ∀ c, rest.toList.head? = some c → endsCommandName c = true := by
  simp only [FollowsName, endsCommandName_eq_true_iff]
  constructor
  · rintro (rfl | ⟨c, cs, chars, ends⟩) c' first
    · cases first
    · rw [chars] at first
      cases first
      exact ends
  · intro ends
    cases chars : rest.toList with
    | nil => exact .inl (String.toList_eq_nil_iff.mp chars)
    | cons c cs => exact .inr ⟨c, cs, rfl, ends c (by rw [chars]; rfl)⟩

/-- A message is the command of a name exactly if its text calls the name. -/
theorem command_eq_some_iff {message : Message} {name : String} :
    message.command = some name ↔ Calls message.content name := by
  simp only [Message.command, Option.map_eq_some_iff, commandName_eq_some_iff, Calls, IsCommandName,
    followsName_iff, ← endsCommandName_eq_false_iff]
  constructor
  · rintro ⟨chars, ⟨nonempty, inside, rest, text, behind⟩, rfl⟩
    refine ⟨⟨?_, ?_⟩, String.ofList rest, ?_, ?_⟩
    · intro none
      exact nonempty (by simpa using congrArg String.toList none)
    · simpa using inside
    · rw [← String.toList_inj, text]
      simp
    · simpa using behind
  · rintro ⟨⟨nonempty, inside⟩, rest, text, behind⟩
    refine ⟨name.toList, ⟨?_, inside, rest.toList, ?_, behind⟩, String.ofList_toList⟩
    · intro none
      exact nonempty (String.toList_eq_nil_iff.mp none)
    · rw [text]
      simp

/-- No text calls two names. -/
theorem Calls.unique {text name name' : String} (calls : Calls text name)
    (calls' : Calls text name') : name = name' := by
  let message : Message := ⟨"", ⟨0, none, none, none⟩, ⟨0, ""⟩, text, .epoch⟩
  have one : message.command = some name := command_eq_some_iff.mpr calls
  have other : message.command = some name' := command_eq_some_iff.mpr calls'
  exact Option.some.inj (one.symm.trans other)

theorem isCommand_iff {message : Message} :
    message.isCommand = true ↔ ∃ name, Calls message.content name := by
  rw [Message.isCommand, Option.isSome_iff_exists]
  simp only [command_eq_some_iff]

theorem command_eq_none_iff {message : Message} :
    message.command = none ↔ ∀ name, ¬ Calls message.content name := by
  rw [← Option.not_isSome_iff_eq_none, ← Message.isCommand, isCommand_iff, not_exists]

/-- What begins with an at sign or with white space can follow a name. -/
theorem FollowsName.of_cons {c : Char} (ends : c = '@' ∨ Text.isWhiteSpace c = true)
    (rest : String) : FollowsName (String.singleton c ++ rest) :=
  .inr ⟨c, rest.toList, by simp, ends⟩

/-- A message is the command of a name exactly if its text is a slash, the name, and then nothing or
something that begins with an at sign or with white space; the name is not empty and holds neither. If
the text is of this form for no name, the message is no command. It is of this form for at most one.
An address behind the name, and whatever stands behind white space, change nothing. -/
theorem command_grammar (message : Message) :
    (∀ name, message.command = some name ↔ Calls message.content name) ∧
    (message.command = none ↔ ∀ name, ¬ Calls message.content name) ∧
    (message.isCommand = true ↔ ∃ name, Calls message.content name) ∧
    (∀ name name', Calls message.content name → Calls message.content name' → name = name') ∧
    ∀ name, IsCommandName name → ∀ (address arguments : String) (blank : Char),
      Text.isWhiteSpace blank = true →
        let saying (text : String) : Message := { message with content := text }
        (saying ("/" ++ name ++ "@" ++ address ++ String.singleton blank ++ arguments)).command =
            some name ∧
          (saying ("/" ++ name ++ "@" ++ address)).command = some name ∧
          (saying ("/" ++ name ++ String.singleton blank ++ arguments)).command = some name ∧
          (saying ("/" ++ name)).command = some name := by
  refine ⟨fun name => command_eq_some_iff, command_eq_none_iff, isCommand_iff,
    fun name name' => Calls.unique, ?_⟩
  intro name isName address arguments blank white saying
  have followed (text rest : String) (same : text = "/" ++ name ++ rest) (follows : FollowsName rest) :
      (saying text).command = some name := command_eq_some_iff.mpr ⟨isName, rest, same, follows⟩
  have addressed (rest : String) : FollowsName ("@" ++ rest) := .of_cons (.inl rfl) rest
  refine ⟨?_, ?_, ?_, ?_⟩
  · apply followed _ ("@" ++ (address ++ String.singleton blank ++ arguments))
    · simp only [String.append_assoc]
    · exact addressed _
  · apply followed _ ("@" ++ address)
    · simp only [String.append_assoc]
    · exact addressed _
  · apply followed _ (String.singleton blank ++ arguments)
    · simp only [String.append_assoc]
    · exact .of_cons (.inr white) arguments
  · apply followed _ ""
    · rw [String.append_empty]
    · exact .inl rfl

/-- An at sign behind white space belongs to the argument; an address or a blank in place of the name
makes no command. -/
example : commandName "/start now@noon".toList = some "start".toList ∧
    commandName "/@quizbot".toList = none ∧ commandName "/ start".toList = none := by
  decide

end Registrar
