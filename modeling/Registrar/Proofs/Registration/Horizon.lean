import Registrar.Proofs.Config.Validity
import Registrar.Proofs.Registration.Reachability

/-!
The last moment there is, and codes that would expire after it.

The validity of a code is added to the moment at which it is issued, and that is not done before the
login and the code are stored. Nothing is said about a long validity when the settings are looked
at; so a login can still come to grief once it is stored.

* `Instant.addSeconds?_eq_none_iff`: the moments that cannot be represented.
* `seconds_le_of_yearOf`: what the clock shows before the year 3000.
* `login_at_horizon`: what becomes of a login, for every policy.
-/

namespace Registrar

/-- A moment cannot be represented if it lies after the last one. -/
theorem Instant.addSeconds?_eq_none_iff {t : Instant} {n : Nat} :
    t.addSeconds? n = none ↔ Instant.last < t.seconds + n := by
  have range := t.inRange
  by_cases zero : n = 0
  · rw [addSeconds?, if_pos zero]
    constructor
    · intro gone
      cases gone
    · intro late
      omega
  · have proper :
        (if t.nanos < 1000000000 then t.nanos else t.nanos - 1000000000) < 1000000000 := by
      have small := t.nanos_lt
      split <;> omega
    rw [addSeconds?, if_neg zero, ofParts?, dite_eq_right_iff]
    constructor
    · intro outside
      by_contra within
      cases outside ⟨⟨by omega, by omega⟩, .inl proper⟩
    · intro late within
      omega

namespace Registration

def lastBefore3000 : Int := (Calendar.Date.mk 2999 12 31).toDays * 86400 + 86399

/-- The longest validity with which a code that is issued before the year 3000 expires at a moment
that there is. -/
def safeValidity : Nat := (Instant.last - lastBefore3000).toNat

theorem seconds_le_of_yearOf {t : Instant} (before : yearOf t < 3000) :
    t.seconds ≤ lastBefore3000 := by
  have last : lastBefore3000 = 376199 * 86400 + 86399 := by decide
  have newYear : (Calendar.Date.mk 3000 1 1).toDays = 376200 := by decide
  have days := Calendar.Date.toDays_ofDays (t.seconds / 86400)
  have within := (Calendar.Date.toDays_bounds (Calendar.Date.isValid_ofDays (t.seconds / 86400))).2
  have ends := Calendar.Date.toDays_lt_of_year_lt before
  rw [yearOf] at ends
  omega

/-- Up to the safe validity the code expires at a moment that there is. -/
theorem expires_of_safe {policy : Policy} {now : Instant} (soon : yearOf now < 3000)
    (safe : policy.validity ≤ safeValidity) : now.seconds + policy.validity ≤ Instant.last := by
  have bound : (safeValidity : Int) = Instant.last - lastBefore3000 := by decide +kernel
  have early := seconds_le_of_yearOf soon
  omega

/-! ### A login -/

section Login

open Handling Fortune

variable {σ : Type} {perform : Nat → σ → (call : StoreCall) → call.Answer × σ}
  {shows : σ → Records → Prop} (s : Fortune σ) (policy : Policy) (message : Message)
  {scratch : Option (Table String String)}

/-- The login and the code are stored, and nothing else has been done: the state is the one in which
a login is expected, no e-mail was sent, and nobody was entered. -/
def StoredOnly (shows : σ → Records → Prop) (message : Message)
    (scratch : Option (Table String String)) (s s' : Fortune σ) : Prop :=
  HoldsFor shows s'.store message.conversation
      ⟨some awaitingLogin, some (withLogin (Text.trim message.content) s.code scratch)⟩ ∧
    s'.mailed = s.mailed ∧ s'.entered = s.entered

section Trouble

variable (keeping : Keeping perform shows) (quizUrl : Option String)
  (text : message.command = none) (nonblank : Text.trim message.content ≠ "")
  (holds : HoldsFor shows s.store message.conversation ⟨some awaitingLogin, scratch⟩)

include keeping text nonblank holds

/-- A validity that no span of time can have is found when the code is there already. -/
theorem brings_login_tooLong (long : longestValidity < policy.validity) :
    Brings (answer perform) ((routes policy quizUrl).handle message) s fun ending s' =>
      ending = .done (.error validityTooLong) ∧ StoredOnly shows message scratch s s' := by
  refine brings_takeLogin keeping quizUrl text nonblank holds fun store t holds => ?_
  rw [issueCode_eq, if_pos long]
  exact brings_throw ⟨rfl, holds, rfl, rfl⟩

/-- A moment of expiry that there is not is found when the code is there already. -/
theorem brings_login_tooLate (short : policy.validity ≤ longestValidity)
    (late : Instant.last < (s.glances 0).seconds + policy.validity) :
    Brings (answer perform) ((routes policy quizUrl).handle message) s fun ending s' =>
      ending = .panic ∧ StoredOnly shows message scratch s s' := by
  refine brings_takeLogin keeping quizUrl text nonblank holds fun store t holds => ?_
  rw [issueCode_eq, if_neg (Nat.not_lt.mpr short)]
  refine brings_clock rfl ?_
  simp only [withStore, Instant.addSeconds?_eq_none_iff.mpr late]
  exact ⟨rfl, holds, rfl, rfl⟩

end Trouble

/-- What becomes of a login that is not blank, in surroundings in which nothing fails and before the
year 3000. Settings are accepted with any validity but none at all. If the code expires at a moment
that there is, as it always does with a safe validity, the login is handled without an error, and
the code is expected from then on. If no span of time can have the validity, the handler ends with
an error; if one can, but there is no such moment, it panics. In both cases the login and the code
have been stored, and no code is expected. -/
theorem login_at_horizon (keeping : Keeping perform shows) (quizUrl : Option String)
    (text : message.command = none) (nonblank : Text.trim message.content ≠ "")
    (holds : HoldsFor shows s.store message.conversation ⟨some awaitingLogin, scratch⟩)
    (soon : yearOf (s.glances 0) < 3000) :
    let ran := ((routes policy quizUrl).handle message).run.run (answer perform) s
    let expiry : Int := (s.glances 0).seconds + policy.validity
    (∀ c : BotConfig, c.validate = .ok () → policy.validity ≠ 0 →
        (c.withValidity policy.validity).validate = .ok ()) ∧
      (policy.validity ≤ safeValidity → expiry ≤ Instant.last) ∧
      (expiry ≤ Instant.last → ran.1 = .done (.ok ()) ∧ ∃ expires fields,
        (s.glances 0).addSeconds? policy.validity = some expires ∧
          Noted policy (Text.trim message.content) s.code expires fields ∧
          HoldsFor shows ran.2.store message.conversation ⟨some awaitingCode, some fields⟩) ∧
      (longestValidity < policy.validity →
        ran.1 = .done (.error validityTooLong) ∧ StoredOnly shows message scratch s ran.2) ∧
      (Instant.last < expiry → policy.validity ≤ longestValidity →
        ran.1 = .panic ∧ StoredOnly shows message scratch s ran.2) := by
  intro ran expiry
  refine ⟨fun c accepted lasting => ((BotConfig.validate_withValidity lasting).mp accepted).2,
    expires_of_safe soon, fun inRange => ?_, fun long => ?_, fun late short => ?_⟩
  · obtain ⟨expires, added⟩ :
        ∃ expires, (s.glances 0).addSeconds? policy.validity = some expires := by
      rw [← Option.ne_none_iff_exists', Ne, Instant.addSeconds?_eq_none_iff]
      exact Int.not_lt.mpr inRange
    obtain ⟨done, store, t, fields, same, kept, noted⟩ :=
      brings_login keeping quizUrl text nonblank holds added
    refine ⟨done, expires, fields, added, noted, ?_⟩
    rw [show ran.2 = _ from same]
    exact kept
  · exact brings_login_tooLong s policy message keeping quizUrl text nonblank holds long
  · exact brings_login_tooLate s policy message keeping quizUrl text nonblank holds short late

end Login

/-! ### A code that would be valid for 285000 years -/

/-- The settings of a bot of which a token, a table of users in memory and a validity of a hundred
and fifty thousand million minutes are set. -/
def distantConfig : BotConfig := (smallConfig .default).withValidity 9000000000000

/-- A login that is sent to it. -/
def distantLogin : Message := ⟨"m", ⟨123, none, none, none⟩, ⟨456, "private"⟩, "alice", .epoch⟩

/-- Surroundings in which it is expected, at the beginning of 1970. -/
def distantSurroundings : Fortune Memory :=
  ⟨⟨.ofList [(distantLogin.conversation, ⟨awaitingLogin, 0⟩)], .empty⟩, fun n => n,
    fun _ => .epoch, "185296", ⟨"1", "alice", some 123, Roles.user, .epoch, .epoch⟩, [], []⟩

/-- A moment of expiry in the distant future makes the handler panic. -/
theorem login_at_horizon_distant :
    let ran := ((routes distantConfig.policy none).handle distantLogin).run.run
      (Fortune.answer Memory.perform) distantSurroundings
    ran.1 = .panic := by
  obtain ⟨-, -, -, -, panics⟩ := login_at_horizon distantSurroundings distantConfig.policy
    distantLogin Memory.keeping none (by decide +kernel) (by decide +kernel) ⟨_, fun _ => rfl, rfl⟩
    (by decide)
  exact (panics (by decide +kernel) (by decide)).1

/-- The settings are loaded and accepted, and it is 1970; still the login makes the handler panic,
when the login and the code have been stored. -/
theorem accepted_settings_panic :
    let ran := ((routes distantConfig.policy distantConfig.quizUrl).handle distantLogin).run.run
      (Fortune.answer Memory.perform) distantSurroundings
    BotConfig.load (.ofList [("BOT_TOKEN", "token"), ("DATABASE_URL", "sqlite::memory:"),
        ("OTP_VALIDITY_MINUTES", "150000000000")]) none = .ok distantConfig ∧
      distantConfig.validate = .ok () ∧ yearOf (distantSurroundings.glances 0) < 3000 ∧
      ran.1 = .panic ∧ ran.2.store.record distantLogin.conversation =
        ⟨some awaitingLogin, some (withLogin "alice" "185296" none)⟩ := by
  intro ran
  obtain ⟨panics, ⟨records, shown, stored⟩, -⟩ := brings_login_tooLate distantSurroundings
    distantConfig.policy distantLogin Memory.keeping distantConfig.quizUrl (by decide +kernel)
    (by decide +kernel) ⟨_, fun _ => rfl, rfl⟩ (by decide) (by decide +kernel)
  have login : Text.trim distantLogin.content = "alice" := by decide +kernel
  rw [login] at stored
  exact ⟨by rfl, by rfl, by decide, panics, (shown _).trans stored⟩

end Registration

end Registrar
