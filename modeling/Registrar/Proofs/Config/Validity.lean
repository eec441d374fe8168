import Registrar.Config.Bot
import Mathlib.Logic.Function.Basic

/-!
The validity that is set, and the one that has effect.

The setting is a number of minutes, read without loss. A number whose seconds fit into a word of 64
bits has effect as it is set; over any other, loading breaks down, whatever else is set. Only what is
loaded is looked at afterwards, so nobody is told that there are too many minutes.

* `Registration.Policy.secondsOfMinutes?_eq`: for which numbers there are seconds.
* `BotConfig.load_withMinutes`: what the setting has a part in.
* `BotConfig.validate_eq_ok`: what is looked at.
* `BotConfig.validity_of_minutes`: what becomes of every number of minutes.
-/

namespace Registrar

/-! ### A setting that is replaced -/

namespace Environment

variable {env : Environment} {name other text : String}

def withText (env : Environment) (name text : String) : Environment :=
  Function.update env name (some text)

theorem withText_self : env.withText name text name = some text := Function.update_self ..

theorem withText_of_ne (differs : other ≠ name) : env.withText name text other = env other :=
  Function.update_of_ne differs ..

theorem trimmed?_of_ne (differs : other ≠ name) :
    (env.withText name text).trimmed? other = env.trimmed? other := by
  rw [trimmed?, trimmed?, withText_of_ne differs]

theorem exactNatural_of_ne (differs : other ≠ name) (fallback : Nat) :
    (env.withText name text).exactNatural other fallback = env.exactNatural other fallback := by
  rw [exactNatural, exactNatural, withText_of_ne differs]

theorem exactInteger_of_ne (differs : other ≠ name) (fallback : Int64) :
    (env.withText name text).exactInteger other fallback = env.exactInteger other fallback := by
  rw [exactInteger, exactInteger, withText_of_ne differs]

theorem natural_of_ne (differs : other ≠ name) (fallback : Nat) :
    (env.withText name text).natural other fallback = env.natural other fallback := by
  rw [natural, natural, withText_of_ne differs]

theorem truth_of_ne (differs : other ≠ name) (fallback : Bool) :
    (env.withText name text).truth other fallback = env.truth other fallback := by
  rw [truth, truth, withText_of_ne differs]

/-- A number that is set is read, whatever would stand in for it. -/
theorem natural_of_read {n : Nat} (read : Text.readNatural Text.wordBound (Text.trim text) = some n)
    (fallback : Nat) : (env.withText name text).natural name fallback = n := by
  rw [natural, withText_self, Option.map_some, Option.bind_some, read, Option.getD_some]

end Environment

namespace Registration.Policy

def minutesSetting : String := "OTP_VALIDITY_MINUTES"

/-- The greatest number of minutes whose seconds fit into a word. -/
def mostMinutes : Nat := (Text.wordBound - 1) / 60

theorem secondsOfMinutes?_eq (minutes : Nat) :
    secondsOfMinutes? minutes = if minutes ≤ mostMinutes then some (60 * minutes) else none := by
  have most : mostMinutes = 307445734561825860 := rfl
  have word : Text.wordBound = 18446744073709551616 := rfl
  have fits : 60 * minutes < Text.wordBound ↔ minutes ≤ mostMinutes := by
    rw [word, most]
    omega
  rw [secondsOfMinutes?]
  simp only [fits]

/-- With a number of minutes, the settings of the registration are those with any other but for the
validity, if there are so many seconds. -/
theorem load_withMinutes (env : Environment) (domain : Option String) {text text' : String}
    {minutes minutes' : Nat}
    (read : Text.readNatural Text.wordBound (Text.trim text) = some minutes)
    (read' : Text.readNatural Text.wordBound (Text.trim text') = some minutes')
    (few : minutes' ≤ mostMinutes) :
    load (env.withText minutesSetting text) domain =
      (load (env.withText minutesSetting text') domain >>= fun p =>
        if minutes ≤ mostMinutes then .ok { p with validity := 60 * minutes }
        else .error .overflow) := by
  unfold load
  rw [← minutesSetting, Environment.natural_of_read read, Environment.natural_of_read read',
    secondsOfMinutes?_eq, secondsOfMinutes?_eq, if_pos few]
  simp (disch := decide) only [Environment.natural_of_ne, Environment.truth_of_ne]
  by_cases fits : minutes ≤ mostMinutes
  · simp only [if_pos fits]
    rfl
  · simp only [if_neg fits]
    rfl

end Registration.Policy

namespace BotConfig

open Registration.Policy (minutesSetting mostMinutes)

variable {c : BotConfig}

def withValidity (c : BotConfig) (seconds : Nat) : BotConfig :=
  { c with policy := { c.policy with validity := seconds } }

/-! ### Loading -/

/-- With a number of minutes, the settings are loaded as with any other but for the validity, if there
are so many seconds. -/
theorem load_withMinutes (env : Environment) (token : Option String) {text text' : String}
    {minutes minutes' : Nat}
    (read : Text.readNatural Text.wordBound (Text.trim text) = some minutes)
    (read' : Text.readNatural Text.wordBound (Text.trim text') = some minutes')
    (few : minutes' ≤ mostMinutes) :
    load (env.withText minutesSetting text) token =
      (load (env.withText minutesSetting text') token >>= fun c =>
        if minutes ≤ mostMinutes then .ok (c.withValidity (60 * minutes))
        else .error .overflow) := by
  have name (text : String) :
      chooseToken (env.withText minutesSetting text) token = chooseToken env token := by
    rw [chooseToken.eq_def, chooseToken.eq_def, Environment.withText_of_ne (by decide)]
  have store (text : String) :
      StoreSettings.load (env.withText minutesSetting text) = StoreSettings.load env := by
    simp (disch := decide) only [StoreSettings.load, RedisSettings.load, Environment.withText_of_ne,
      Environment.exactNatural_of_ne, Environment.exactInteger_of_ne]
  have email (text : String) :
      EmailSettings.load (env.withText minutesSetting text) = EmailSettings.load env := by
    simp (disch := decide) only [EmailSettings.load, Environment.trimmed?_of_ne]
  have apiUrl (text : String) :
      chooseApiUrl (env.withText minutesSetting text) = chooseApiUrl env := by
    simp (disch := decide) only [chooseApiUrl, Environment.trimmed?_of_ne]
  unfold load
  simp (disch := decide) only [name, store, email, apiUrl, Environment.withText_of_ne,
    Environment.trimmed?_of_ne, Environment.natural_of_ne]
  rw [Registration.Policy.load_withMinutes env _ read read' few]
  cases chooseToken env token with
  | error e => rfl
  | ok name =>
  cases StoreSettings.load env with
  | error e => rfl
  | ok store =>
  cases Registration.Policy.load (env.withText minutesSetting text') (EmailSettings.load env).loginDomain with
  | error e => rfl
  | ok policy =>
      by_cases fits : minutes ≤ mostMinutes
      · simp only [if_pos fits]
        rfl
      · simp only [if_neg fits]
        rfl

/-- A number of minutes that is loaded has effect as it is set. -/
theorem validity_of_load {env : Environment} {token : Option String} {text : String} {minutes : Nat}
    (read : Text.readNatural Text.wordBound (Text.trim text) = some minutes)
    (loaded : load (env.withText minutesSetting text) token = .ok c) :
    minutes ≤ mostMinutes ∧ c.policy.validity = 60 * minutes := by
  have zero : Text.readNatural Text.wordBound (Text.trim "0") = some 0 := by decide +kernel
  rw [load_withMinutes env token read zero (Nat.zero_le _)] at loaded
  cases other : load (env.withText minutesSetting "0") token with
  | error e =>
      rw [other] at loaded
      cases loaded
  | ok c' =>
      by_cases fits : minutes ≤ mostMinutes
      · simp only [other, if_pos fits] at loaded
        cases loaded
        exact ⟨fits, rfl⟩
      · simp only [other, if_neg fits] at loaded
        cases loaded

/-! ### Looking at what is loaded -/

theorem validatePolicy_eq_ok {p : Registration.Policy} :
    validatePolicy p = .ok () ↔ p.codeLength ≠ 0 ∧ p.validity ≠ 0 := by
  unfold validatePolicy
  split
  · simp [*]
  · split <;> simp [*]

theorem andThen_eq_ok {first rest : Except ConfigError Unit} :
    (first >>= fun _ => rest) = .ok () ↔ first = .ok () ∧ rest = .ok () := by
  cases first with
  | error e =>
      constructor
      · intro passed
        cases passed
      · intro passed
        cases passed.1
  | ok _ => exact ⟨fun passed => ⟨rfl, passed⟩, And.right⟩

/-- Nothing is said against settings if nothing is said against any part of them. -/
theorem validate_eq_ok :
    c.validate = .ok () ↔
      c.validateMessenger = .ok () ∧ c.store.validate = .ok () ∧ c.email.validate = .ok () ∧
        (c.policy.codeLength ≠ 0 ∧ c.policy.validity ≠ 0) ∧ validateQuiz c.quizUrl = .ok () ∧
        c.idleTimeout ≠ 0 := by
  unfold validate
  rw [andThen_eq_ok, andThen_eq_ok, andThen_eq_ok, andThen_eq_ok, andThen_eq_ok,
    validatePolicy_eq_ok]
  have idle : (if c.idleTimeout = 0 then Except.error ConfigError.zeroIdleTimeout else .ok ()) =
      .ok () ↔ c.idleTimeout ≠ 0 := by
    split <;> simp [*]
  rw [idle]

/-- The validity counts only in that it must not be zero. -/
theorem validate_withValidity {seconds : Nat} (lasting : seconds ≠ 0) :
    c.validate = .ok () ↔ c.policy.validity ≠ 0 ∧ (c.withValidity seconds).validate = .ok () := by
  rw [validate_eq_ok, validate_eq_ok]
  constructor
  · rintro ⟨messenger, store, email, ⟨length, lasts⟩, quiz, idle⟩
    exact ⟨lasts, messenger, store, email, ⟨length, lasting⟩, quiz, idle⟩
  · rintro ⟨lasts, messenger, store, email, ⟨length, -⟩, quiz, idle⟩
    exact ⟨messenger, store, email, ⟨length, lasts⟩, quiz, idle⟩

/-! ### What becomes of a number of minutes -/

/-- Let a number of minutes be set. If the settings are loaded, then the validity is exactly the one that
is set, and it is accepted as any other would be, unless it is zero. The settings are loaded as with
any other number for which they are, but if the seconds do not fit into a word, so exactly for more than
`mostMinutes` minutes, loading breaks down. -/
theorem validity_of_minutes (env : Environment) (token : Option String) (text : String)
    (minutes : Nat) (set : env minutesSetting = some text)
    (read : Text.readNatural Text.wordBound (Text.trim text) = some minutes) :
    (∀ c, load env token = .ok c →
      c.policy.validity = 60 * minutes ∧
      ∀ seconds, seconds ≠ 0 →
        (c.validate = .ok () ↔ minutes ≠ 0 ∧ (c.withValidity seconds).validate = .ok ())) ∧
    ∀ text' minutes', Text.readNatural Text.wordBound (Text.trim text') = some minutes' →
      minutes' ≤ mostMinutes →
      load env token =
        (load (env.withText minutesSetting text') token >>= fun c =>
          if minutes ≤ mostMinutes then .ok (c.withValidity (60 * minutes))
          else .error .overflow) := by
  have same : env.withText minutesSetting text = env := by
    rw [Environment.withText, ← set, Function.update_eq_self]
  refine ⟨fun c loaded => ?_, fun text' minutes' read' few => ?_⟩
  · rw [← same] at loaded
    obtain ⟨-, validity⟩ := validity_of_load read loaded
    refine ⟨validity, fun seconds lasting => ?_⟩
    have lasts : c.policy.validity ≠ 0 ↔ minutes ≠ 0 := by
      rw [validity]
      omega
    rw [validate_withValidity lasting, lasts]
  · have loads := load_withMinutes env token read read' few
    rwa [same] at loads

/-- An environment in which a token is set, and one minute more than has its seconds counted. -/
def overlongEnvironment : Environment :=
  .ofList [("BOT_TOKEN", "t"), ("OTP_VALIDITY_MINUTES", "307445734561825861")]

def halfHourConfig : BotConfig where
  token := "t"
  apiUrl := none
  logFile := defaultLogFile
  databaseUrl := defaultDatabaseUrl
  store := .default
  email := ⟨none, none, none, none⟩
  policy := .default
  quizUrl := none
  idleTimeout := defaultIdleTimeout

theorem load_halfHour :
    load (overlongEnvironment.withText minutesSetting "30") none = .ok halfHourConfig := by
  rfl

/-- Loading breaks down over one minute too many, and half an hour has effect as it is set. -/
theorem validity_of_minutes_overlong :
    load overlongEnvironment none = .error .overflow ∧
      halfHourConfig.policy.validity = 60 * 30 := by
  have read : Text.readNatural Text.wordBound (Text.trim "30") = some 30 := by decide +kernel
  obtain ⟨-, breaks⟩ := validity_of_minutes overlongEnvironment none "307445734561825861"
    307445734561825861 (by decide +kernel) (by decide +kernel)
  obtain ⟨has, -⟩ := validity_of_minutes (overlongEnvironment.withText minutesSetting "30") none "30"
    30 Environment.withText_self read
  refine ⟨?_, (has _ load_halfHour).1⟩
  rw [breaks "30" 30 read (by decide), load_halfHour]
  rfl

/-- Settings that are accepted with half an hour are not even loaded with a greater number of minutes,
although that is a number of 64 bits. -/
theorem overlong_minutes_overflow :
    overlongEnvironment minutesSetting = some "307445734561825861" ∧
      Text.readNatural Text.wordBound (Text.trim "307445734561825861") = some 307445734561825861 ∧
      load (overlongEnvironment.withText minutesSetting "30") none = .ok halfHourConfig ∧
      halfHourConfig.validate = .ok () ∧ load overlongEnvironment none = .error .overflow :=
  ⟨by decide +kernel, by decide +kernel, load_halfHour, by rfl, by rfl⟩

end BotConfig

end Registrar
