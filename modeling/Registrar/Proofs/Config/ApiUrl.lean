import Registrar.Config.Bot
import Registrar.Telegram.Settings

/-!
The server of the messenger, as it is read in two places.

Two settings name the server, one of which goes before the other. The settings of the bot trim both and
pass over a blank one; the settings of the messenger alone take the first one that is there as it
stands, and look only afterwards whether it is empty. So the two readings differ if blanks stand
around the setting that counts, and if the first setting is there without saying anything.

* `BotConfig.load_apiUrl`: what the settings of the bot have for a server.
* `apiUrl_eq_iff`: the environments in which both readings find the same server.
-/

namespace Registrar

/-- A setting that is not blank is read without the blanks around it. -/
theorem Environment.trimmed?_eq_some {env : Environment} {name text : String}
    (read : env.trimmed? name = some text) : Text.trim text = text ∧ text ≠ "" := by
  obtain ⟨given, filled⟩ := Option.filter_eq_some_iff.mp read
  obtain ⟨whole, _, rfl⟩ := Option.map_eq_some_iff.mp given
  exact ⟨Text.trim_trim whole, of_decide_eq_true filled⟩

theorem Environment.trimmed?_eq_none_iff {env : Environment} {name : String} :
    env.trimmed? name = none ↔ ∀ text, env name = some text → Text.isBlank text = true := by
  rw [trimmed?]
  cases env name with
  | none => simp
  | some text => simp [Text.isBlank_iff_trim]

/-- A setting that is trimmed is found as it stands only if trimming takes nothing away. -/
theorem filter_eq_trimmed?_iff {env : Environment} {name text : String} (set : env name = some text) :
    (some text).filter (· ≠ "") = env.trimmed? name ↔ Text.trim text = text := by
  rw [Environment.trimmed?, set, Option.map_some]
  constructor
  · intro same
    by_cases empty : text = ""
    · rw [empty]
      rfl
    · have kept : (some text).filter (· ≠ "") = some text := Option.filter_some_pos (by simp [empty])
      rw [kept] at same
      exact Option.some.inj (Option.filter_eq_some_iff.mp same.symm).1
  · intro same
    rw [same]

namespace BotConfig

/-- With any number of minutes, the domain of the addresses does not matter to whether the settings of the
registration are loaded. -/
theorem load_policy_map {α : Type} (env : Environment) (domain : Option String) (a : α) :
    (Registration.Policy.load env domain).map (fun _ => a) =
      (Registration.Policy.load env none).map fun _ => a := by
  unfold Registration.Policy.load
  split <;> rfl

/-- The settings of the bot are loaded unless those of the store are refused or there are too many
minutes, and their server is the one that is chosen in the environment. -/
theorem load_apiUrl (env : Environment) (token : String) :
    (load env (some token)).map (·.apiUrl) =
      ((StoreSettings.load env).mapError .refused >>= fun _ => Registration.Policy.load env none).map
        fun _ => chooseApiUrl env := by
  unfold load
  cases StoreSettings.load env with
  | error e => rfl
  | ok store =>
      refine Eq.trans ?_ (load_policy_map env (EmailSettings.load env).loginDomain (chooseApiUrl env))
      dsimp only
      cases Registration.Policy.load env (EmailSettings.load env).loginDomain <;> rfl

end BotConfig

namespace Telegram.Settings

variable {env : Environment} {first : String}

/-- If the first setting is not blank, both readings take it. -/
theorem chooseApiUrl_eq_iff_of_filled (set : env "TELEGRAM_API_URL" = some first)
    (filled : Text.isBlank first ≠ true) :
    chooseApiUrl env = BotConfig.chooseApiUrl env ↔ Text.trim first = first := by
  obtain ⟨url, found⟩ : ∃ url, env.trimmed? "TELEGRAM_API_URL" = some url := by
    refine Option.ne_none_iff_exists'.mp fun none => filled ?_
    exact Environment.trimmed?_eq_none_iff.mp none first set
  have chosen : BotConfig.chooseApiUrl env = env.trimmed? "TELEGRAM_API_URL" := by
    rw [BotConfig.chooseApiUrl, found, Option.some_or]
  rw [chosen, chooseApiUrl, set, Option.some_or, filter_eq_trimmed?_iff set]

/-- If it is blank, only the settings of the bot look at the second one. -/
theorem chooseApiUrl_eq_iff_of_blank (set : env "TELEGRAM_API_URL" = some first)
    (blank : Text.isBlank first = true) :
    chooseApiUrl env = BotConfig.chooseApiUrl env ↔
      first = "" ∧ ∀ second, env "TELOXIDE_API_URL" = some second → Text.isBlank second = true := by
  have passed : env.trimmed? "TELEGRAM_API_URL" = none := by
    refine Environment.trimmed?_eq_none_iff.mpr fun text same => ?_
    rw [← Option.some.inj (set.symm.trans same)]
    exact blank
  rw [BotConfig.chooseApiUrl, passed, Option.none_or, chooseApiUrl, set, Option.some_or,
    ← Environment.trimmed?_eq_none_iff]
  by_cases empty : first = ""
  · have dropped : (some first).filter (· ≠ "") = none := by rw [empty]; rfl
    rw [dropped]
    exact ⟨fun none => ⟨empty, none.symm⟩, fun both => both.2.symm⟩
  · have kept : (some first).filter (· ≠ "") = some first := Option.filter_some_pos (by simp [empty])
    rw [kept]
    refine ⟨fun same => absurd ?_ empty, fun both => absurd both.1 empty⟩
    -- What the second setting is trimmed to is not blank.
    rw [← (Environment.trimmed?_eq_some same.symm).1]
    exact Text.isBlank_iff_trim.mp blank

/-- If the first setting is not there, both readings take the second one. -/
theorem chooseApiUrl_eq_iff_of_none (unset : env "TELEGRAM_API_URL" = none) :
    chooseApiUrl env = BotConfig.chooseApiUrl env ↔
      ∀ second, env "TELOXIDE_API_URL" = some second → Text.trim second = second := by
  have passed : env.trimmed? "TELEGRAM_API_URL" = none := by
    rw [Environment.trimmed?, unset]
    rfl
  rw [BotConfig.chooseApiUrl, passed, Option.none_or, chooseApiUrl, unset, Option.none_or]
  cases set : env "TELOXIDE_API_URL" with
  | none =>
      have nothing : env.trimmed? "TELOXIDE_API_URL" = none := by
        rw [Environment.trimmed?, set]
        rfl
      rw [nothing]
      exact ⟨fun _ _ other => (nomatch other), fun _ => rfl⟩
  | some second =>
      rw [filter_eq_trimmed?_iff set]
      exact ⟨fun whole text same => Option.some.inj same ▸ whole, fun every => every second rfl⟩

/-- With any token of one's own, the settings of the bot are loaded unless those of the store are refused
or there are too many minutes, and then the settings of the messenger alone name the same server exactly
under two conditions: the first setting that is there has no blanks around it, and if it is the first of
the two and empty, the second is not there or blank. -/
theorem apiUrl_eq_iff (env : Environment) (token : String) :
    ((BotConfig.load env (some token)).map (·.apiUrl) =
      ((StoreSettings.load env).mapError .refused >>= fun _ => Registration.Policy.load env none).map
        fun _ => BotConfig.chooseApiUrl env) ∧
    ((withToken env token).apiUrl = BotConfig.chooseApiUrl env ↔
      (∀ first, env "TELEGRAM_API_URL" = some first → Text.trim first = first ∧
        (first = "" → ∀ second, env "TELOXIDE_API_URL" = some second → Text.isBlank second = true)) ∧
      (env "TELEGRAM_API_URL" = none →
        ∀ second, env "TELOXIDE_API_URL" = some second → Text.trim second = second)) := by
  refine ⟨BotConfig.load_apiUrl env token, ?_⟩
  change chooseApiUrl env = BotConfig.chooseApiUrl env ↔ _
  cases set : env "TELEGRAM_API_URL" with
  | none =>
      rw [chooseApiUrl_eq_iff_of_none set]
      simp
  | some first =>
      by_cases blank : Text.isBlank first = true
      · rw [chooseApiUrl_eq_iff_of_blank set blank]
        have nothing : Text.trim first = first ↔ first = "" := by
          rw [Text.isBlank_iff_trim.mp blank, eq_comm]
        simp +contextual [nothing]
      · have filled : first ≠ "" := by
          rintro rfl
          exact blank rfl
        rw [chooseApiUrl_eq_iff_of_filled set blank]
        simp [filled]

/-- An environment in which the first setting is there without saying anything. -/
def silencedEnvironment : Environment :=
  .ofList [("TELEGRAM_API_URL", ""), ("TELOXIDE_API_URL", "http://127.0.0.1:8081")]

/-- There the bot talks to the server of the second setting, and the settings of the messenger alone
name none. -/
theorem empty_apiUrl_hides_second :
    let loaded := (BotConfig.load silencedEnvironment (some "t")).map (·.apiUrl)
    (withToken silencedEnvironment "t").apiUrl = none ∧
      loaded = .ok (some "http://127.0.0.1:8081") ∧
      loaded ≠ .ok (withToken silencedEnvironment "t").apiUrl := by
  intro loaded
  have found : loaded = .ok (some "http://127.0.0.1:8081") := rfl
  refine ⟨rfl, found, fun same => ?_⟩
  cases found.symm.trans same

end Telegram.Settings

end Registrar
