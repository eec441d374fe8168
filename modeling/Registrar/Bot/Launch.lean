import Registrar.Bot.Installation
import Registrar.Log.File
/-!
Starting the bot: the settings are looked through, the log is set up, and then the bot is put together.
-/

namespace Registrar

inductive LaunchError where
  | settings (cause : ConfigError)
  | log (cause : Log.Fault)
  | build (cause : BuildError)
deriving DecidableEq

namespace LaunchError

def message : LaunchError → String
  | settings cause => cause.message
  | log cause => cause.message
  | build cause => cause.message

/-- The causes behind it, the nearest first. -/
def causes : LaunchError → List String
  | settings cause => cause.causes
  | log _ => []
  | build _ => []

end LaunchError

def launch (c : BotConfig) (logs : FileTree String) (site : Site) : Except LaunchError Installation := do
  c.validate.mapError .settings
  (Log.setUp false logs c.logFile).1.mapError .log
  (Installation.build c site).mapError .build

end Registrar
