import Registrar.Handler.Context
import Registrar.Registration.Policy
/-!
The commands of the bot.
-/

namespace Registrar.Registration

def welcomeText : String := "👋 Welcome! Please register by sending the /register command."

def loginPrompt : String := "🔑 Please enter your login to register."

def quizText : String := "Tap the button below to launch the quiz app."

def quizUnavailableText : String := "The quiz is not available right now."

def cancelledText : String := "Cancelled. Send /register to start over."

def greet : Handler := fun message => reply message welcomeText

def beginRegistration : Handler := fun message => do
  message.conversation.setState awaitingLogin
  reply message loginPrompt

def offerQuiz (quizUrl : Option String) : Handler := fun message =>
  match quizUrl.filter fun url => !Text.isBlank url with
  | none => reply message quizUnavailableText
  | some url =>
    Handling.send { Outgoing.plain message.chat.id quizText with
      keyboard := some ⟨[[.webApp "Quiz" url]]⟩ }

/-- Ends the conversation and forgets what was entered. -/
def cancel : Handler := fun message => do
  message.conversation.finish
  message.conversation.clearData
  reply message cancelledText

end Registrar.Registration
