import Registrar.Dispatch.Routing
import Registrar.Registration.Commands
import Registrar.Registration.Letter
import Registrar.Text.Decimal
/-!
What is done with a text that is no command, in each state of a registration, and the handlers of the
bot, by command and by state.
-/

namespace Registrar.Registration

def defaultText : String := "I'm not sure how to respond. Try the /start command."

def invalidCodeText : String :=
  "❌ Invalid verification code. Please enter the verification code:"

/-- The answer to a login whose code could not be sent. -/
def emailFailedText : String :=
  "⚠️ Could not send the verification code. Please enter your login again:"

def codeExpiredText : String :=
  "⌛ The verification code has expired. Please enter your login again to get a new one:"

def sessionExpiredText : String :=
  "Your registration session has expired. Please send /register again."

def emptyLoginText : String := "Login must not be empty. Please enter your login:"

def codeSentText (recipient : String) (validity : Nat) : String :=
  "Thanks! A verification code was sent to <b>" ++ Markup.escape recipient ++
    "</b>. It is valid for " ++ toString (validity / 60) ++ " minutes.\nPlease enter it:"

def completeText (login : String) : String :=
  "✅ Registration complete! Welcome, " ++ login ++ "!\nOpen the quiz service with /quiz"

def alreadyRegisteredText (login : String) : String :=
  "Hello " ++ login ++ "! You are already registered."

/-- The longest validity that a span of time can have, in seconds: its milliseconds fit a signed word. -/
def longestValidity : Nat := (Text.signedBound - 1) / 1000

def validityTooLong : BotError :=
  .config "invalid code validity: Source duration value is out of range for the target type"

def answerByDefault : Handler := fun message => reply message defaultText

/-- Expects the code that was sent to an address, and says so. -/
def expectCode (policy : Policy) (message : Message) (recipient : String) : Handling Unit := do
  message.conversation.setState awaitingCode
  replyHtml message (codeSentText recipient policy.validity)

/-- Sends the code for a login that has been stored. -/
def issueCode (policy : Policy) (message : Message) (login code : String) : Handling Unit := do
  if longestValidity < policy.validity then throw validityTooLong
  else
    let now ← (Handling.ask .clock : Handling Instant)
    match now.addSeconds? policy.validity with
    | none => Handling.panic
    | some expires =>
      if policy.enforceExpiry then
        message.conversation.setData expiryField (.string (Rfc3339.writeOffset expires))
      let sent ← (ExceptT.lift (sendCode policy login code expires) :
        Handling (Except EmailError String))
      match sent with
      | .ok recipient => expectCode policy message recipient
      | .error _ =>
        if policy.blockOnEmailFailure then reply message emailFailedText
        else expectCode policy message (policy.recipient login)

def takeLogin (policy : Policy) : Handler := fun message => do
  let login := Text.trim message.content
  if login = "" then reply message emptyLoginText
  else
    message.conversation.setData loginField (.string login)
    let code ← Handling.attempt id (Program.request .newCode)
    message.conversation.setData codeField (.string code)
    issueCode policy message login code

/-- Whether the code of a conversation has expired. A code without a moment of expiry has not. -/
def codeExpired (policy : Policy) (c : Conversation) : Handling Bool := do
  if policy.enforceExpiry then
    match ← c.getAs expiryField Decode.string with
    | none => return false
    | some raw =>
      match Rfc3339.readStrict raw with
      | .error fault =>
        throw (.validation ("bad expires_at '" ++ raw ++ "': " ++ fault.message))
      | .ok expires =>
        let now ← (Handling.ask .clock : Handling Instant)
        return expires.before now
  else return false

def enroll (message : Message) (login : String) : Handling UserRecord :=
  Handling.attempt BotError.ofUsers
    (Program.request (.enroll login (some message.user.id) Roles.user))

/-- Asks to begin again because what was entered before is gone. -/
def expireSession (message : Message) : Handling Unit := do
  message.conversation.resetState
  reply message sessionExpiredText

def isRightCode (policy : Policy) (expected : String) (content : String) : Bool :=
  let input := Text.trim content
  input.utf8ByteSize = policy.codeLength && input = expected

/-- Takes a code, and completes the registration if it is the right one. -/
def takeCode (policy : Policy) : Handler := fun message => do
  let expected? ← message.conversation.getAs codeField Decode.string
  let login? ← message.conversation.getAs loginField Decode.string
  match expected?, login? with
  | some expected, some login =>
    if ← codeExpired policy message.conversation then
      message.conversation.setState awaitingLogin
      reply message codeExpiredText
    else if isRightCode policy expected message.content then
      let _ ← enroll message login
      message.conversation.setState registered
      reply message (completeText login)
    else reply message invalidCodeText
  | _, _ => expireSession message

def greetRegistered : Handler := fun message => do
  match ← message.conversation.getAs loginField Decode.string with
  | none => expireSession message
  | some login =>
    let _ ← enroll message login
    reply message (alreadyRegisteredText login)

/-! ### All handlers -/

def commandRoutes (quizUrl : Option String) : CommandRoutes :=
  CommandRoutes.empty
    |>.register "start" greet
    |>.register "help" greet
    |>.register "register" beginRegistration
    |>.register "quiz" (offerQuiz quizUrl)
    |>.register "cancel" cancel

def stateRoutes (policy : Policy) : StateRoutes :=
  StateRoutes.empty
    |>.register .default answerByDefault
    |>.register awaitingLogin (takeLogin policy)
    |>.register awaitingCode (takeCode policy)
    |>.register registered greetRegistered

def routes (policy : Policy) (quizUrl : Option String) : Routes :=
  ⟨commandRoutes quizUrl, stateRoutes policy⟩

end Registrar.Registration
