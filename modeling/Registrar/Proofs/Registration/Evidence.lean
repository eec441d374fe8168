import Registrar.Proofs.Dispatch.Conduct
import Registrar.Registration.Steps

/-!
What the past of a conversation shows about a login.

A `Trace` is found in the past: a message was handled while a login was expected, it stored the login
that it says, no other login has been stored since, and certain exchanges have followed. If these
are the issue of a code and the e-mail that carries it, the login is `Issued`; if the code came
back, it is `Confirmed`.

`Founded` ties this to the record: while a code is expected, a login was issued, and the scratch
fields hold that login and its code, if they hold anything; after a registration the login was
confirmed, and the scratch field holds no other. Scratch fields survive changes of state, and a new
registration does not clear them, so it matters that no handler leaves the old fields behind in one
of these two states.

* `Founded.lasting`: neither evictions nor exchanges that store no login do any harm.
-/

namespace Registrar

/-- A field holds this text, written as JSON, if it holds anything. -/
def Record.Holds (r : Record) (field value : String) : Prop :=
  ∀ text, r.text? field = some text → text = (Json.string value).print

namespace Record.Holds

variable {r r' : Record} {field value : String}

theorem fades (holds : r.Holds field value) (fades : r.Fades r') : r'.Holds field value := by
  intro text found
  rcases fades.text? field with same | gone
  · exact holds text (same.symm.trans found)
  · rw [gone] at found
    cases found

theorem of_scratch (holds : r.Holds field value) (same : r'.scratch = r.scratch) :
    r'.Holds field value := by
  have holds' : Record.Holds ⟨r.state, r'.scratch⟩ field value :=
    holds.fades ⟨.inl rfl, .inl same⟩
  exact holds'

/-- A field that was written last. -/
theorem written (r : Record) (c : Conversation) (field value : String) :
    (r.perform (.setData c field (.string value))).2.Holds field value := by
  intro text found
  rw [Record.text?_setData, if_pos rfl] at found
  cases found
  rfl

/-- Another field was written. -/
theorem setData (holds : r.Holds field value) (c : Conversation) {field' : String} (v : Json)
    (other : field ≠ field') : (r.perform (.setData c field' v)).2.Holds field value := by
  intro text found
  rw [Record.text?_setData, if_neg other] at found
  exact holds text found

/-- What is read from the field is the text that it holds, or nothing. -/
theorem value_eq (holds : r.Holds field value) (c : Conversation) {v : Json}
    (read : (r.perform (.getData c field)).1 = .ok (some v)) : v = .string value := by
  cases found : r.text? field with
  | none =>
      rw [Record.perform, found] at read
      cases read
  | some text =>
      rw [Record.perform_getText c (found.trans (congrArg some (holds text found)))] at read
      cases read
      rfl

end Record.Holds

namespace Registration

def StoresLogin (e : Exchange) : Prop :=
  ∃ job c v, e = ⟨job, .store (.setData c loginField v), .ok ()⟩

/-- The message `issue` was handled while a login was expected, and stored the login that it says. No
login has been stored since, and these steps have followed, the latest first. -/
def Trace (c : Conversation) (issue : Job) (login : String) (steps past : List Exchange) : Prop :=
  ∃ since before,
    past = since ++ ⟨issue, .store (.setData c loginField (.string login)), .ok ()⟩ :: before ∧
    ⟨issue, .store (.get c), .ok awaitingLogin⟩ ∈ before ∧
    Text.trim issue.message.content = login ∧ (∀ e ∈ since, ¬ StoresLogin e) ∧
    steps.Sublist since

/-- A code was drawn for the message `issue`, and an e-mail with the code was handed to the sender. -/
def mailing (issue : Job) (code : String) (mail : Email) (sent : Except EmailError Unit) :
    List Exchange :=
  [⟨issue, .deliver mail, sent⟩, ⟨issue, .newCode, .ok code⟩]

/-- The e-mail goes to the address for the login and carries the code. -/
structure Carries (policy : Policy) (login code : String) (mail : Email) : Prop where
  recipient : mail.recipient = policy.recipient login
  code : ("Code", code) ∈ mail.fields

/-- A code was issued for the login, and sent to its address. -/
def Issued (policy : Policy) (c : Conversation) (login code : String) (past : List Exchange) :
    Prop :=
  ∃ issue mail sent, Trace c issue login (mailing issue code mail sent) past ∧
    Carries policy login code mail

/-- A code was issued for the login, and sent to its address; then a message was handled while a code
was expected that says this code, of the right length. -/
def Confirmed (policy : Policy) (c : Conversation) (login : String) (past : List Exchange) : Prop :=
  ∃ issue proof code mail sent,
    Trace c issue login
      (⟨proof, .store (.get c), .ok awaitingCode⟩ :: mailing issue code mail sent) past ∧
    Carries policy login code mail ∧
    Text.trim proof.message.content = code ∧ code.utf8ByteSize = policy.codeLength

/-- While a code is expected and after a registration, the record agrees with what was issued and
confirmed. -/
structure Founded (policy : Policy) (c : Conversation) (story : Story) : Prop where
  awaiting : story.record.state = some awaitingCode →
    ∃ login code, Issued policy c login code story.past ∧
      story.record.Holds loginField login ∧ story.record.Holds codeField code
  registered : story.record.state = some registered →
    ∃ login, Confirmed policy c login story.past ∧ story.record.Holds loginField login

/-! ### What lasts -/

variable {policy : Policy} {c : Conversation} {issue : Job} {login : String}
  {steps past : List Exchange} {e : Exchange}

/-- Only storing a login stores a login. -/
theorem not_storesLogin {job : Job} {r : Request} {answer : r.Answer}
    (other : ∀ c v, r ≠ .store (.setData c loginField v)) : ¬ StoresLogin ⟨job, r, answer⟩ := by
  rintro ⟨job', c, v, same⟩
  cases same
  exact other c v rfl

/-- A refused call stores nothing. -/
theorem not_storesLogin_error {job : Job} {call : StoreCall} {fault : StorageError} :
    ¬ StoresLogin ⟨job, .store call, .error fault⟩ := by
  rintro ⟨job', c, v, same⟩
  cases same

theorem Trace.tell (trace : Trace c issue login steps past) (silent : ¬ StoresLogin e) :
    Trace c issue login steps (e :: past) := by
  obtain ⟨since, before, rfl, expected, typed, latest, sublist⟩ := trace
  exact ⟨e :: since, before, rfl, expected, typed, List.forall_mem_cons.mpr ⟨silent, latest⟩,
    sublist.cons e⟩

/-- The trace goes on with an exchange that takes place now. -/
theorem Trace.extend (trace : Trace c issue login steps past) (silent : ¬ StoresLogin e) :
    Trace c issue login (e :: steps) (e :: past) := by
  obtain ⟨since, before, rfl, expected, typed, latest, sublist⟩ := trace
  exact ⟨e :: since, before, rfl, expected, typed, List.forall_mem_cons.mpr ⟨silent, latest⟩,
    sublist.cons_cons e⟩

/-- A trace begins when the login is stored. -/
theorem Trace.begin (expected : ⟨issue, .store (.get c), .ok awaitingLogin⟩ ∈ past)
    (typed : Text.trim issue.message.content = login) :
    Trace c issue login []
      (⟨issue, .store (.setData c loginField (.string login)), .ok ()⟩ :: past) :=
  ⟨[], past, rfl, expected, typed, by simp, .refl _⟩

theorem Issued.tell {code : String} (issued : Issued policy c login code past)
    (silent : ¬ StoresLogin e) : Issued policy c login code (e :: past) := by
  obtain ⟨issue, mail, sent, trace, carries⟩ := issued
  exact ⟨issue, mail, sent, trace.tell silent, carries⟩

theorem Confirmed.tell (confirmed : Confirmed policy c login past) (silent : ¬ StoresLogin e) :
    Confirmed policy c login (e :: past) := by
  obtain ⟨issue, proof, code, mail, sent, trace, rest⟩ := confirmed
  exact ⟨issue, proof, code, mail, sent, trace.tell silent, rest⟩

/-- What evictions and exchanges that store no login leave true. -/
structure Lasting (holds : Story → Prop) : Prop where
  fades {r r' : Record} {past : List Exchange} :
    holds ⟨r, past⟩ → r.Fades r' → holds ⟨r', past⟩
  tell {r : Record} {past : List Exchange} {e : Exchange} :
    holds ⟨r, past⟩ → ¬ StoresLogin e → holds ⟨r, e :: past⟩

namespace Lasting

theorem trivial : Lasting fun _ => True := ⟨fun _ _ => True.intro, fun _ _ => True.intro⟩

theorem and {A B : Story → Prop} (first : Lasting A) (second : Lasting B) :
    Lasting fun story => A story ∧ B story :=
  ⟨fun h fades => ⟨first.fades h.1 fades, second.fades h.2 fades⟩,
    fun h silent => ⟨first.tell h.1 silent, second.tell h.2 silent⟩⟩

theorem holds (field value : String) : Lasting fun story => story.record.Holds field value :=
  ⟨fun h fades => h.fades fades, fun h _ => h⟩

theorem trace (c : Conversation) (issue : Job) (login : String) (steps : List Exchange) :
    Lasting fun story => Trace c issue login steps story.past :=
  ⟨fun h _ => h, fun h silent => h.tell silent⟩

theorem issued (policy : Policy) (c : Conversation) (login code : String) :
    Lasting fun story => Issued policy c login code story.past :=
  ⟨fun h _ => h, fun h silent => h.tell silent⟩

theorem confirmed (policy : Policy) (c : Conversation) (login : String) :
    Lasting fun story => Confirmed policy c login story.past :=
  ⟨fun h _ => h, fun h silent => h.tell silent⟩

end Lasting

theorem Founded.lasting (policy : Policy) (c : Conversation) : Lasting (Founded policy c) where
  fades {r r' past} h fades := by
    have same : ∀ {s}, r'.state = some s → r.state = some s := by
      intro s state
      rcases fades.state with same | gone
      · exact same.symm.trans state
      · rw [gone] at state
        cases state
    refine ⟨fun state => ?_, fun state => ?_⟩
    · obtain ⟨login, code, issued, login?, code?⟩ := h.awaiting (same state)
      exact ⟨login, code, issued, login?.fades fades, code?.fades fades⟩
    · obtain ⟨login, confirmed, login?⟩ := h.registered (same state)
      exact ⟨login, confirmed, login?.fades fades⟩
  tell {r past e} h silent := by
    refine ⟨fun state => ?_, fun state => ?_⟩
    · obtain ⟨login, code, issued, fields⟩ := h.awaiting state
      exact ⟨login, code, issued.tell silent, fields⟩
    · obtain ⟨login, confirmed, login?⟩ := h.registered state
      exact ⟨login, confirmed.tell silent, login?⟩

/-- Neither is a code expected nor is the registration complete. -/
def Unsettled (r : Record) : Prop := r.state ≠ some awaitingCode ∧ r.state ≠ some registered

theorem Unsettled.founded {r : Record} (unsettled : Unsettled r) :
    Founded policy c ⟨r, past⟩ :=
  ⟨fun state => absurd state unsettled.1, fun state => absurd state unsettled.2⟩

theorem Lasting.unsettled : Lasting fun story => Unsettled story.record where
  fades h fades := by
    rcases fades.state with same | gone
    · exact ⟨same ▸ h.1, same ▸ h.2⟩
    · exact ⟨gone ▸ by simp, gone ▸ by simp⟩
  tell h _ := h

end Registration

end Registrar
