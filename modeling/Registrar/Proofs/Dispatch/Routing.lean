import Registrar.Dispatch.Routing
import Registrar.Handler.Rehearsal
import Registrar.Proofs.Handler.Evaluation
import Registrar.Proofs.Store.Interchange
import Registrar.Proofs.Text.ByteOrder

/-!
To which handler a message goes, after any number of registrations.

A handler is registered at a post: for a command, under a title with or without a slash in front of
it, or for a state. A message needs the command that it is or, if it is none, the state of its
conversation. The slash is taken off a title when it is registered and off a message when its command
is read, once in both places, so that `Post.Meets` can compare what was written.

* `Routes.get?_eq_some_iff`, `Routes.get?_eq_none_iff`: the last handler at a post that meets the need
  is in force.
* `Routes.handle_command`: what is done about a command, as a program.
* `Routes.run_handle_text`: what is done about any other text, in any surroundings.
* `CommandRoutes.names_sorted`: the names are listed in the order of their bytes.
* `routing_decision`: all of this together, over stores that keep records.
-/

namespace Registrar

/-! ### Titles -/

/-- A title under which a command is registered names this command. -/
def Names (title name : String) : Prop :=
  title = "/" ++ name ∨ title = name ∧ name.toList.head? ≠ some '/'

instance (title name : String) : Decidable (Names title name) := inferInstanceAs (Decidable (_ ∨ _))

namespace CommandRoutes

theorem bareName_slash (name : String) : bareName ("/" ++ name) = name := by
  have chars : ("/" ++ name).toList = '/' :: name.toList := by simp
  simp [bareName, chars]

theorem bareName_of_ne {title : String} (bare : title.toList.head? ≠ some '/') :
    bareName title = title := by
  unfold bareName
  split
  · rename_i cs chars
    rw [chars] at bare
    exact absurd rfl bare
  · rfl

/-- A command is registered under its name once a slash in front is taken off the title. -/
theorem bareName_eq_iff {title name : String} : bareName title = name ↔ Names title name := by
  constructor
  · intro bare
    by_cases slash : title.toList.head? = some '/'
    · obtain ⟨cs, chars⟩ := List.head?_eq_some_iff.mp slash
      have whole : title = "/" ++ String.ofList cs := by
        rw [← String.toList_inj, chars]
        simp
      rw [whole, bareName_slash] at bare
      exact .inl (by rw [whole, bare])
    · rw [bareName_of_ne slash] at bare
      subst bare
      exact .inr ⟨rfl, slash⟩
  · rintro (rfl | ⟨rfl, bare⟩)
    · exact bareName_slash name
    · exact bareName_of_ne bare

end CommandRoutes

/-! ### Registrations -/

/-- Where a handler is registered. -/
inductive Post where
  | command (title : String)
  | state (state : State)

/-- What a message needs a handler for. -/
inductive Need where
  | command (name : String)
  | state (state : State)

/-- A handler that is registered at this post does what is needed. -/
def Post.Meets : Post → Need → Prop
  | .command title, .command name => Names title name
  | .state s, .state s' => s = s'
  | _, _ => False

instance : (post : Post) → (need : Need) → Decidable (post.Meets need)
  | .command title, .command name => inferInstanceAs (Decidable (Names title name))
  | .state s, .state s' => inferInstanceAs (Decidable (s = s'))
  | .command _, .state _ | .state _, .command _ => inferInstanceAs (Decidable False)

structure Appointment where
  post : Post
  handler : Handler

/-- Among these registrations, this handler is the last one that meets the need. -/
def InForce (appointments : List Appointment) (need : Need) (handler : Handler) : Prop :=
  ∃ before post after, appointments = before ++ ⟨post, handler⟩ :: after ∧ post.Meets need ∧
    ∀ later ∈ after, ¬ later.post.Meets need

/-- None of these registrations meets the need. -/
def Vacant (appointments : List Appointment) (need : Need) : Prop :=
  ∀ e ∈ appointments, ¬ e.post.Meets need

instance (appointments : List Appointment) (need : Need) : Decidable (Vacant appointments need) :=
  inferInstanceAs (Decidable (∀ e ∈ appointments, ¬ e.post.Meets need))

namespace Routes

def empty : Routes := ⟨.empty, .empty⟩

def appoint (routes : Routes) (e : Appointment) : Routes :=
  match e.post with
  | .command title => { routes with commands := routes.commands.register title e.handler }
  | .state state => { routes with states := routes.states.register state e.handler }

def ofAppointments (appointments : List Appointment) : Routes := appointments.foldl appoint empty

def get? (routes : Routes) : Need → Option Handler
  | .command name => routes.commands.handlers.get? name
  | .state state => routes.states.handlers.get? state

theorem get?_appoint (routes : Routes) (e : Appointment) (need : Need) :
    (routes.appoint e).get? need = if e.post.Meets need then some e.handler else routes.get? need := by
  obtain ⟨post, handler⟩ := e
  cases post with
  | command title =>
      cases need with
      | command name =>
          simp only [appoint, get?, CommandRoutes.register, Table.get?_insert, Post.Meets,
            ← CommandRoutes.bareName_eq_iff, eq_comm (a := name)]
      | state state => simp [appoint, get?, Post.Meets]
  | state state =>
      cases need with
      | command name => simp [appoint, get?, Post.Meets]
      | state state' =>
          by_cases same : state = state'
          · simp [appoint, get?, StateRoutes.register, Post.Meets, same]
          · simp [appoint, get?, StateRoutes.register, Post.Meets, same, Ne.symm same]

/-- The handler for a need is found by going back through the registrations. -/
theorem get?_ofAppointments (appointments : List Appointment) (need : Need) :
    (ofAppointments appointments).get? need = appointments.reverse.findSome? fun e =>
      if e.post.Meets need then some e.handler else none := by
  induction appointments using List.reverseRecOn with
  | nil => cases need <;> rfl
  | append_singleton appointments e ih =>
      have last : ofAppointments (appointments ++ [e]) = (ofAppointments appointments).appoint e := by
        simp [ofAppointments]
      rw [last, get?_appoint, ih, List.reverse_append]
      by_cases meets : e.post.Meets need <;> simp [meets]

theorem get?_eq_some_iff {appointments : List Appointment} {need : Need} {handler : Handler} :
    (ofAppointments appointments).get? need = some handler ↔ InForce appointments need handler := by
  rw [get?_ofAppointments, List.findSome?_eq_some_iff]
  constructor
  · rintro ⟨after, ⟨post, handler'⟩, before, split, found, none_after⟩
    by_cases meets : post.Meets need
    · simp only [meets, if_true, Option.some.injEq] at found
      subst found
      refine ⟨before.reverse, post, after.reverse, ?_, meets, ?_⟩
      · simpa using congrArg List.reverse split
      · intro later mem
        simpa using none_after later (List.mem_reverse.mp mem)
    · simp [meets] at found
  · rintro ⟨before, post, after, rfl, meets, none_after⟩
    refine ⟨after.reverse, ⟨post, handler⟩, before.reverse, by simp, by simp [meets], ?_⟩
    intro later mem
    simp [none_after later (List.mem_reverse.mp mem)]

theorem get?_eq_none_iff {appointments : List Appointment} {need : Need} :
    (ofAppointments appointments).get? need = none ↔ Vacant appointments need := by
  rw [get?_ofAppointments]
  simp [Vacant]

/-! ### Messages -/

/-- A command goes to the handler for its name, and nothing is asked before. -/
theorem handle_command (routes : Routes) {message : Message} {name : String}
    (command : message.command = some name) :
    routes.handle message = match routes.get? (.command name) with
      | some handler => handler message
      | none => throw (.commandNotFound name) := by
  simp only [handle, Message.isCommand, command, Option.isSome_some, if_true, CommandRoutes.handle, get?]
  cases routes.commands.handlers.get? name <;> rfl

/-- Any other text goes to the handler for the state that is read. -/
theorem run_handle_text (routes : Routes) {message : Message} (text : message.command = none)
    {σ : Type} (answer : σ → (r : Request) → r.Answer × σ) (s : σ) :
    (routes.handle message).run.run answer s =
      match answer s (.store (.get message.conversation)) with
      | (.error fault, s') => (.done (.error (.storage fault)), s')
      | (.ok state, s') =>
        match routes.get? (.state state) with
        | some handler => (handler message).run.run answer s'
        | none => (.done (.error (.noHandlerForState state)), s') := by
  have toStates : routes.handle message = routes.states.handle message := by
    simp only [handle, Message.isCommand, text, Option.isSome_none]
    rfl
  rw [toStates]
  change Handling.Brings answer (routes.states.handle message) s fun ending s' => (ending, s') = _
  obtain ⟨⟨read, s'⟩, answered⟩ : ∃ a, answer s (.store (.get message.conversation)) = a := ⟨_, rfl⟩
  rw [answered]
  cases read with
  | error fault => exact Program.brings_ask answered rfl
  | ok state =>
      refine Handling.brings_store answered ?_
      simp only [get?]
      cases routes.states.handlers.get? state <;> rfl

end Routes

/-! ### The listed names -/

/-- The names are listed in the order of their bytes, each of them once. -/
theorem CommandRoutes.names_sorted (routes : CommandRoutes) :
    routes.names.Pairwise fun a b => Text.bytes a < Text.bytes b := by
  have sorted : routes.names.Pairwise fun a b => a ≤ b := by
    have transitive (a b c : String) (ab : decide (a ≤ b) = true) (bc : decide (b ≤ c) = true) :
        decide (a ≤ c) = true :=
      decide_eq_true (le_trans (of_decide_eq_true ab) (of_decide_eq_true bc))
    have total (a b : String) : (decide (a ≤ b) || decide (b ≤ a)) = true := by
      simpa using le_total a b
    simpa [names] using List.pairwise_mergeSort transitive total routes.handlers.keys
  have distinct : routes.names.Nodup :=
    (List.mergeSort_perm _ _).nodup_iff.mpr routes.handlers.nodup
  exact (sorted.and distinct).imp fun ⟨le, ne⟩ => Text.bytes_lt_bytes (lt_of_le_of_ne le ne)

theorem Routes.mem_names_iff {appointments : List Appointment} {name : String} :
    name ∈ (ofAppointments appointments).commands.names ↔
      ∃ e ∈ appointments, e.post.Meets (.command name) := by
  rw [CommandRoutes.names, (List.mergeSort_perm _ _).mem_iff, Table.mem_keys_iff,
    Option.isSome_iff_ne_none]
  change (ofAppointments appointments).get? (.command name) ≠ none ↔ _
  rw [Ne, get?_eq_none_iff]
  simp [Vacant]

/-! ### The decision -/

/-- After any registrations, in any order, a message that is a command is handled by the last handler
that was registered for the name, and by no other; if there is none, that is the outcome, and nothing
is asked of the store. Any other text is handled, after the state has been read, by the last handler
that was registered for just this state, and by no other; if there is none, that is the outcome. Over
a store that keeps records, what is read is the stored state, or the default one, and the records stay
as they are. The names of the commands are listed in the order of their bytes, each of them once. -/
theorem routing_decision (appointments : List Appointment) (message : Message) :
    let routes := Routes.ofAppointments appointments
    let c := message.conversation
    (∀ name, message.command = some name →
      (∀ handler, InForce appointments (.command name) handler →
        routes.handle message = handler message) ∧
      (Vacant appointments (.command name) →
        routes.handle message = throw (.commandNotFound name))) ∧
    (message.command = none → ∀ {σ : Type} (answer : σ → (r : Request) → r.Answer × σ) (s s' : σ),
      (∀ fault, answer s (.store (.get c)) = (.error fault, s') →
        (routes.handle message).run.run answer s = (.done (.error (.storage fault)), s')) ∧
      ∀ state, answer s (.store (.get c)) = (.ok state, s') →
        (∀ handler, InForce appointments (.state state) handler →
          (routes.handle message).run.run answer s = (handler message).run.run answer s') ∧
        (Vacant appointments (.state state) →
          (routes.handle message).run.run answer s =
            (.done (.error (.noHandlerForState state)), s'))) ∧
    (∀ {σ : Type} {perform : Nat → σ → (call : StoreCall) → call.Answer × σ}
        {shows : σ → Records → Prop}, Keeping perform shows →
      ∀ (now : Nat) (s : σ) (records : Records), shows s records →
        (perform now s (.get c)).1 = .ok ((records c).state.getD .default) ∧
          shows (perform now s (.get c)).2 records) ∧
    routes.commands.names.Pairwise (fun a b => Text.bytes a < Text.bytes b) ∧
    ∀ name, name ∈ routes.commands.names ↔
      ∃ e ∈ appointments, e.post.Meets (.command name) := by
  intro routes c
  refine ⟨?_, ?_, ?_, routes.commands.names_sorted, fun name => Routes.mem_names_iff⟩
  · intro name command
    have handled := routes.handle_command command
    constructor
    · intro handler inForce
      rw [handled, Routes.get?_eq_some_iff.mpr inForce]
    · intro vacant
      rw [handled, Routes.get?_eq_none_iff.mpr vacant]
  · intro text σ answer s s'
    have handled := routes.run_handle_text text answer s
    constructor
    · intro fault read
      rw [handled, read]
    · intro state read
      constructor
      · intro handler inForce
        rw [handled, read]
        simp only [Routes.get?_eq_some_iff.mpr inForce, routes]
      · intro vacant
        rw [handled, read]
        simp only [Routes.get?_eq_none_iff.mpr vacant, routes]
  · intro σ perform shows keeping now s records holds
    have after := keeping.after now (.get c) holds
    rw [Records.perform_of_same rfl] at after
    exact ⟨keeping.answer now (.get c) holds, after⟩

/-- A name that itself begins with a slash is met by a title with two; a title with a slash takes the
place of one without; and the default state is read where nothing is stored. -/
theorem routing_decision_slashes :
    let passes : Handler := fun _ => pure ()
    let refuses : Handler := fun message => throw (.validation message.content)
    let appointments : List Appointment := [⟨.command "//x", passes⟩, ⟨.command "start", passes⟩,
      ⟨.state .default, refuses⟩, ⟨.command "/start", refuses⟩]
    let message (content : String) : Message :=
      ⟨"1", ⟨7, none, none, none⟩, ⟨-1, "group"⟩, content, .epoch⟩
    let routes := Routes.ofAppointments appointments
    let rehearsal := Rehearsal.start .epoch "123456"
    routes.handle (message "//x@quizbot hello") = pure () ∧
      routes.handle (message "/start") = throw (.validation "/start") ∧
      routes.handle (message "/Start") = throw (.commandNotFound "Start") ∧
      (routes.handle (message "hello")).run.run (Rehearsal.answer 0) rehearsal =
        (.done (.error (.validation "hello")), rehearsal) := by
  intro passes refuses appointments message routes rehearsal
  have decided (content : String) := routing_decision appointments (message content)
  refine ⟨?_, ?_, ?_, ?_⟩
  · exact ((decided _).1 "/x" (by decide)).1 passes
      ⟨[], .command "//x", _, rfl, by decide, by decide⟩
  · exact ((decided _).1 "start" (by decide)).1 refuses
      ⟨[_, _, _], .command "/start", [], rfl, by decide, by decide⟩
  · exact ((decided _).1 "Start" (by decide)).2 (by decide)
  · exact (((decided "hello").2.1 (by decide) (Rehearsal.answer 0) rehearsal rehearsal).2 .default
      rfl).1 refuses ⟨[_, _], .state .default, [_], rfl, by decide, by decide⟩

end Registrar
