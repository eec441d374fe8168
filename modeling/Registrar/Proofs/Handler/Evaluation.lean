import Registrar.Handler.Context

/-!
Where a handling leads in given surroundings.

`Program.Brings` is about one run, with the answers of given surroundings; there is one rule for each
kind of request, which takes the answer and goes on with what follows it.
-/

namespace Registrar

/-- The program ends in such a way, and leaves such surroundings behind. -/
def Program.Brings {α σ : Type} (answer : σ → (r : Request) → r.Answer × σ) (p : Program α) (s : σ)
    (Q : Ending α → σ → Prop) : Prop :=
  Q (p.run answer s).1 (p.run answer s).2

theorem Program.brings_ask {α σ : Type} {answer : σ → (r : Request) → r.Answer × σ} {s s' : σ}
    {Q : Ending α → σ → Prop} {r : Request} {v : r.Answer} {next : r.Answer → Program α}
    (answered : answer s r = (v, s')) (rest : (next v).Brings answer s' Q) :
    (ask r next).Brings answer s Q := by
  simp only [Brings, run, answered]
  exact rest

namespace Handling

variable {α β σ : Type} {answer : σ → (r : Request) → r.Answer × σ} {s s' : σ}
  {Q : Ending (Except BotError β) → σ → Prop}

/-- The handling ends in such a way, and leaves such surroundings behind. -/
abbrev Brings (answer : σ → (r : Request) → r.Answer × σ) (x : Handling α) (s : σ)
    (Q : Ending (Except BotError α) → σ → Prop) : Prop := x.run.Brings answer s Q

theorem brings_throw {e : BotError} (here : Q (.done (.error e)) s) :
    Brings answer (throw e) s Q := here

theorem brings_store {call : StoreCall} {v : call.Result} {f : call.Result → Handling β}
    (answered : answer s (.store call) = (.ok v, s')) (rest : Brings answer (f v) s' Q) :
    Brings answer (Handling.store call >>= f) s Q :=
  Program.brings_ask answered rest

/-- A field that holds a text, or nothing, is read. -/
theorem brings_getText {c : Conversation} {field : String} {text? : Option String}
    {f : Option String → Handling β}
    (answered : answer s (.store (.getData c field)) = (.ok (text?.map .string), s'))
    (rest : Brings answer (f text?) s' Q) :
    Brings answer (c.getAs field Decode.string >>= f) s Q := by
  refine Program.brings_ask answered ?_
  cases text? <;> exact rest

theorem brings_clock {now : Instant} {f : Instant → Handling β}
    (answered : answer s .clock = (now, s')) (rest : Brings answer (f now) s' Q) :
    Brings answer ((Handling.ask .clock : Handling Instant) >>= f) s Q :=
  Program.brings_ask answered rest

theorem brings_newCode {f : String → Handling β} {drawn : Except BotError String}
    (answered : answer s .newCode = (drawn, s'))
    (refused : ∀ e, drawn = .error e → Q (.done (.error e)) s')
    (rest : ∀ code, drawn = .ok code → Brings answer (f code) s' Q) :
    Brings answer (Handling.attempt id (Program.request .newCode) >>= f) s Q := by
  refine Program.brings_ask answered ?_
  cases drawn with
  | ok code => exact rest code rfl
  | error e => exact refused e rfl

theorem brings_send {Q : Ending (Except BotError Unit) → σ → Prop} {message : Outgoing}
    {sent : Except BotError Unit} (answered : answer s (.send message) = (sent, s'))
    (here : Q (.done sent) s') : Brings answer (Handling.send message) s Q := by
  refine Program.brings_ask answered ?_
  cases sent <;> exact here

end Handling

end Registrar
