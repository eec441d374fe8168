import Registrar.Proofs.Data.Traversal
import Registrar.Telegram.Sending

/-!
Messages with buttons are posted whole or not at all.

If every link under a message can be read, one request is made, and it shows the keyboard as it is: the
same rows, in each row the same buttons in the same order, and on each button the same label and the same
kind of target (`Shows`). Otherwise nothing is requested, and the answer names the first link in reading
order that cannot be read (`FirstOf`). How links are read is left open.
-/

namespace Registrar

/-- The text behind a button that has to be a URL. Data for the bot does not. -/
def Button.link? : Button → Option String
  | .url _ link => some link
  | .webApp _ link => some link
  | .callback _ _ => none

/-- The links of a keyboard in reading order: row by row, and in a row from left to right. -/
def Keyboard.links (k : Keyboard) : List String := k.rows.flatten.filterMap Button.link?

def Outgoing.links (m : Outgoing) : List String := (m.keyboard.map Keyboard.links).getD []

namespace Telegram

variable {ε υ : Type} {read : String → Except ε υ}

def Readable (read : String → Except ε υ) (link : String) : Prop := ∃ url, read link = .ok url

/-- A button of a message and the button that is posted for it: the same label, and the same kind of
target, which is what the link reads as, or the same data. -/
inductive Shown (read : String → Except ε υ) : Button → MarkupButton υ → Prop where
  | page {label link : String} {url : υ} (reads : read link = .ok url) :
      Shown read (.url label link) ⟨label, .page url⟩
  | app {label link : String} {url : υ} (reads : read link = .ok url) :
      Shown read (.webApp label link) ⟨label, .app url⟩
  | data {label text : String} : Shown read (.callback label text) ⟨label, .data text⟩

/-- What is posted shows the message: as many rows as its keyboard has, as many buttons in each, and each
of them at its place. -/
structure Shows (read : String → Except ε υ) (m : Outgoing) (p : Posting υ) : Prop where
  chat : p.chat = m.chat
  text : p.text = m.text
  parseMode : p.parseMode = m.parseMode
  keyboard : Option.Rel (fun k rows => List.Forall₂ (List.Forall₂ (Shown read)) k.rows rows)
    m.keyboard p.markup

/-- The first of some links that cannot be read, and the reason. -/
def BadLink.FirstOf (read : String → Except ε υ) (links : List String) (bad : BadLink ε) : Prop :=
  ∃ before after, links = before ++ bad.link :: after ∧
    (∀ link ∈ before, Readable read link) ∧ read bad.link = .error bad.reason

/-- What comes before and after links is no matter if all before can be read. -/
theorem BadLink.FirstOf.within {links : List String} {bad : BadLink ε}
    (first : bad.FirstOf read links) {before : List String}
    (readable : ∀ link ∈ before, Readable read link) (after : List String) :
    bad.FirstOf read (before ++ (links ++ after)) := by
  obtain ⟨before', after', rfl, readable', fails⟩ := first
  refine ⟨before ++ before', after' ++ after, ?_, ?_, fails⟩
  · rw [List.append_assoc, List.append_assoc, List.cons_append]
  · exact List.forall_mem_append.mpr ⟨readable, readable'⟩

theorem BadLink.FirstOf.not_readable {links : List String} {bad : BadLink ε}
    (first : bad.FirstOf read links) : ¬ ∀ link ∈ links, Readable read link := by
  obtain ⟨before, after, rfl, _, fails⟩ := first
  intro readable
  obtain ⟨url, reads⟩ := readable bad.link (List.mem_append_right before List.mem_cons_self)
  cases fails.symm.trans reads

/-! ### One button -/

theorem readLink_of_readable {link : String} {url : υ} (reads : read link = .ok url) :
    readLink read link = .ok url := by
  unfold readLink
  rw [reads]
  rfl

theorem readLink_of_error {link : String} {reason : ε} (fails : read link = .error reason) :
    readLink read link = .error ⟨link, reason⟩ := by
  unfold readLink
  rw [fails]
  rfl

/-- A button is posted as it is, or it has a link that cannot be read and is answered with that link. -/
theorem ofButton_cases (read : String → Except ε υ) (b : Button) :
    (∃ shown, MarkupButton.ofButton read b = .ok shown ∧ Shown read b shown) ∨
      ∃ bad, MarkupButton.ofButton read b = .error bad ∧ b.link? = some bad.link ∧
        read bad.link = .error bad.reason := by
  cases b with
  | url label link =>
      cases outcome : read link with
      | ok url =>
          refine .inl ⟨⟨label, .page url⟩, ?_, .page outcome⟩
          simp only [MarkupButton.ofButton, readLink_of_readable outcome]
          rfl
      | error reason =>
          refine .inr ⟨⟨link, reason⟩, ?_, rfl, outcome⟩
          simp only [MarkupButton.ofButton, readLink_of_error outcome]
          rfl
  | webApp label link =>
      cases outcome : read link with
      | ok url =>
          refine .inl ⟨⟨label, .app url⟩, ?_, .app outcome⟩
          simp only [MarkupButton.ofButton, readLink_of_readable outcome]
          rfl
      | error reason =>
          refine .inr ⟨⟨link, reason⟩, ?_, rfl, outcome⟩
          simp only [MarkupButton.ofButton, readLink_of_error outcome]
          rfl
  | callback label text => exact .inl ⟨⟨label, .data text⟩, rfl, .data⟩

theorem shown_of_ofButton {b : Button} {shown : MarkupButton υ}
    (posted : MarkupButton.ofButton read b = .ok shown) : Shown read b shown := by
  obtain ⟨shown', posted', shows⟩ | ⟨bad, refused, _⟩ := ofButton_cases read b
  · cases posted.symm.trans posted'
    exact shows
  · cases posted.symm.trans refused

theorem bad_of_ofButton {b : Button} {bad : BadLink ε}
    (refused : MarkupButton.ofButton read b = .error bad) :
    b.link? = some bad.link ∧ read bad.link = .error bad.reason := by
  obtain ⟨shown, posted, _⟩ | ⟨bad', refused', named⟩ := ofButton_cases read b
  · cases refused.symm.trans posted
  · cases refused.symm.trans refused'
    exact named

theorem Shown.readable {b : Button} {shown : MarkupButton υ} (shows : Shown read b shown) {link : String}
    (behind : b.link? = some link) : Readable read link := by
  cases shows with
  | page reads =>
      cases behind
      exact ⟨_, reads⟩
  | app reads =>
      cases behind
      exact ⟨_, reads⟩
  | data => cases behind

/-! ### Rows and keyboards -/

theorem shown_of_row {row : List Button} {shown : List (MarkupButton υ)}
    (posted : row.mapM (MarkupButton.ofButton read) = .ok shown) :
    List.Forall₂ (Shown read) row shown :=
  (mapM_eq_ok_iff.mp posted).imp fun _ _ => shown_of_ofButton

/-- Behind buttons that are shown are links that can be read. -/
theorem readable_of_shown {buttons : List Button} {shown : List (MarkupButton υ)}
    (shows : List.Forall₂ (Shown read) buttons shown) :
    ∀ link ∈ buttons.filterMap Button.link?, Readable read link := by
  have each : ∀ b ∈ buttons, ∀ link, b.link? = some link → Readable read link :=
    ((List.forall₂_and_left buttons shown).mp
      (shows.imp fun b s shown => ⟨fun link => shown.readable, shown⟩)).1
  intro link listed
  obtain ⟨b, present, behind⟩ := List.mem_filterMap.mp listed
  exact each b present link behind

/-- A row that is refused is refused for the first of its links that cannot be read. -/
theorem firstOf_row {row : List Button} {bad : BadLink ε}
    (refused : row.mapM (MarkupButton.ofButton read) = .error bad) :
    bad.FirstOf read (row.filterMap Button.link?) := by
  obtain ⟨before, b, after, rfl, posted, refused⟩ := mapM_eq_error_iff.mp refused
  obtain ⟨behind, fails⟩ := bad_of_ofButton refused
  refine ⟨before.filterMap Button.link?, after.filterMap Button.link?, ?_, ?_, fails⟩
  · rw [List.filterMap_append, List.filterMap_cons_some behind]
  · intro link listed
    obtain ⟨b', earlier, behind'⟩ := List.mem_filterMap.mp listed
    obtain ⟨shown, posted'⟩ := posted b' earlier
    exact (shown_of_ofButton posted').readable behind'

theorem shown_of_keyboard {k : Keyboard} {rows : Markup υ}
    (posted : Markup.ofKeyboard read k = .ok rows) :
    List.Forall₂ (List.Forall₂ (Shown read)) k.rows rows :=
  (mapM_eq_ok_iff.mp posted).imp fun _ _ => shown_of_row

/-- A keyboard that is refused is refused for the first of its links that cannot be read: the rows before
the refused one have been read. -/
theorem firstOf_keyboard {k : Keyboard} {bad : BadLink ε}
    (refused : Markup.ofKeyboard read k = .error bad) : bad.FirstOf read k.links := by
  obtain ⟨before, row, after, split, posted, refused⟩ := mapM_eq_error_iff.mp refused
  have links : k.links = before.flatten.filterMap Button.link? ++
      (row.filterMap Button.link? ++ after.flatten.filterMap Button.link?) := by
    rw [Keyboard.links, split, List.flatten_append, List.flatten_cons, List.filterMap_append,
      List.filterMap_append]
  rw [links]
  refine (firstOf_row refused).within ?_ _
  intro link listed
  obtain ⟨b, present, behind⟩ := List.mem_filterMap.mp listed
  obtain ⟨row', earlier, present'⟩ := List.mem_flatten.mp present
  obtain ⟨shown, posted'⟩ := posted row' earlier
  exact readable_of_shown (shown_of_row posted') link (List.mem_filterMap.mpr ⟨b, present', behind⟩)

/-! ### Messages -/

/-- A message is posted as it is, and then its links can be read, or it is refused for the first of its
links that cannot. -/
theorem ofOutgoing_cases (read : String → Except ε υ) (m : Outgoing) :
    (∃ p, Posting.ofOutgoing read m = .ok p ∧ Shows read m p ∧
        ∀ link ∈ m.links, Readable read link) ∨
      ∃ bad, Posting.ofOutgoing read m = .error bad ∧ bad.FirstOf read m.links := by
  obtain ⟨chat, text, mode, keyboard⟩ := m
  cases keyboard with
  | none =>
      exact .inl ⟨⟨chat, text, mode, none⟩, rfl, ⟨rfl, rfl, rfl, .none⟩, List.forall_mem_nil _⟩
  | some k =>
      cases outcome : Markup.ofKeyboard read k with
      | ok rows =>
          have shown := shown_of_keyboard outcome
          refine .inl ⟨⟨chat, text, mode, some rows⟩, ?_, ⟨rfl, rfl, rfl, .some shown⟩, ?_⟩
          · simp only [Posting.ofOutgoing, outcome]
            rfl
          · exact readable_of_shown (List.rel_flatten shown)
      | error bad =>
          refine .inr ⟨bad, ?_, firstOf_keyboard outcome⟩
          simp only [Posting.ofOutgoing, outcome]
          rfl

section Transmission

variable {ρ φ : Type} {refuse : BadLink ε → φ} {post : Posting υ → List ρ × Except φ Unit}
  {m : Outgoing}

/-- A message whose links can all be read is posted, and what is posted shows it. -/
theorem transmit_of_readable (readable : ∀ link ∈ m.links, Readable read link) :
    ∃ p, Shows read m p ∧ transmit read refuse post m = post p := by
  obtain ⟨p, posted, shows, _⟩ | ⟨bad, _, first⟩ := ofOutgoing_cases read m
  · refine ⟨p, shows, ?_⟩
    rw [transmit, posted]
  · exact absurd readable first.not_readable

/-- A message with a link that cannot be read is not posted, and the first such link is named. -/
theorem transmit_of_unreadable (unreadable : ¬ ∀ link ∈ m.links, Readable read link) :
    ∃ bad : BadLink ε, bad.FirstOf read m.links ∧
      transmit read refuse post m = ([], .error (refuse bad)) := by
  obtain ⟨p, _, _, readable⟩ | ⟨bad, refused, first⟩ := ofOutgoing_cases read m
  · exact absurd readable unreadable
  · refine ⟨bad, first, ?_⟩
    rw [transmit, refused]

end Transmission

/-- A keyboard is sent whole or not at all. Whatever counts as a link and whatever is answered to a
request: if every link under the message can be read, exactly one request is made, which shows the
message; otherwise none is made, and the failure names the first link that cannot be read. -/
theorem transmit_whole_or_nothing (read : String → Except ε υ) (wording : ε → String)
    (answer : Posting υ → Except BotError Unit) (m : Outgoing) :
    ((∀ link ∈ m.links, Readable read link) →
        ∃ p, Shows read m p ∧
          transmit read (fun bad => BotError.bot (bad.message wording)) (fun p => ([p], answer p)) m =
            ([p], answer p)) ∧
      ((¬ ∀ link ∈ m.links, Readable read link) →
        ∃ bad : BadLink ε, bad.FirstOf read m.links ∧
          transmit read (fun bad => BotError.bot (bad.message wording)) (fun p => ([p], answer p)) m =
            ([], .error (.bot ("Invalid button URL '" ++ bad.link ++ "': " ++ wording bad.reason)))) :=
  ⟨transmit_of_readable, transmit_of_unreadable⟩

/-- Of two bad links the one in the earlier row is named, though a link before it is good and the row
above it is empty. -/
theorem transmit_whole_or_nothing_two_bad_links :
    let read : String → Except String String :=
      fun link => if link = "https://a.org" then .ok link else .error "relative URL without a base"
    let m : Outgoing := ⟨7, "Docs", none, some ⟨[[],
      [.callback "c" "c", .url "a" "https://a.org", .webApp "b" "b"], [.url "d" "d"]]⟩⟩
    let sent := transmit read (fun bad => BotError.bot (bad.message id)) (fun p => ([p], .ok ())) m
    (∃ bad : BadLink String, bad.FirstOf read m.links ∧
        sent = ([], .error (.bot ("Invalid button URL '" ++ bad.link ++ "': " ++ id bad.reason)))) ∧
      sent = ([], .error (.bot "Invalid button URL 'b': relative URL without a base")) := by
  intro read m sent
  have unreadable : ¬ ∀ link ∈ m.links, Readable read link := by
    intro readable
    obtain ⟨url, reads⟩ := readable "d" (by decide)
    cases reads
  exact ⟨(transmit_whole_or_nothing read id (fun _ => .ok ()) m).2 unreadable, by decide⟩

/-- The bot makes no request for a message with a link that is no URL. -/
theorem Settings.send_of_unreadable (s : Settings) (web : Http.Web) {m : Outgoing}
    (unreadable : ¬ ∀ link ∈ m.links, Readable Url.parse link) :
    ∃ bad : BadLink UrlError, bad.FirstOf Url.parse m.links ∧
      s.send web m = ([], .error (.badLink bad)) :=
  transmit_of_unreadable unreadable

end Telegram

end Registrar
