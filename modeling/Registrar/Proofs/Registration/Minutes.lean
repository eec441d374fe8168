import Registrar.Proofs.Registration.Announcement
import Registrar.Proofs.Registration.Reachability

/-!
The e-mail and the reply name the same number of minutes.

For how long a code is valid is worked out twice. The reply divides the validity. The e-mail looks at the
clock again: what has passed since the code was issued is missing by then, what is left is cut to whole
seconds, and the quotient is rounded. Rounding makes up for what is missing as long as that is less than
half a minute.

* `Instant.secondsUntil_bounds`: what is left after a delay.
* `roundHalfEven_of_near`: a quotient is rounded to the whole number next to it.
* `same_minutes_told`: so both name the minutes that are set.
-/

namespace Registrar

namespace Instant

/-- The nanoseconds from one look at the clock to a later one. `totalNanos` counts a leap second together
with the second after it, so that a second is missing once a leap second is over. -/
def elapsed (t later : Instant) : Int :=
  later.totalNanos - t.totalNanos +
    if 1000000000 ≤ t.nanos ∧ t.seconds < later.seconds then 1000000000 else 0

variable {issued expires now : Instant} {n d : Nat}

/-- What is left of `n` seconds, in nanoseconds, is what has not elapsed; around a leap second it may be
up to one second more or less. -/
theorem nanosUntil_bounds (expiry : issued.addSeconds? n = some expires)
    (forward : 0 ≤ issued.elapsed now) (soon : issued.elapsed now ≤ d * 1000000000) (two : 2 ≤ d) :
    ((n : Int) - d) * 1000000000 ≤ now.nanosUntil expires ∧
      now.nanosUntil expires ≤ ((n : Int) + 1) * 1000000000 := by
  have range := now.nanos_lt
  have range' := issued.nanos_lt
  unfold elapsed at forward soon
  unfold nanosUntil
  unfold addSeconds? at expiry
  split at expiry
  · rename_i zero
    cases expiry
    unfold totalNanos at *
    split at forward <;> split <;> omega
  · -- The expiry is in no leap second, even if the code was issued in one.
    obtain ⟨seconds, nanos⟩ := ofParts?_eq_some expiry
    unfold totalNanos at *
    split at nanos <;> split at forward <;> split <;> omega

theorem secondsUntil_bounds (expiry : issued.addSeconds? n = some expires)
    (forward : 0 ≤ issued.elapsed now) (soon : issued.elapsed now ≤ d * 1000000000) (two : 2 ≤ d) :
    (n : Int) - d ≤ now.secondsUntil expires ∧ now.secondsUntil expires ≤ n + 1 := by
  obtain ⟨lower, upper⟩ := nanosUntil_bounds expiry forward soon two
  have second : (0 : Int) < 1000000000 := by decide
  have cut : ∀ k : Int, (k * 1000000000).tdiv 1000000000 = k := fun k =>
    Int.mul_tdiv_cancel k (Int.ne_of_gt second)
  unfold secondsUntil
  constructor
  · rw [← cut (n - d)]
    exact Int.tdiv_le_tdiv second lower
  · rw [← cut (n + 1)]
    exact Int.tdiv_le_tdiv second upper

end Instant

namespace Registration

variable {issued expires now : Instant} {m : Nat}

/-- A quotient is rounded to the whole number that is less than a half away. -/
theorem roundHalfEven_of_near {num den : Nat} (below : 2 * (den * m) < 2 * num + den)
    (above : 2 * num < 2 * (den * m) + den) : roundHalfEven num den = m := by
  have positive : 0 < den := by omega
  unfold roundHalfEven
  rcases Nat.lt_or_ge num (den * m) with short | reached
  · -- The quotient is cut to the number before `m`, and more than a half is left.
    obtain ⟨k, rfl⟩ : ∃ k, m = k + 1 := Nat.exists_eq_succ_of_ne_zero fun zero => by
      rw [zero] at short
      exact Nat.not_lt_zero num short
    rw [Nat.mul_succ] at below short
    obtain ⟨quotient, rest⟩ : num / den = k ∧ num % den = num - den * k :=
      (Nat.div_mod_unique positive).mpr (by omega)
    rw [quotient, rest]
    exact (if_neg (by omega)).trans (if_pos (by omega))
  · obtain ⟨quotient, rest⟩ : num / den = m ∧ num % den = num - den * m :=
      (Nat.div_mod_unique positive).mpr (by omega)
    rw [quotient, rest]
    exact if_pos (by omega)

/-- An e-mail that is composed no more than 29 seconds after the code was issued names the minutes for
which the code was issued. -/
theorem timeLeft_of_soon (expiry : issued.addSeconds? (60 * m) = some expires)
    (forward : 0 ≤ issued.elapsed now) (soon : issued.elapsed now ≤ 29 * 1000000000) :
    timeLeft now expires = toString m ++ " minutes" := by
  have left := Instant.secondsUntil_bounds (d := 29) expiry forward soon (by decide)
  have minutes : roundHalfEven (now.secondsUntil expires).toNat 60 = m :=
    roundHalfEven_of_near (by omega) (by omega)
  rw [timeLeft, minutes]

/-- After half a minute the rounding may go the other way. -/
example : timeLeft ⟨30, 0, by decide +kernel, .inl (by decide)⟩
    ⟨60, 0, by decide +kernel, .inl (by decide)⟩ = "0 minutes" := by decide +kernel

/-- Let a code be valid for a number of whole minutes, whatever is said for a login and whatever the
surroundings answer. Before an e-mail is handed over the clock is looked at twice, and if the second
look is no more than 29 seconds after the first one, to the nanosecond, then the e-mail says that the
code expires in these minutes. A reply in which HTML is marked up says that it is valid for these
minutes, and comes with one e-mail. Both are sent unless something stands in the way. -/
theorem same_minutes_told {policy : Policy} {m : Nat} (whole : policy.validity = 60 * m) {σ : Type}
    (answer : σ → (r : Request) → r.Answer × σ) (s : σ) (job : Job) :
    let course := (takeLogin policy job.message).run.account job answer s
    let mails := course.filterMap Exchange.mail?
    let replies := course.filterMap Exchange.outgoing?
    (∀ mail ∈ mails, ∃ issued now, course.filterMap Exchange.reading? = [now, issued] ∧
      (0 ≤ issued.elapsed now → issued.elapsed now ≤ 29 * 1000000000 →
        mail.fields.lookup "ExpiresIn" = some (toString m ++ " minutes"))) ∧
    (∀ reply ∈ replies, reply.parseMode = some .html → (∃ mail, mails = [mail]) ∧
      reply.text = "Thanks! A verification code was sent to <b>" ++
        Markup.escape (policy.recipient (Text.trim job.message.content)) ++
          "</b>. It is valid for " ++ toString m ++ " minutes.\nPlease enter it:") ∧
    (Unhindered policy job.message course →
      ∃ mail reply, mails = [mail] ∧ replies = [reply] ∧ reply.parseMode = some .html) := by
  intro course mails replies
  have informed : Informed policy job.message course := (informs_takeLogin policy job).account answer s
  refine ⟨fun mail mem => ?_, fun reply mem html => ?_, fun unhindered => ?_⟩
  · obtain @⟨code, issued, expires, now, read, expiry⟩ := informed.composed mail mem
    refine ⟨issued, now, read, fun forward soon => ?_⟩
    rw [whole] at expiry
    have named := timeLeft_of_soon expiry forward soon
    simp [letter, List.lookup, named]
  · obtain ⟨rfl, only⟩ := informed.marked reply mem html
    obtain rfl : m = policy.validity / 60 := by omega
    exact ⟨only, rfl⟩
  · obtain ⟨mail, mailed, replied⟩ := informed.complete unhindered
    exact ⟨mail, _, mailed, replied, rfl⟩

/-- A code is valid for 31 minutes, and the e-mail is composed a nanosecond before 29 seconds are over. -/
theorem same_minutes_told_late_letter :
    let message : Message := ⟨"1", ⟨7, none, none, none⟩, ⟨1, "private"⟩, "ann", .epoch⟩
    let policy : Policy := ⟨4, 1860, true, true, some "uni.example"⟩
    let now : Instant := ⟨28, 999999999, by decide +kernel, .inl (by decide)⟩
    let s : Fortune Record := ⟨.empty, fun n => n, fun n => if n = 0 then .epoch else now, "4711",
      ⟨"1", "ann", some 7, Roles.user, .epoch, .epoch⟩, [], []⟩
    let course := (takeLogin policy message).run.account ⟨0, message⟩
      (Fortune.answer fun _ => Record.perform) s
    policy.validity = 60 * 31 ∧ Unhindered policy message course ∧
      course.filterMap Exchange.reading? = [now, .epoch] ∧
      ∃ mail reply, course.filterMap Exchange.mail? = [mail] ∧
        course.filterMap Exchange.outgoing? = [reply] ∧
        mail.fields.lookup "ExpiresIn" = some (toString 31 ++ " minutes") ∧
        reply.text = "Thanks! A verification code was sent to <b>" ++
          Markup.escape "ann@uni.example" ++ "</b>. It is valid for " ++ toString 31 ++
            " minutes.\nPlease enter it:" := by
  intro message policy now s course
  have unhindered : Unhindered policy message course :=
    ⟨by decide +kernel, by decide +kernel, by decide +kernel, by decide +kernel⟩
  have looked : course.filterMap Exchange.reading? = [now, .epoch] := by decide +kernel
  have address : policy.recipient (Text.trim message.content) = "ann@uni.example" := by decide +kernel
  obtain ⟨letters, marked, told⟩ := @same_minutes_told policy 31 rfl (Fortune Record)
    (Fortune.answer fun _ => Record.perform) s ⟨0, message⟩
  obtain ⟨mail, reply, mailed, replied, html⟩ := told unhindered
  obtain ⟨issued, later, looked', named⟩ := letters mail (by rw [mailed]; exact List.mem_cons_self)
  obtain ⟨-, text⟩ := marked reply (by rw [replied]; exact List.mem_cons_self) html
  cases looked.symm.trans looked'
  rw [address] at text
  exact ⟨rfl, unhindered, looked, mail, reply, mailed, replied,
    named (by decide +kernel) (by decide +kernel), text⟩

end Registration

end Registrar
