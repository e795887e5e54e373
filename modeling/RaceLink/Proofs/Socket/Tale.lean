import RaceLink.Socket.Session

/-!
# What happens to a session

Messages arrive at a session, its stream ends, texts are sent, one waits for a text and gives up or
not, and closes.  A wait is made of looks at the stream and of pings; what each of them keeps is
kept by the whole.

* `Tale` — a session, all that arrived, and what came of waiting and of closing.
* `Session.sending` — a session with other things in the line, the same to those who read.
* `Session.Looks`, `Session.looks` — all that can come of one look at the stream.
* `Session.nextAmid_spec` — **the rule for a whole wait**.
* `Session.write_cases` — what is sent changes nothing for those who read.
* `Session.glance_refused`, `Session.ping_refused` — what comes of an answer or a ping that the
  stream does not take.
-/

set_option autoImplicit false

namespace RaceLink
namespace Socket

namespace Message

/-- Whether a message closes the connection. -/
def isClose : Message → Bool
  | close _ => true
  | _ => false

/-- Whether one of the messages closes the connection. -/
def closes (ms : List Message) : Bool := ms.any isClose

@[simp] theorem closes_append (ms ms' : List Message) :
    closes (ms ++ ms') = (closes ms || closes ms') :=
  List.any_append

@[simp] theorem closes_cons (m : Message) (ms : List Message) :
    closes (m :: ms) = (m.isClose || closes ms) :=
  List.any_cons

end Message

open Message (closes)

/-! ## Tales -/

/-- What can happen to a session, at either end. -/
inductive Move where
  | arrive (m : Message)
  /-- The stream ends after what has arrived. -/
  | vanish
  /-- From now on, writing to the stream fails. -/
  | breakOff (reason : String)
  /-- A text is sent from here. -/
  | send (t : String)
  /-- One waits for a text, and goes on, or gives up and does something else, once there is nothing
  to do for now.  It makes no difference which: what waits keeps nothing for itself. -/
  | next (turns : List Session.Turn)
  | close
  deriving DecidableEq, Repr

/-- A run of a session: what it has come to, and what has happened to it. -/
structure Tale where
  /-- The session as it is now. -/
  session : Session
  /-- What has arrived before the stream ended. -/
  arrived : List Message
  /-- What came of waiting, the first thing first. -/
  heard : List Session.Next
  /-- What came of closing. -/
  closings : List (Except Fault Unit)

namespace Session.Next

/-- Whether something came of waiting. -/
def isOutcome : Next → Bool
  | waiting => false
  | _ => true

/-- The text, if it is one. -/
def text? : Next → Option String
  | text t => some t
  | _ => none

end Session.Next

namespace Tale

/-- The tale of a session that has just been opened. -/
def start : Tale := ⟨.opened, [], [], []⟩

/-- The tale after one has waited for a text. -/
def hear (t : Tale) : Session.Next × Session → Tale
  | (n, s) => { t with session := s, heard := t.heard ++ [n].filter (·.isOutcome) }

/-- The tale after one more thing. -/
def move (t : Tale) : Move → Tale
  | .arrive m =>
    { t with
      session := t.session.arrive m
      arrived := if t.session.gone then t.arrived else t.arrived ++ [m] }
  | .vanish => { t with session := t.session.vanish }
  | .breakOff reason => { t with session := t.session.breakOff reason }
  | .send text => { t with session := (t.session.send text).1 }
  | .next turns => t.hear (t.session.nextAmid turns)
  | .close =>
    { t with
      session := t.session.close.1
      closings := t.closings ++ [t.session.close.2] }

/-- The tale after all that has happened. -/
def run (t : Tale) (ms : List Move) : Tale := ms.foldl move t

/-- The tale of a session from its beginning. -/
def of (ms : List Move) : Tale := start.run ms

end Tale

/-! ## One look, and a whole wait -/

namespace Message

/-- What comes of a message for one who waits for a text. -/
def outcome? : Message → Option Session.Next
  | text t => some (.text t)
  | close _ => some .closed
  | _ => none

end Message

namespace Session

/-- Whether an answer is due, or in the line. -/
def Owes (s : Session) : Prop := s.reply ≠ none ∨ s.unflushed = true

/-- A session with other things in the line. -/
def sending (s : Session) (sent : List Message) (reply : Option Message) (unflushed : Bool) :
    Session :=
  { s with sent := sent, reply := reply, unflushed := unflushed }

/-- All that can come of one look at the stream, and how it leaves the session. -/
inductive Looks (s : Session) : Option Next → Session → Prop
  /-- An end was found before. -/
  | ended (ended : s.ended = true) : Looks s (some .closed) s
  /-- The connection was over before. -/
  | terminated (stage : s.stage = .terminated) : Looks s (some .closed) { s with ended := true }
  /-- An answer is due, and it is not taken. -/
  | refused {reason : String} (stage : s.stage ≠ .terminated) (broken : s.broken = some reason)
      (owes : s.Owes) :
      Looks s (some (.failed (Trouble.refused reason).fault))
        { s with reply := none, ended := true }
  | message {m : Message} {rest : List Message} (sent : List Message) (unflushed : Bool)
      (live : s.ended = false) (stage : s.stage.canRead = true) (inbox : s.inbox = m :: rest)
      (owes : unflushed = true → s.Owes) :
      Looks s m.outcome? (({ s with inbox := rest }.sending sent none unflushed).receive m)
  /-- Something arrived after a closing message. -/
  | late {m : Message} {rest : List Message} (sent : List Message) (unflushed : Bool)
      (stage : s.stage.canRead = false) (there : s.stage ≠ .terminated)
      (inbox : s.inbox = m :: rest) :
      Looks s (some (.failed Trouble.receivedAfterClosing.fault))
        ({ s with inbox := rest, ended := true }.sending sent none unflushed)
  /-- The stream ended without a closing message. -/
  | reset (sent : List Message) (unflushed : Bool) (stage : s.stage.canRead = true)
      (inbox : s.inbox = []) (gone : s.gone = true) :
      Looks s (some (.failed Trouble.reset.fault))
        ({ s with stage := .terminated, ended := true }.sending sent none unflushed)
  /-- The stream ended as it should. -/
  | parted (sent : List Message) (unflushed : Bool) (stage : s.stage.canRead = false)
      (there : s.stage ≠ .terminated) (inbox : s.inbox = []) (gone : s.gone = true) :
      Looks s (some .closed)
        ({ s with stage := .terminated, ended := true }.sending sent none unflushed)
  | nothing (sent : List Message) (unflushed : Bool) (live : s.ended = false)
      (there : s.stage ≠ .terminated) (inbox : s.inbox = []) (gone : s.gone = false)
      (owes : unflushed = true → s.Owes) :
      Looks s (some .waiting) (s.sending sent none unflushed)

@[simp] theorem inbox_receive (s : Session) (m : Message) : (s.receive m).inbox = s.inbox := by
  cases m <;> simp only [receive] <;> split <;> rfl

/-- A ping is to be answered. -/
theorem receive_ping {s : Session} (bytes : List UInt8) (h : s.stage = .active) :
    s.receive (.ping bytes) = { s with reply := some (.pong bytes) } := if_pos h

/-- The closing message of the far end is to be answered. -/
theorem receive_close {s : Session} (why : Option Closing) (h : s.stage = .active) :
    s.receive (.close why) =
      { s with stage := .closedThere, reply := some (.close (why.map Closing.echo)) } := if_pos h

theorem flush_cases (s : Session) (blocked : Bool) :
    (∃ sent unflushed, s.flush blocked = (none, s.sending sent none unflushed) ∧
      (unflushed = true → s.Owes)) ∨
      ∃ reason, s.broken = some reason ∧ s.Owes ∧
        s.flush blocked = (some (.refused reason), { s with reply := none }) := by
  rw [flush]
  split
  · rename_i hnone
    refine .inl ⟨s.sent, s.unflushed, ?_, .inr⟩
    rw [sending, ← hnone.1]
  · rename_i howes
    rw [Classical.not_and_iff_not_or_not, Bool.not_eq_false] at howes
    split
    · rename_i reason hbroken
      exact .inr ⟨reason, hbroken, howes, rfl⟩
    · exact .inl ⟨_, blocked, rfl, fun _ => howes⟩

/-- An answer that is due and not taken is what the reading comes to. -/
theorem glance_refused {s : Session} {reason : String} (stage : s.stage = .active)
    (live : s.ended = false) (broken : s.broken = some reason) (owes : s.Owes) (blocked : Bool) :
    s.glance blocked = (some (.failed (Trouble.refused reason).fault),
      { s with reply := none, ended := true }) := by
  have hstage : s.stage ≠ .terminated := by rw [stage]; exact Stage.noConfusion
  obtain ⟨sent, unflushed, hflush, -⟩ | ⟨reason', hbroken, -, hflush⟩ := s.flush_cases blocked
  · rw [flush, broken, if_neg] at hflush
    · cases hflush
    · rw [Classical.not_and_iff_not_or_not, Bool.not_eq_false]
      exact owes
  · obtain rfl := Option.some_inj.mp (broken.symm.trans hbroken)
    rw [glance, live, if_neg Bool.false_ne_true, look, if_neg hstage, hflush]
    rfl

theorem looks {s s' : Session} {blocked : Bool} {o : Option Next}
    (h : s.glance blocked = (o, s')) : s.Looks o s' := by
  suffices hlooks : s.Looks (s.glance blocked).1 (s.glance blocked).2 by
    rw [h] at hlooks
    exact hlooks
  rw [glance]
  cases hended : s.ended with
  | true => exact .ended hended
  | false =>
    rw [if_neg Bool.false_ne_true, look]
    by_cases hstage : s.stage = .terminated
    · rw [if_pos hstage]
      exact .terminated hstage
    rw [if_neg hstage]
    obtain ⟨sent, unflushed, hflush, howes⟩ | ⟨reason, hbroken, howes, hflush⟩ :=
      s.flush_cases blocked
    · rw [hflush]
      obtain ⟨stage, ended, _ | ⟨m, rest⟩, _ | _, broken, reply, unflushed', sent'⟩ := s
      · exact .nothing sent unflushed hended hstage rfl rfl howes
      · cases hread : stage.canRead with
        | true =>
          simp only [pull, sending, hread]
          exact .reset sent unflushed hread rfl rfl
        | false =>
          simp only [pull, sending, hread]
          exact .parted sent unflushed hread hstage rfl rfl
      all_goals
        cases hread : stage.canRead with
        | true =>
          have h := Looks.message sent unflushed hended hread rfl howes
          simp only [pull, sending, hread]
          cases m <;> exact h
        | false =>
          simp only [pull, sending, hread]
          exact .late sent unflushed hread hstage rfl
    · rw [hflush]
      exact .refused hstage hbroken howes

/-- What is passed over is gone from the inbox. -/
theorem Looks.shorter {s s' : Session} (h : s.Looks none s') :
    s'.inbox.length < s.inbox.length := by
  generalize ho : (none : Option Next) = o at h
  cases h with
  | message sent unflushed live stage inbox =>
    rw [inbox, inbox_receive]
    exact Nat.lt_succ_self _
  | _ => cases ho

/-- Whether one waits in a turn until the stream takes what is in the line. -/
def Turn.hinders : Turn → Bool
  | queued => true
  | held => true
  | _ => false

/-- Whether a ping is sent in a turn. -/
def Turn.pings : Turn → Bool
  | ping => true
  | queued => true
  | _ => false

/-- What holds after a turn: one thing if it came to something, and another if one goes on. -/
def Leads (P : Session → Prop) (Q : Next → Session → Prop) : Option Next × Session → Prop
  | (some n, s) => Q n s
  | (none, s) => P s

section Wait

variable {P : Session → Prop} {Q : Next → Session → Prop}

theorem nextWithin_spec (hglance : ∀ s, P s → Leads P Q (s.glance false)) {fuel : Nat}
    {s : Session} (hfuel : s.inbox.length < fuel) (h : P s) :
    Q (nextWithin fuel s).1 (nextWithin fuel s).2 := by
  induction fuel generalizing s with
  | zero => exact absurd hfuel (Nat.not_lt_zero _)
  | succ fuel ih =>
    have hleads := hglance s h
    rw [nextWithin]
    cases hs : s.glance false with
    | mk o s' =>
      rw [hs] at hleads
      cases o with
      | none => exact ih (Nat.lt_of_lt_of_le (looks hs).shorter (Nat.le_of_lt_succ hfuel)) hleads
      | some n => exact hleads

/-- **A whole wait.**  What each look and each ping keeps, until one of them comes to something, is
so for the whole of it; it comes to nothing only if a look does, or if a turn hinders it. -/
theorem nextAmid_spec (turns : List Turn)
    (hglance : ∀ blocked s, P s → Leads P Q (s.glance blocked))
    (hping : ∀ blocked s, (∃ turn ∈ turns, turn.pings = true) → P s →
      Leads P Q (s.ping blocked))
    (hhinder : ∀ s, (∃ turn ∈ turns, turn.hinders = true) → P s → Q .waiting s) {s : Session}
    (h : P s) : Q (s.nextAmid turns).1 (s.nextAmid turns).2 := by
  induction turns generalizing s with
  | nil => exact nextWithin_spec (hglance false) (Nat.lt_succ_self _) h
  | cons turn rest ih =>
    have hrest : ∀ s, P s → Q (nextAmid rest s).1 (nextAmid rest s).2 := fun s h =>
      ih (fun blocked s hp => hping blocked s (hp.imp fun _ => And.imp_left (.tail turn)))
        (fun s hh => hhinder s (hh.imp fun _ => And.imp_left (.tail turn))) h
    have hgo : ∀ r : Option Next × Session, Leads P Q r →
        Q (match r with | (some n, s) => (n, s) | (none, s) => nextAmid rest s).1
          (match r with | (some n, s) => (n, s) | (none, s) => nextAmid rest s).2 := by
      rintro ⟨_ | n, s'⟩ hleads
      · exact hrest s' hleads
      · exact hleads
    rw [nextAmid]
    cases turn with
    | stream => exact hgo _ (hglance false s h)
    | blocked => exact hgo _ (hglance true s h)
    | ping => exact hgo _ (hping false s ⟨_, .head rest, rfl⟩ h)
    | queued =>
      have hleads := hping true s ⟨_, .head rest, rfl⟩ h
      rw [turn]
      generalize s.ping true = r at hleads
      obtain ⟨_ | n, s'⟩ := r
      · exact hhinder s' ⟨_, .head rest, rfl⟩ hleads
      · exact hleads
    | held => exact hhinder s ⟨_, .head rest, rfl⟩ h

end Wait

/-- What is sent and is no closing message leaves the session as it is to those who read. -/
theorem write_cases (s : Session) (blocked : Bool) {m : Message} (hm : m.isClose = false) :
    ∃ sent reply unflushed trouble,
      s.write blocked m = (s.sending sent reply unflushed, trouble) ∧
        ((s.sending sent reply unflushed).Owes → s.Owes) ∧
        (trouble = none ∨ s.stage ≠ .active ∨
          ∃ reason, s.broken = some reason ∧ trouble = some (.refused reason)) := by
  have hbegun : s.begun m = s.stage := by
    cases m with
    | close why => cases hm
    | _ => rfl
  rw [write, hbegun]
  split
  · rename_i hstage
    refine ⟨s.sent, s.reply, s.unflushed, _, rfl, id, .inr (.inl ?_)⟩
    rw [hstage]
    exact Stage.noConfusion
  · dsimp only
    split
    · rename_i reason hbroken
      exact ⟨s.sent, none, s.unflushed, _, rfl, .imp (absurd rfl) id,
        .inr (.inr ⟨reason, hbroken, rfl⟩)⟩
    · exact ⟨_, none, blocked && s.unflushed, none, rfl,
        .imp (absurd rfl) (And.right ∘ Bool.and_eq_true_iff.mp), .inl rfl⟩
  · rename_i hstage
    exact ⟨s.sent, s.reply, s.unflushed, _, rfl, id, .inr (.inl hstage)⟩

theorem send_session (s : Session) (t : String) :
    ∃ sent reply unflushed, (s.send t).1 = s.sending sent reply unflushed ∧
      ((s.sending sent reply unflushed).Owes → s.Owes) := by
  obtain ⟨sent, reply, unflushed, trouble, hwrite, howes, -⟩ :=
    s.write_cases false (m := .text t) rfl
  refine ⟨sent, reply, unflushed, ?_, howes⟩
  rw [send, hwrite]

/-- A ping is sent and one goes on, or the stream refuses it, unless somebody has closed. -/
theorem ping_cases (s : Session) (blocked : Bool) :
    ∃ sent reply unflushed o, s.ping blocked = (o, s.sending sent reply unflushed) ∧
      ((s.sending sent reply unflushed).Owes → s.Owes) ∧
      (o = none ∨ s.stage ≠ .active ∧ (∃ trouble : Trouble, o = some (.failed trouble.fault)) ∨
        ∃ reason, s.broken = some reason ∧ o = some (.failed (Trouble.refused reason).fault)) := by
  obtain ⟨sent, reply, unflushed, trouble, hwrite, howes, hwhy⟩ :=
    s.write_cases blocked (m := .ping []) rfl
  rw [ping, probe, hwrite]
  cases trouble with
  | none => exact ⟨sent, reply, unflushed, none, rfl, howes, .inl rfl⟩
  | some trouble =>
    refine ⟨sent, reply, unflushed, _, rfl, howes, .inr ?_⟩
    obtain hnone | hstage | ⟨reason, hbroken, htrouble⟩ := hwhy
    · cases hnone
    · exact .inl ⟨hstage, trouble, rfl⟩
    · cases htrouble
      exact .inr ⟨reason, hbroken, rfl⟩

/-- A ping that the stream does not take. -/
theorem ping_refused {s : Session} {reason : String} (stage : s.stage = .active)
    (broken : s.broken = some reason) (blocked : Bool) :
    s.ping blocked =
      (some (.failed (Trouble.refused reason).fault), s.sending s.sent none s.unflushed) := by
  obtain ⟨_, ended, inbox, gone, _, reply, unflushed, sent⟩ := s
  obtain rfl := stage
  obtain rfl := broken
  rfl

end Session
end Socket
end RaceLink
