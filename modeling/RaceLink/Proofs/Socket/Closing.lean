import RaceLink.Proofs.Socket.Tale

/-!
# Closing more than once

A connection can be closed once, by either end.  Whoever closes it again before the stream below it
has ended is told that nothing may be sent any more, as for any other message; only when the end of
the stream was found is closing no failure.

* `Session.close_terminated`, `Session.close_active`, `Session.close_begun` — what closing does, for
  each stage.
* `Tale.Begun` — one of the ends has begun to close.
* `Tale.Kept` — how the stage of a session follows from what has happened; everything that can
  happen keeps it so (`Kept.move`).
* `Tale.Closes`, `Tale.closes_lawfully` — **the law**, after everything that can happen to a
  session.
-/

set_option autoImplicit false

namespace RaceLink
namespace Socket

open Message (closes)

namespace Session

/-! ## What closing does -/

/-- What is over can be closed. -/
theorem close_terminated {s : Session} (h : s.stage = .terminated) : s.close = (s, .ok ()) := by
  rw [close, write, h]
  rfl

/-- The closing message is sent, and nothing may be sent after it, even if it was refused. -/
theorem close_active {s : Session} (h : s.stage = .active) :
    ∃ sent unflushed, s.close =
      ({ s with stage := .closedHere }.sending sent none unflushed,
        outcome (s.broken.map .refused)) ∧ (s.broken = none → .close none ∈ sent) := by
  rw [close, write, h]
  dsimp only [begun]
  cases hbroken : s.broken with
  | none => exact ⟨_, _, rfl, fun _ => List.mem_append_right _ List.mem_cons_self⟩
  | some reason =>
    exact ⟨s.sent, s.unflushed, rfl, fun hnone => absurd hnone (Option.some_ne_none _)⟩

/-- What has begun to close can not be closed again. -/
theorem close_begun {s : Session} (h : s.stage ≠ .active) (h' : s.stage ≠ .terminated) :
    s.close = (s, .error Trouble.sendAfterClosing.fault) := by
  rw [close, write]
  cases hstage : s.stage with
  | active => exact absurd hstage h
  | terminated => exact absurd hstage h'
  | _ => rfl

/-- The stage after a message that was read. -/
theorem stage_receive (s : Session) (m : Message) :
    (s.receive m).stage =
      if m.isClose then if s.stage = .active then .closedThere else .acknowledged
      else s.stage := by
  cases m with
  | ping bytes =>
    rw [receive]
    split <;> rfl
  | close why =>
    rw [receive]
    split <;> rfl
  | _ => rfl

theorem receive_active_iff (s : Session) (m : Message) :
    (s.receive m).stage = .active ↔ s.stage = .active ∧ m.isClose = false := by
  rw [stage_receive]
  cases m.isClose with
  | false => exact (and_iff_left rfl).symm
  | true =>
    refine ⟨fun h => ?_, fun h => nomatch h.2⟩
    rw [if_pos rfl] at h
    split at h <;> cases h

/-- A message does not end the stream. -/
theorem receive_there {s : Session} (h : s.stage ≠ .terminated) (m : Message) :
    (s.receive m).stage ≠ .terminated := by
  rw [stage_receive]
  split
  · split <;> exact Stage.noConfusion
  · exact h

/-- Waiting keeps what one look keeps and what has nothing to do with sending. -/
theorem nextAmid_keeps {P : Session → Prop} (hglance : ∀ blocked s, P s → P (s.glance blocked).2)
    (hsending : ∀ s sent reply unflushed, P s → P (s.sending sent reply unflushed)) {s : Session}
    (h : P s) (turns : List Turn) : P (s.nextAmid turns).2 := by
  have hleads : ∀ r : Option Next × Session, P r.2 → Leads P (fun _ => P) r := by
    rintro ⟨_ | n, s'⟩ h
    · exact h
    · exact h
  refine nextAmid_spec (Q := fun _ => P) turns (fun blocked s h => hleads _ (hglance blocked s h))
    (fun blocked s _ h => hleads _ ?_) (fun s _ h => h) h
  obtain ⟨sent, reply, unflushed, o, hping, -⟩ := s.ping_cases blocked
  rw [hping]
  exact hsending s sent reply unflushed h

end Session

namespace Tale

open Session (Next Turn)

/-- What was read of all that arrived. -/
def taken (t : Tale) : List Message := t.arrived.take (t.arrived.length - t.session.inbox.length)

/-- One of the ends has begun to close: it was tried from here, or the closing message of the far
end was read. -/
def Begun (t : Tale) : Prop := t.closings ≠ [] ∨ closes t.taken = true

/-- What comes of closing. -/
structure Closes (t : Tale) : Prop where
  /-- The connection is over only once the end of the stream was found. -/
  finished : t.session.stage = .terminated → t.session.gone = true ∧ t.session.inbox = []
  /-- Then it can be closed any number of times. -/
  again : t.session.stage = .terminated → t.session.close = (t.session, .ok ())
  /-- If nobody has begun to close, the closing message is sent, unless the stream does not take
  it. -/
  fresh : t.session.stage ≠ .terminated → ¬t.Begun →
    t.session.close.1.stage = .closedHere ∧
      t.session.close.2 = Session.outcome (t.session.broken.map .refused) ∧
      (t.session.broken = none → .close none ∈ t.session.close.1.sent)
  /-- If an end has begun to close, it is a failure to close again, however often it is tried, and
  nothing changes. -/
  begun : t.session.stage ≠ .terminated → t.Begun → ∀ k : Nat,
    t.run (List.replicate k .close) =
      { t with
        closings := t.closings ++ List.replicate k (.error Trouble.sendAfterClosing.fault) }

/-! ## How the stage follows -/

/-- The stage of a session, given what was read of all that arrived. -/
structure Kept (t : Tale) (read : List Message) : Prop where
  arrived : t.arrived = read ++ t.session.inbox
  active : t.session.stage = .active → t.closings = [] ∧ closes read = false
  begun : t.session.stage ≠ .active →
    t.session.stage = .terminated ∨ t.closings ≠ [] ∨ closes read = true
  finished : t.session.stage = .terminated → t.session.gone = true ∧ t.session.inbox = []

theorem Kept.taken {t : Tale} {read : List Message} (h : t.Kept read) : t.taken = read := by
  rw [Tale.taken, h.arrived, List.length_append, Nat.add_sub_cancel, List.take_left]

theorem kept_start : start.Kept [] :=
  ⟨rfl, fun _ => ⟨rfl, rfl⟩, fun h => absurd rfl h, fun h => nomatch h⟩

/-- Sending anything else changes nothing. -/
theorem Kept.sending {t : Tale} {read : List Message} (h : t.Kept read) (sent : List Message)
    (reply : Option Message) (unflushed : Bool) :
    { t with session := t.session.sending sent reply unflushed }.Kept read :=
  ⟨h.arrived, h.active, h.begun, h.finished⟩

/-- A message is read, and the connection goes on. -/
theorem Kept.message {t : Tale} {s : Session} {read : List Message} {m : Message}
    (h : t.Kept read) (hinbox : t.session.inbox = m :: s.inbox)
    (hthere : t.session.stage ≠ .terminated) (hthere' : s.stage ≠ .terminated)
    (hactive : s.stage = .active ↔ t.session.stage = .active ∧ m.isClose = false) :
    { t with session := s }.Kept (read ++ [m]) := by
  have hcloses : closes (read ++ [m]) = (closes read || m.isClose) := by
    rw [Message.closes_append, Message.closes_cons]
    exact congrArg _ (Bool.or_false _)
  refine ⟨?_, fun hs => ?_, fun hs => .inr ?_, fun hs => absurd hs hthere'⟩
  · exact (h.arrived.trans (congrArg (read ++ ·) hinbox)).trans (List.append_cons read m s.inbox)
  · obtain ⟨hstage, hm⟩ := hactive.1 hs
    obtain ⟨hnone, hread⟩ := h.active hstage
    exact ⟨hnone, by rw [hcloses, hread, hm]; rfl⟩
  · rw [hcloses, Bool.or_eq_true, ← or_assoc]
    by_cases hstage : t.session.stage = .active
    · -- it was this message that closed it
      exact .inr (eq_true_of_ne_false fun hm => hs (hactive.2 ⟨hstage, hm⟩))
    · exact .inl ((h.begun hstage).resolve_left hthere)

/-- The end of the stream is found. -/
theorem Kept.finish {t : Tale} {s : Session} {read : List Message} (h : t.Kept read)
    (hinbox : s.inbox = t.session.inbox) (hstage : s.stage = .terminated) (hgone : s.gone = true)
    (hempty : s.inbox = []) : { t with session := s }.Kept read := by
  refine ⟨h.arrived.trans (congrArg (read ++ ·) hinbox.symm), fun hs => ?_, fun _ => .inl hstage,
    fun _ => ⟨hgone, hempty⟩⟩
  exact Stage.noConfusion (hs.symm.trans hstage)

/-- One look keeps it so. -/
theorem Kept.glance {t : Tale} {read : List Message} (h : t.Kept read) (blocked : Bool) :
    ∃ read', { t with session := (t.session.glance blocked).2 }.Kept read' := by
  obtain ⟨⟨o, s'⟩, hs⟩ : ∃ r, t.session.glance blocked = r := ⟨_, rfl⟩
  rw [hs]
  cases Session.looks hs with
  | @message m rest sent unflushed live stage inbox =>
    have hthere : t.session.stage ≠ .terminated := fun hover =>
      Bool.false_ne_true ((congrArg Stage.canRead hover).symm.trans stage)
    let s : Session := { t.session with inbox := rest }.sending sent none unflushed
    exact ⟨read ++ [m], h.message (inbox.trans (congrArg (m :: ·) (s.inbox_receive m).symm)) hthere
      (Session.receive_there (s := s) hthere m) (s.receive_active_iff m)⟩
  | @late m rest sent unflushed stage there inbox =>
    -- it had begun before, and what is read now does not count
    have hbegun : t.session.stage ≠ .active := fun hactive =>
      Bool.false_ne_true (stage.symm.trans (congrArg Stage.canRead hactive))
    exact ⟨read ++ [m], h.message inbox there there
      ⟨fun hactive => absurd hactive hbegun, fun hactive => absurd hactive.1 hbegun⟩⟩
  | reset sent unflushed stage inbox gone => exact ⟨read, h.finish rfl rfl gone inbox⟩
  | parted sent unflushed stage there inbox gone => exact ⟨read, h.finish rfl rfl gone inbox⟩
  | _ => exact ⟨read, h.arrived, h.active, h.begun, h.finished⟩

theorem Kept.arrive {t : Tale} {read : List Message} (h : t.Kept read) (m : Message) :
    (t.move (.arrive m)).Kept read := by
  rw [Tale.move, Session.arrive]
  cases hgone : t.session.gone with
  | true => exact h
  | false =>
    refine ⟨?_, h.active, h.begun, fun hover => ?_⟩
    · exact (congrArg (· ++ [m]) h.arrived).trans (List.append_assoc _ _ _)
    · exact absurd (hgone.symm.trans (h.finished hover).1) Bool.false_ne_true

theorem Kept.next {t : Tale} {read : List Message} (h : t.Kept read) (turns : List Turn) :
    ∃ read', (t.move (.next turns)).Kept read' := by
  obtain ⟨read', h'⟩ := Session.nextAmid_keeps
    (P := fun s => ∃ read', { t with session := s }.Kept read')
    (fun blocked _ ⟨_, h⟩ => h.glance blocked)
    (fun _ sent reply unflushed ⟨read', h⟩ => ⟨read', h.sending sent reply unflushed⟩) ⟨read, h⟩
    turns
  exact ⟨read', h'.arrived, h'.active, h'.begun, h'.finished⟩

theorem Kept.close {t : Tale} {read : List Message} (h : t.Kept read) :
    (t.move .close).Kept read := by
  have hclosings : ∀ e : Except Fault Unit, t.closings ++ [e] ≠ [] := fun e =>
    List.append_ne_nil_of_right_ne_nil _ (List.cons_ne_nil e [])
  by_cases hover : t.session.stage = .terminated
  · rw [Tale.move, Session.close_terminated hover]
    exact ⟨h.arrived, fun hactive => Stage.noConfusion (hover.symm.trans hactive),
      fun _ => .inl hover, h.finished⟩
  by_cases hactive : t.session.stage = .active
  · obtain ⟨sent, unflushed, hclose, -⟩ := Session.close_active hactive
    rw [Tale.move, hclose]
    exact ⟨h.arrived, Stage.noConfusion, fun _ => .inr (.inl (hclosings _)), Stage.noConfusion⟩
  · rw [Tale.move, Session.close_begun hactive hover]
    exact ⟨h.arrived, fun h => absurd h hactive, fun _ => .inr (.inl (hclosings _)), h.finished⟩

/-- **Everything** keeps it so. -/
theorem Kept.move {t : Tale} {read : List Message} (h : t.Kept read) (m : Move) :
    ∃ read', (t.move m).Kept read' := by
  cases m with
  | arrive m => exact ⟨read, h.arrive m⟩
  | vanish => exact ⟨read, h.arrived, h.active, h.begun, fun hover => ⟨rfl, (h.finished hover).2⟩⟩
  | breakOff reason => exact ⟨read, h.arrived, h.active, h.begun, h.finished⟩
  | send text =>
    obtain ⟨sent, reply, unflushed, hsend, -⟩ := t.session.send_session text
    rw [Tale.move, hsend]
    exact ⟨read, h.sending sent reply unflushed⟩
  | next turns => exact h.next turns
  | close => exact ⟨read, h.close⟩

/-! ## The law -/

theorem run_close {t : Tale} (h : t.session.stage ≠ .active) (h' : t.session.stage ≠ .terminated)
    (k : Nat) :
    t.run (List.replicate k .close) =
      { t with
        closings := t.closings ++ List.replicate k (.error Trouble.sendAfterClosing.fault) } := by
  induction k generalizing t with
  | zero => exact congrArg (Tale.mk t.session t.arrived t.heard) (List.append_nil t.closings).symm
  | succ k ih =>
    have hmove : t.move .close =
        { t with closings := t.closings ++ [.error Trouble.sendAfterClosing.fault] } := by
      rw [move, Session.close_begun h h']
    rw [List.replicate_succ]
    show (t.move .close).run (List.replicate k .close) = _
    have hrest := ih (t := t.move .close) (by rw [hmove]; exact h) (by rw [hmove]; exact h')
    rw [hrest, hmove, List.replicate_succ]
    exact congrArg (Tale.mk t.session t.arrived t.heard) (List.append_assoc _ _ _)

theorem Kept.closes {t : Tale} {read : List Message} (h : t.Kept read) : t.Closes := by
  refine ⟨h.finished, Session.close_terminated, fun hthere hfresh => ?_, fun hthere hbegun k => ?_⟩
  · have hactive : t.session.stage = .active := Classical.byContradiction fun hne => by
      have hbegun := (h.begun hne).resolve_left hthere
      rw [← h.taken] at hbegun
      exact hfresh hbegun
    obtain ⟨sent, unflushed, hclose, hsent⟩ := Session.close_active hactive
    rw [hclose]
    exact ⟨rfl, rfl, hsent⟩
  · refine run_close (fun hactive => ?_) hthere k
    obtain ⟨hnone, hread⟩ := h.active hactive
    rw [← h.taken] at hread
    exact hbegun.elim (fun hsome => hsome hnone)
      fun hclosed => Bool.false_ne_true (hread.symm.trans hclosed)

/-- **The law.**  Closing succeeds before anybody has closed, if the stream takes the message, and
once the end of the stream was found.  In between it fails each time, and changes nothing. -/
theorem closes_lawfully (ms : List Move) : (of ms).Closes := by
  suffices hrun : ∀ t : Tale, (∃ read, t.Kept read) → ∃ read, (t.run ms).Kept read by
    obtain ⟨read, h⟩ := hrun start ⟨[], kept_start⟩
    exact h.closes
  induction ms with
  | nil => exact fun t ht => ht
  | cons m ms ih => exact fun t ⟨_, ht⟩ => ih (t.move m) (ht.move m)

/-- Closing fails after it has succeeded, and after the closing message of the far end was read. -/
theorem close_fails_begun :
    (¬∀ ms : List Move, .ok () ∈ (of ms).closings → (of ms).session.close.2 = .ok ()) ∧
      ¬∀ ms : List Move, .closed ∈ (of ms).heard → closes (of ms).taken = true →
        (of ms).session.close.2 = .ok () := by
  refine ⟨fun h => ?_, fun h => ?_⟩
  · have hok : (of [.close]).session.close.2 = .ok () := h [.close] List.mem_cons_self
    cases hok
  · have hok : (of [.arrive (.close none), .next []]).session.close.2 = .ok () :=
      h [.arrive (.close none), .next []] (by decide) (by decide)
    cases hok

end Tale
end Socket
end RaceLink
