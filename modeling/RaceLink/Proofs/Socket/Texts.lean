import RaceLink.Proofs.Socket.Tale

/-!
# Texts over a web socket

The texts that the far end sends are handed on one by one, in order and as they are, whatever else
arrives between them and whatever is sent meanwhile.  When no text is left, one who waits for
another is told how the connection ended: with a closing message, or without.

Writing to the stream can fail at any time, and one who waits is told of a write that failed also
while texts are left.  Which write it was makes the difference.  A ping that was due here does not
end the reading: the texts that are left are handed on to whoever waits again.  The answer to a ping
of the far end does: the texts that are left are lost.

* `Tale.AsSent` — just the texts are handed on, and then one is told how the connection ended.
* `Tale.Open`, `Tale.Over`, `Tale.Lost` — nothing has ended the reading yet; all was handed on and
  the end found; or the reading has ended with an answer that the stream did not take.
* `Tale.Brings` — what waiting brings while nothing has ended the reading.
* `Tale.Reads`, `Tale.Amid.glance`, `Tale.Amid.ping` — what is kept while texts are handed on, and
  that each look and each ping of a wait keeps it.
* `Tale.Amid.pinged`, `Tale.Amid.answered` — what a ping leaves, or an answer, that the stream does
  not take.
* `Tale.Delivered`, `Tale.texts_delivered` — **the law**, after everything that can happen to a
  session that is not closed from here.
* `Tale.failed_write_overtakes` — a write that fails is told of before texts that have arrived, or
  instead of them.
-/

set_option autoImplicit false

namespace RaceLink
namespace Socket

namespace Message

/-- The texts among messages.  What comes after a closing message does not count. -/
def texts (ms : List Message) : List String :=
  (ms.takeWhile fun m => !m.isClose).filterMap text?

theorem texts_cons (m : Message) (ms : List Message) :
    texts (m :: ms) = if m.isClose then [] else m.text?.toList ++ texts ms := by
  rw [texts, List.takeWhile_cons]
  cases m <;> rfl

/-- What comes last counts, unless a closing message came before. -/
theorem texts_concat (ms : List Message) (m : Message) :
    texts (ms ++ [m]) = texts ms ++ if closes ms then [] else m.text?.toList := by
  induction ms with
  | nil => cases m <;> rfl
  | cons m' ms ih =>
    rw [List.cons_append, texts_cons, texts_cons, ih, closes_cons]
    cases m'.isClose with
    | true => rfl
    | false => exact (List.append_assoc _ _ _).symm

/-- Whether a message is to be answered by a pong. -/
def isPing : Message → Bool
  | ping _ => true
  | _ => false

/-- Whether one of the messages is a ping. -/
def pings (ms : List Message) : Bool := ms.any isPing

@[simp] theorem pings_append (ms ms' : List Message) :
    pings (ms ++ ms') = (pings ms || pings ms') :=
  List.any_append

@[simp] theorem pings_cons (m : Message) (ms : List Message) :
    pings (m :: ms) = (m.isPing || pings ms) :=
  List.any_cons

end Message

open Message (closes texts pings)

namespace Session

/-! ## Sessions that hand on texts, and sessions that have run dry -/

/-- Nobody has closed, and nothing has ended the reading. -/
structure Reading (s : Session) : Prop where
  stage : s.stage = .active
  live : s.ended = false

/-- No text will be handed on any more. -/
def Dry (s : Session) : Prop := s.ended = true ∨ s.stage.canRead = false

theorem Dry.not_reading {s : Session} (h : s.Dry) : ¬s.Reading := fun hreads => by
  obtain hended | hread := h
  · exact absurd (hreads.live.symm.trans hended) Bool.false_ne_true
  · rw [hreads.stage] at hread
    cases hread

/-- Waiting brings no text any more, and the next wait will not either. -/
theorem Dry.nextAmid {s : Session} (h : s.Dry) (turns : List Turn) :
    (s.nextAmid turns).1.text? = none ∧ (s.nextAmid turns).2.Dry ∧
      (s.nextAmid turns).2.gone = s.gone ∧ (s.nextAmid turns).2.broken = s.broken := by
  refine nextAmid_spec (P := fun s' => s'.Dry ∧ s'.gone = s.gone ∧ s'.broken = s.broken)
    (Q := fun n s' => n.text? = none ∧ s'.Dry ∧ s'.gone = s.gone ∧ s'.broken = s.broken) turns ?_ ?_
    (fun s' _ h => ⟨rfl, h⟩) ⟨h, rfl, rfl⟩
  · intro blocked s' ⟨hs, hkept⟩
    obtain ⟨⟨o, s''⟩, hs'⟩ : ∃ r, s'.glance blocked = r := ⟨_, rfl⟩
    rw [hs']
    cases looks hs' with
    | ended ended => exact ⟨rfl, hs, hkept⟩
    | nothing sent unflushed live there inbox gone => exact ⟨rfl, hs, hkept⟩
    | message sent unflushed live stage inbox =>
      obtain hended | hread := hs
      · exact absurd (live.symm.trans hended) Bool.false_ne_true
      · exact absurd (hread.symm.trans stage) Bool.false_ne_true
    | _ => exact ⟨rfl, .inl rfl, hkept⟩
  · intro blocked s' _ ⟨hs, hkept⟩
    obtain ⟨sent, reply, unflushed, o, hping, -, rfl | ⟨-, trouble, rfl⟩ | ⟨reason, -, rfl⟩⟩ :=
      s'.ping_cases blocked
    all_goals rw [hping]
    · exact ⟨hs, hkept⟩
    · exact ⟨rfl, hs, hkept⟩
    · exact ⟨rfl, hs, hkept⟩

/-- A write that failed, as one who waits is told of it. -/
def Next.IsRefusal (n : Next) : Prop := ∃ reason, n = .failed (Trouble.refused reason).fault

theorem Next.IsRefusal.no_text {n : Next} (h : n.IsRefusal) : n.text? = none := by
  obtain ⟨reason, rfl⟩ := h
  rfl

/-- Once the reading has ended before its time, waiting brings its end, or a ping that fails. -/
theorem nextAmid_ended {s : Session} (hstage : s.stage = .active) (hended : s.ended = true)
    (turns : List Turn) :
    ((s.nextAmid turns).1 = .waiting ∨ (s.nextAmid turns).1 = .closed ∨
        (s.nextAmid turns).1.IsRefusal) ∧
      (s.nextAmid turns).2.stage = .active ∧ (s.nextAmid turns).2.ended = true ∧
      (s.nextAmid turns).2.broken = s.broken := by
  refine nextAmid_spec
    (P := fun s' => s'.stage = .active ∧ s'.ended = true ∧ s'.broken = s.broken)
    (Q := fun n s' => (n = .waiting ∨ n = .closed ∨ n.IsRefusal) ∧
      s'.stage = .active ∧ s'.ended = true ∧ s'.broken = s.broken) turns ?_ ?_
    (fun s' _ h => ⟨.inl rfl, h⟩) ⟨hstage, hended, rfl⟩
  · intro blocked s' h
    rw [glance, if_pos h.2.1]
    exact ⟨.inr (.inl rfl), h⟩
  · intro blocked s' _ h
    obtain ⟨sent, reply, unflushed, o, hping, -, rfl | ⟨hne, -⟩ | ⟨reason, -, rfl⟩⟩ :=
      s'.ping_cases blocked
    · rw [hping]
      exact h
    · exact absurd h.1 hne
    · rw [hping]
      exact ⟨.inr (.inr ⟨reason, rfl⟩), h⟩

/-- What can come of waiting and does not end the reading: a text, or if writing to the stream
fails, a write that failed. -/
def Passing (s : Session) (n : Next) : Prop :=
  (∃ text, n = .text text) ∨ s.broken ≠ none ∧ n.IsRefusal

theorem Passing.same {s s' : Session} {n : Next} (h : s.Passing n)
    (hbroken : s'.broken = s.broken) : s'.Passing n :=
  h.imp_right (And.imp_left (hbroken ▸ ·))

theorem Passing.broke {s : Session} {n : Next} (h : s.Passing n) {reason : String} :
    (s.breakOff reason).Passing n :=
  h.imp_right (And.imp_left fun _ => Option.some_ne_none reason)

/-- As long as writing does not fail there are only texts. -/
theorem filterMap_passing {s : Session} (hbroken : s.broken = none) {ns : List Next}
    (h : ∀ n ∈ ns, s.Passing n) : (ns.filterMap (·.text?)).map .text = ns := by
  induction ns with
  | nil => rfl
  | cons n ns ih =>
    obtain ⟨text, rfl⟩ := (h n List.mem_cons_self).resolve_right fun hfails => hfails.1 hbroken
    exact congrArg (Next.text text :: ·) (ih fun n hn => h n (List.mem_cons_of_mem _ hn))

end Session

/-! ## The law -/

namespace Tale

open Session (Next Turn)

/-- The texts that were handed on. -/
def told (t : Tale) : List String := t.heard.filterMap (·.text?)

/-- How the connection ended for one who waits: with a closing message of the far end, or
without. -/
def Ending (t : Tale) (n : Next) : Prop :=
  if closes t.arrived then n = .closed
  else t.session.gone = true ∧ ∃ reason, n = .failed (.transport reason (some reason))

/-- What one who waits is to be told: the first text that was not handed on, or if there is none,
how the connection ended. -/
def Due (t : Tale) (n : Next) : Prop :=
  match (texts t.arrived)[t.told.length]? with
  | some text => n = .text text
  | none =>
    if closes t.arrived || t.session.gone then t.Ending n else n = .waiting

/-- Just the texts were handed on, and once all of them were, one is told how the connection
ended. -/
def AsSent (t : Tale) : Prop :=
  t.heard = t.told.map .text ∨
    t.told = texts t.arrived ∧ ∃ n rest, t.heard = t.told.map .text ++ n :: rest ∧ t.Ending n

/-- Nothing has ended the reading.  Besides texts, one was told at most of pings that failed. -/
structure Open (t : Tale) : Prop where
  session : t.session.Reading
  heard : ∀ n ∈ t.heard, t.session.Passing n

/-- All was handed on, and then one was told how the connection ended. -/
structure Over (t : Tale) : Prop where
  session : t.session.Dry
  heard : ∃ ns n rest, t.heard = ns ++ n :: rest ∧ (∀ n ∈ ns, t.session.Passing n) ∧
    ns.filterMap (·.text?) = texts t.arrived ∧ t.Ending n ∧ rest.filterMap (·.text?) = []

/-- The stream did not take the answer to a ping of the far end.  That has ended the reading, and
whoever waits after that is told of its end, or of a ping that fails. -/
structure Lost (t : Tale) : Prop where
  stage : t.session.stage = .active
  ended : t.session.ended = true
  broken : t.session.broken ≠ none
  asked : pings t.arrived = true
  heard : ∃ ns n rest, t.heard = ns ++ n :: rest ∧ (∀ n ∈ ns, t.session.Passing n) ∧
    ns.filterMap (·.text?) <+: texts t.arrived ∧ n.IsRefusal ∧
      ∀ n ∈ rest, n = .closed ∨ n.IsRefusal

/-- What waiting brings while nothing has ended the reading, and how it leaves the tale. -/
inductive Brings (t : Tale) (turns : List Turn) (t' : Tale) : Next → Prop
  | due {n : Next} (due : t.Due n) : Brings t turns t' n
  /-- One waits until something can be sent. -/
  | waiting (hinders : ∃ turn ∈ turns, turn.hinders = true) : Brings t turns t' .waiting
  /-- A ping fails, and all that is left can still be read. -/
  | pinged {reason : String} (broken : t.session.broken = some reason)
      (pings : ∃ turn ∈ turns, turn.pings = true) (after : t'.Open) :
      Brings t turns t' (.failed (Trouble.refused reason).fault)
  /-- An answer fails that was due or came to be, and all that is left is lost. -/
  | lost {reason : String} (broken : t.session.broken = some reason)
      (owes : t.session.Owes ∨ Message.pings t.session.inbox = true) (after : t'.Lost) :
      Brings t turns t' (.failed (Trouble.refused reason).fault)

/-- What those are told who wait for texts. -/
structure Delivered (t : Tale) : Prop where
  /-- The texts that were sent are handed on in order and as they are, and none is left out before
  another. -/
  told : t.told <+: texts t.arrived
  /-- As long as writing to the stream does not fail, just they are, and then one is told how the
  connection ended. -/
  whole : t.session.broken = none → t.AsSent
  /-- At any rate one is told of nothing else but writes that failed until then. -/
  heard : t.Open ∨ t.Over ∨ t.Lost
  /-- Whoever waits before the reading has ended is told what is due, unless nothing can be sent
  meanwhile, or a write fails. -/
  next : t.Open → ∀ turns : List Turn,
    t.Brings turns (t.move (.next turns)) (t.session.nextAmid turns).1
  /-- A ping that the stream does not take is told of at once, and the reading goes on. -/
  pinged : t.Open → ∀ reason, t.session.broken = some reason → ∀ (first : Turn) (rest : List Turn),
    first.pings = true →
    (t.session.nextAmid (first :: rest)).1 = .failed (Trouble.refused reason).fault ∧
      (t.move (.next (first :: rest))).Open
  /-- So is an answer, if one looks at the stream while it is due, and that ends the reading. -/
  answered : t.Open → ∀ reason, t.session.broken = some reason → t.session.Owes →
    ∀ turns : List Turn, (∀ first ∈ turns.head?, first.pings = false ∧ first.hinders = false) →
    (t.session.nextAmid turns).1 = .failed (Trouble.refused reason).fault ∧
      (t.move (.next turns)).Lost
  /-- Once the reading has ended, it stays so. -/
  final : ∀ m, m ≠ .close → (t.Over → (t.move m).Over) ∧ (t.Lost → (t.move m).Lost)

/-- What the far end sent is handed on, and what was not yet handed on is still to be read. -/
structure Reads (t : Tale) : Prop extends Open t where
  texts : t.told ++ texts t.session.inbox = texts t.arrived
  closes : closes t.session.inbox = closes t.arrived
  /-- Where an answer is due, there was a ping. -/
  asked : t.session.Owes ∨ pings t.session.inbox = true → pings t.arrived = true

theorem told_hear (t : Tale) (n : Next) (s : Session) :
    (t.hear (n, s)).told = t.told ++ n.text?.toList := by
  show (t.heard ++ [n].filter (·.isOutcome)).filterMap (·.text?) = _
  rw [List.filterMap_append]
  cases n <;> rfl

theorem ending_closed {t : Tale} (h : Message.closes t.arrived = true) : t.Ending .closed := by
  rw [Ending, if_pos h]

theorem ending_failed {t : Tale} (h : Message.closes t.arrived = false)
    (hgone : t.session.gone = true) (trouble : Trouble) : t.Ending (.failed trouble.fault) := by
  rw [Ending, if_neg (h ▸ Bool.false_ne_true)]
  exact ⟨hgone, trouble.message, rfl⟩

/-- What ended stays so. -/
theorem Ending.mono {t t' : Tale} {n : Next} (h : t.Ending n)
    (hcloses : Message.closes t'.arrived = Message.closes t.arrived)
    (hgone : t.session.gone = true → t'.session.gone = true) : t'.Ending n := by
  rw [Ending] at h ⊢
  rw [hcloses]
  split
  · rename_i hc
    exact (if_pos hc).mp h
  · rename_i hc
    obtain ⟨hg, hn⟩ := (if_neg hc).mp h
    exact ⟨hgone hg, hn⟩

theorem Ending.no_text {t : Tale} {n : Next} (h : t.Ending n) : n.text? = none := by
  rw [Ending] at h
  split at h
  · rw [h]
    rfl
  · obtain ⟨-, reason, rfl⟩ := h
    rfl

/-! ### Within a wait -/

/-- A tale in the middle of a wait: the session is `s` now. -/
structure Amid (t : Tale) (s : Session) : Prop where
  reads : { t with session := s }.Reads
  broken : s.broken = t.session.broken
  gone : s.gone = t.session.gone
  owes : s.Owes ∨ pings s.inbox = true → t.session.Owes ∨ pings t.session.inbox = true

/-- How a wait ends: what it brings, and that the law goes on. -/
def Ends (t : Tale) (turns : List Turn) (n : Next) (s : Session) : Prop :=
  t.Brings turns (t.hear (n, s)) n ∧
    ((t.hear (n, s)).Reads ∨ (t.hear (n, s)).Over ∨ (t.hear (n, s)).Lost)

section Amid

variable {t : Tale} {s : Session}

/-- While texts are handed on, the next one is the first that is still to be read. -/
theorem Amid.due_iff (h : t.Amid s) (n : Next) :
    t.Due n ↔ match Message.texts s.inbox with
      | text :: _ => n = .text text
      | [] =>
        if Message.closes s.inbox || s.gone then t.Ending n else n = .waiting := by
  have htexts : t.told ++ Message.texts s.inbox = Message.texts t.arrived := h.reads.texts
  have hcloses : Message.closes s.inbox = Message.closes t.arrived := h.reads.closes
  have hnext : (Message.texts t.arrived)[t.told.length]? = (Message.texts s.inbox).head? := by
    rw [← htexts, List.getElem?_append_right (Nat.le_refl _), Nat.sub_self, List.head?_eq_getElem?]
  rw [Due, hnext, hcloses, h.gone]
  cases Message.texts s.inbox <;> rfl

theorem Amid.sending (h : t.Amid s) (sent : List Message) (reply : Option Message)
    (unflushed : Bool) (howes : (s.sending sent reply unflushed).Owes → s.Owes) :
    t.Amid (s.sending sent reply unflushed) :=
  ⟨⟨⟨⟨h.reads.session.stage, h.reads.session.live⟩, h.reads.heard⟩, h.reads.texts,
    h.reads.closes, h.reads.asked ∘ .imp_left howes⟩, h.broken, h.gone, h.owes ∘ .imp_left howes⟩

/-- Nothing came of it, so the tale is as it was. -/
theorem Amid.still (h : t.Amid s) : (t.hear (.waiting, s)).Reads := by
  have heq : t.hear (.waiting, s) = { t with session := s } :=
    congrArg (Tale.mk s t.arrived · t.closings) (List.append_nil t.heard)
  exact heq ▸ h.reads

/-- The end is found once nothing is left to be read. -/
theorem Amid.over (h : t.Amid s) (turns : List Turn) {n : Next} {s' : Session} (hn : n.isOutcome)
    (htexts : Message.texts s.inbox = []) (hends : Message.closes s.inbox || s.gone)
    (hending : t.Ending n) (hdry : s'.Dry) (hgone : s'.gone = s.gone)
    (hbroken : s'.broken = s.broken) : t.Ends turns n s' := by
  have hall : t.told = Message.texts t.arrived := by
    have hkept : t.told ++ Message.texts s.inbox = Message.texts t.arrived := h.reads.texts
    rw [← hkept, htexts, List.append_nil]
  refine ⟨.due ((h.due_iff n).mpr ?_), .inr (.inl ⟨hdry, t.heard, n, [], ?_, fun n hn => ?_, hall,
    hending.mono rfl (hgone.trans h.gone).trans, rfl⟩)⟩
  · rw [htexts, if_pos hends]
    exact hending
  · show t.heard ++ [n].filter (·.isOutcome) = _
    rw [List.filter_cons_of_pos hn, List.filter_nil]
  · exact (h.reads.heard n hn).same hbroken

/-- The stream has ended, and there was no closing message. -/
theorem Amid.over_gone (h : t.Amid s) (turns : List Turn) {s' : Session} (hinbox : s.inbox = [])
    (hgone : s.gone = true) (trouble : Trouble) (hdry : s'.Dry) (hgone' : s'.gone = s.gone)
    (hbroken : s'.broken = s.broken) : t.Ends turns (.failed trouble.fault) s' := by
  have hcloses : Message.closes t.arrived = false := by
    rw [← show Message.closes s.inbox = Message.closes t.arrived from h.reads.closes, hinbox]
    rfl
  refine h.over turns rfl (by rw [hinbox]; rfl) (by rw [hgone, Bool.or_true]) ?_ hdry hgone' hbroken
  exact ending_failed hcloses (h.gone.symm.trans hgone) trouble

/-- A message is read that does not close the connection. -/
theorem Amid.message (h : t.Amid s) {m : Message} {rest : List Message}
    (hinbox : s.inbox = m :: rest) (hm : m.isClose = false) (sent : List Message)
    (reply : Option Message) (unflushed : Bool)
    (howes : ({ s with inbox := rest }.sending sent reply unflushed).Owes →
      s.Owes ∨ m.isPing = true) :
    { t with
      session := { s with inbox := rest }.sending sent reply unflushed
      heard := t.heard ++ m.text?.toList.map Next.text }.Reads := by
  have htold : (t.heard ++ m.text?.toList.map Next.text).filterMap (·.text?) =
      t.told ++ m.text?.toList := by
    rw [List.filterMap_append]
    cases m <;> rfl
  have htexts : t.told ++ Message.texts s.inbox = Message.texts t.arrived := h.reads.texts
  have hcloses : Message.closes s.inbox = Message.closes t.arrived := h.reads.closes
  have hasked : s.Owes ∨ pings s.inbox = true → pings t.arrived = true := h.reads.asked
  rw [hinbox] at htexts hcloses hasked
  rw [Message.texts_cons, hm] at htexts
  rw [Message.closes_cons, hm] at hcloses
  rw [Message.pings_cons, Bool.or_eq_true] at hasked
  refine ⟨⟨⟨h.reads.session.stage, h.reads.session.live⟩, fun n hn => ?_⟩, ?_, hcloses,
    fun hpings => hasked ?_⟩
  · obtain hn | hn := List.mem_append.mp hn
    · exact h.reads.heard n hn
    · obtain ⟨text, -, rfl⟩ := List.mem_map.mp hn
      exact .inl ⟨text, rfl⟩
  · rw [told, htold, List.append_assoc]
    exact htexts
  · exact hpings.elim (fun ho => (howes ho).imp_right .inl) fun hp => .inr (.inr hp)

/-- A message is passed over. -/
theorem Amid.skip (h : t.Amid s) {m : Message} {rest : List Message}
    (hinbox : s.inbox = m :: rest) (hm : m.isClose = false) (htext : m.text? = none)
    (sent : List Message) (reply : Option Message) (unflushed : Bool)
    (howes : ({ s with inbox := rest }.sending sent reply unflushed).Owes →
      s.Owes ∨ m.isPing = true) :
    t.Amid ({ s with inbox := rest }.sending sent reply unflushed) := by
  have hreads := h.message hinbox hm sent reply unflushed howes
  rw [htext] at hreads
  refine ⟨List.append_nil t.heard ▸ hreads, h.broken, h.gone, fun hdue => h.owes ?_⟩
  rw [hinbox, Message.pings_cons, Bool.or_eq_true, ← or_assoc]
  exact hdue.imp_left howes

/-- The stream does not take a ping.  That is told, and all that is left can still be read. -/
theorem Amid.pinged (h : t.Amid s) {reason : String} (hbroken : s.broken = some reason) :
    (t.hear (.failed (Trouble.refused reason).fault, s)).Reads := by
  refine ⟨⟨h.reads.session, fun n hn => ?_⟩, ?_, h.reads.closes, h.reads.asked⟩
  · obtain hn | hn := List.mem_append.mp hn
    · exact h.reads.heard n hn
    · refine .inr ⟨fun hnone => ?_, reason, List.mem_singleton.mp hn⟩
      exact absurd (hbroken.symm.trans hnone) (Option.some_ne_none _)
  · rw [told_hear]
    exact (congrArg (· ++ _) (List.append_nil t.told)).trans h.reads.texts

/-- The stream does not take an answer, and all that is left is lost. -/
theorem Amid.answered (h : t.Amid s) {reason : String} (hbroken : s.broken = some reason)
    (howes : s.Owes) :
    (t.hear (.failed (Trouble.refused reason).fault, { s with reply := none, ended := true })).Lost
    where
  stage := h.reads.session.stage
  ended := rfl
  broken := fun hnone => absurd (hbroken.symm.trans hnone) (Option.some_ne_none _)
  asked := h.reads.asked (.inl howes)
  heard := ⟨t.heard, _, [], rfl, h.reads.heard, ⟨_, h.reads.texts⟩, ⟨reason, rfl⟩, nofun⟩

/-- **One look** of a wait. -/
theorem Amid.glance (h : t.Amid s) (turns : List Turn) (blocked : Bool) :
    Session.Leads t.Amid (t.Ends turns) (s.glance blocked) := by
  have hlive := h.reads.session.live
  have hstage : s.stage = .active := h.reads.session.stage
  have hread : s.stage.canRead = true := by rw [hstage]; rfl
  obtain ⟨⟨o, s'⟩, hs⟩ : ∃ r, s.glance blocked = r := ⟨_, rfl⟩
  rw [hs]
  cases Session.looks hs with
  | ended ended => exact absurd (hlive.symm.trans ended) Bool.false_ne_true
  | terminated stage => exact Stage.noConfusion (hstage.symm.trans stage)
  | @refused reason stage broken owes =>
    have hlost := h.answered broken owes
    exact ⟨.lost (h.broken.symm.trans broken) (h.owes (.inl owes)) hlost, .inr (.inr hlost)⟩
  | @message m rest sent unflushed live stage inbox owes =>
    have howes : ({ s with inbox := rest }.sending sent none unflushed).Owes →
        s.Owes ∨ m.isPing = true := fun ho => .inl (owes (ho.resolve_left (absurd rfl)))
    cases m with
    | text text =>
      refine ⟨.due ((h.due_iff _).mpr ?_), .inl (h.message inbox rfl sent none unflushed howes)⟩
      rw [inbox, Message.texts_cons]
      rfl
    | close why =>
      let s₁ : Session := { s with inbox := rest }.sending sent none unflushed
      have hcloses : Message.closes s.inbox = true := by rw [inbox, Message.closes_cons]; rfl
      rw [Session.receive_close (s := s₁) why hstage]
      refine h.over turns rfl ?_ (by rw [hcloses]; rfl) (ending_closed ?_) (.inr rfl) rfl rfl
      · rw [inbox, Message.texts_cons]
        rfl
      · exact h.reads.closes.symm.trans hcloses
    | binary bytes => exact h.skip inbox rfl rfl sent none unflushed howes
    | pong bytes => exact h.skip inbox rfl rfl sent none unflushed howes
    | ping bytes =>
      let s₁ : Session := { s with inbox := rest }.sending sent none unflushed
      rw [Session.receive_ping (s := s₁) bytes hstage]
      exact h.skip inbox rfl rfl sent _ unflushed fun _ => .inr rfl
  | late sent unflushed stage there inbox =>
    exact absurd (stage.symm.trans hread) Bool.false_ne_true
  | reset sent unflushed stage inbox gone => exact h.over_gone turns inbox gone _ (.inl rfl) rfl rfl
  | parted sent unflushed stage there inbox gone =>
    exact absurd (stage.symm.trans hread) Bool.false_ne_true
  | nothing sent unflushed live there inbox gone owes =>
    have hkept := h.sending sent none unflushed fun ho => owes (ho.resolve_left (absurd rfl))
    refine ⟨.due ((h.due_iff _).mpr ?_), .inl hkept.still⟩
    rw [inbox, gone]
    rfl

/-- **One ping** of a wait. -/
theorem Amid.ping (h : t.Amid s) {turns : List Turn} (hpings : ∃ turn ∈ turns, turn.pings = true)
    (blocked : Bool) : Session.Leads t.Amid (t.Ends turns) (s.ping blocked) := by
  obtain ⟨sent, reply, unflushed, o, hping, howes, rfl | ⟨hne, -⟩ | ⟨reason, hbroken, rfl⟩⟩ :=
    s.ping_cases blocked
  · rw [hping]
    exact h.sending sent reply unflushed howes
  · exact absurd h.reads.session.stage hne
  · rw [hping]
    have hreads := (h.sending sent reply unflushed howes).pinged hbroken
    exact ⟨.pinged (h.broken.symm.trans hbroken) hpings hreads.toOpen, .inl hreads⟩

end Amid

theorem Reads.amid {t : Tale} (h : t.Reads) : t.Amid t.session := ⟨h, rfl, rfl, id⟩

/-- **A whole wait** while texts are handed on. -/
theorem Reads.nextAmid {t : Tale} (h : t.Reads) (turns : List Turn) :
    t.Ends turns (t.session.nextAmid turns).1 (t.session.nextAmid turns).2 :=
  Session.nextAmid_spec (P := t.Amid) turns (fun blocked _ h => h.glance turns blocked)
    (fun blocked _ hpings h => h.ping hpings blocked)
    (fun _ hhinders h => ⟨.waiting hhinders, .inl h.still⟩) h.amid

/-- A wait that begins with a ping that the stream does not take. -/
theorem Reads.pinged {t : Tale} (h : t.Reads) {reason : String}
    (hbroken : t.session.broken = some reason) {first : Turn} (hfirst : first.pings = true)
    (rest : List Turn) :
    (t.session.nextAmid (first :: rest)).1 = .failed (Trouble.refused reason).fault ∧
      (t.move (.next (first :: rest))).Open := by
  let s : Session := t.session.sending t.session.sent none t.session.unflushed
  have hping := Session.ping_refused h.session.stage hbroken
  have hwait : t.session.nextAmid (first :: rest) =
      (.failed (Trouble.refused reason).fault, s) := by
    rw [Session.nextAmid]
    cases first with
    | ping => rw [Session.turn, hping]
    | queued => rw [Session.turn, hping]; rfl
    | _ => cases hfirst
  have hreads := (h.amid.sending t.session.sent none t.session.unflushed
    (.imp (absurd rfl) id)).pinged hbroken
  rw [move, hwait]
  exact ⟨rfl, hreads.toOpen⟩

/-- A wait that begins with a look at the stream, which does not take an answer that is due. -/
theorem Reads.answered {t : Tale} (h : t.Reads) {reason : String}
    (hbroken : t.session.broken = some reason) (howes : t.session.Owes) {turns : List Turn}
    (hturns : ∀ first ∈ turns.head?, first.pings = false ∧ first.hinders = false) :
    (t.session.nextAmid turns).1 = .failed (Trouble.refused reason).fault ∧
      (t.move (.next turns)).Lost := by
  have hglance := Session.glance_refused h.session.stage h.session.live hbroken howes
  have hwait : t.session.nextAmid turns = (.failed (Trouble.refused reason).fault,
      { t.session with reply := none, ended := true }) := by
    cases turns with
    | nil => rw [Session.nextAmid, Session.next, Session.nextWithin, hglance]
    | cons first rest =>
      obtain ⟨hpings, hhinders⟩ := hturns first rfl
      rw [Session.nextAmid]
      cases first with
      | stream => rw [Session.turn, hglance]
      | blocked => rw [Session.turn, hglance]
      | ping => cases hpings
      | queued => cases hpings
      | held => cases hhinders
  rw [move, hwait]
  exact ⟨rfl, h.amid.answered hbroken howes⟩

/-! ### Steps -/

theorem Reads.arrive {t : Tale} (h : t.Reads) (m : Message) : (t.move (.arrive m)).Reads := by
  rw [move, Session.arrive]
  cases hgone : t.session.gone with
  | true => exact h
  | false =>
    refine ⟨⟨⟨h.session.stage, h.session.live⟩, h.heard⟩, ?_, ?_, fun hasked => ?_⟩
    · show t.told ++ Message.texts (t.session.inbox ++ [m]) = Message.texts (t.arrived ++ [m])
      rw [Message.texts_concat, Message.texts_concat, ← List.append_assoc, h.texts, h.closes]
    · show Message.closes (t.session.inbox ++ [m]) = Message.closes (t.arrived ++ [m])
      rw [Message.closes_append, Message.closes_append, h.closes]
    · show pings (t.arrived ++ [m]) = true
      have hasked : t.session.Owes ∨ pings (t.session.inbox ++ [m]) = true := hasked
      rw [Message.pings_append, Bool.or_eq_true] at hasked ⊢
      rw [← or_assoc] at hasked
      exact hasked.imp_left h.asked

theorem reads_start : start.Reads := by
  refine ⟨⟨⟨rfl, rfl⟩, nofun⟩, rfl, rfl, fun hasked => ?_⟩
  obtain (hreply | hline) | hpings := hasked
  · exact absurd rfl hreply
  · cases hline
  · cases hpings

/-- **Everything** but closing leaves a session that hands on texts so, or ends its reading. -/
theorem Reads.move {t : Tale} (h : t.Reads) {m : Move} (hm : m ≠ .close) :
    (t.move m).Reads ∨ (t.move m).Over ∨ (t.move m).Lost := by
  cases m with
  | arrive m => exact .inl (h.arrive m)
  | vanish =>
    exact .inl ⟨⟨⟨h.session.stage, h.session.live⟩, h.heard⟩, h.texts, h.closes, h.asked⟩
  | breakOff reason =>
    exact .inl ⟨⟨⟨h.session.stage, h.session.live⟩, fun n hn => (h.heard n hn).broke⟩,
      h.texts, h.closes, h.asked⟩
  | send text =>
    obtain ⟨sent, reply, unflushed, hsend, howes⟩ := t.session.send_session text
    rw [Tale.move, hsend]
    exact .inl (h.amid.sending sent reply unflushed howes).reads
  | next turns => exact (h.nextAmid turns).2
  | close => exact absurd rfl hm

theorem Over.arrive {t : Tale} (h : t.Over) (m : Message) : (t.move (.arrive m)).Over := by
  obtain ⟨ns, n, rest, hheard, hpassing, htexts, hending, hrest⟩ := h.heard
  rw [Tale.move, Session.arrive]
  cases hgone : t.session.gone with
  | true => exact h
  | false =>
    -- the stream goes on, so it was a closing message
    have hcloses : Message.closes t.arrived = true := Classical.byContradiction fun hno => by
      rw [Ending, if_neg hno, hgone] at hending
      exact absurd hending.1 Bool.false_ne_true
    refine ⟨h.session, ns, n, rest, hheard, hpassing, ?_, ?_, hrest⟩
    · show ns.filterMap _ = Message.texts (t.arrived ++ [m])
      rw [Message.texts_concat, if_pos hcloses, List.append_nil]
      exact htexts
    · refine hending.mono ?_ fun hg => absurd (hgone.symm.trans hg) Bool.false_ne_true
      show Message.closes (t.arrived ++ [m]) = _
      rw [Message.closes_append, hcloses]
      rfl

/-- Nothing changes that any more. -/
theorem Over.move {t : Tale} (h : t.Over) {m : Move} (hm : m ≠ .close) : (t.move m).Over := by
  obtain ⟨ns, n, rest, hheard, hpassing, htexts, hending, hrest⟩ := h.heard
  cases m with
  | arrive m => exact h.arrive m
  | vanish =>
    exact ⟨h.session, ns, n, rest, hheard, hpassing, htexts, hending.mono rfl fun _ => rfl, hrest⟩
  | breakOff reason =>
    exact ⟨h.session, ns, n, rest, hheard, fun n hn => (hpassing n hn).broke, htexts, hending,
      hrest⟩
  | send text =>
    obtain ⟨sent, reply, unflushed, hsend, -⟩ := t.session.send_session text
    rw [Tale.move, hsend]
    exact ⟨h.session, ns, n, rest, hheard, hpassing, htexts, hending, hrest⟩
  | next turns =>
    obtain ⟨hnone, hdry, hgone, hbroken⟩ := h.session.nextAmid turns
    rw [Tale.move]
    generalize t.session.nextAmid turns = r at hnone hdry hgone hbroken
    obtain ⟨n', s'⟩ := r
    dsimp only at hnone hdry hgone hbroken
    refine ⟨hdry, ns, n, rest ++ [n'].filter (·.isOutcome), ?_,
      fun n hn => (hpassing n hn).same hbroken, htexts, hending.mono rfl hgone.trans, ?_⟩
    · exact (congrArg (· ++ _) hheard).trans (List.append_assoc _ _ _)
    · rw [List.filterMap_append, hrest]
      cases n' with
      | text text => cases hnone
      | _ => rfl
  | close => exact absurd rfl hm

/-- Nor that: what is left is lost for good. -/
theorem Lost.move {t : Tale} (h : t.Lost) {m : Move} (hm : m ≠ .close) : (t.move m).Lost := by
  obtain ⟨ns, n, rest, hheard, hpassing, htexts, hn, hrest⟩ := h.heard
  cases m with
  | arrive m =>
    rw [Tale.move, Session.arrive]
    split
    · exact h
    · refine ⟨h.stage, h.ended, h.broken, ?_, ns, n, rest, hheard, hpassing, ?_, hn, hrest⟩
      · show pings (t.arrived ++ [m]) = true
        rw [Message.pings_append, h.asked]
        rfl
      · show _ <+: Message.texts (t.arrived ++ [m])
        rw [Message.texts_concat]
        exact htexts.trans (List.prefix_append _ _)
  | vanish => exact ⟨h.stage, h.ended, h.broken, h.asked, h.heard⟩
  | breakOff reason =>
    exact ⟨h.stage, h.ended, Option.some_ne_none _, h.asked, ns, n, rest, hheard,
      fun n hn => (hpassing n hn).broke, htexts, hn, hrest⟩
  | send text =>
    obtain ⟨sent, reply, unflushed, hsend, -⟩ := t.session.send_session text
    rw [Tale.move, hsend]
    exact ⟨h.stage, h.ended, h.broken, h.asked, h.heard⟩
  | next turns =>
    obtain ⟨hwhat, hstage, hended, hbroken⟩ := Session.nextAmid_ended h.stage h.ended turns
    rw [Tale.move]
    generalize t.session.nextAmid turns = r at hwhat hstage hended hbroken
    obtain ⟨n', s'⟩ := r
    dsimp only at hwhat hstage hended hbroken
    refine ⟨hstage, hended, hbroken ▸ h.broken, h.asked, ns, n,
      rest ++ [n'].filter (·.isOutcome), ?_, fun n hn => (hpassing n hn).same hbroken, htexts, hn,
      fun n'' hn'' => ?_⟩
    · exact (congrArg (· ++ _) hheard).trans (List.append_assoc _ _ _)
    · obtain hn'' | hn'' := List.mem_append.mp hn''
      · exact hrest n'' hn''
      · obtain ⟨hmem, hout⟩ := List.mem_filter.mp hn''
        obtain rfl := List.mem_singleton.mp hmem
        obtain rfl | hwhat := hwhat
        · cases hout
        · exact hwhat
  | close => exact absurd rfl hm

/-! ### Runs -/

/-- While texts are handed on, the law holds. -/
theorem Reads.delivered {t : Tale} (h : t.Reads) : t.Delivered where
  told := ⟨_, h.texts⟩
  whole := fun hnone => .inl (Session.filterMap_passing hnone h.heard).symm
  heard := .inl h.toOpen
  next := fun _ turns => (h.nextAmid turns).1
  pinged := fun _ _ hbroken _ rest hfirst => h.pinged hbroken hfirst rest
  answered := fun _ _ hbroken howes _ hturns => h.answered hbroken howes hturns
  final := fun _ hm => ⟨(·.move hm), (·.move hm)⟩

/-- Once the reading has ended, there is nothing to be said of waits that come before its end. -/
theorem Delivered.of_ended {t : Tale} (hended : ¬t.Open) (htold : t.told <+: texts t.arrived)
    (hwhole : t.session.broken = none → t.AsSent) (hheard : t.Over ∨ t.Lost) : t.Delivered where
  told := htold
  whole := hwhole
  heard := .inr hheard
  next := fun hopen => absurd hopen hended
  pinged := fun hopen => absurd hopen hended
  answered := fun hopen => absurd hopen hended
  final := fun _ hm => ⟨(·.move hm), (·.move hm)⟩

/-- Once all is over, the law holds. -/
theorem Over.delivered {t : Tale} (h : t.Over) : t.Delivered := by
  obtain ⟨ns, n, rest, hheard, hpassing, htexts, hending, hrest⟩ := h.heard
  have htold : t.told = Message.texts t.arrived := by
    rw [told, hheard, List.filterMap_append, htexts, List.filterMap_cons_none hending.no_text,
      hrest, List.append_nil]
  refine .of_ended (fun hopen => h.session.not_reading hopen.session) (htold ▸ List.prefix_refl _)
    (fun hnone => .inr ⟨htold, n, rest, ?_, hending⟩) (.inl h)
  rw [htold, ← htexts, Session.filterMap_passing hnone hpassing]
  exact hheard

/-- Once what is left is lost, the law holds. -/
theorem Lost.delivered {t : Tale} (h : t.Lost) : t.Delivered := by
  obtain ⟨ns, n, rest, hheard, -, htexts, hn, hrest⟩ := h.heard
  have hsilent : (n :: rest).filterMap (·.text?) = [] := by
    refine List.filterMap_eq_nil_iff.mpr fun n' hn' => ?_
    obtain rfl | hmem := List.mem_cons.mp hn'
    · exact hn.no_text
    · obtain rfl | hn' := hrest n' hmem
      · rfl
      · exact hn'.no_text
  refine .of_ended (fun hopen => ?_) ?_ (fun hnone => absurd hnone h.broken) (.inr h)
  · exact absurd (hopen.session.live.symm.trans h.ended) Bool.false_ne_true
  · rw [told, hheard, List.filterMap_append, hsilent, List.append_nil]
    exact htexts

/-- **The law.**  A session that is not closed from here hands on just the texts that the far end
sends before it closes or is gone, and then tells how the connection ended; whatever else arrives,
whatever is sent, however the pings fall and however often one gives up and waits again.  If a write
fails, whoever waits is told so, be there texts left or not; they are handed on all the same after a
ping that failed, and lost after an answer that did. -/
theorem texts_delivered {ms : List Move} (h : .close ∉ ms) : (of ms).Delivered := by
  suffices hrun : ∀ t : Tale, t.Reads ∨ t.Over ∨ t.Lost →
      (t.run ms).Reads ∨ (t.run ms).Over ∨ (t.run ms).Lost by
    obtain hreads | hover | hlost := hrun start (.inl reads_start)
    · exact hreads.delivered
    · exact hover.delivered
    · exact hlost.delivered
  induction ms with
  | nil => exact fun t ht => ht
  | cons m ms ih =>
    intro t ht
    have hm : m ≠ .close := fun he => h (he ▸ List.mem_cons_self)
    refine ih (fun hmem => h (List.mem_cons_of_mem _ hmem)) (t.move m) ?_
    obtain hreads | hover | hlost := ht
    · exact hreads.move hm
    · exact .inr (.inl (hover.move hm))
    · exact .inr (.inr (hlost.move hm))

/-- Texts among other messages, with a wait that is given up, pings, an answer that the stream takes
later, and a stream that is gone and takes nothing: the ping that fails comes before a text. -/
theorem texts_delivered_mixed :
    let ms : List Move := [.arrive (.binary [1]), .arrive (.text "one"), .next [.held],
      .next [.ping], .arrive (.ping [7]), .next [.stream, .blocked], .send "three", .next [.queued],
      .arrive (.text "two"), .vanish, .breakOff "Broken pipe (os error 32)", .next [.ping],
      .next [], .next []]
    .close ∉ ms ∧ (of ms).Delivered ∧ (of ms).heard =
      [.text "one", .failed (Trouble.refused "Broken pipe (os error 32)").fault, .text "two",
        .failed Trouble.reset.fault] := by
  intro ms
  exact ⟨by decide, texts_delivered (by decide), by decide⟩

/-- Where the first thing that one is told is no text, there was none. -/
theorem AsSent.texts_eq_nil {t : Tale} (h : t.AsSent) {n : Next} {rest : List Next}
    (hheard : t.heard = n :: rest) (hn : n.text? = none) : texts t.arrived = [] := by
  have htold : ∀ {ns : List Next}, n :: rest = t.told.map .text ++ ns → t.told = [] := by
    intro ns hns
    cases htold : t.told with
    | nil => rfl
    | cons text texts =>
      rw [htold] at hns
      obtain ⟨rfl, -⟩ := List.cons_eq_cons.mp hns
      cases hn
  obtain honly | ⟨hall, n', rest', hends, -⟩ := h
  · rw [hheard, ← List.append_nil (t.told.map _)] at honly
    rw [htold honly] at honly
    cases honly
  · rw [← hall]
    exact htold (hheard.symm.trans hends)

/-- A write can fail while a text is left.  If it is a ping, that is told before the text; if it is
the answer to a ping, the text is lost, and whoever waits again is told that the reading has
ended. -/
theorem failed_write_overtakes :
    let pinged : List Move := [.arrive (.text "a"), .vanish, .breakOff "Broken pipe (os error 32)",
      .next [.ping], .next []]
    let answered : List Move := [.arrive (.ping []), .arrive (.ping []), .arrive (.text "b"),
      .vanish, .next [.stream, .stream, .held], .breakOff "Broken pipe (os error 32)", .next [],
      .next []]
    let failure : Next := .failed (Trouble.refused "Broken pipe (os error 32)").fault
    (.close ∉ pinged ∧ (of pinged).heard = [failure, .text "a"] ∧ ¬(of pinged).AsSent) ∧
      .close ∉ answered ∧ (of answered).heard = [failure, .closed] ∧ ¬(of answered).AsSent := by
  intro pinged answered failure
  refine ⟨⟨by decide, by decide, fun h => ?_⟩, by decide, by decide, fun h => ?_⟩
  · have hnone : texts (of pinged).arrived = [] :=
      h.texts_eq_nil (show _ = failure :: [.text "a"] by decide) rfl
    revert hnone
    decide
  · have hnone : texts (of answered).arrived = [] :=
      h.texts_eq_nil (show _ = failure :: [.closed] by decide) rfl
    revert hnone
    decide

end Tale
end Socket
end RaceLink
