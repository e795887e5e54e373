import RaceLink.Proofs.Link.Clock

/-!
# Reconnecting

An attempt that fails, or a session that is lost, is followed by one wait of always the same length
and then by one attempt, whatever the cause was.

* `Event.isAttempt`, `Event.isEnd` — the events that count here.  `Link.begun`, `Link.ended` are the
  moments at which attempts began and at which they failed or their sessions were lost.
* `Link.Stride`, `Link.stride_perform` — what a deed can do to the course of attempts and ends:
  begin an attempt, end one, or neither.
* `Pace`, `Pace.stride` — how far the course has come, and the step.
* `Life.Punctual`, `Life.punctual_settled` — no attempt is overdue once the client has to wait, and
  it has to after some more turns.
* `Life.Steady`, `Life.reconnects_steadily` — **attempts keep their pace**, in all orderly lives.
-/

set_option autoImplicit false

namespace RaceLink

/-! ## Attempts and ends -/

namespace Event

/-- An attempt begins. -/
def isAttempt : Event → Bool
  | attempted => true
  | _ => false

/-- An attempt fails, or a session is lost. -/
def isEnd : Event → Bool
  | refused => true
  | lost _ => true
  | _ => false

/-- An attempt begins, fails, or leads to a session that is lost. -/
def isMilestone (e : Event) : Bool := e.isAttempt || e.isEnd

theorem isAttempt_of_isEnd {e : Event} (h : e.isEnd = true) : e.isAttempt = false := by
  cases e with
  | attempted => cases h
  | _ => rfl

end Event

/-- The failures and losses of a chapter. -/
def Chapter.ends (ch : Chapter) : List Event := ch.events.filter Event.isEnd

namespace Phase

/-- An attempt is in flight, or it led to a session that is still served. -/
def busy : Phase → Bool
  | seeking _ _ => true
  | serving _ _ _ => true
  | _ => false

/-- The moment of the next attempt, as long as the client waits for one. -/
def awaited? : Phase → Option Nat
  | waiting t => some t
  | _ => none

theorem awaited?_of_busy {p : Phase} (h : p.busy = true) : p.awaited? = none := by
  cases p with
  | waiting t => cases h
  | _ => rfl

theorem not_parting_of_busy {p : Phase} (h : p.busy = true) : p.parting = false := by
  cases p with
  | closing n t => cases h
  | stopped => cases h
  | _ => rfl

end Phase

namespace Link

/-- What a deed can do to the course of attempts and ends; the list has the milestones of its
story. -/
inductive Stride (s t : Link) : List Event → Prop
  | begin {moment : Nat} (phase : s.phase = .waiting moment) (due : moment ≤ s.now)
      (attempts : t.attempts = s.attempts + 1) (busy : t.phase.busy = true) :
      Stride s t [.attempted]
  | finish {e : Event} (isEnd : e.isEnd = true) (busy : s.phase.busy = true)
      (attempts : t.attempts = s.attempts) (phase : t.phase = s.pause) : Stride s t [e]
  | stay (attempts : t.attempts = s.attempts)
      (phase : t.phase = s.phase ∨ (s.phase.busy = true ∧ t.phase.busy = true)) : Stride s t []
  | quit (attempts : t.attempts = s.attempts) (quitting : s.Quitting ∨ s.phase.parting = true)
      (phase : t.phase = .stopped ∨
        (s.phase.busy = true ∧ ∃ n moment, t.phase = .closing n moment)) :
      Stride s t []

theorem attempts_perform {s : Link} {d : Deed} (h : Ready s d) :
    (s.perform d).attempts = (s.bareAfter d).attempts :=
  (congrArg attempts (bare_perform h) :)

theorem milestones_fate (done : Prop) [Decidable done] (n : Nat) (m : Model) :
    (fate done n m).filter Event.isMilestone = if done then [] else [.lost n] := by
  rw [fate]
  split <;> rfl

/-- The milestones of a story in which something is sent: none if all was accepted. -/
theorem milestones_sending {es : List Event} (h : es.filter Event.isMilestone = [])
    (done : Prop) [Decidable done] (n : Nat) (m : Model) :
    (es ++ fate done n m).filter Event.isMilestone = if done then [] else [.lost n] := by
  rw [List.filter_append, h, milestones_fate]
  exact List.nil_append _

theorem milestones_posts (n : Nat) (cs : List Command) :
    (posts n cs).filter Event.isMilestone = [] :=
  filter_posts _ _ _ false fun _ => rfl

theorem milestones_serve (s : Link) (n id : Nat) (r : Request) :
    (s.story (.serve n id r)).filter Event.isMilestone =
      if s.accepted n r.commands = r.commands then [] else [.lost n] := by
  refine milestones_sending ?_ _ n _
  rw [List.filter_append, List.filter_append, milestones_posts,
    filter_prelude _ s r false rfl fun _ _ => rfl]
  rfl

theorem milestones_opening (s : Link) (a : Attempt) :
    (s.opening a).filter Event.isMilestone =
      if (Peer.accept a).accepted s.questions = s.questions then []
      else [.lost (s.peers.length + 1)] := by
  refine milestones_sending ?_ _ _ _
  rw [List.filter_append, milestones_posts]
  rfl

theorem milestones_stop (s : Link) : (s.story .stop).filter Event.isMilestone = [] := by
  rw [story, List.filter_cons, filter_refusals _ s.queue false fun _ => rfl]
  rfl

/-- A session on which something was sent goes on, or is lost. -/
theorem stride_sending {s t : Link} {es : List Event} {done : Prop} [Decidable done] {n : Nat}
    {p : Phase} (hes : es = if done then [] else [.lost n]) (busy : s.phase.busy = true)
    (attempts : t.attempts = s.attempts) (phase : t.phase = if done then p else s.pause)
    (goes : p.busy = true) : Stride s t es := by
  by_cases hdone : done
  · rw [if_pos hdone] at hes phase
    rw [hes]
    exact .stay attempts (.inr ⟨busy, by rw [phase]; exact goes⟩)
  · rw [if_neg hdone] at hes phase
    rw [hes]
    exact .finish rfl busy attempts phase

/-- **What a deed can do to the course of attempts and ends.** -/
theorem stride_perform {s : Link} {d : Deed} (h : Ready s d) :
    Stride s (s.perform d) ((s.story d).filter Event.isMilestone) := by
  have hphase := phase_perform h
  have hattempts := attempts_perform h
  cases h with
  | attempt phase live due => exact .begin phase due hattempts (by rw [hphase]; rfl)
  | @resolve a due phase live reached =>
    have hbusy : s.phase.busy = true := by rw [phase]; rfl
    rw [bareAfter] at hphase hattempts
    rw [story]
    split at hphase
    · rename_i hacc
      rw [if_pos hacc] at hattempts
      rw [if_pos hacc]
      exact stride_sending (milestones_opening s a) hbusy hattempts hphase rfl
    · rename_i hacc
      rw [if_neg hacc] at hattempts
      rw [if_neg hacc]
      exact .finish rfl hbusy hattempts hphase
  | @read n watch probed p text phase live peer next =>
    have hnone : (s.story (.read n text)).filter Event.isMilestone = [] := by
      rw [story, List.filter_cons, filter_heard _ s n text false rfl fun _ _ => rfl]
      rfl
    rw [hnone]
    exact .stay hattempts (.inr ⟨by rw [phase]; rfl, by rw [hphase]; rfl⟩)
  | lose phase live finished => exact .finish rfl (by rw [phase]; rfl) hattempts hphase
  | @watch n watch probed p phase live peer next reached =>
    have hbusy : s.phase.busy = true := by rw [phase]; rfl
    cases probed with
    | true => exact .finish rfl hbusy hattempts hphase
    | false =>
      exact stride_sending (milestones_sending (milestones_posts _ _) _ n _) hbusy hattempts hphase
        rfl
  | @serve n id watch probed p r rest phase live peer next early queue =>
    have hbusy : s.phase.busy = true := by rw [phase]; rfl
    exact stride_sending (milestones_serve s n id r) hbusy hattempts hphase hbusy
  | @decline id r rest offline live queue =>
    have hnone : (s.story (.decline id r)).filter Event.isMilestone = [] := by
      rw [story, List.filter_append, filter_prelude _ s r false rfl fun _ _ => rfl]
      rfl
    rw [hnone]
    exact .stay hattempts (.inl hphase)
  | @close n watch probed phase quitting =>
    exact .quit hattempts (.inl quitting) (.inr ⟨by rw [phase]; rfl, n, _, hphase⟩)
  | part phase due =>
    rw [milestones_stop]
    exact .quit hattempts (.inr (by rw [phase]; rfl)) (.inl hphase)
  | stop offline quitting =>
    rw [milestones_stop]
    exact .quit hattempts (.inl quitting) (.inl hphase)

/-- Only a client that nobody can call back sets out to part. -/
theorem Stride.forsaken {s t : Link} {es : List Event} (h : Stride s t es)
    (hs : s.phase.parting = true → s.Forsaken) (ht : t.phase.parting = true) : s.Forsaken := by
  cases h with
  | begin phase due attempts busy =>
    rw [Phase.not_parting_of_busy busy] at ht
    cases ht
  | finish isEnd busy attempts phase =>
    rw [phase] at ht
    cases ht
  | stay attempts phase =>
    rcases phase with hsame | ⟨-, hbusy⟩
    · rw [hsame] at ht
      exact hs ht
    · rw [Phase.not_parting_of_busy hbusy] at ht
      cases ht
  | quit attempts quitting phase =>
    rcases quitting with (hcancelled | hnone) | hparting
    · exact .inl hcancelled
    · exact .inr hnone.1
    · exact hs hparting

/-! ## The course of attempts and ends -/

/-- The milestones so far, with their moments. -/
def course (s : Link) : List Entry := s.log.toList.filter (·.event.isMilestone)

/-- The moments at which the attempts began. -/
def begun (s : Link) : List Nat := (s.log.toList.filter (·.event.isAttempt)).map Entry.time

/-- The moments at which attempts failed or sessions were lost. -/
def ended (s : Link) : List Nat := (s.log.toList.filter (·.event.isEnd)).map Entry.time

theorem begun_course (s : Link) :
    s.begun = (s.course.filter (·.event.isAttempt)).map Entry.time := by
  rw [begun, course, List.filter_filter]
  congr 2
  funext e
  cases e.event <;> rfl

theorem ended_course (s : Link) :
    s.ended = (s.course.filter (·.event.isEnd)).map Entry.time := by
  rw [ended, course, List.filter_filter]
  congr 2
  funext e
  cases e.event <;> rfl

end Link

/-- Attempts and ends in turn, the first attempt at the start and each other one exactly `delay`
after the end before it.  `next` is the moment of the next attempt; there is none as long as an
attempt is in flight or its session is open. -/
inductive Course (delay : Nat) : Option Nat → List Entry → Prop
  | nil : Course delay (some 0) []
  | attempt {es : List Entry} {t : Nat} (h : Course delay (some t) es) :
      Course delay none (es ++ [⟨t, .attempted⟩])
  | finish {es : List Entry} {t : Nat} {e : Event} (h : Course delay none es)
      (isEnd : e.isEnd = true) (later : ∀ x ∈ es, x.time ≤ t) :
      Course delay (some (t + delay)) (es ++ [⟨t, e⟩])

namespace Course

variable {delay : Nat} {next : Option Nat} {es : List Entry}

/-- Each attempt but the first begins `delay` after one end, and each end has one attempt that
begins so much later, or will. -/
theorem spaced (h : Course delay next es) :
    (es.filter (·.event.isAttempt)).map Entry.time ++ next.toList =
      0 :: ((es.filter (·.event.isEnd)).map Entry.time).map (· + delay) := by
  induction h with
  | nil => rfl
  | attempt h ih =>
    rw [List.filter_append, List.filter_append]
    simpa [Event.isAttempt, Event.isEnd] using ih
  | finish h isEnd later ih =>
    have hattempt := Event.isAttempt_of_isEnd isEnd
    rw [Option.toList_none, List.append_nil] at ih
    rw [List.filter_append, List.filter_append, List.map_append, ih]
    simp [hattempt, isEnd]

end Course

/-! ## The pace -/

/-- How far a client has come in its course. -/
structure Pace (delay : Nat) (s : Link) : Prop where
  terms : s.terms.delay = delay
  counted : s.attempts = s.begun.length
  past : ∀ e ∈ s.course, e.time ≤ s.now
  course : ∃ next, Course delay next s.course ∧ (s.phase ≠ .stopped → next = s.phase.awaited?)

namespace Pace

variable {delay : Nat} {s t : Link} {es : List Event}

theorem start (terms : Terms) (script : List Attempt) (hub : Hub) :
    Pace terms.delay (Link.start terms script hub) :=
  ⟨rfl, rfl, fun _ h => (List.not_mem_nil h).elim, some 0, .nil, fun _ => rfl⟩

/-- No milestone is reached. -/
theorem quiet (h : Pace delay s) (terms : t.terms = s.terms) (now : s.now ≤ t.now)
    (attempts : t.attempts = s.attempts) (course : t.course = s.course)
    (phase : t.phase ≠ .stopped → s.phase ≠ .stopped ∧ t.phase.awaited? = s.phase.awaited?) :
    Pace delay t := by
  refine ⟨by rw [terms, h.terms], ?_, fun e he => ?_, ?_⟩
  · rw [attempts, h.counted, Link.begun_course, Link.begun_course, course]
  · rw [course] at he
    exact Nat.le_trans (h.past e he) now
  · obtain ⟨next, hcourse, hnext⟩ := h.course
    refine ⟨next, by rw [course]; exact hcourse, fun hrunning => ?_⟩
    obtain ⟨hs, hawaited⟩ := phase hrunning
    rw [hnext hs, hawaited]

/-- **A stride keeps the pace.** -/
theorem stride (h : Pace delay s) (timely : s.Timely) (running : s.phase ≠ .stopped)
    (terms : t.terms = s.terms) (now : t.now = s.now)
    (log : t.log.toList = s.log.toList ++ es.map (Entry.mk s.now))
    (stride : s.Stride t (es.filter Event.isMilestone)) : Pace delay t := by
  have hcourse : t.course = s.course ++ (es.filter Event.isMilestone).map (Entry.mk s.now) := by
    rw [Link.course, log, List.filter_append, List.filter_map]
    rfl
  have hquiet : es.filter Event.isMilestone = [] → t.course = s.course := fun hnone => by
    rw [hcourse, hnone]
    exact List.append_nil _
  have hpast : ∀ e, t.course = s.course ++ [⟨s.now, e⟩] → ∀ x ∈ t.course, x.time ≤ t.now := by
    intro e he x hx
    rw [he] at hx
    rw [now]
    rcases List.mem_append.1 hx with hold | hnew
    · exact h.past x hold
    · obtain rfl := List.mem_singleton.1 hnew
      exact Nat.le_refl _
  obtain ⟨next, hnext, hphase⟩ := h.course
  have hphase := hphase running
  generalize hms : es.filter Event.isMilestone = ms at stride hcourse hquiet
  cases stride with
  | @begin moment phase due attempts busy =>
    -- the moment has come, and none is missed
    have hmoment : s.now = moment := Nat.le_antisymm (timely moment (by rw [phase]; rfl)) due
    have hnext : Course delay (some s.now) s.course := by
      rw [phase] at hphase
      rw [hmoment]
      rwa [hphase] at hnext
    refine ⟨by rw [terms, h.terms], ?_, hpast _ hcourse, none, ?_, fun _ => ?_⟩
    · rw [attempts, h.counted, Link.begun_course, Link.begun_course, hcourse]
      simp [Event.isAttempt]
    · rw [hcourse]
      exact hnext.attempt
    · rw [Phase.awaited?_of_busy busy]
  | @finish e isEnd busy attempts phase =>
    have hnext : Course delay none s.course := by
      rw [Phase.awaited?_of_busy busy] at hphase
      rwa [hphase] at hnext
    refine ⟨by rw [terms, h.terms], ?_, hpast _ hcourse, some (s.now + delay), ?_, fun _ => ?_⟩
    · rw [attempts, h.counted, Link.begun_course, Link.begun_course, hcourse]
      simp [Event.isAttempt_of_isEnd isEnd]
    · rw [hcourse]
      exact hnext.finish isEnd h.past
    · rw [phase, ← h.terms]
      rfl
  | stay attempts phase =>
    refine h.quiet terms (Nat.le_of_eq now.symm) attempts (hquiet rfl) fun _ => ⟨running, ?_⟩
    rcases phase with hsame | ⟨hs, ht⟩
    · rw [hsame]
    · rw [Phase.awaited?_of_busy hs, Phase.awaited?_of_busy ht]
  | quit attempts quitting phase =>
    refine h.quiet terms (Nat.le_of_eq now.symm) attempts (hquiet rfl) fun hrunning => ⟨running, ?_⟩
    rcases phase with hstop | ⟨hs, n, moment, hclosing⟩
    · exact absurd hstop hrunning
    · rw [Phase.awaited?_of_busy hs, hclosing]
      rfl

/-! ### Counting -/

/-- The attempts so far, and the one that the client waits for: the first one, and one for each
end. -/
theorem count (h : Pace delay s) : ∃ next : Option Nat,
    (s.phase ≠ .stopped → next = s.phase.awaited?) ∧
      s.attempts + next.toList.countP (· ≤ s.now) = 1 + s.ended.countP (· + delay ≤ s.now) := by
  obtain ⟨next, hcourse, hnext⟩ := h.course
  refine ⟨next, hnext, ?_⟩
  have hspaced := congrArg (List.countP (· ≤ s.now)) hcourse.spaced
  have hfirst : decide (0 ≤ s.now) = true := decide_eq_true (Nat.zero_le _)
  rw [← Link.begun_course, ← Link.ended_course, List.countP_append,
    List.countP_cons_of_pos (p := fun moment => decide (moment ≤ s.now)) hfirst,
    List.countP_map] at hspaced
  have hbegun : s.begun.countP (· ≤ s.now) = s.begun.length := by
    rw [List.countP_eq_length]
    intro moment hmoment
    rw [Link.begun_course] at hmoment
    obtain ⟨e, he, rfl⟩ := List.mem_map.1 hmoment
    exact decide_eq_true (h.past e (List.mem_filter.1 he).1)
  rw [hbegun, ← h.counted] at hspaced
  rw [hspaced, Nat.add_comm 1]
  rfl

/-- There are no more attempts than ends whose delay has passed, besides the first one. -/
theorem le_elapsed (h : Pace delay s) : s.attempts ≤ 1 + s.ended.countP (· + delay ≤ s.now) := by
  obtain ⟨next, -, hcount⟩ := h.count
  rw [← hcount]
  exact Nat.le_add_right _ _

/-- Once the client has to wait, there is one for each of them. -/
theorem elapsed (h : Pace delay s) (hwait : s.deed? = none) (running : s.phase ≠ .stopped) :
    s.attempts = 1 + s.ended.countP (· + delay ≤ s.now) := by
  obtain ⟨next, hnext, hcount⟩ := h.count
  suffices hlater : next.toList.countP (· ≤ s.now) = 0 by
    rw [← hcount, hlater, Nat.add_zero]
  rw [hnext running, List.countP_eq_zero]
  intro moment hmoment hdue
  rw [decide_eq_true_eq] at hdue
  cases hphase : s.phase with
  | waiting t =>
    rw [hphase] at hmoment
    obtain rfl := List.mem_singleton.1 hmoment
    exact absurd hdue (Nat.not_le_of_lt (Link.lt_of_waits hwait (by rw [hphase]; rfl)))
  | _ =>
    rw [hphase] at hmoment
    exact List.not_mem_nil hmoment

end Pace

namespace Life

/-! ## Nobody calls a client back -/

/-- The milestones of a client that rests stay the same. -/
theorem Rests.course {s t : Link} (h : Rests s t) : t.course = s.course := by
  rcases h.log with hlog | ⟨-, id, hlog⟩
  · rw [Link.course, hlog]
    rfl
  · rw [Link.course, hlog, Array.toList_push, List.filter_append]
    exact List.append_nil _

variable {terms : Terms} {script : List Attempt} {hub : Hub}

/-- Only a client that nobody can call back parts. -/
theorem forsaken_of_parting {ms : List Move} (h : (start terms script hub).Orderly ms) :
    (of terms script hub ms).link.phase.parting = true →
      (of terms script hub ms).link.Forsaken := by
  refine h.keeps (P := fun c => c.link.phase.parting = true → c.link.Forsaken) Bool.noConfusion ?_
  intro c m hm hc
  obtain ⟨d, hd, he⟩ | ⟨hr, -⟩ := deed_or_rests hm
  · rw [he]
    intro hparting
    exact (Link.forsaken_perform hd).2 ((Link.stride_perform hd).forsaken hc hparting)
  · intro hparting
    rw [hr.phase] at hparting
    exact hr.forsaken (hc hparting)

theorem pace {ms : List Move} (h : (start terms script hub).Orderly ms) :
    Pace terms.delay (of terms script hub ms).link := by
  refine h.invariant (P := fun c => Pace terms.delay c.link) (Pace.start terms script hub) ?_ ?_
  · intro c d hs ht hd hc
    exact hc.stride ht (Link.not_stopped_of_ready hd) (Link.terms_perform hd) (Link.now_perform hd)
      (Link.log_perform hs hd) (Link.stride_perform hd)
  · intro c c' hr _ hc
    refine hc.quiet hr.terms hr.since hr.attempts hr.course fun hrunning => ?_
    rw [hr.phase] at hrunning ⊢
    exact ⟨hrunning, rfl⟩

/-- What becomes of an attempt, or of the session it led to, in a chapter: it goes on, the client
quits, or it ends and the wait begins. -/
theorem ended_or_busy {ch : Chapter} (h : ch.before.Ready ch.deed)
    (busy : ch.before.phase.busy = true) :
    (ch.ends = [] ∧ (ch.after.phase.busy = true ∨ ch.before.Quitting)) ∨
      ∃ e, ch.ends = [e] ∧ ch.after.phase = ch.before.pause := by
  have hends : ch.ends = (ch.events.filter Event.isMilestone).filter Event.isEnd := by
    rw [Chapter.ends, List.filter_filter]
    congr 1
    funext e
    cases e <;> rfl
  have hstride := Link.stride_perform h
  rw [hends, Chapter.events]
  generalize (ch.before.story ch.deed).filter Event.isMilestone = ms at hstride
  cases hstride with
  | begin phase due attempts after =>
    rw [phase] at busy
    cases busy
  | finish isEnd busy attempts phase =>
    exact .inr ⟨_, List.filter_cons_of_pos isEnd, phase⟩
  | stay attempts phase =>
    refine .inl ⟨rfl, .inl ?_⟩
    rcases phase with hsame | ⟨-, hbusy⟩
    · show (ch.before.perform ch.deed).phase.busy = true
      rw [hsame]
      exact busy
    · exact hbusy
  | quit attempts quitting phase =>
    rcases quitting with hquit | hparting
    · exact .inl ⟨rfl, .inr hquit⟩
    · rw [Phase.not_parting_of_busy busy] at hparting
      cases hparting

/-- The client has to wait, and unless it is shut down there was one attempt for the start and one
for each end whose delay has passed. -/
structure Punctual (delay : Nat) (c : Life) : Prop where
  waits : c.link.deed? = none
  attempts : ¬ c.link.Forsaken →
    c.link.attempts = 1 + c.link.ended.countP (· + delay ≤ c.link.now)

/-- Attempts keep their pace. -/
structure Steady (t : Terms) (c : Life) : Prop where
  /-- Attempts and ends take turns.  The first attempt begins at once and each other one exactly
  one delay after the end before it. -/
  course : ∃ next, Course t.delay next c.link.course ∧
    (c.link.phase ≠ .stopped → next = c.link.phase.awaited?)
  /-- So the moments of the attempts are told by the moments of the ends. -/
  spaced : c.link.begun <+: 0 :: c.link.ended.map (· + t.delay)
  counted : c.link.attempts = c.link.begun.length
  /-- No attempt begins while a session is open or another attempt is in flight: the client was
  waiting for just that moment. -/
  alone : ∀ ch ∈ c.chapters, ch.deed = .attempt → ch.before.phase = .waiting ch.before.now
  /-- However an attempt fails or a session is lost, that is one end, and the wait begins then. -/
  ends_once : ∀ ch ∈ c.chapters, ch.before.phase.busy = true →
    (ch.ends = [] ∧ (ch.after.phase.busy = true ∨ ch.before.Quitting)) ∨
      ∃ e, ch.ends = [e] ∧ ch.after.phase = .waiting (ch.before.now + t.delay)
  /-- Requests that are turned down leave the wait, or the attempt in flight, as it is. -/
  patient : ∀ ch ∈ c.chapters, ∀ id r, ch.deed = .decline id r →
    ch.after.phase = ch.before.phase
  /-- At no time are there more attempts than the first one and one for each end whose delay has
  passed. -/
  never_early : c.link.attempts ≤ 1 + c.link.ended.countP (· + t.delay ≤ c.link.now)
  /-- A client that is not shut down has made just as many once it has to wait. -/
  elapsed : c.link.deed? = none → ¬ c.link.Forsaken →
    c.link.attempts = 1 + c.link.ended.countP (· + t.delay ≤ c.link.now)
  /-- It has to wait after some more turns, if there is a delay at all. -/
  settles : 0 < t.delay → ∃ k, ((List.replicate k Move.turn).foldl move c).Punctual t.delay

theorem punctual {ms : List Move} (h : (start terms script hub).Orderly ms)
    (hwait : (of terms script hub ms).link.deed? = none) :
    (of terms script hub ms).Punctual terms.delay := by
  refine ⟨hwait, fun hkept => (pace h).elapsed hwait fun hstop => ?_⟩
  refine hkept (forsaken_of_parting h ?_)
  rw [hstop]
  rfl

/-- A turn can be made at any time. -/
theorem orderly_turns (c : Life) (k : Nat) : c.Orderly (List.replicate k .turn) := by
  induction k generalizing c with
  | zero => trivial
  | succ k ih => exact ⟨trivial, ih (c.move .turn)⟩

/-- After some more turns the client has to wait. -/
theorem punctual_settled {ms : List Move} (h : (start terms script hub).Orderly ms)
    (hdelay : 0 < terms.delay) :
    ∃ k, ((List.replicate k Move.turn).foldl move (of terms script hub ms)).Punctual
      terms.delay := by
  obtain ⟨k, hwait⟩ := settled (of terms script hub ms) (by rw [terms_eq]; exact hdelay)
  have horderly := (orderly_append _ _ _).mpr ⟨h, orderly_turns (of terms script hub ms) k⟩
  have hlater : of terms script hub (ms ++ List.replicate k .turn) =
      (List.replicate k Move.turn).foldl move (of terms script hub ms) := List.foldl_append
  refine ⟨k, ?_⟩
  rw [← hlater] at hwait ⊢
  exact punctual horderly hwait

/-- **Attempts keep their pace**, whatever ends them and whatever happens meanwhile. -/
theorem reconnects_steadily {ms : List Move} (h : (start terms script hub).Orderly ms) :
    (of terms script hub ms).Steady terms := by
  have hpace := pace h
  have hterms : ∀ ch ∈ (of terms script hub ms).chapters, ch.before.terms = terms :=
    chapter_invariant (P := fun s => s.terms = terms) terms_eq ms
  obtain ⟨next, hcourse, hnext⟩ := hpace.course
  refine {
    course := ⟨next, hcourse, hnext⟩
    spaced := ⟨next.toList, ?_⟩
    counted := hpace.counted
    alone := fun ch hch hd => ?_
    ends_once := fun ch hch hbusy => ?_
    patient := fun ch hch id r hd => ?_
    never_early := hpace.le_elapsed
    elapsed := fun hwait => (punctual h hwait).attempts
    settles := punctual_settled h }
  · rw [Link.begun_course, Link.ended_course]
    exact hcourse.spaced
  · have hready := (chapter_ready ms ch hch).2
    have htimely := chapter_timely h ch hch
    rw [hd] at hready
    cases hready with
    | @attempt t phase live due =>
      have hmoment : ch.before.now = t := Nat.le_antisymm (htimely t (by rw [phase]; rfl)) due
      rw [phase, hmoment]
  · have hcases := ended_or_busy (chapter_ready ms ch hch).2 hbusy
    rw [Link.pause, hterms ch hch] at hcases
    exact hcases
  · have hready := (chapter_ready ms ch hch).2
    obtain ⟨s, d⟩ := ch
    obtain rfl : d = .decline id r := hd
    exact Link.phase_perform hready

/-- An attempt that is refused, and a session that is lost as it opens. -/
def faulty : List Attempt := [⟨.refused, 30, none, .never⟩, ⟨.accepted, 0, some 1, .never⟩]

/-- The moves of a client that meets these, with resets while it waits. -/
def mishaps : List Move :=
  [.turn, .pass 30, .turn, .submit .reset, .turn, .pass 2000, .turn, .turn, .pass 1500,
    .submit .reset, .turn, .pass 500, .turn, .turn]

theorem reconnects_steadily_faulty :
    (start ⟨2000, 0, true⟩ faulty (Hub.make 4)).Orderly mishaps ∧
      (of ⟨2000, 0, true⟩ faulty (Hub.make 4) mishaps).link.begun = [0, 2030, 4030] ∧
      (of ⟨2000, 0, true⟩ faulty (Hub.make 4) mishaps).Steady ⟨2000, 0, true⟩ := by
  have h : (start ⟨2000, 0, true⟩ faulty (Hub.make 4)).Orderly mishaps := by decide
  exact ⟨h, by decide, reconnects_steadily h⟩

end Life
end RaceLink
