import RaceLink.Link.Script
import RaceLink.Proofs.Link.NoiseRuns
import Mathlib.Data.List.Forall2

/-!
# Noise does not interfere

Two scripts that differ only in noise look the same, step by step, except for the warnings; and of
these there is one more for every text that was taken and is no frame.

* `Step.clean`, `Step.cleaned` — a step and a script without noise.
* `Scene.clean_step` — a step of a script does the same in a scene without noise.
* `Report.Alike` — what two reports have in common that differ only in noise.
* `Scene.heard_clean` — a script is heard as it is without noise, by induction on its steps.
* `noise_harmless` — **noise does not interfere**.
-/

set_option autoImplicit false

namespace RaceLink

/-! ## Scripts without noise -/

/-- An action without its noise, if anything is left of it. -/
def Action.clean? : Action → Option Action
  | far session what =>
    if Inbound.clean what = [] then none else some (.far session (Inbound.clean what))
  | a => some a

namespace Step

/-- The step in which nothing is done. -/
def rest : Step := .batch [] []

/-- A step without noise. -/
def clean : Step → Step
  | batch actions asks => .batch (actions.filterMap Action.clean?) asks
  | st => st

/-- A script without noise, and without the steps that are nothing else. -/
def cleaned (script : List Step) : List Step := (script.map clean).filter (· ≠ rest)

end Step

namespace Scene

/-- A scene whose client is spared all noise. -/
def clean (c : Scene) : Scene := { c with link := c.link.clean }

variable {c : Scene}

/-- Both scenes mean the same session by an action. -/
theorem target_clean (c : Scene) (session : Option Nat) :
    c.clean.target session = c.target session := by
  rw [target, target, clean, Link.length_clean]

/-- What is done to a far side does the same in a scene without noise. -/
theorem clean_onPeer (c : Scene) (session : Option Nat) {f g : Peer → Peer}
    (h : ∀ p, (f p).clean = g p.clean) :
    ({ c with link := c.link.onPeer (c.target session) f } : Scene).clean =
      { c.clean with link := c.clean.link.onPeer (c.clean.target session) g } := by
  rw [target_clean, clean]
  dsimp only
  rw [Link.clean_onPeer c.link _ h]
  rfl

/-! What is done in a scene is done, without its noise, in the scene without noise as well; and the
client of the scene has gone on. -/

theorem clean_act (hc : c.link.Calm) (a : Action) :
    a.clean?.toList.foldl act c.clean = (c.act a).clean ∧ c.link.Onward (c.act a).link := by
  cases a with
  | far session what =>
    refine ⟨?_, Link.onward_onPeer hc _ _⟩
    have hfar := clean_onPeer c session (f := (·.does what)) (g := (·.does (Inbound.clean what)))
      fun p => p.clean_does what
    rw [Action.clean?]
    split
    · rename_i hnone
      rw [hnone, Link.onPeer_self Peer.does_nil] at hfar
      exact hfar.symm
    · exact hfar.symm
  | vanish session =>
    have hvanish := clean_onPeer c session (f := Peer.vanish) (g := Peer.vanish) fun _ => rfl
    exact ⟨hvanish.symm, Link.onward_onPeer hc _ _⟩
  | clone =>
    have hhandles : c.clean.link.handles = c.link.handles := rfl
    show c.clean.act .clone = _ ∧ _
    rw [act, act, hhandles]
    split
    · exact ⟨rfl, Link.Onward.refl hc⟩
    · exact ⟨rfl, Link.onward_same hc rfl rfl rfl rfl rfl rfl⟩
  | drop => exact ⟨rfl, Link.onward_same hc rfl rfl rfl rfl rfl rfl⟩
  | subscribe topic =>
    refine ⟨?_, Link.Onward.refl hc⟩
    cases topic <;> rfl

theorem clean_acts (actions : List Action) (hc : c.link.Calm) :
    (actions.filterMap Action.clean?).foldl act c.clean = (actions.foldl act c).clean ∧
      c.link.Onward (actions.foldl act c).link := by
  induction actions generalizing c with
  | nil => exact ⟨rfl, Link.Onward.refl hc⟩
  | cons a actions ih =>
    obtain ⟨hclean, honward⟩ := clean_act hc a
    obtain ⟨hrest, honward'⟩ := ih honward.calm
    refine ⟨?_, honward.trans honward'⟩
    rw [List.foldl_cons, ← hrest, ← hclean, List.filterMap_cons]
    cases a.clean? <;> rfl

theorem clean_ask (hc : c.link.Calm) (a : Ask) :
    c.clean.ask a = ((c.ask a).1.clean, (c.ask a).2) ∧ c.link.Onward (c.ask a).1.link := by
  have hhandles : c.clean.link.handles = c.link.handles := rfl
  by_cases hnone : c.link.handles = 0
  · simp only [ask, hhandles, if_pos hnone, true_and]
    exact Link.Onward.refl hc
  · cases a with
    | wish w =>
      cases hw : w.request with
      | error f =>
        simp only [ask, hhandles, if_neg hnone, hw, true_and]
        exact Link.Onward.refl hc
      | ok r =>
        have hsubmit : c.clean.apply (.submit c.next r) = (c.apply (.submit c.next r)).clean := by
          rw [apply, apply, clean, clean]
          exact congrArg (fun s => Scene.mk s c.streams c.next) (Link.clean_submit ..).symm
        simp only [ask, hhandles, if_neg hnone, hw]
        refine ⟨?_, Link.onward_submit hc _ r⟩
        show (({ c.clean.apply (.submit c.next r) with next := _ } : Scene), _) = _
        rw [hsubmit]
        rfl
    | close =>
      simp only [ask, hhandles, if_neg hnone]
      exact ⟨rfl, Link.onward_same hc rfl rfl rfl rfl rfl rfl⟩
    | state wanted patience =>
      simp only [ask, hhandles, if_neg hnone]
      exact ⟨rfl, Link.Onward.refl hc⟩

theorem askAll_cons (c : Scene) (a : Ask) (rest : List Ask) :
    c.askAll (a :: rest) =
      (((c.ask a).1.askAll rest).1, (c.ask a).2 :: ((c.ask a).1.askAll rest).2) :=
  rfl

theorem clean_askAll (asks : List Ask) (hc : c.link.Calm) :
    c.clean.askAll asks = ((c.askAll asks).1.clean, (c.askAll asks).2) ∧
      c.link.Onward (c.askAll asks).1.link := by
  induction asks generalizing c with
  | nil => exact ⟨rfl, Link.Onward.refl hc⟩
  | cons a asks ih =>
    obtain ⟨hclean, honward⟩ := clean_ask hc a
    obtain ⟨hrest, honward'⟩ := ih honward.calm
    exact ⟨by rw [askAll_cons, askAll_cons, hclean, hrest], honward.trans honward'⟩

theorem await_eq (c : Scene) (ts : List Ticket) :
    c.await ts =
      ({ c with link := (c.link.await (ts.filterMap Ticket.waiter?)).1 },
        Ticket.answers ts (c.link.await (ts.filterMap Ticket.waiter?)).2) :=
  rfl

theorem clean_await (hc : c.link.Calm) (ts : List Ticket) :
    c.clean.await ts = ((c.await ts).1.clean, (c.await ts).2) ∧
      c.link.Onward (c.await ts).1.link := by
  obtain ⟨hclean, honward⟩ := Link.clean_await hc (ts.filterMap Ticket.waiter?)
  have hlink : c.clean.link = c.link.clean := rfl
  refine ⟨?_, honward⟩
  rw [await_eq, await_eq, hlink, hclean]
  rfl

theorem drain_clean (s : Link) (stream : Stream) : s.clean.drain stream = s.drain stream := by
  cases stream with
  | status seen throttle => cases throttle <;> rfl
  | _ => rfl

theorem clean_settle (hc : c.link.Calm) : (c.apply .idle).clean = c.clean.apply .idle :=
  congrArg (fun s => Scene.mk s c.streams c.next) (Link.clean_settle hc)

theorem step_batch (c : Scene) (actions : List Action) (asks : List Ask) :
    c.step (.batch actions asks) =
      ((((actions.foldl act c).askAll asks).1.await ((actions.foldl act c).askAll asks).2).1.apply
          .idle,
        (((actions.foldl act c).askAll asks).1.await ((actions.foldl act c).askAll asks).2).2,
        none) :=
  rfl

/-- **A step without its noise** does the same in a scene without noise. -/
theorem clean_step (hc : c.link.Calm) (st : Step) :
    c.clean.step st.clean = ((c.step st).1.clean, (c.step st).2) ∧
      c.link.Onward (c.step st).1.link := by
  cases st with
  | batch actions asks =>
    obtain ⟨hacts, honward⟩ := clean_acts actions hc
    obtain ⟨hasks, honward'⟩ := clean_askAll asks honward.calm
    obtain ⟨hawait, honward''⟩ :=
      clean_await honward'.calm ((actions.foldl act c).askAll asks).2
    have hgone := (honward.trans honward').trans honward''
    refine ⟨?_, hgone.trans (Link.onward_settle hgone.calm)⟩
    rw [Step.clean, step_batch, step_batch, hacts, hasks, hawait, clean_settle hgone.calm]
  | sleep ms =>
    obtain ⟨hclean, honward⟩ :=
      Link.clean_passWithin (c.link.now + ms - c.link.now + 1) (c.link.now + ms) hc
    exact ⟨congrArg (fun s => (Scene.mk s c.streams c.next, _)) hclean.symm, honward⟩
  | poll i =>
    have hstreams : c.clean.streams = c.streams := rfl
    have hlink : c.clean.link = c.link.clean := rfl
    show c.clean.step (.poll i) = _ ∧ _
    rw [step, step, hstreams, hlink]
    cases c.streams[i]? with
    | none => exact ⟨rfl, Link.Onward.refl hc⟩
    | some stream =>
      dsimp only
      rw [drain_clean]
      exact ⟨rfl, Link.Onward.refl hc⟩

end Scene

/-! ## Reports -/

namespace Report

/-- How many of the texts that were taken are no frames. -/
def garbled (r : Report) : Nat := (r.taken.filter fun e => Frame.garbled e.2).length

/-- What was taken, apart from noise. -/
def frames (r : Report) : List (Nat × String) := r.taken.filter fun e => !Frame.isNoise e.2

/-- Two reports tell the same, apart from the noise that was taken and from the warnings, and the
warnings differ by as much as the numbers of texts that were taken and are no frames. -/
structure Alike (r r' : Report) : Prop where
  same : r' = { r with taken := r'.taken, warnings := r'.warnings }
  frames : r.frames = r'.frames
  warnings : r.warnings + r'.garbled = r'.warnings + r.garbled

theorem Alike.symm {r r' : Report} (h : Alike r r') : Alike r' r :=
  ⟨by rw [h.same], h.frames.symm, h.warnings.symm⟩

theorem Alike.trans {q r r' : Report} (hq : Alike q r) (hr : Alike r r') : Alike q r' := by
  refine ⟨by rw [hr.same, hq.same], hq.frames.trans hr.frames, ?_⟩
  have hwarnings := hq.warnings
  have hwarnings' := hr.warnings
  omega

end Report

/-- Whatever is no frame is noise. -/
theorem Frame.isNoise_of_garbled {raw : String} (h : garbled raw = true) : isNoise raw = true := by
  rw [garbled] at h
  rw [isNoise]
  cases hd : decode raw with
  | error e => rfl
  | ok f =>
    rw [hd] at h
    cases h

namespace Link

theorem live?_clean (s : Link) : s.clean.live? = s.live? := by
  rw [live?, live?]
  show s.phase.session?.filter _ = s.phase.session?.filter _
  congr 1
  funext n
  rw [peer?_clean, Option.map_map]
  rfl

/-! Nothing but complaints is missing among the warnings of a log without noise, and nothing but
noise among the texts that were taken. -/

theorem warnings_loud (es : List Entry) :
    (es.filter (·.event.isWarning)).length =
      ((es.filter Entry.loud).filter (·.event.isWarning)).length +
        (es.filterMap fun e => e.event.complaint?).length := by
  rw [← List.countP_eq_length_filter, ← List.countP_eq_length_filter,
    List.countP_eq_countP_filter_add es _ Entry.loud, List.length_filterMap_eq_countP,
    List.countP_filter (l := es) (q := fun e => !e.loud)]
  congr 2
  funext e
  obtain ⟨time, event⟩ := e
  cases event <;> rfl

theorem garbled_taken (es : List Entry) :
    ((es.filterMap (·.event.taken?)).filter fun e => Frame.garbled e.2).length =
      (es.filterMap fun e => e.event.garbled?).length := by
  rw [← List.countP_eq_length_filter, List.countP_filterMap, List.length_filterMap_eq_countP]
  congr 1
  funext e
  obtain ⟨time, event⟩ := e
  cases event with
  | took n t =>
    rw [Event.garbled?]
    cases hg : Frame.garbled t <;> simp [Event.taken?, hg]
  | _ => rfl

theorem garbled_loud (es : List Entry) :
    (((es.filter Entry.loud).filterMap (·.event.taken?)).filter fun e =>
      Frame.garbled e.2).length = 0 := by
  rw [List.length_eq_zero_iff, List.filter_eq_nil_iff]
  intro e he hgarbled
  obtain ⟨⟨time, event⟩, hentry, htaken⟩ := List.mem_filterMap.1 he
  have hloud : Entry.loud ⟨time, event⟩ = true := (List.mem_filter.1 hentry).2
  cases event with
  | took n t =>
    cases htaken
    rw [Entry.loud, Event.isNoise, Frame.isNoise_of_garbled hgarbled] at hloud
    cases hloud
  | _ => cases htaken

theorem frames_loud (es : List Entry) :
    ((es.filter Entry.loud).filterMap (·.event.taken?)).filter (fun e => !Frame.isNoise e.2) =
      (es.filterMap (·.event.taken?)).filter fun e => !Frame.isNoise e.2 := by
  rw [List.filter_filterMap, List.filter_filterMap, filterMap_loud]
  rintro ⟨time, event⟩ h
  cases event with
  | took n t =>
    have ht : (!Frame.isNoise t) = false := h
    simp [Event.taken?, ht, Option.filter]
  | _ => rfl

end Link

namespace Scene

variable {c : Scene}

/-- What is new in the log of a client that has gone on. -/
theorem news_eq {s : Link} {es : List Entry} (h : c.link.log.toList = s.log.toList ++ es) :
    c.news s.log.size = es := by
  rw [news, h, ← Array.length_toList, List.drop_left]

/-- Two scenes that differ only in noise are reported alike. -/
theorem report_clean {s : Link} (h : s.Onward c.link) (answers : List Answer)
    (reading : Option Reading) :
    (c.report s.log.size answers reading).Alike
      (c.clean.report s.clean.log.size answers reading) := by
  obtain ⟨es, hes, hfair⟩ := h.log
  have hnews : c.news s.log.size = es := news_eq hes
  have hclean : c.clean.news s.clean.log.size = es.filter Entry.loud := by
    refine news_eq (s := s.clean) ?_
    show (c.link.log.filter Entry.loud).toList = (s.log.filter Entry.loud).toList ++ _
    rw [Array.toList_filter, Array.toList_filter, hes, List.filter_append]
  refine ⟨?_, ?_, ?_⟩
  · have hattempted : (es.filter Entry.loud).filterMap Entry.attempted? =
        es.filterMap Entry.attempted? :=
      Link.filterMap_other (fun _ _ _ => rfl) (fun _ _ => rfl) es
    have hsent : (es.filter Entry.loud).filterMap (·.event.frame?) =
        es.filterMap (·.event.frame?) :=
      Link.filterMap_other (fun _ _ _ => rfl) (fun _ _ => rfl) es
    have htold : (es.filter Entry.loud).filterMap (·.event.told?) = es.filterMap (·.event.told?) :=
      Link.filterMap_other (fun _ _ _ => rfl) (fun _ _ => rfl) es
    have hlive : c.clean.link.live? = c.link.live? := Link.live?_clean c.link
    rw [report, report, hnews, hclean]
    dsimp only
    rw [hattempted, hsent, htold, hlive]
    rfl
  · rw [Report.frames, Report.frames, report, report, hnews, hclean]
    exact (Link.frames_loud es).symm
  · rw [Report.garbled, Report.garbled, report, report, hnews, hclean]
    dsimp only
    rw [Link.garbled_loud, Link.garbled_taken, Link.warnings_loud, ← hfair]
    omega

/-- A scene in which nothing is under way: its client is calm and has to wait. -/
structure Rests (c : Scene) : Prop where
  calm : c.link.Calm
  waits : c.link.deed? = none

theorem rests_start {s : Link} (hs : s.Calm) : (start s).Rests :=
  ⟨(Link.onward_settle hs).calm, Link.settle_waits hs.delay⟩

theorem Rests.clean (hc : c.Rests) : c.clean.Rests :=
  ⟨hc.calm.clean, Link.clean_waits hc.waits⟩

/-- After a step nothing is under way any more. -/
theorem Rests.step (hc : c.Rests) (st : Step) : (c.step st).1.Rests := by
  obtain ⟨-, honward⟩ := clean_step hc.calm st
  refine ⟨honward.calm, ?_⟩
  cases st with
  | batch actions asks =>
    obtain ⟨-, honward⟩ := clean_acts actions hc.calm
    obtain ⟨-, honward'⟩ := clean_askAll asks honward.calm
    obtain ⟨-, honward''⟩ := clean_await honward'.calm ((actions.foldl act c).askAll asks).2
    rw [step_batch]
    exact Link.settle_waits honward''.calm.delay
  | sleep ms => exact Link.passWithin_waits hc.calm (Nat.succ_ne_zero _) (by omega)
  | poll i =>
    rw [Scene.step]
    split <;> exact hc.waits

/-- Where nothing is under way, nothing happens when nothing is done. -/
theorem Rests.step_rest (hc : c.Rests) : c.step .rest = (c, [], none) := by
  have hsettle : c.link.settle = c.link := Link.turns_of_waits hc.waits _
  have hawait : c.await [] = (c, []) := by
    rw [await_eq, List.filterMap_nil, Link.await_nil hc.waits]
    rfl
  have hidle : c.apply .idle = c := congrArg (fun s => Scene.mk s c.streams c.next) hsettle
  show (((c.await []).1.apply .idle), (c.await []).2, none) = _
  rw [hawait, hidle]

/-- The episodes of a script that do more than to bring noise. -/
def heard (c : Scene) (script : List Step) : List Episode :=
  (c.play script).filter fun e => e.step.clean ≠ .rest

/-- **An episode** is reported as it is without noise. -/
theorem episode_clean (hc : c.Rests) (st : Step) :
    (Episode.mk c st).report.Alike (Episode.mk c.clean st.clean).report ∧
      (Episode.mk c st).after.clean = (Episode.mk c.clean st.clean).after := by
  obtain ⟨hstep, honward⟩ := clean_step hc.calm st
  have hreport := report_clean honward (c.step st).2.1 (c.step st).2.2
  refine ⟨?_, ?_⟩
  · show ((c.step st).1.report _ _ _).Alike
      ((c.clean.step st.clean).1.report _ (c.clean.step st.clean).2.1 (c.clean.step st.clean).2.2)
    rw [hstep]
    exact hreport
  · show (c.step st).1.clean = (c.clean.step st.clean).1
    rw [hstep]

/-- A step that brings nothing but noise shows what there was to be seen before it. -/
theorem Rests.alike_look {e : Episode} (hc : e.before.Rests) (hnothing : e.step.clean = .rest) :
    e.report.Alike e.before.look := by
  obtain ⟨hreport, -⟩ := episode_clean hc e.step
  have hlook := report_clean (Link.Onward.refl hc.calm) [] none
  have hclean : (Episode.mk e.before.clean e.step.clean).report = e.before.clean.look := by
    rw [hnothing, Episode.report, hc.clean.step_rest]
    rfl
  rw [hclean] at hreport
  exact hreport.trans hlook.symm

/-- Every episode begins when nothing is under way. -/
theorem Rests.play (hc : c.Rests) (script : List Step) : ∀ e ∈ c.play script, e.before.Rests := by
  induction script generalizing c with
  | nil => exact fun e he => (List.not_mem_nil he).elim
  | cons st script ih =>
    intro e he
    rcases List.mem_cons.1 he with rfl | hrest
    · exact hc
    · exact ih (hc.step st) e hrest

/-- **A script** is heard as it is without noise. -/
theorem heard_clean (script : List Step) (hc : c.Rests) :
    List.Forall₂ (fun e f => e.step.clean = f.step ∧ e.report.Alike f.report) (c.heard script)
      (c.clean.play (Step.cleaned script)) := by
  induction script generalizing c with
  | nil => exact .nil
  | cons st script ih =>
    obtain ⟨hreport, hafter⟩ := episode_clean hc st
    have hrest := ih (hc.step st)
    by_cases hnothing : st.clean = .rest
    · -- the episode is not heard, and without its noise it leaves everything as it was
      have hsame : (Episode.mk c st).after.clean = c.clean := by
        rw [hafter, hnothing]
        show (c.clean.step .rest).1 = c.clean
        rw [hc.clean.step_rest]
      have hheard : c.heard (st :: script) = (Episode.mk c st).after.heard script :=
        List.filter_cons_of_neg (by simpa using hnothing)
      have hcleaned : Step.cleaned (st :: script) = Step.cleaned script :=
        List.filter_cons_of_neg (by simpa using hnothing)
      rw [hheard, hcleaned, ← hsame]
      exact hrest
    · have hheard : c.heard (st :: script) =
          Episode.mk c st :: (Episode.mk c st).after.heard script :=
        List.filter_cons_of_pos (by simpa using hnothing)
      have hcleaned : Step.cleaned (st :: script) = st.clean :: Step.cleaned script :=
        List.filter_cons_of_pos (by simpa using hnothing)
      rw [hheard, hcleaned, play, ← hafter]
      exact .cons ⟨rfl, hreport⟩ hrest

end Scene

/-- Where two lists are related to a third one, they are related to each other. -/
theorem forall₂_meet {α β γ : Type} {R : α → γ → Prop} {S : β → γ → Prop} {T : α → β → Prop}
    (h : ∀ a b c, R a c → S b c → T a b) {as : List α} {bs : List β} {cs : List γ}
    (ha : List.Forall₂ R as cs) (hb : List.Forall₂ S bs cs) : List.Forall₂ T as bs := by
  induction ha generalizing bs with
  | nil =>
    cases hb
    exact .nil
  | cons hac _ ih =>
    cases hb with
    | cons hbc hb => exact .cons (h _ _ _ hac hbc) (ih hb)

namespace Settings

/-- Settings that can be used let some time pass between attempts. -/
theorem delay_pos {s : Settings} (h : s.zeroLimit? = none) : 0 < s.terms.delay := by
  rw [zeroLimit?, List.findSome?_eq_none_iff] at h
  have hdelay := h ("reconnect_delay_ms", s.reconnectDelay) (List.mem_cons_self ..)
  show 0 < s.reconnectDelay.toNat
  refine Nat.pos_of_ne_zero fun hzero => ?_
  rw [← UInt64.toNat_zero, UInt64.toNat_inj] at hzero
  simp [hzero] at hdelay

/-- A client that is not to be watched for silence starts calm. -/
theorem calm_start {s : Settings} {attempts : List Attempt} {observers : Nat} {link : Link}
    (h : s.start attempts observers = .ok link) (hidle : s.idleTimeout = 0) : link.Calm := by
  rw [start, validate] at h
  split at h
  · cases h
  · rename_i hlimit
    cases hurl : s.url with
    | error f =>
      rw [hurl] at h
      cases h
    | ok url =>
      rw [hurl] at h
      cases h
      refine ⟨Link.sound_start _ _ _, ?_, delay_pos hlimit, fun _ _ _ hp => by cases hp⟩
      show s.idleTimeout.toNat = 0
      rw [hidle]
      rfl

end Settings

/-- **Noise does not interfere.**  Take two scripts that are the same without noise, for clients
with the same settings and no watchdog.  The steps that do more than to bring noise go the same way
in both: whoever waits gets the same, the same is sent and shown at the same moments, and the
warnings differ by as much as the numbers of texts that were taken and are no frames.  A step that
brings nothing but noise shows what there was to be seen before it, apart from such warnings. -/
theorem noise_harmless {settings : Settings} {attempts : List Attempt} {observers : Nat}
    {link : Link} (hstart : settings.start attempts observers = .ok link)
    (hidle : settings.idleTimeout = 0) {script script' : List Step}
    (hsame : Step.cleaned script = Step.cleaned script') :
    List.Forall₂ (fun e f => e.step.clean = f.step.clean ∧ e.report.Alike f.report)
        ((Scene.start link).heard script) ((Scene.start link).heard script') ∧
      ∀ e ∈ (Scene.start link).play script, e.step.clean = .rest →
        e.report.Alike e.before.look := by
  have hrests : (Scene.start link).Rests := Scene.rests_start (Settings.calm_start hstart hidle)
  refine ⟨?_, ?_⟩
  · have hscript := Scene.heard_clean script hrests
    have hscript' := Scene.heard_clean script' hrests
    rw [← hsame] at hscript'
    refine forall₂_meet ?_ hscript hscript'
    rintro e f g ⟨hstep, hreport⟩ ⟨hstep', hreport'⟩
    exact ⟨hstep.trans hstep'.symm, hreport.trans hreport'.symm⟩
  · intro e he hnothing
    exact (hrests.play script e he).alike_look hnothing

/-- Settings without a watchdog. -/
def unwatched : Settings := { Settings.default with idleTimeout := 0 }

/-- The frame of a lap. -/
def lapFrame : Inbound := .text "\x7b\"type\":\"lap\",\"lap_time_ms\":63412,\"rssi_peak\":187\x7d"

/-- A lap is told while a race is started, with noise before it and behind it. -/
def noisy : List Step :=
  [.batch [.subscribe .notices] [],
    .batch
      [.far none [.text "definitely not json", .text "\x7b\"type\":\"pilot_joined\"\x7d", lapFrame,
        .text "\x7b\"type\":\"lap\",\"lap_time_ms\":\"fast\"\x7d"]]
      [.wish .startRace],
    .batch [.far none [.text "[1,"]] [],
    .poll 0]

/-- The same without noise. -/
def noiseless : List Step :=
  [.batch [.subscribe .notices] [], .batch [.far none [lapFrame]] [.wish .startRace], .poll 0]

theorem noise_harmless_noisy :
    ∃ link, unwatched.start [] 1 = .ok link ∧ unwatched.idleTimeout = 0 ∧
      Step.cleaned noisy = Step.cleaned noiseless ∧
      ((Scene.start link).heard noisy).map (·.report.warnings) = [0, 2, 0] ∧
      ((Scene.start link).heard noiseless).map (·.report.warnings) = [0, 0, 0] ∧
      List.Forall₂ (fun e f => e.step.clean = f.step.clean ∧ e.report.Alike f.report)
        ((Scene.start link).heard noisy) ((Scene.start link).heard noiseless) := by
  have hstart : unwatched.start [] 1 =
      .ok (Link.start unwatched.terms [] (unwatched.hub 1)) := by rfl
  have hsame : Step.cleaned noisy = Step.cleaned noiseless := by decide +kernel
  exact ⟨_, hstart, rfl, hsame, by decide +kernel, by decide +kernel,
    (noise_harmless hstart rfl hsame).1⟩

end RaceLink
