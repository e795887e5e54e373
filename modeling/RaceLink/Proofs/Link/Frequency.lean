import Mathlib.Data.List.Induction
import RaceLink.Link.Handle
import RaceLink.Proofs.Link.Replies
import RaceLink.Proofs.Race.CommandText

/-!
# Frequencies that leave the client

The call that tunes the receiver checks the band.  The call that sends any command does not, and the
command may be one to tune the receiver.

* `Gesture`, `Life.used` — what happens around a client whose handles are used only through their
  calls, and the life of such a client.
* `Life.asked_eq` — the requests that were handed in are those of the calls.
* `Life.frequencies_sent` — **which frequencies are sent**: those of the band, and those that a
  caller put into a command of its own.
-/

set_option autoImplicit false

namespace RaceLink

/-- The request that a move hands in. -/
def Move.request? : Move → Option Request
  | submit r => some r
  | _ => none

/-- What happens around a client whose handles are used only through their calls. -/
inductive Gesture where
  /-- A call of a handle, which hands in a request unless it turns it down itself. -/
  | call (w : Wish)
  /-- Anything that hands in no request. -/
  | other (m : Move) (silent : m.request? = none)

namespace Gesture

/-- The request of a gesture, unless the call is turned down at once. -/
def request? : Gesture → Option Request
  | call w => w.request.toOption
  | other _ _ => none

/-- What a gesture does to the client. -/
def moves : Gesture → List Move
  | call w => w.request.toOption.toList.map .submit
  | other m _ => [m]

theorem filterMap_moves (g : Gesture) : g.moves.filterMap Move.request? = g.request?.toList := by
  cases g with
  | call w =>
    show (w.request.toOption.toList.map Move.submit).filterMap Move.request? = _
    rw [List.filterMap_map]
    exact List.filterMap_some
  | other m silent => rw [moves, List.filterMap_cons, silent]; rfl

end Gesture

namespace Wish

/-- Only two calls lead to a command that tunes the receiver, and one of them checks the band. -/
theorem request_setFrequency {w : Wish} {f : UInt16}
    (h : w.request = .ok (.send (.setFrequency f))) :
    Command.inBand f = true ∨ w = .send (.setFrequency f) := by
  cases w with
  | setFrequency g =>
    rw [request, Command.setFrequency?] at h
    split at h
    · rename_i hband
      cases h
      exact .inl hband
    · cases h
  | send c =>
    cases h
    exact .inr rfl
  | _ => cases h

end Wish

namespace Life

variable {terms : Terms} {script : List Attempt} {hub : Hub}

/-- The requests that were handed in. -/
theorem asked_eq (ms : List Move) :
    (of terms script hub ms).asked = ms.filterMap Move.request? := by
  induction ms using List.reverseRecOn with
  | nil => rfl
  | append_singleton ms m ih =>
    rw [of_append, List.filterMap_append, ← ih]
    cases m with
    | submit r => rfl
    | turn =>
      rw [move]
      split <;> exact (List.append_nil _).symm
    | _ => exact (List.append_nil _).symm

/-- A command that tunes the receiver is sent only for a request to send it. -/
theorem asked_of_sent (ms : List Move) {n : Nat} {f : UInt16}
    (h : (Command.setFrequency f).text ∈ (of terms script hub ms).sentOn n) :
    .send (.setFrequency f) ∈ (of terms script hub ms).asked := by
  rw [texts_postings, List.mem_flatMap] at h
  obtain ⟨p, hp, htext⟩ := h
  obtain ⟨c, hc, he⟩ := List.mem_map.1 htext
  obtain rfl := Command.text_injective he
  have hdue := ((traffic ms n).accepted p hp).subset hc
  cases hcause : p.cause with
  | opening =>
    rw [hcause, Cause.due] at hdue
    split at hdue
    · exact absurd hdue (by simp [Command.resync])
    · cases hdue
  | heartbeat =>
    rw [hcause] at hdue
    exact absurd hdue (by simp [Cause.due])
  | request id r =>
    rw [hcause] at hdue
    -- of the three kinds of request only one can lead to such a command
    have hr : r = .send (.setFrequency f) := by
      cases r with
      | send c => rw [← List.mem_singleton.1 hdue]
      | _ => exact absurd hdue (by simp [Cause.due, Request.commands, Command.resync])
    obtain ⟨ch, hch, hposting⟩ := List.mem_filterMap.1 hp
    have htaken := taken_eq (chapter_ready ms ch hch).2 n
    rw [hposting] at htaken
    have hanswered : Posting.request? p = some (id, r) := by rw [Posting.request?, hcause]; rfl
    obtain ⟨-, htaken⟩ := Option.ite_none_right_eq_some.1 (htaken.symm.trans hanswered)
    have hasked := (kept ms).asked_of_settled hch (settled_of_taken htaken)
    rw [hr] at hasked
    exact List.mem_of_getElem? hasked

/-- The life of a client whose handles are used only through their calls. -/
def used (terms : Terms) (script : List Attempt) (hub : Hub) (gs : List Gesture) : Life :=
  of terms script hub (gs.flatMap Gesture.moves)

/-- The requests that were handed in are those of the calls. -/
theorem asked_used (gs : List Gesture) :
    (used terms script hub gs).asked = gs.filterMap Gesture.request? := by
  rw [used, asked_eq, List.filterMap_flatMap, List.filterMap_eq_flatMap_toList]
  congr 1
  funext g
  exact g.filterMap_moves

/-- A command that tunes the receiver is sent only for a call. -/
theorem called_of_sent {gs : List Gesture} {n : Nat} {f : UInt16}
    (h : (Command.setFrequency f).text ∈ (used terms script hub gs).sentOn n) :
    ∃ w, .call w ∈ gs ∧ w.request = .ok (.send (.setFrequency f)) := by
  have hasked : .send (.setFrequency f) ∈ (used terms script hub gs).asked := asked_of_sent _ h
  rw [asked_used, List.mem_filterMap] at hasked
  obtain ⟨g, hg, hrequest⟩ := hasked
  cases g with
  | call w =>
    refine ⟨w, hg, ?_⟩
    have hrequest : w.request.toOption = some (.send (.setFrequency f)) := hrequest
    cases hw : w.request with
    | ok r =>
      rw [hw] at hrequest
      rw [Option.some_inj.1 hrequest]
    | error e =>
      rw [hw] at hrequest
      cases hrequest
  | other m silent => cases hrequest

/-- A call that is turned down at once leaves no trace. -/
theorem used_refused {w : Wish} {e : Fault} (h : w.request = .error e)
    (before behind : List Gesture) :
    used terms script hub (before ++ .call w :: behind) =
      used terms script hub (before ++ behind) := by
  have hmoves : (Gesture.call w).moves = [] := by
    rw [Gesture.moves, h]
    rfl
  rw [used, used, List.flatMap_append, List.flatMap_append, List.flatMap_cons, hmoves,
    List.nil_append]

/-- What is sent for a request to send a command, if the answer is a success. -/
theorem framesOf_send (ms : List Move) {id : Nat} {c : Command}
    (hasked : (of terms script hub ms).asked[id]? = some (.send c))
    (hok : .ok () ∈ (of terms script hub ms).answersTo id) :
    ∃ n, (of terms script hub ms).framesOf id = [(n, c.text)] := by
  obtain ⟨n, r, ⟨ch, hch, htaken, -⟩, hframes⟩ := (ok_iff ms id).1 hok
  have hr := (kept ms).asked_of_settled hch (settled_of_taken htaken)
  rw [hasked] at hr
  obtain rfl := Option.some_inj.1 hr
  exact ⟨n, hframes⟩

/-! ## The law -/

/-- The band in numbers. -/
theorem inBand_iff {f : UInt16} :
    Command.inBand f = true ↔ 5645 ≤ f.toNat ∧ f.toNat ≤ 5945 := by
  rw [Command.inBand, Bool.and_eq_true, decide_eq_true_iff, decide_eq_true_iff,
    UInt16.le_iff_toNat_le, UInt16.le_iff_toNat_le]
  rfl

/-- **Which frequencies are sent.**  On no session, at no moment of a life, a frequency out of the
band is sent, unless a caller put it into a command of its own.  A call to tune to such a frequency
is turned down with a fault that names the frequency, and everything goes on as if the call had not
been made.  A command of the caller's own is not looked at: if it succeeds, it was sent as it is. -/
theorem frequencies_sent (gs : List Gesture) :
    (∀ n f, (Command.setFrequency f).text ∈ (used terms script hub gs).sentOn n →
      (5645 ≤ f.toNat ∧ f.toNat ≤ 5945) ∨ .call (.send (.setFrequency f)) ∈ gs) ∧
    (∀ f : UInt16, ¬ (5645 ≤ f.toNat ∧ f.toNat ≤ 5945) →
      (Wish.setFrequency f).request =
          .error (.invalidParameter "frequency" f.toNat "must be within 5645..=5945 MHz") ∧
        ∀ before behind, used terms script hub (before ++ .call (.setFrequency f) :: behind) =
          used terms script hub (before ++ behind)) ∧
    ∀ id f, (used terms script hub gs).asked[id]? = some (.send (.setFrequency f)) →
      .ok () ∈ (used terms script hub gs).answersTo id →
        ∃ n, (used terms script hub gs).framesOf id = [(n, (Command.setFrequency f).text)] := by
  refine ⟨fun n f hsent => ?_, fun f hband => ?_, fun id f => framesOf_send _⟩
  · obtain ⟨w, hcall, hrequest⟩ := called_of_sent hsent
    rcases Wish.request_setFrequency hrequest with hband | rfl
    · exact .inl (inBand_iff.1 hband)
    · exact .inr hcall
  · have hrefused : (Wish.setFrequency f).request =
        .error (.invalidParameter "frequency" f.toNat "must be within 5645..=5945 MHz") := by
      rw [Wish.request, Command.setFrequency?, if_neg (mt inBand_iff.1 hband)]
      rfl
    exact ⟨hrefused, used_refused hrefused⟩

/-- The texts of a client that resyncs and is then asked to send one command. -/
theorem sentOn_send (c : Command) :
    (used ⟨3000, 0, true⟩ [] (Hub.make 16) [.other .turn rfl, .other .turn rfl, .call (.send c),
      .other .turn rfl]).sentOn 1 =
        [Command.getStatus.text, Command.getLaps.text, c.text] := by
  rw [used, texts_postings]
  rfl

/-- A frequency of the band is sent. -/
theorem frequencies_sent_in_band :
    let gs : List Gesture := [.other .turn rfl, .other .turn rfl, .call (.setFrequency 5800),
      .other .turn rfl]
    (Command.setFrequency 5800).text ∈ (used ⟨3000, 0, true⟩ [] (Hub.make 16) gs).sentOn 1 ∧
      5645 ≤ (5800 : UInt16).toNat ∧ (5800 : UInt16).toNat ≤ 5945 := by
  intro gs
  have hsent : (Command.setFrequency 5800).text ∈
      (used ⟨3000, 0, true⟩ [] (Hub.make 16) gs).sentOn 1 := by
    show _ ∈ (used ⟨3000, 0, true⟩ [] (Hub.make 16) [.other .turn rfl, .other .turn rfl,
      .call (.send (.setFrequency 5800)), .other .turn rfl]).sentOn 1
    rw [sentOn_send]
    simp
  refine ⟨hsent, ((frequencies_sent gs).1 1 5800 hsent).resolve_right ?_⟩
  simp [gs]

/-- A command that a caller made itself tunes the receiver to a frequency out of the band. -/
theorem unchecked_frequency_sent : ¬ ∀ (terms : Terms) (script : List Attempt) (hub : Hub)
    (gs : List Gesture) (n : Nat) (f : UInt16),
      (Command.setFrequency f).text ∈ (used terms script hub gs).sentOn n →
        5645 ≤ f.toNat ∧ f.toNat ≤ 5945 := by
  intro h
  have hband := h ⟨3000, 0, true⟩ [] (Hub.make 16) [.other .turn rfl, .other .turn rfl,
    .call (.send (.setFrequency 5000)), .other .turn rfl] 1 5000 (by rw [sentOn_send]; simp)
  exact absurd hband (by decide)

end Life
end RaceLink
