import RaceLink.Endpoint.Url
import RaceLink.Proofs.Endpoint.Host

/-!
# Addresses as they are written

The text of an address is read as the same address again, if it has the form that the address of a
socket has: a server and a path, and nothing that says who asks or what for.

* `Url.Shown` — the characters that the part of an address that names the server may have.
* `Url.Bare` — an address of a socket, on a host that has been read.
* `Url.parse_text` — reading what is written.
-/

set_option autoImplicit false

namespace RaceLink
namespace Endpoint
namespace Url

open Json.Read (bind_eq_ok map_eq_ok)

/-! ## The characters of a host -/

/-- A character that neither ends nor parts the text that names the server. -/
structure Shown (c : Char) : Prop where
  visible : 32 < c.toNat
  server : endsServer true c = false
  user : c ≠ '@'

instance (c : Char) : Decidable (Shown c) :=
  decidable_of_iff (32 < c.toNat ∧ endsServer true c = false ∧ c ≠ '@')
    ⟨fun h => ⟨h.1, h.2.1, h.2.2⟩, fun h => ⟨h.visible, h.server, h.user⟩⟩

theorem shown_digitChar : ∀ d < 16, Shown (Nat.digitChar d) := by decide

theorem shown_of_settled {c : Char} (h : Domain.Settled c) : Shown c := by
  have hnot (d : Char) (hd : Domain.forbidden d) : c ≠ d := by
    rintro rfl
    rw [h.allowed] at hd
    cases hd
  have hallowed := h.allowed
  simp only [Domain.forbidden, Bool.or_eq_false_iff, decide_eq_false_iff_not] at hallowed
  refine ⟨by omega, ?_, hnot '@' (by decide)⟩
  simp [endsServer, hnot '/' (by decide), hnot '?' (by decide), hnot '#' (by decide),
    hnot '\\' (by decide)]

theorem shown_text {host : Host} (h : host.Settled) : ∀ c ∈ host.text.toList, Shown c := by
  intro c hc
  cases host with
  | domain name => exact shown_of_settled (h.2.1 c hc)
  | four a =>
    rcases Address4.mem_text hc with rfl | ⟨d, hd, rfl⟩
    · decide
    · exact shown_digitChar d (by omega)
  | six a =>
    simp only [Host.text, String.toList_ofList, List.mem_cons, List.mem_append,
      List.not_mem_nil, or_false] at hc
    rcases hc with rfl | hc | rfl
    · decide
    · rcases Address6.mem_text hc with rfl | ⟨d, hd, rfl⟩
      · decide
      · exact shown_digitChar d hd
    · decide

theorem text_ne_nil {host : Host} (h : host.Settled) : host.text.toList ≠ [] := by
  cases host with
  | domain name => exact h.1
  | four a =>
    intro heq
    have := Address4.meant_text a
    rw [show (Address4.text a).toList = [] from heq] at this
    cases this
  | six a => simp [Host.text]

/-! ## The port -/

theorem splitPort_append {s : List Char} (hs : ∀ c ∈ s, c ≠ ':' ∧ c ≠ '[') (t : List Char) :
    splitPort false (s ++ t) = (s ++ (splitPort false t).1, (splitPort false t).2) := by
  induction s with
  | nil => rfl
  | cons c s ih =>
    obtain ⟨⟨hcolon, hbracket⟩, hs⟩ := List.forall_mem_cons.mp hs
    simp [splitPort, hcolon, hbracket, ih hs]

/-- Colons in brackets belong to the host. -/
theorem splitPort_inside {s : List Char} (hs : ∀ c ∈ s, c ≠ ']') (t : List Char) :
    splitPort true (s ++ ']' :: t) =
      (s ++ ']' :: (splitPort false t).1, (splitPort false t).2) := by
  induction s with
  | nil => simp [splitPort]
  | cons c s ih =>
    obtain ⟨hbracket, hs⟩ := List.forall_mem_cons.mp hs
    simp [splitPort, hbracket, ih hs]

/-- The host ends where the port begins. -/
theorem splitPort_text {host : Host} (h : host.Settled) (t : List Char) :
    splitPort false (host.text.toList ++ t) =
      (host.text.toList ++ (splitPort false t).1, (splitPort false t).2) := by
  cases host with
  | domain name =>
    refine splitPort_append (fun c hc => ?_) t
    have hallowed := (h.2.1 c hc).allowed
    constructor <;> rintro rfl <;> revert hallowed <;> decide
  | four a =>
    have hdigit : ∀ d < 10, Nat.digitChar d ≠ ':' ∧ Nat.digitChar d ≠ '[' := by decide
    refine splitPort_append (fun c hc => ?_) t
    rcases Address4.mem_text hc with rfl | ⟨d, hd, rfl⟩
    · decide
    · exact hdigit d hd
  | six a =>
    have hdigit : ∀ d < 16, Nat.digitChar d ≠ ']' := by decide
    have hinside := splitPort_inside (s := a.text) (fun c hc => by
      rcases Address6.mem_text hc with rfl | ⟨d, hd, rfl⟩
      · decide
      · exact hdigit d hd) t
    simp [Host.text, splitPort, hinside]

theorem splitPort_portText (u : Url) : splitPort false u.portText = ([], u.portText) := by
  unfold portText
  split <;> simp [splitPort]

theorem readPort_portText (u : Url) : readPort u.portText = .ok u.port := by
  unfold portText
  cases u.port with
  | none => rfl
  | some p =>
    have hvalue : (Nat.toDigits 10 p.toNat).foldl (fun n c => 10 * n + (c.toNat - 48)) 0 =
        p.toNat := Nat.ofDigitChars_ten_toDigits
    have hdigits : (Nat.toDigits 10 p.toNat).all Char.isDigit := by
      rw [List.all_eq_true]
      exact fun c hc => Nat.isDigit_of_mem_toDigits (by decide) (by decide) hc
    have hlt := p.toNat_lt
    simp [readPort, hvalue, hdigits]
    omega

theorem shown_portText (u : Url) : ∀ c ∈ u.portText, Shown c := by
  intro c hc
  unfold portText at hc
  split at hc
  · cases hc
  · rcases List.mem_cons.mp hc with rfl | hc
    · decide
    · obtain ⟨d, hd, rfl⟩ := mem_toDigits (by decide) hc
      exact shown_digitChar d (by omega)

/-! ## Addresses of sockets -/

/-- An address of a socket: nobody who asks, one segment of a path, and a port that is not the one
where the server would be expected anyway. -/
structure Bare (u : Url) : Prop where
  user : u.user = []
  password : u.password = []
  host : u.host.Settled
  port : u.port ≠ some u.scheme.port
  path : u.path = [['w', 's']]
  query : u.query = none
  fragment : u.fragment = none

theorem Bare.eq {u : Url} (h : u.Bare) :
    u = ⟨u.scheme, [], [], u.host, u.port, [['w', 's']], none, none⟩ := by
  have huser := h.user
  have hpassword := h.password
  have hpath := h.path
  have hquery := h.query
  have hfragment := h.fragment
  cases u
  simp_all

theorem dropWhile_clear {p : Char → Bool} {s : List Char} (h : ∀ c ∈ s, p c = false) :
    s.dropWhile p = s := by
  cases s with
  | nil => rfl
  | cons c s => rw [List.dropWhile_cons_of_neg (by simp [h c (List.mem_cons_self ..)])]

theorem clean_visible {s : List Char} (h : ∀ c ∈ s, 32 < c.toNat) : clean s = s := by
  have hblank (t : List Char) (ht : ∀ c ∈ t, c ∈ s) :
      t.dropWhile (fun c => decide (c.toNat ≤ 32)) = t :=
    dropWhile_clear fun c hc => decide_eq_false (Nat.not_le.mpr (h c (ht c hc)))
  have hfilter : (s.filter fun c => c ≠ '\t' && c ≠ '\n' && c ≠ '\r') = s := by
    refine List.filter_eq_self.mpr fun c hc => ?_
    have hc := h c hc
    have hne (d : Char) (hd : d.toNat ≤ 32) : c ≠ d := by
      rintro rfl
      omega
    simp [hne '\t' (by decide), hne '\n' (by decide), hne '\r' (by decide)]
  simp only [clean, hblank s (fun c hc => hc),
    hblank s.reverse (fun c hc => List.mem_reverse.mp hc), List.reverse_reverse, hfilter]

theorem splitScheme_name (scheme : Scheme) (rest : List Char) :
    splitScheme (scheme.name.toList ++ ':' :: rest) = some (scheme.name.toList, rest) := by
  cases scheme <;> rfl

theorem visible_name (scheme : Scheme) : ∀ c ∈ scheme.name.toList, 32 < c.toNat := by
  have hall : (scheme.name.toList.all fun c => decide (32 < c.toNat)) = true := by
    cases scheme <;> decide
  exact fun c hc => of_decide_eq_true (List.all_eq_true.mp hall c hc)

theorem ofName?_name (scheme : Scheme) :
    Scheme.ofName? (String.ofList scheme.name.toList) = some scheme := by
  cases scheme <;> rfl

theorem splitUser_shown {s : List Char} (h : ∀ c ∈ s, Shown c) : splitUser s = (none, s) := by
  have hall : (s.reverse.takeWhile (· ≠ '@')).reverse = s := by
    rw [List.takeWhile_eq_self_iff.mpr fun c hc => ?_, List.reverse_reverse]
    exact decide_eq_true (h c (List.mem_reverse.mp hc)).user
  simp only [splitUser, hall, Nat.lt_irrefl, if_false]

/-- An address of a server is read part by part: the host, the port, and what comes after them. -/
theorem parseServer_parts {scheme : Scheme} {host port rest : List Char} (hne : host ≠ [])
    (hshown : ∀ c ∈ host ++ port, Shown c) (hport : splitPort false (host ++ port) = (host, port)) :
    parseServer scheme ('/' :: '/' :: (host ++ port ++ '/' :: rest)) =
      (do
        let host ← Host.parse host
        let port ← readPort port
        let (path, query, fragment) := splitRest ('/' :: rest)
        pure
          { scheme := scheme
            user := []
            password := []
            host := host
            port := if port = some scheme.port then none else port
            path := segments path
            query := query.map (Percent.encode Percent.inQuery)
            fragment := fragment.map (Percent.encode Percent.inFragment) }) := by
  have hslashes : ('/' :: '/' :: (host ++ port ++ '/' :: rest)).dropWhile
      (fun c => c = '/' || c = '\\') = host ++ port ++ '/' :: rest := by
    cases host with
    | nil => exact absurd rfl hne
    | cons c s =>
      have hc := (hshown c (List.mem_cons_self ..)).server
      simp only [endsServer, Bool.or_eq_false_iff] at hc
      simp_all
  have hserver : (host ++ port ++ '/' :: rest).takeWhile (fun c => !endsServer true c) =
      host ++ port := by
    rw [List.takeWhile_append_of_pos fun c hc => by simp [(hshown c hc).server]]
    simp [endsServer]
  have hrest : (host ++ port ++ '/' :: rest).dropWhile (fun c => !endsServer true c) =
      '/' :: rest := by
    rw [List.dropWhile_append_of_pos fun c hc => by simp [(hshown c hc).server]]
    simp [endsServer]
  have hempty : host.isEmpty = false := by simpa using hne
  unfold parseServer
  simp only [hslashes, hserver, hrest, splitUser_shown hshown, hport, hempty]
  rw [if_neg Bool.false_ne_true]
  rfl

/-- The text of a server is read as this server. -/
theorem parseServer_text {u : Url} (h : u.Bare) :
    parseServer u.scheme ('/' :: '/' :: (u.host.text.toList ++ u.portText ++ ['/', 'w', 's'])) =
      if u.host.overlong then .error .badDomain else .ok u := by
  have hshown : ∀ c ∈ u.host.text.toList ++ u.portText, Shown c := fun c hc =>
    (List.mem_append.mp hc).elim (shown_text h.host c) (shown_portText u c)
  have hport : splitPort false (u.host.text.toList ++ u.portText) =
      (u.host.text.toList, u.portText) := by
    rw [splitPort_text h.host, splitPort_portText, List.append_nil]
  have hpath : segments (splitRest ['/', 'w', 's']).1 = [['w', 's']] := by decide
  rw [parseServer_parts (text_ne_nil h.host) hshown hport, Host.parse_text h.host,
    readPort_portText]
  by_cases hlong : u.host.overlong
  · simp only [if_pos hlong]
    rfl
  · simp only [if_neg hlong, Except.bind, bind]
    rw [if_neg h.port, hpath]
    exact congrArg Except.ok h.eq.symm

theorem parse_visible {s : String} {scheme : Scheme} {rest : List Char}
    (h : s.toList = scheme.name.toList ++ ':' :: rest) (hvisible : ∀ c ∈ rest, 32 < c.toNat) :
    parse s = (parseServer scheme rest).map .server := by
  have hclean : clean s.toList = s.toList := by
    refine clean_visible fun c hc => ?_
    rw [h, List.mem_append, List.mem_cons] at hc
    rcases hc with hc | rfl | hc
    · exact visible_name scheme c hc
    · decide
    · exact hvisible c hc
  rw [parse, hclean, h, splitScheme_name]
  simp only [ofName?_name]

/-- The text of an address of a socket is read as this address, unless a label of the name of its
host is too long. -/
theorem parse_text {u : Url} (h : u.Bare) :
    parse u.text = if u.host.overlong then .error .badDomain else .ok (.server u) := by
  have htext : u.text.toList = u.scheme.name.toList ++
      ':' :: '/' :: '/' :: (u.host.text.toList ++ u.portText ++ ['/', 'w', 's']) := by
    simp [text, userInfo, pathText, h.user, h.password, h.path, h.query, h.fragment]
  have hvisible : ∀ c ∈ '/' :: '/' :: (u.host.text.toList ++ u.portText ++ ['/', 'w', 's']),
      32 < c.toNat := by
    intro c hc
    simp only [List.mem_append, List.mem_cons, List.not_mem_nil, or_false] at hc
    rcases hc with rfl | rfl | (hc | hc) | rfl | rfl | rfl <;> try decide
    · exact (shown_text h.host c hc).visible
    · exact (shown_portText u c hc).visible
  rw [parse_visible htext hvisible, parseServer_text h]
  split <;> rfl

/-- The address of the page at the root of a server. -/
theorem parse_root {scheme : Scheme} {s : List Char} {host : Host} (hne : s ≠ [])
    (hshown : ∀ c ∈ s, Shown c) (hport : ∀ c ∈ s, c ≠ ':' ∧ c ≠ '[')
    (hhost : Host.parse s = .ok host) :
    parse (String.ofList (scheme.name.toList ++ ':' :: '/' :: '/' :: (s ++ ['/']))) =
      .ok (.server ⟨scheme, [], [], host, none, [[]], none, none⟩) := by
  have hvisible : ∀ c ∈ '/' :: '/' :: (s ++ ['/']), 32 < c.toNat := by
    intro c hc
    simp only [List.mem_append, List.mem_cons, List.not_mem_nil, or_false] at hc
    rcases hc with rfl | rfl | hc | rfl <;> try decide
    exact (hshown c hc).visible
  have hsplit : splitPort false (s ++ []) = (s, []) := by
    rw [splitPort_append hport]
    simp [splitPort]
  have hserver := @parseServer_parts scheme s [] [] hne (by simpa using hshown) hsplit
  rw [List.append_nil, hhost] at hserver
  rw [parse_visible (String.toList_ofList) hvisible, hserver]
  rfl

/-! ## What is read -/

/-- The host of an address has been read, and its port is not the one where the server would be
expected anyway. -/
theorem parseServer_spec {scheme : Scheme} {s : List Char} {u : Url}
    (h : parseServer scheme s = .ok u) :
    u.scheme = scheme ∧ u.host.Settled ∧ u.port ≠ some u.scheme.port := by
  unfold parseServer at h
  simp only at h
  split at h
  · cases h
  · obtain ⟨host, hhost, h⟩ := bind_eq_ok.mp h
    obtain ⟨port, -, h⟩ := bind_eq_ok.mp h
    cases h
    refine ⟨rfl, Host.settled_of_parse hhost, ?_⟩
    simp only
    split
    · exact Option.some_ne_none _ |>.symm
    · assumption

/-- What a text stands for is a server with one of the known schemes, or has another scheme. -/
theorem parse_spec {s : String} {address : Address} (h : parse s = .ok address) :
    (∃ u : Url, address = .server u ∧ u.host.Settled ∧ u.port ≠ some u.scheme.port) ∨
      ∃ name, address = .other name ∧ Scheme.ofName? name = none := by
  unfold parse at h
  split at h
  · cases h
  · extract_lets name at h
    split at h
    · obtain ⟨u, hserver, rfl⟩ := map_eq_ok.mp h
      exact .inl ⟨u, rfl, (parseServer_spec hserver).2⟩
    · rename_i hscheme
      obtain ⟨-, -, rfl⟩ := map_eq_ok.mp h
      exact .inr ⟨name, rfl, hscheme⟩

end Url
end Endpoint
end RaceLink
