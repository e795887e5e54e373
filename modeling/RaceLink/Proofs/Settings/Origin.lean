import RaceLink.Proofs.Endpoint.Url
import RaceLink.Settings.Valid

/-!
# The socket of a page

The address of the socket is taken from the address of the page: the page is read, its host and port
are put into a new text under another scheme, and this text is read.

* `SocketFor` — what the address of the socket has in common with that of the page.
* `endpointFor_server` — a page gives such an address, unless its host cannot be read again.
* `Origin.Lawful`, `origin_lawful` — what becomes of any origin.
* `crowded`, `endpointFor_crowded` — an origin that is read, while the address of its socket is not.

The host that cannot be read again has a label of more than two thousand characters in its ASCII
form.  Any other is written in a form that is read as the same host (`Url.parse_text`).
-/

set_option autoImplicit false

namespace RaceLink
namespace Settings

open Endpoint (Url Scheme Host Address Refusal)

/-! ## Pages and their sockets -/

/-- The schemes of pages that a socket goes with. -/
def pageSchemes : List String := ["http", "https", "ws", "wss"]

/-- What the address `u` of a socket has in common with the address of a page. -/
structure SocketFor (page u : Url) : Prop where
  scheme : u.scheme = .ws ∨ u.scheme = .wss
  safe : u.scheme = .wss ↔ page.scheme = .https ∨ page.scheme = .wss
  host : u.host = page.host
  named : u.host.text ≠ ""
  port : u.effectivePort = page.effectivePort
  path : u.pathText = socketPath.toList
  user : u.user = []
  password : u.password = []
  query : u.query = none
  fragment : u.fragment = none

/-- The address of the socket on the server of a page. -/
def socketUrl (scheme : Scheme) (page : Url) : Url :=
  ⟨scheme, [], [], page.host, page.port, [['w', 's']], none, none⟩

theorem socketText_eq (scheme : Scheme) (page : Url) :
    socketText scheme page = (socketUrl scheme page).text := by
  have hslashes : "://".toList = [':', '/', '/'] := rfl
  have hpath : socketPath.toList = ['/', 'w', 's'] := rfl
  have hport : (socketUrl scheme page).portText = page.portText := rfl
  apply String.toList_injective
  simp only [socketText, String.toList_append, String.toList_ofList, hslashes, hpath, Url.text,
    hport]
  simp [socketUrl, Url.userInfo, Url.pathText]

/-- A page whose address has been read. -/
structure Served (page : Url) : Prop where
  host : page.host.Settled
  port : page.port ≠ some page.scheme.port

/-- Both schemes expect their servers at one port. -/
theorem port_of_socketScheme? {page socket : Scheme} (h : socketScheme? page = some socket) :
    socket.port = page.port := by
  cases page <;> cases h <;> rfl

theorem bare_socketUrl {page : Url} {scheme : Scheme} (h : Served page)
    (hscheme : socketScheme? page.scheme = some scheme) : (socketUrl scheme page).Bare where
  user := rfl
  password := rfl
  host := h.host
  port := by
    rw [show (socketUrl scheme page).scheme.port = page.scheme.port from
      port_of_socketScheme? hscheme]
    exact h.port
  path := rfl
  query := rfl
  fragment := rfl

theorem socketFor_socketUrl {page : Url} {scheme : Scheme} (h : Served page)
    (hscheme : socketScheme? page.scheme = some scheme) :
    SocketFor page (socketUrl scheme page) where
  scheme := by
    change scheme = .ws ∨ scheme = .wss
    revert hscheme
    cases page.scheme <;> rintro ⟨⟩ <;> simp
  safe := by
    change scheme = .wss ↔ _
    revert hscheme
    cases page.scheme <;> rintro ⟨⟩ <;> simp
  host := rfl
  named := fun hempty => Url.text_ne_nil h.host (by rw [show page.host.text = "" from hempty]; rfl)
  port := congrArg page.port.getD (port_of_socketScheme? hscheme)
  path := rfl
  user := rfl
  password := rfl
  query := rfl
  fragment := rfl

/-- A page gives the address of its socket, unless its host cannot be read again. -/
theorem endpointFor_server {origin : String} {page : Url} {scheme : Scheme}
    (horigin : Url.parse origin = .ok (.server page)) (h : Served page)
    (hscheme : socketScheme? page.scheme = some scheme) :
    endpointFor origin =
      if page.host.overlong then .error (unparsedFault .badDomain)
      else .ok (socketUrl scheme page) := by
  have hparse := Url.parse_text (bare_socketUrl h hscheme)
  rw [← socketText_eq] at hparse
  simp only [endpointFor, horigin, hscheme, hparse]
  by_cases hlong : page.host.overlong
  · have : (socketUrl scheme page).host.overlong := hlong
    simp [hlong, this]
  · have : ¬(socketUrl scheme page).host.overlong := hlong
    simp [hlong, this]

/-- The address of a socket can be used as it is. -/
theorem validate_endpoint {u : Url} (h : u.Bare) (hshort : u.host.overlong = false)
    (hscheme : u.scheme = .ws ∨ u.scheme = .wss) : (withEndpoint u.text).validate = .ok u := by
  have hparse : Url.parse (withEndpoint u.text).endpoint = .ok (.server u) := by
    change Url.parse u.text = _
    rw [Url.parse_text h, hshort]
    rfl
  have hlimits : (withEndpoint u.text).zeroLimit? = none := rfl
  simp only [validate, hlimits, url, hparse]
  rcases hscheme with hscheme | hscheme <;> rw [hscheme]

/-! ## Any origin -/

/-- An origin with a scheme of pages is the address of a server. -/
theorem exists_page {origin : String} {address : Address}
    (horigin : Url.parse origin = .ok address) (h : address.scheme ∈ pageSchemes) :
    ∃ page scheme, address = .server page ∧ Served page ∧
      socketScheme? page.scheme = some scheme := by
  rcases Url.parse_spec horigin with ⟨page, rfl, hhost, hport⟩ | ⟨name, rfl, hname⟩
  · cases hscheme : socketScheme? page.scheme with
    | some scheme => exact ⟨page, scheme, rfl, ⟨hhost, hport⟩, hscheme⟩
    | none =>
      have hftp : page.scheme = .ftp := by
        revert hscheme
        cases page.scheme <;> rintro ⟨⟩
        rfl
      rw [Address.scheme, hftp] at h
      exact absurd h (by decide)
  · simp only [Address.scheme, pageSchemes, List.mem_cons, List.not_mem_nil, or_false] at h
    rcases h with rfl | rfl | rfl | rfl <;> cases hname

/-- No socket goes with another scheme. -/
theorem endpointFor_unusable {origin : String} {address : Address}
    (horigin : Url.parse origin = .ok address) (h : address.scheme ∉ pageSchemes) :
    endpointFor origin = .error
      (.invalidEndpoint origin s!"cannot derive a socket URL from scheme '{address.scheme}'") := by
  cases address with
  | other name => simp only [endpointFor, horigin, Address.scheme]
  | server page =>
    have hftp : page.scheme = .ftp := by
      revert h
      rw [Address.scheme]
      cases page.scheme <;> decide
    have hnone : socketScheme? page.scheme = none := by rw [hftp]; rfl
    simp only [endpointFor, horigin, Address.scheme, hnone]

namespace Origin

/-- Whether an origin is read, as a page that a socket goes with. -/
def Usable (origin : String) : Prop :=
  ∃ address, Url.parse origin = .ok address ∧ address.scheme ∈ pageSchemes

/-- Whether the host of an origin has a label that is too long to be read again. -/
def Overlong (origin : String) : Prop :=
  ∃ page, Url.parse origin = .ok (.server page) ∧ page.host.overlong

/-- What becomes of an origin: why it can fail, and what there is otherwise. -/
structure Lawful (origin : String) : Prop where
  fails_iff : (∃ f, endpointFor origin = .error f) ↔ ¬Usable origin ∨ Overlong origin
  fault : ∀ f, endpointFor origin = .error f →
    (∃ r, Url.parse origin = .error r ∧ f = .invalidEndpoint origin r.message) ∨
      (∃ address, Url.parse origin = .ok address ∧ address.scheme ∉ pageSchemes ∧
        f = .invalidEndpoint origin
          s!"cannot derive a socket URL from scheme '{address.scheme}'") ∨
      (Usable origin ∧ Overlong origin ∧
        f = .invalidEndpoint "<unparsed>" "invalid international domain name")
  socket : ∀ u, endpointFor origin = .ok u →
    ∃ page, Url.parse origin = .ok (.server page) ∧ SocketFor page u
  settings : ∀ u, endpointFor origin = .ok u →
    ∃ s, forOrigin origin = .ok s ∧ s.endpoint = u.text ∧ s.validate = .ok u
  again : ∀ u, endpointFor origin = .ok u → endpointFor u.text = .ok u

/-- An origin that fails, with the fault that it fails with. -/
theorem Lawful.of_error {origin : String} {f : Fault} (h : endpointFor origin = .error f)
    (hfails : ¬Usable origin ∨ Overlong origin)
    (hfault : (∃ r, Url.parse origin = .error r ∧ f = .invalidEndpoint origin r.message) ∨
      (∃ address, Url.parse origin = .ok address ∧ address.scheme ∉ pageSchemes ∧
        f = .invalidEndpoint origin
          s!"cannot derive a socket URL from scheme '{address.scheme}'") ∨
      (Usable origin ∧ Overlong origin ∧
        f = .invalidEndpoint "<unparsed>" "invalid international domain name")) :
    Lawful origin where
  fails_iff := ⟨fun _ => hfails, fun _ => ⟨f, h⟩⟩
  fault := fun g hg => by
    obtain rfl := Except.error.inj (h.symm.trans hg)
    exact hfault
  socket := fun u hu => by cases h.symm.trans hu
  settings := fun u hu => by cases h.symm.trans hu
  again := fun u hu => by cases h.symm.trans hu

/-- An origin that gives the address of a socket. -/
theorem Lawful.of_page {origin : String} {page : Url} {scheme : Scheme}
    (horigin : Url.parse origin = .ok (.server page)) (h : Served page)
    (hscheme : socketScheme? page.scheme = some scheme) (husable : Usable origin)
    (hshort : page.host.overlong = false) : Lawful origin := by
  have hsocket : endpointFor origin = .ok (socketUrl scheme page) := by
    rw [endpointFor_server horigin h hscheme, hshort]
    rfl
  have hbare := bare_socketUrl h hscheme
  have hfor := socketFor_socketUrl h hscheme
  have hparse : Url.parse (socketUrl scheme page).text = .ok (.server (socketUrl scheme page)) := by
    rw [Url.parse_text hbare, show (socketUrl scheme page).host.overlong = false from hshort]
    rfl
  refine ⟨⟨?_, ?_⟩, ?_, ?_, ?_, ?_⟩
  · rintro ⟨f, hf⟩
    cases hsocket.symm.trans hf
  · rintro (hnot | ⟨other, hother, hlong⟩)
    · exact absurd husable hnot
    · cases horigin.symm.trans hother
      rw [hshort] at hlong
      cases hlong
  · intro f hf
    cases hsocket.symm.trans hf
  · intro u hu
    obtain rfl := Except.ok.inj (hsocket.symm.trans hu)
    exact ⟨page, horigin, hfor⟩
  · intro u hu
    obtain rfl := Except.ok.inj (hsocket.symm.trans hu)
    refine ⟨withEndpoint (socketUrl scheme page).text, ?_, rfl,
      validate_endpoint hbare hshort hfor.scheme⟩
    rw [forOrigin, hsocket]
    rfl
  · intro u hu
    obtain rfl := Except.ok.inj (hsocket.symm.trans hu)
    have hsame : socketScheme? (socketUrl scheme page).scheme = some scheme := by
      have heither : scheme = .ws ∨ scheme = .wss := hfor.scheme
      rcases heither with rfl | rfl <;> rfl
    rw [endpointFor_server hparse ⟨hbare.host, hbare.port⟩ hsame,
      show (socketUrl scheme page).host.overlong = false from hshort]
    rfl

end Origin

/-- The law for every origin. -/
theorem origin_lawful (origin : String) : Origin.Lawful origin := by
  cases horigin : Url.parse origin with
  | error r =>
    refine Origin.Lawful.of_error (f := .invalidEndpoint origin r.message) ?_ (.inl ?_)
      (.inl ⟨r, horigin, rfl⟩)
    · simp only [endpointFor, horigin]
    · rintro ⟨address, haddress, -⟩
      cases horigin.symm.trans haddress
  | ok address =>
    by_cases hpage : address.scheme ∈ pageSchemes
    · obtain ⟨page, scheme, rfl, hserved, hscheme⟩ := exists_page horigin hpage
      have husable : Origin.Usable origin := ⟨_, horigin, hpage⟩
      cases hlong : page.host.overlong with
      | false => exact Origin.Lawful.of_page horigin hserved hscheme husable hlong
      | true =>
        have hoverlong : Origin.Overlong origin := ⟨page, horigin, hlong⟩
        refine Origin.Lawful.of_error ?_ (.inr hoverlong)
          (.inr (.inr ⟨husable, hoverlong, rfl⟩))
        rw [endpointFor_server horigin hserved hscheme, hlong]
        rfl
    · refine Origin.Lawful.of_error (endpointFor_unusable horigin hpage) (.inl ?_)
        (.inr (.inl ⟨address, horigin, hpage, rfl⟩))
      rintro ⟨other, hother, hmem⟩
      cases horigin.symm.trans hother
      exact hpage hmem

/-! ## An origin whose host cannot be read again -/

/-- Seven hundred and twenty ideographs, twenty code points apart. -/
def farApart : List Char := (List.range 720).map fun i => Char.ofNat (0x4e00 + 20 * i)

/-- The origin of a page on a server with this name. -/
def crowded : String :=
  String.ofList (Scheme.http.name.toList ++ ':' :: '/' :: '/' :: (farApart ++ ['/']))

theorem toNat_farApart {i : Nat} (hi : i < 720) :
    (Char.ofNat (0x4e00 + 20 * i)).toNat = 0x4e00 + 20 * i := by
  have hvalid : (0x4e00 + 20 * i).isValidChar := .inl (by omega)
  rw [Char.ofNat, dif_pos hvalid]
  rfl

theorem ideograph_farApart : ∀ c ∈ farApart, Text.ideograph c := by
  intro c hc
  obtain ⟨i, hi, rfl⟩ := List.mem_map.mp hc
  rw [Text.ideograph, toNat_farApart (List.mem_range.mp hi)]
  have := List.mem_range.mp hi
  simp
  omega

theorem spread_farApart : Endpoint.Punycode.Spread farApart := by
  rw [Endpoint.Punycode.Spread, farApart, List.pairwise_map]
  refine List.Pairwise.imp_of_mem (fun hi hj hlt => ?_) List.pairwise_lt_range
  rw [toNat_farApart (List.mem_range.mp hi), toNat_farApart (List.mem_range.mp hj)]
  omega

/-- The socket of a page can fail to have an address, although the page has one. -/
theorem endpointFor_crowded :
    Origin.Usable crowded ∧
      endpointFor crowded =
        .error (.invalidEndpoint "<unparsed>" "invalid international domain name") := by
  have hlength : farApart.length = 720 := by rw [farApart, List.length_map, List.length_range]
  have hne : farApart ≠ [] := by
    intro hnil
    rw [hnil] at hlength
    cases hlength
  have hplain (c d : Char) (hc : c ∈ farApart) (hd : d.toNat < 128) : c ≠ d :=
    Endpoint.Domain.ne_of_ideograph (ideograph_farApart c hc) hd
  have hshown : ∀ c ∈ farApart, Url.Shown c := fun c hc => by
    have := Text.bounds_of_ideograph (ideograph_farApart c hc)
    refine ⟨by omega, ?_, hplain c '@' hc (by decide)⟩
    simp [Url.endsServer, hplain c '/' hc (by decide), hplain c '?' hc (by decide),
      hplain c '#' hc (by decide), hplain c '\\' hc (by decide)]
  obtain ⟨host, hhost, hlong⟩ := Host.parse_ideographs ideograph_farApart spread_farApart
    (by omega) (by rw [hlength]; decide)
  have horigin : Url.parse crowded = .ok (.server ⟨.http, [], [], host, none, [[]], none, none⟩) :=
    Url.parse_root hne hshown
      (fun c hc => ⟨hplain c ':' hc (by decide), hplain c '[' hc (by decide)⟩) hhost
  refine ⟨⟨_, horigin, List.mem_cons_self ..⟩, ?_⟩
  rw [endpointFor_server horigin ⟨Host.settled_of_parse hhost, by simp⟩ rfl, if_pos hlong]
  rfl

end Settings
end RaceLink
