import DirectoryLogin.Wire.Link
import Mathlib.Data.List.TakeWhile

/-!
# Targets of connections

The target of a connection starts with the scheme of the transport mode, and is read with that
scheme, whatever the configured text of the server says. So a connection is dialled as its mode asks
for, or not at all.
-/

namespace DirectoryLogin.Server

open Transport (Mode Scheme)

theorem target_toList (url : String) (mode : Mode) : (target url mode).toList =
    mode.scheme.text.toList ++ (schemeMark ++
      (address url.toList ++ portSuffix mode (address url.toList))) := by
  simp only [target, String.toList_ofList, List.append_assoc]

private theorem cut_scheme (scheme : Scheme) (rest : List Char) :
    Text.cut schemeMark (scheme.text.toList ++ (schemeMark ++ rest)) =
      some (scheme.text.toList, rest) := by
  cases scheme <;> rfl

private theorem toLower_scheme (scheme : Scheme) :
    String.ofList (scheme.text.toList.map Char.toLower) = scheme.text := by
  cases scheme <;> decide

private theorem dropEnd_append (p : Char → Bool) (front rest : List Char)
    (h : ∀ c ∈ front, p c = false) : ((front ++ rest).reverse.dropWhile p).reverse =
      front ++ (rest.reverse.dropWhile p).reverse := by
  have hfront : front.reverse.dropWhile p = front.reverse := by
    rw [List.dropWhile_eq_self_iff]
    intro hl
    rw [h _ (List.mem_reverse.mp (List.getElem_mem hl))]
    exact Bool.false_ne_true
  rw [List.reverse_append, List.dropWhile_append]
  split
  · next hrest => simp [hfront, List.isEmpty_iff.mp hrest]
  · simp

private theorem keeps_scheme (scheme : Scheme) :
    ∀ c ∈ scheme.text.toList ++ schemeMark, isTrailing c = false ∧ isIgnored c = false := by
  have h : (scheme.text.toList ++ schemeMark).all (fun c => !isTrailing c && !isIgnored c) := by
    cases scheme <;> rfl
  intro c hc
  have hkeep := List.all_eq_true.mp h c hc
  simpa using hkeep

theorem ofTarget_scheme {url : String} {mode : Mode} {endpoint : Endpoint}
    (h : Endpoint.ofTarget (target url mode) = .ok endpoint) :
    endpoint.scheme = mode.scheme.text := by
  obtain ⟨rest, hrest⟩ : ∃ rest,
      ((target url mode).toList.reverse.dropWhile isTrailing).reverse.filter (!isIgnored ·) =
        mode.scheme.text.toList ++ (schemeMark ++ rest) := by
    have hkeep := keeps_scheme mode.scheme
    rw [target_toList, ← List.append_assoc, dropEnd_append _ _ _ fun c hc => (hkeep c hc).1,
      List.filter_append, List.filter_eq_self.mpr fun c hc => by simp [(hkeep c hc).2]]
    exact ⟨_, List.append_assoc _ _ _⟩
  simp only [Endpoint.ofTarget, hrest, cut_scheme, toLower_scheme, bind, Except.bind, pure,
    Except.pure, throw, throwThe, MonadExceptOf.throw] at h
  split at h
  · cases h
  · split at h
    · cases h
    · split at h
      · cases h
      · split at h
        · cases h
        · cases h
          rfl

end DirectoryLogin.Server

namespace DirectoryLogin.Wire

open Der (Instant)
open Directory (Fault)
open Transport (Material Mode Scheme Security)

/-! ## Who is reached -/

/-- The server at the position listens at the port. -/
structure Link.Listens (link : Link) (port position : Nat) (server : Server) : Prop where
  there : link.servers[position]? = some server
  up : server.isDown = false
  port : server.port position = port

private theorem Link.mem_positions_iff {link : Link} {position : Nat} {server : Server} :
    (position, server) ∈ (link.servers.zipIdx.map fun (server, position) => (position, server)) ↔
      link.servers[position]? = some server := by
  constructor
  · intro h
    obtain ⟨_, hmem, heq⟩ := List.mem_map.mp h
    cases heq
    exact List.mem_zipIdx_iff_getElem?.mp hmem
  · intro h
    exact List.mem_map.mpr ⟨(server, position), List.mem_zipIdx_iff_getElem?.mpr h, rfl⟩

theorem Link.listens_of_listener? {link : Link} {port position : Nat} {server : Server}
    (h : link.listener? port = some (position, server)) : link.Listens port position server := by
  have hmem := Link.mem_positions_iff.mp (List.mem_of_find?_eq_some h)
  have hfound := List.find?_some h
  simp only [Bool.and_eq_true, Bool.not_eq_true', beq_iff_eq] at hfound
  exact ⟨hmem, hfound.1, hfound.2⟩

theorem Link.not_listens_of_listener? {link : Link} {port : Nat} (h : link.listener? port = none)
    (position : Nat) (server : Server) : ¬ link.Listens port position server := by
  intro hlistens
  have hmissed := List.find?_eq_none.mp h _ (Link.mem_positions_iff.mpr hlistens.there)
  simp [hlistens.up, hlistens.port] at hmissed

/-! ## What reaches a server first -/

/-- How a connection comes to be secured, by the certificates that the server shows. -/
inductive Shaken (now : Instant) (material : Material) (server : Server) :
    Except Fault Unit → Prop
  | mute (h : server.certificates = []) :
      Shaken now material server (.error (.io "tls handshake eof"))
  | distrusted (shown : server.certificates ≠ []) {reason : Distrust}
      (h : trust material now Link.address server.certificates = .error reason) :
      Shaken now material server (.error (.io reason.message))
  | trusted (shown : server.certificates ≠ [])
      (h : trust material now Link.address server.certificates = .ok ()) :
      Shaken now material server (.ok ())

/-- What reaches a server before anything else, by the scheme and by whether the connection is to be
upgraded, and whether it comes to a session. -/
inductive Greeted (now : Instant) (material : Material) (server : Server) :
    Scheme → Bool → List Request → Except Fault Unit → Prop
  | plain : Greeted now material server .ldap false [.accept] (.ok ())
  | unwilling (h : server.upgrade.code ≠ 0) :
      Greeted now material server .ldap true [.accept, .extended "1.3.6.1.4.1.1466.20037"]
        (.error (.result server.upgrade.code server.upgrade.text))
  | upgraded (h : server.upgrade.code = 0) {outcome} (shaken : Shaken now material server outcome) :
      Greeted now material server .ldap true
        [.accept, .extended "1.3.6.1.4.1.1466.20037", .tlsHello] outcome
  | secured {upgrade : Bool} {outcome} (shaken : Shaken now material server outcome) :
      Greeted now material server .ldaps upgrade [.accept, .tlsHello] outcome

/-- What the attempt to connect to a target leaves: it is noted with its settings, and if a server
listens there, that one is greeted and no other. There is a session exactly if it succeeds. -/
inductive Dialled (now : Instant) (settings : ConnectionSettings) (target : String)
    (scheme : Scheme) (before : Link) : Except Fault Unit → Link → Prop
  | unreached (fault : Fault)
      (h : ∀ endpoint, Server.Endpoint.ofTarget target = .ok endpoint →
        endpoint.host = Link.host → ∀ position server,
          ¬ before.Listens (endpoint.port?.getD scheme.port) position server) :
      Dialled now settings target scheme before (.error fault)
        { before with attempts := (target, settings) :: before.attempts, peer? := none }
  | greeted {endpoint : Server.Endpoint} {position : Nat} {server : Server}
      {requests : List Request} {outcome : Except Fault Unit}
      (read : Server.Endpoint.ofTarget target = .ok endpoint) (host : endpoint.host = Link.host)
      (listens : before.Listens (endpoint.port?.getD scheme.port) position server)
      (h : Greeted now (settings.material?.getD {}) server scheme settings.startTls requests
        outcome) :
      Dialled now settings target scheme before outcome
        { before with
          attempts := (target, settings) :: before.attempts
          received := (requests.map (position, ·)).reverse ++ before.received
          peer? := if outcome.isOk then some position else none }

section Dial

variable (now : Instant)

private theorem withPeer_none {link : Link} (h : link.peer? = none) :
    { link with peer? := none } = link := by
  rw [← h]

theorem secure_shaken (link : Link) (hpeer : link.peer? = none) (material : Material)
    (position : Nat) (server : Server) : ∃ outcome, Shaken now material server outcome ∧
      link.secure now material position server =
        (outcome, { link.reach position .tlsHello with
          peer? := if outcome.isOk then some position else none }) := by
  have hnone : { link.reach position .tlsHello with peer? := none } =
      link.reach position .tlsHello := withPeer_none hpeer
  unfold Link.secure
  by_cases hmute : server.certificates = []
  · refine ⟨_, .mute hmute, ?_⟩
    rw [if_pos (List.isEmpty_iff.mpr hmute)]
    exact Prod.ext rfl hnone.symm
  · dsimp only
    rw [if_neg (mt List.isEmpty_iff.mp hmute)]
    cases htrust : trust material now Link.address server.certificates with
    | error reason => exact ⟨_, .distrusted hmute htrust, Prod.ext rfl hnone.symm⟩
    | ok => exact ⟨_, .trusted hmute htrust, rfl⟩

theorem dial_greeted (link : Link) (hpeer : link.peer? = none) (settings : ConnectionSettings)
    (scheme : Scheme) {port position : Nat} {server : Server}
    (hlistener : link.listener? port = some (position, server)) : ∃ requests outcome,
      Greeted now (settings.material?.getD {}) server scheme settings.startTls requests outcome ∧
        link.dial now settings scheme port =
          (outcome, { link with
            received := (requests.map (position, ·)).reverse ++ link.received
            peer? := if outcome.isOk then some position else none }) := by
  rw [Link.dial, hlistener]
  cases scheme with
  | ldaps =>
      obtain ⟨outcome, hshaken, heq⟩ := secure_shaken now (link.reach position .accept) hpeer
        (settings.material?.getD {}) position server
      exact ⟨_, outcome, .secured hshaken, heq⟩
  | ldap =>
      cases settings.startTls with
      | false => exact ⟨_, _, .plain, rfl⟩
      | true =>
          have hpeer' : ((link.reach position .accept).reach position
              (.extended upgradeIdentifier)).peer? = none := hpeer
          by_cases hcode : server.upgrade.code = 0
          · obtain ⟨outcome, hshaken, heq⟩ := secure_shaken now _ hpeer'
              (settings.material?.getD {}) position server
            exact ⟨_, outcome, .upgraded hcode hshaken, (if_pos hcode).trans heq⟩
          · exact ⟨_, _, .unwilling hcode,
              (if_neg hcode).trans (Prod.ext rfl (withPeer_none hpeer').symm)⟩

end Dial

theorem dialled_connect (url : String) (mode : Mode) (now : Instant)
    (settings : ConnectionSettings) (link : Link) :
    Dialled now settings (Server.target url mode) mode.scheme link
      (link.connect now settings (Server.target url mode)).1
      (link.connect now settings (Server.target url mode)).2 := by
  have hscheme (endpoint) (h : Server.Endpoint.ofTarget (Server.target url mode) = .ok endpoint) :=
    Server.ofTarget_scheme h
  generalize Server.target url mode = target at hscheme ⊢
  generalize mode.scheme = scheme at hscheme ⊢
  unfold Link.connect
  cases hread : Server.Endpoint.ofTarget target with
  | error fault =>
      refine .unreached _ fun endpoint h => ?_
      rw [hread] at h
      cases h
  | ok endpoint =>
      dsimp only
      rw [hscheme endpoint hread, Scheme.ofText?_text]
      dsimp only
      by_cases hhost : endpoint.host = Link.host
      · rw [if_pos hhost]
        cases hlistener : link.listener? (endpoint.port?.getD scheme.port) with
        | none =>
            let noted : Link := { link.hangUp with attempts := (target, settings) :: link.attempts }
            have hdial : noted.dial now settings scheme (endpoint.port?.getD scheme.port) =
                (.error Link.refused, noted) := by
              rw [Link.dial,
                show noted.listener? (endpoint.port?.getD scheme.port) = none from hlistener]
            rw [hdial]
            refine .unreached _ fun endpoint' h _ => ?_
            rw [hread] at h
            cases h
            exact Link.not_listens_of_listener? hlistener
        | some found =>
            obtain ⟨requests, outcome, hgreeted, heq⟩ := dial_greeted now
              { link.hangUp with attempts := (target, settings) :: link.attempts } rfl settings
              scheme hlistener
            rw [heq]
            exact .greeted hread hhost (Link.listens_of_listener? hlistener) hgreeted
      · rw [if_neg hhost]
        refine .unreached _ fun endpoint' h hhost' => ?_
        rw [hread] at h
        cases h
        exact absurd hhost' hhost

/-! ## Attempts -/

/-- An attempt to connect to the server is dialled with the scheme, and upgraded or not, however the
server is written. -/
structure Dials (url : String) (security : Security) (timeout : Option UInt64) (scheme : Scheme)
    (upgrade : Bool) : Prop where
  settings : ConnectionSettings.of security timeout = ⟨upgrade, security.material?, timeout⟩
  written : ∃ address,
    (Server.target url security.mode).toList =
      scheme.text.toList ++ (Server.schemeMark ++ address)
  read : ∀ endpoint, Server.Endpoint.ofTarget (Server.target url security.mode) = .ok endpoint →
    endpoint.scheme = scheme.text
  dialled : ∀ (builder : Builder) now link, ∃ outcome after,
    (world builder now).reply (.connect url security timeout) link =
        (⟨[.connecting (Server.target url security.mode) security.mode],
          outcome.mapError Fault.toError⟩, after) ∧
      Dialled now ⟨upgrade, security.material?, timeout⟩ (Server.target url security.mode) scheme
        link outcome after

private theorem reply_connect (builder : Builder) (now : Instant) (url : String)
    (security : Security) (timeout : Option UInt64) (link : Link) :
    (world builder now).reply (.connect url security timeout) link =
      (⟨[.connecting (Server.target url security.mode) security.mode],
        (link.connect now (.of security timeout)
          (Server.target url security.mode)).1.mapError Fault.toError⟩,
        (link.connect now (.of security timeout) (Server.target url security.mode)).2) := by
  -- Closing this by computation would try to read the target.
  simp only [world, report]

/-- The mode alone decides how a server is dialled. -/
theorem dials (url : String) (security : Security) (timeout : Option UInt64) :
    Dials url security timeout security.mode.scheme (security.mode == .startTls) where
  settings := rfl
  written := ⟨_, Server.target_toList url security.mode⟩
  read _ h := Server.ofTarget_scheme h
  dialled builder now link := by
    rw [reply_connect builder now url security timeout link]
    have hconnect := dialled_connect url security.mode now (.of security timeout) link
    generalize link.connect now (.of security timeout) (Server.target url security.mode) = dialled
      at hconnect ⊢
    exact ⟨dialled.1, dialled.2, rfl, hconnect⟩

end DirectoryLogin.Wire
