import DirectoryLogin.Proofs.Addressing
import DirectoryLogin.Proofs.Failover
import DirectoryLogin.Proofs.Secrecy
import DirectoryLogin.Scripted.Directory

/-!
# Names of servers

A warning calls a server that was not reached by a name. For a server that is written without a
scheme this is the host that was to be contacted. Of one that is written with a scheme it is the
scheme, while the target of the connection has the host.
-/

namespace DirectoryLogin.Server

open Transport (Mode)

/-- The host of a target: what stands before the first colon of its address. -/
def hostOf (target : String) : String :=
  String.ofList ((address target.toList).takeWhile (· != ':'))

/-- A server as it is written: a host, perhaps with a scheme before it and a port after it. -/
structure Spelling where
  scheme? : Option String := none
  host : String
  port? : Option String := none
  host_colon : ':' ∉ host.toList := by decide
  host_slash : '/' ∉ host.toList := by decide
  scheme_colon : ∀ scheme ∈ scheme?, ':' ∉ scheme.toList := by simp
  port_slash : ∀ port ∈ port?, '/' ∉ port.toList := by simp

namespace Spelling

def afterHost (server : Spelling) : String := server.port?.elim "" (":" ++ ·)

def text (server : Spelling) : String :=
  server.scheme?.elim "" (· ++ "://") ++ server.host ++ server.afterHost

theorem text_of_unschemed {server : Spelling} (h : server.scheme? = none) :
    server.text.toList = server.host.toList ++ server.afterHost.toList := by
  simp [text, h]

theorem text_of_schemed {server : Spelling} {scheme : String} (h : server.scheme? = some scheme) :
    server.text.toList =
      scheme.toList ++ (schemeMark ++ (server.host.toList ++ server.afterHost.toList)) := by
  simp [text, h, schemeMark]

theorem slash_notMem (server : Spelling) :
    '/' ∉ server.host.toList ++ server.afterHost.toList := by
  have hhost := server.host_slash
  have hport := server.port_slash
  unfold afterHost
  cases h : server.port? with
  | none => simpa using hhost
  | some port => simpa using ⟨hhost, hport port h⟩

theorem afterHost_cases (server : Spelling) :
    server.afterHost.toList = [] ∨ ∃ port, server.afterHost.toList = ':' :: port := by
  unfold afterHost
  cases server.port? with
  | none => exact .inl rfl
  | some port => exact .inr ⟨port.toList, by simp⟩

end Spelling

private theorem ne_colon_of_notMem {text : List Char} (h : ':' ∉ text) :
    ∀ c ∈ text, (c != ':') = true := by
  intro c hc
  rw [bne_iff_ne]
  rintro rfl
  exact h hc

private theorem takeWhile_colon {text : List Char} (h : ':' ∉ text) (rest : List Char) :
    (text ++ ':' :: rest).takeWhile (· != ':') = text := by
  rw [List.takeWhile_append_of_pos (ne_colon_of_notMem h), List.takeWhile_cons_of_neg (by simp),
    List.append_nil]

theorem address_spelling (server : Spelling) :
    address server.text.toList = server.host.toList ++ server.afterHost.toList := by
  cases h : server.scheme? with
  | none =>
      rw [Spelling.text_of_unschemed h]
      exact address_of_not_marked (not_marked_of_notMem (by decide) server.slash_notMem)
  | some scheme =>
      rw [Spelling.text_of_schemed h]
      exact address_append_mark (not_marked_of_notMem (by decide) (server.scheme_colon scheme h)) _

theorem hostOf_spelling (server : Spelling) (mode : Mode) :
    hostOf (target server.text mode) = server.host := by
  rw [hostOf, address_target, address_spelling]
  have hhost := server.host_colon
  have htake : ((server.host.toList ++ server.afterHost.toList) ++
      portSuffix mode (server.host.toList ++ server.afterHost.toList)).takeWhile (· != ':') =
        server.host.toList := by
    rcases server.afterHost_cases with hnone | ⟨port, hport⟩
    · rw [hnone, List.append_nil, portSuffix_of_notMem mode hhost]
      exact takeWhile_colon hhost _
    · rw [hport, List.append_assoc]
      exact takeWhile_colon hhost _
  rw [htake, String.ofList_toList]

theorem name_spelling (server : Spelling) :
    name server.text = server.scheme?.getD server.host := by
  unfold name
  cases h : server.scheme? with
  | none =>
      rw [Spelling.text_of_unschemed h]
      have htake : (server.host.toList ++ server.afterHost.toList).takeWhile (· != ':') =
          server.host.toList := by
        rcases server.afterHost_cases with hnone | ⟨port, hport⟩
        · rw [hnone, List.append_nil, List.takeWhile_eq_self_iff]
          exact ne_colon_of_notMem server.host_colon
        · rw [hport]
          exact takeWhile_colon server.host_colon port
      rw [htake, String.ofList_toList]
      rfl
  | some scheme =>
      have htake : (scheme.toList ++
          (schemeMark ++ (server.host.toList ++ server.afterHost.toList))).takeWhile (· != ':') =
            scheme.toList := takeWhile_colon (server.scheme_colon scheme h) _
      rw [Spelling.text_of_schemed h, htake, String.ofList_toList]
      rfl

/-- The server is written without a scheme, or with one that reads as its host. -/
def Spelling.IsNamedByHost (server : Spelling) : Prop :=
  server.scheme? = none ∨ server.scheme? = some server.host

theorem name_eq_hostOf_iff (server : Spelling) (mode : Mode) :
    name server.text = hostOf (target server.text mode) ↔ server.IsNamedByHost := by
  rw [name_spelling, hostOf_spelling]
  unfold Spelling.IsNamedByHost
  cases server.scheme? <;> simp

theorem fields_connectFailed_iff (server : Spelling) (mode : Mode)
    (cause : Directory.SessionError) :
    (Log.Event.connectFailed server.text cause).fields =
        [("server", hostOf (target server.text mode))] ↔ server.IsNamedByHost := by
  rw [← name_eq_hostOf_iff server mode]
  simp [Log.Event.fields]

end DirectoryLogin.Server

namespace DirectoryLogin.Session

open Log (Event)
open Transport (Security)

/-- The failed attempts are noted, and nothing else is noted as one. -/
theorem connectFailed_mem_iff {σ : Type} (world : World σ) (state : σ) (security : Security)
    (timeout : Option UInt64) (urls : List String) (url : String)
    (cause : Directory.SessionError) :
    .connectFailed url cause ∈
        ((establish security timeout urls).run world.muted state).events ↔
      ⟨.connect url security timeout, .error cause⟩ ∈
        ((establish security timeout urls).run world state).exchanges := by
  rw [← (Program.run_muted world (establish security timeout urls) state).2]
  induction urls generalizing state with
  | nil => simp [establish, Run.events, Run.exchanges]
  | cons first others ih =>
      cases h : (world.muted.trial security timeout first state).answer with
      | ok =>
          rw [run_establish_of_ok others h]
          simp [Run.events, Run.exchanges, World.muted, Step.event?, Step.exchange?]
      | error cause' =>
          have hfirst : (Event.connectFailed url cause = .connectFailed first cause') ↔
              (⟨.connect url security timeout, .error cause⟩ : Exchange) =
                ⟨.connect first security timeout, .error cause'⟩ := by
            constructor
            · rintro ⟨⟩
              rfl
            · rintro ⟨⟩
              rfl
          rw [run_establish_of_error others h, Run.events_after, Run.exchanges_after]
          simp only [World.muted, List.map_nil, List.nil_append, List.filterMap_cons, Step.event?,
            Step.exchange?, List.filterMap_nil, List.cons_append, List.mem_cons]
          exact or_congr hfirst (ih _)

/-- What a server is called, beside the host of its target. -/
structure Named (server : Server.Spelling) (mode : Transport.Mode) : Prop where
  contacted : Server.hostOf (Server.target server.text mode) = server.host
  called : Server.name server.text = server.scheme?.getD server.host
  agrees : Server.name server.text = Server.hostOf (Server.target server.text mode) ↔
    server.IsNamedByHost
  /-- Every failed attempt is noted. -/
  noted : ∀ {σ : Type} (world : World σ) (state : σ) (material? : Option Transport.Material)
    (timeout : Option UInt64) (urls : List String) (cause : Directory.SessionError),
    Event.connectFailed server.text cause ∈
        ((establish ⟨mode, material?⟩ timeout urls).run world.muted state).events ↔
      ⟨.connect server.text ⟨mode, material?⟩ timeout, .error cause⟩ ∈
        ((establish ⟨mode, material?⟩ timeout urls).run world state).exchanges
  field : ∀ cause, (Event.connectFailed server.text cause).fields =
      [("server", Server.hostOf (Server.target server.text mode))] ↔ server.IsNamedByHost

/-- Servers are called by the scheme that they are written with, and else by their host. -/
theorem servers_named (server : Server.Spelling) (mode : Transport.Mode) : Named server mode where
  contacted := Server.hostOf_spelling server mode
  called := Server.name_spelling server
  agrees := Server.name_eq_hostOf_iff server mode
  noted world state material? timeout urls cause :=
    connectFailed_mem_iff world state ⟨mode, material?⟩ timeout urls server.text cause
  field := Server.fields_connectFailed_iff server mode

/-- With a scheme, the note of a failed attempt has the scheme in place of the host. -/
theorem not_named_by_host_of_scheme :
    ∃ server : Server.Spelling, server.text = "ldap://ldap1.example.com:389" ∧
      Server.hostOf (Server.target server.text .plain) = "ldap1.example.com" ∧
      Server.name server.text = "ldap" ∧
      ((establish .plain none [server.text]).run (Scripted.world none)
          { unreachable := [server.text] }).events.map Event.fields = [[("server", "ldap")]] :=
  ⟨{ scheme? := some "ldap", host := "ldap1.example.com", port? := some "389" },
    by decide, by decide, by decide, by decide⟩

end DirectoryLogin.Session
