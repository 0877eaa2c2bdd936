import DirectoryLogin.Proofs.Attributes
import DirectoryLogin.Proofs.Collecting
import DirectoryLogin.Proofs.Operation
import DirectoryLogin.Scripted.Directory

/-!
# Entries spelled otherwise

How a directory spells the names of attributes makes no difference. A program that goes on alike
from entries that differ in this only is `Indifferent`; answered with such entries, it asks for the
same and ends with the same result. All operations are programs of this kind.
-/

namespace DirectoryLogin.Session

open Directory (Entry SearchRequest)

/-- The same is asked, and the same answered but for the spelling of names in entries. -/
inductive Exchange.Respelled : Exchange → Exchange → Prop
  | same (x : Exchange) : Respelled x x
  | found (request : SearchRequest) {entries others : List Entry}
      (h : List.Forall₂ Entry.Respelled entries others) :
      Respelled ⟨.search request, .ok entries⟩ ⟨.search request, .ok others⟩

theorem Exchange.Respelled.call_eq {x y : Exchange} (h : x.Respelled y) : x.call = y.call := by
  cases h <;> rfl

/-- As long as both ask the same, they are answered the same but for the spelling of names. -/
inductive AnsweredAlike : List Exchange → List Exchange → Prop
  | ended (ys : List Exchange) : AnsweredAlike [] ys
  | endedBefore (xs : List Exchange) : AnsweredAlike xs []
  | apart {x y : Exchange} (h : x.call ≠ y.call) (xs ys : List Exchange) :
      AnsweredAlike (x :: xs) (y :: ys)
  | alike {x y : Exchange} {xs ys : List Exchange} (h : x.Respelled y)
      (rest : AnsweredAlike xs ys) : AnsweredAlike (x :: xs) (y :: ys)

namespace Run

variable {σ α : Type}

theorem calls_eq (run : Run σ α) : run.calls = run.exchanges.map (·.call) := by
  rw [calls, exchanges, List.map_filterMap]
  refine List.filterMap_congr fun step _ => ?_
  cases step <;> rfl

end Run

namespace Program

variable {α β : Type}

/-- The program goes on alike from answers that differ in the spelling of names only. -/
def Indifferent : Program α → Prop
  | .done _ => True
  | .note _ next => next.Indifferent
  | .ask _ call next =>
      (∀ a b, Exchange.Respelled ⟨call, a⟩ ⟨call, b⟩ → next a = next b) ∧
        ∀ answer, (next answer).Indifferent

namespace Indifferent

/-- Only the results that the first part can have matter to the second. -/
theorem bind_of_yields {program : Program α} {next : α → Program β} (h : program.Indifferent)
    (hnext : ∀ xs a, program.Yields xs a → (next a).Indifferent) :
    (program >>= next).Indifferent := by
  induction program with
  | done a => exact hnext [] a ⟨rfl, rfl⟩
  | note event rest ih => exact ih h hnext
  | ask _ call rest ih =>
      refine ⟨fun a b hab => ?_, fun answer => ih answer (h.2 answer) fun xs a hyields => ?_⟩
      · change rest a >>= next = rest b >>= next
        rw [h.1 a b hab]
      · exact hnext _ a ⟨answer, xs, rfl, hyields⟩

theorem bind {program : Program α} {next : α → Program β} (h : program.Indifferent)
    (hnext : ∀ a, (next a).Indifferent) : (program >>= next).Indifferent :=
  h.bind_of_yields fun _ a _ => hnext a

theorem ask (connection? : Option Connection) {call : Call} (hcall : ¬ call.IsSearch) :
    (Program.ask connection? call .done).Indifferent := by
  refine ⟨fun a b hab => ?_, fun _ => trivial⟩
  cases hab with
  | same => rfl
  | found => exact absurd trivial hcall

theorem search_bind (url : String) {request : SearchRequest}
    {next : (Call.search request).Answer → Program α}
    (hnext : ∀ entries others, List.Forall₂ Entry.Respelled entries others →
      next (.ok entries) = next (.ok others))
    (h : ∀ answer, (next answer).Indifferent) :
    ((Connection.opened url).search request >>= next).Indifferent := by
  refine ⟨fun a b hab => ?_, h⟩
  cases hab with
  | same => rfl
  | found _ hentries => exact hnext _ _ hentries

/-- The runs go on side by side: from respelled answers the program goes on as the same program. -/
theorem run_eq {program : Program α} (h : program.Indifferent) {σ σ' : Type} (world : World σ)
    (world' : World σ') (state : σ) (state' : σ')
    (alike : AnsweredAlike (program.run world state).exchanges
      (program.run world' state').exchanges) :
    (program.run world state).result = (program.run world' state').result ∧
      List.Forall₂ Exchange.Respelled (program.run world state).exchanges
        (program.run world' state').exchanges := by
  induction program generalizing state state' with
  | done a => exact ⟨rfl, .nil⟩
  | note event next ih => exact ih h state state' alike
  | ask _ call next ih =>
      rw [exchanges_run_ask, exchanges_run_ask] at alike
      cases alike with
      | apart hcall => exact absurd rfl hcall
      | alike hanswer rest =>
          rw [← h.1 _ _ hanswer] at rest
          obtain ⟨hresult, hexchanges⟩ := ih _ (h.2 _) _ _ rest
          rw [result_run_ask, result_run_ask, exchanges_run_ask, exchanges_run_ask,
            ← h.1 _ _ hanswer]
          exact ⟨hresult, .cons hanswer hexchanges⟩

end Indifferent

end Program

end DirectoryLogin.Session

namespace DirectoryLogin.Client

open Config (GroupSearch Limits Settings UserSearch)
open Directory (Entry SearchRequest folded foldedAttribute)
open Session

/-! ## What is made of entries -/

section Entries

variable {entries others : List Entry}

theorem addGroups_respelled (h : List.Forall₂ Entry.Respelled entries others)
    (names : List String) : addGroups names entries = addGroups names others := by
  rw [addGroups, addGroups]
  congr 1
  induction h with
  | nil => rfl
  | cons hentry _ ih => rw [List.filterMap_cons, List.filterMap_cons, hentry.firstValue?_eq, ih]

theorem loginNames_respelled (h : List.Forall₂ Entry.Respelled entries others)
    (loginAttribute : String) :
    loginNames loginAttribute entries = loginNames loginAttribute others := by
  induction h with
  | nil => rfl
  | cons hentry _ ih => rw [loginNames, loginNames, hentry.firstValue?_eq, hentry.dn, ih]

theorem memberships_respelled (h : List.Forall₂ Entry.Respelled entries others)
    (memberAttribute : String) :
    memberships memberAttribute entries = memberships memberAttribute others := by
  induction h with
  | nil => rfl
  | cons hentry _ ih =>
      rw [memberships, memberships, hentry.firstValue?_eq, hentry.dn, ih,
        hentry.values_eq (Directory.sameName_self memberAttribute)]

end Entries

/-! ## Opening and closing -/

private theorem indifferent_establish (security : Transport.Security) (timeout : Option UInt64)
    (urls : List String) : (establish security timeout urls).Indifferent := by
  induction urls with
  | nil => trivial
  | cons url others ih =>
      rw [establish]
      refine (Program.Indifferent.ask none id).bind fun answer => ?_
      cases answer with
      | ok => trivial
      | error cause => exact ih

private theorem indifferent_negotiate (tls : Config.TlsSettings) :
    (negotiate tls).Indifferent := by
  unfold negotiate
  split
  · refine (Program.Indifferent.ask none id).bind fun answer => ?_
    cases answer <;> trivial
  · trivial

private theorem indifferent_acquire (settings : Settings) : (acquire settings).Indifferent := by
  unfold acquire
  cases settings.validate with
  | error violation => trivial
  | ok =>
      refine (indifferent_negotiate settings.tls).bind fun negotiated => ?_
      cases negotiated with
      | error e => trivial
      | ok security => exact indifferent_establish security _ _

private theorem indifferent_close (url : String) :
    (Connection.opened url).close.Indifferent := by
  have hask (call : Call) (h : ¬ call.IsSearch) :=
    Program.Indifferent.ask (some (Connection.opened url).taken) h
  refine (hask .close id).bind fun answer => ?_
  cases answer with
  | ok => trivial
  | error cause => exact (hask .abort id).bind fun _ => trivial

theorem indifferent_withConnection {ε α : Type} {settings : Settings} {lift : Directory.Error → ε}
    {use : Connection → Program (Except ε α)} {note : Except ε α → Program Unit}
    (huse : ∀ url, (use (.opened url)).Indifferent)
    (hnote : ∀ result, (note result).Indifferent) :
    (withConnection settings lift use note).Indifferent := by
  refine (indifferent_acquire settings).bind_of_yields fun xs acquired hyields => ?_
  cases acquired with
  | error e => trivial
  | ok connection =>
      obtain ⟨url, rfl⟩ := ((yields_acquire settings xs _).mp hyields).exists_opened
      refine (huse url).bind fun result => ?_
      exact (indifferent_close url).bind fun _ => (hnote result).bind fun _ => trivial

private theorem indifferent_simpleBind (url dn password : String) :
    ((Connection.opened url).simpleBind dn password).Indifferent := .ask _ id

private theorem indifferent_bindReader (settings : Settings) (url : String) :
    (bindReader settings (.opened url)).Indifferent := by
  unfold bindReader
  split
  · trivial
  · refine (indifferent_simpleBind url _ _).bind fun answer => ?_
    cases answer <;> trivial

theorem indifferent_asReader {ε α : Type} {settings : Settings} {lift : Directory.Error → ε}
    {use : Connection → Program (Except ε α)} {url : String}
    (huse : (use (.opened url)).Indifferent) :
    (asReader settings lift use (.opened url)).Indifferent := by
  refine (indifferent_bindReader settings url).bind fun bound => ?_
  cases bound with
  | error e => trivial
  | ok => exact huse

/-! ## Searches -/

theorem indifferent_searchUser (url : String) (limits : Limits) (username : String)
    (searches : List UserSearch) :
    (searchUser (.opened url) limits username searches).Indifferent := by
  induction searches with
  | nil => trivial
  | cons search others ih =>
      rw [searchUser]
      refine Program.Indifferent.search_bind url (fun entries respelled h => ?_) fun answer => ?_
      · cases h with
        | nil => rfl
        | cons hentry hrest =>
            cases hrest with
            | nil => simp only [hentry.dn]
            | cons _ hmore => simp only [hmore.length_eq]
      · rcases answer with cause | (_ | ⟨entry, _ | ⟨second, more⟩⟩)
        · exact ih
        · exact ih
        · trivial
        · exact ih

theorem indifferent_searchUserGroups (url : String) (limits : Limits) (dn : String)
    (found : List String) (searches : List GroupSearch) :
    (searchUserGroups (.opened url) limits dn found searches).Indifferent := by
  induction searches generalizing found with
  | nil => trivial
  | cons search others ih =>
      rw [searchUserGroups]
      refine Program.Indifferent.search_bind url (fun entries respelled h => ?_) fun answer => ?_
      · simp only [addGroups_respelled h]
      · cases answer with
        | ok entries => exact ih _
        | error cause => exact ih found

theorem indifferent_lookupGroups (settings : Settings) (username : String)
    (url : String) : (lookupGroups settings username (.opened url)).Indifferent := by
  refine (indifferent_searchUser url _ username _).bind fun looked => ?_
  cases looked with
  | error e => trivial
  | ok dn => exact indifferent_searchUserGroups url _ dn [] _

theorem indifferent_verifyPassword (settings : Settings) (username password : String)
    (url : String) :
    (verifyPassword settings username password (.opened url)).Indifferent := by
  refine (indifferent_searchUser url _ username _).bind fun looked => ?_
  rcases looked with e | dn
  · cases e <;> trivial
  · dsimp only
    split
    · trivial
    · refine (indifferent_simpleBind url dn password).bind fun answer => ?_
      cases answer <;> trivial

private theorem indifferent_loginNames (loginAttribute : String) (entries : List Entry) :
    (loginNames loginAttribute entries).Indifferent := by
  induction entries with
  | nil => trivial
  | cons entry rest ih =>
      rw [loginNames]
      split
      · exact ih.bind fun _ => trivial
      · exact ih

private theorem indifferent_memberships (memberAttribute : String) (entries : List Entry) :
    (memberships memberAttribute entries).Indifferent := by
  induction entries with
  | nil => trivial
  | cons entry rest ih =>
      rw [memberships]
      split
      · exact ih.bind fun _ => trivial
      · exact ih

theorem indifferent_enumerate {α β : Type} {url : String}
    {request : β → SearchRequest} {yield : β → List Entry → Program (List α)}
    (hyield : ∀ search entries, (yield search entries).Indifferent)
    (hspelling : ∀ search entries others, List.Forall₂ Entry.Respelled entries others →
      yield search entries = yield search others)
    (found : List α) (searches : List β) :
    (enumerate .failFast (.opened url) request yield found searches).Indifferent := by
  induction searches generalizing found with
  | nil => trivial
  | cons search others ih =>
      rw [enumerate_cons]
      refine Program.Indifferent.search_bind url (fun entries respelled h => ?_) fun answer => ?_
      · simp only [hspelling search entries respelled h]
      · cases answer with
        | ok entries => exact (hyield search entries).bind fun more => ih _
        | error cause => trivial

/-! ## Operations -/

private theorem indifferent_probe (settings : Settings) (url : String) :
    (probe settings (.opened url)).Indifferent := by
  unfold probe
  split
  · refine (Program.Indifferent.ask (some (.opened url)) id).bind fun answer => ?_
    cases answer <;> trivial
  · exact indifferent_bindReader settings url

theorem indifferent_program (op : Operation) (settings : Settings) :
    (op.program settings).Indifferent := by
  have hsilently {γ : Type} (result : γ) : (silently result).Indifferent := trivial
  cases op with
  | authenticate username password =>
      refine indifferent_withConnection (fun url => indifferent_asReader ?_) fun result => ?_
      · exact indifferent_verifyPassword settings username password url
      · cases result <;> trivial
  | resolveUser username =>
      refine indifferent_withConnection (fun url => indifferent_asReader ?_) hsilently
      exact indifferent_searchUser url _ username _
  | userGroups username =>
      refine indifferent_withConnection (fun url => indifferent_asReader ?_) hsilently
      exact indifferent_lookupGroups settings username url
  | searchUsers =>
      refine indifferent_withConnection (fun url => indifferent_asReader ?_) hsilently
      exact indifferent_enumerate
        (fun search : UserSearch => indifferent_loginNames search.loginAttribute)
        (fun search _ _ h => loginNames_respelled h search.loginAttribute) _ _
  | searchGroups =>
      refine indifferent_withConnection (fun url => indifferent_asReader ?_) hsilently
      exact indifferent_enumerate
        (fun search : GroupSearch => indifferent_memberships search.memberAttribute)
        (fun search _ _ h => memberships_respelled h search.memberAttribute) _ _
  | testConnectivity =>
      refine indifferent_withConnection (indifferent_probe settings) fun result => ?_
      cases result <;> trivial

/-- How the names of attributes are spelled is immaterial: to lookups in an entry, to entries that
are built up, and to the runs of operations that are answered with them. -/
theorem spelling_immaterial :
    (∀ entry : Entry, entry.Caseless) ∧
    (∀ dn attributes, ((Entry.ofAttributes dn attributes).attributes.map (·.1)).Nodup) ∧
    (∀ dn (attributes others : List (String × List String)),
      (attributes.map fun a => folded a.1).Nodup →
      (others.map foldedAttribute).Perm (attributes.map foldedAttribute) →
      (Entry.ofAttributes dn attributes).Respelled (Entry.ofAttributes dn others)) ∧
    ∀ {σ σ' : Type} (world : World σ) (world' : World σ') (state : σ) (state' : σ')
      (op : Operation) (settings : Settings),
      AnsweredAlike ((op.program settings).run world state).exchanges
        ((op.program settings).run world' state').exchanges →
      ((op.program settings).run world state).result =
          ((op.program settings).run world' state').result ∧
        ((op.program settings).run world state).calls =
          ((op.program settings).run world' state').calls := by
  refine ⟨Entry.caseless, fun dn attributes => (Entry.ofAttributes dn attributes).unique,
    fun dn _ _ => Entry.respelled_ofAttributes dn,
    fun world world' state state' op settings alike => ?_⟩
  obtain ⟨hresult, hexchanges⟩ :=
    (indifferent_program op settings).run_eq world world' state state' alike
  refine ⟨hresult, ?_⟩
  rw [Run.calls_eq, Run.calls_eq, ← List.forall₂_eq_eq_eq, List.forall₂_map_left_iff,
    List.forall₂_map_right_iff]
  exact hexchanges.imp fun _ _ h => h.call_eq

/-- Two directories spell the attributes of a group in their own ways. -/
theorem spelling_immaterial_groups :
    ∃ (settings : Settings) (script script' : Scripted.Script) (group group' : Entry),
      group.Respelled group' ∧ group'.values "Cn" = ["staff"] ∧
      AnsweredAlike ((userGroups settings "ada").run (Scripted.world none) script).exchanges
        ((userGroups settings "ada").run (Scripted.world none) script').exchanges ∧
      ((userGroups settings "ada").run (Scripted.world none) script).result = .ok ["staff"] ∧
      ((userGroups settings "ada").run (Scripted.world none) script').result = .ok ["staff"] := by
  let group : Entry :=
    Entry.ofAttributes "cn=staff" [("cn", ["staff"]), ("member", ["uid=ada"])]
  let group' : Entry :=
    Entry.ofAttributes "cn=staff" [("MEMBER", ["uid=ada"]), ("CN", ["staff"])]
  let settings : Settings :=
    { urls := ["ldap1"], anonymous := true, userSearches := [{ baseDn := "ou=people" }]
      groupSearches := [{ baseDn := "ou=groups" }] }
  let script (entry : Entry) : Scripted.Script :=
    { rules := [{ base := "ou=people", answer := .ok [{ dn := "uid=ada" }] },
        { base := "ou=groups", answer := .ok [entry] }] }
  have h := spelling_immaterial
  have hgroup : group.Respelled group' := h.2.2.1 _ _ _ (by decide) (.swap _ _ _)
  have alike : AnsweredAlike
      ((userGroups settings "ada").run (Scripted.world none) (script group)).exchanges
      ((userGroups settings "ada").run (Scripted.world none) (script group')).exchanges :=
    .alike (.same _) (.alike (.same _) (.alike (.found _ (.cons hgroup .nil))
      (.alike (.same _) (.ended _))))
  have hresult :
      ((userGroups settings "ada").run (Scripted.world none) (script group)).result =
        .ok ["staff"] := rfl
  have hruns := h.2.2.2 (Scripted.world none) (Scripted.world none) (script group) (script group')
    (.userGroups "ada") settings alike
  exact ⟨settings, script group, script group', group, group', hgroup,
    (h.1 group).respelled group' hgroup "cn" "Cn" (by decide), alike, hresult,
    hruns.1.symm.trans hresult⟩

end DirectoryLogin.Client
