import DirectoryLogin.Proofs.Attributes
import DirectoryLogin.Proofs.Pieces
import DirectoryLogin.Wire.Link

/-!
# Delivery of search results

What a search over the wire asks of the server, and what becomes of its messages: if the result is a
success, the entries among them in the order in which they came, and otherwise the server's words
and none of the entries.
-/

namespace DirectoryLogin.Wire

open Der (Instant)
open Directory (Entry Fault SearchRequest SessionError)
open Session (Reply)

/-! ## Messages and the entries among them -/

/-- The messages are the entries in their order, with other messages anywhere between them. -/
inductive Carries : List Message → List RawEntry → Prop
  | nil : Carries [] []
  | entry (raw : RawEntry) {messages : List Message} {others : List RawEntry} :
      Carries messages others → Carries (.entry raw :: messages) (raw :: others)
  | reference (urls : List String) {messages : List Message} {raws : List RawEntry} :
      Carries messages raws → Carries (.reference urls :: messages) raws
  | intermediate (identifier : String) {messages : List Message} {raws : List RawEntry} :
      Carries messages raws → Carries (.intermediate identifier :: messages) raws

theorem exists_carries (messages : List Message) : ∃ raws, Carries messages raws := by
  induction messages with
  | nil => exact ⟨[], .nil⟩
  | cons message rest ih =>
      obtain ⟨others, h⟩ := ih
      cases message with
      | entry raw => exact ⟨raw :: others, .entry raw h⟩
      | reference urls => exact ⟨others, .reference urls h⟩
      | intermediate identifier => exact ⟨others, .intermediate identifier h⟩

theorem Carries.entries_eq {messages : List Message} {raws : List RawEntry}
    (h : Carries messages raws) :
    Link.entries messages = raws.map fun raw => (ReceivedEntry.construct raw).toEntry := by
  induction h with
  | nil => rfl
  | entry raw _ ih => rw [List.map_cons, ← ih]; rfl
  | reference _ _ ih | intermediate _ _ ih => exact ih

/-! ## Attributes of received entries -/

/-- The attributes as they were sent are those whose values are texts and the others, both in their
order. -/
inductive Separates : List (String × List (List UInt8)) → List (String × List String) →
    List (String × List (List UInt8)) → Prop
  | nil : Separates [] [] []
  | text (name : String) (texts : List String) {sent text binary} :
      Separates sent text binary →
        Separates ((name, texts.map Text.octets) :: sent) ((name, texts) :: text) binary
  | binary (name : String) {values : List (List UInt8)} {sent text binary}
      (hvalues : ∀ texts : List String, values ≠ texts.map Text.octets) :
      Separates sent text binary →
        Separates ((name, values) :: sent) text ((name, values) :: binary)

theorem separates_construct (raw : RawEntry) :
    Separates raw.attributes (ReceivedEntry.construct raw).text
      (ReceivedEntry.construct raw).binary := by
  obtain ⟨dn, sent⟩ := raw
  induction sent with
  | nil => exact .nil
  | cons a rest ih =>
      obtain ⟨name, values⟩ := a
      cases hread : values.mapM Text.ofOctets? with
      | some texts =>
          simp only [ReceivedEntry.construct, List.filterMap_cons, List.filter_cons, hread]
          obtain rfl := Text.mapM_ofOctets?_eq_some_iff.mp hread
          exact .text name texts ih
      | none =>
          simp only [ReceivedEntry.construct, List.filterMap_cons, List.filter_cons, hread]
          refine .binary name (fun texts hvalues => ?_) ih
          rw [Text.mapM_ofOctets?_eq_some_iff.mpr hvalues] at hread
          cases hread

/-- The entry is what reaches the caller of one that is sent. -/
structure Delivers (raw : RawEntry) (entry : Entry) : Prop where
  dn : entry.dn = raw.dn
  /-- Of several text attributes with one name the last one counts. -/
  values : ∃ text binary, Separates raw.attributes text binary ∧
    ∀ name, entry.attributes.lookup name = text.reverse.lookup name
  once : (entry.attributes.map (·.1)).Nodup

theorem delivers_construct (raw : RawEntry) :
    Delivers raw (ReceivedEntry.construct raw).toEntry where
  dn := Entry.dn_ofAttributes raw.dn _
  values := ⟨_, _, separates_construct raw, Entry.lookup_ofAttributes raw.dn _⟩
  once := (ReceivedEntry.construct raw).toEntry.unique

theorem Carries.delivers {messages : List Message} {raws : List RawEntry}
    (h : Carries messages raws) : List.Forall₂ Delivers raws (Link.entries messages) := by
  rw [h.entries_eq, List.forall₂_map_right_iff, List.forall₂_same]
  exact fun raw _ => delivers_construct raw

/-! ## Searches -/

def SearchMessage.whole (request : SearchRequest) (filter : Filter) : SearchMessage where
  base := request.base
  scope := .subtree
  aliases := .never
  limits := request.limits
  typesOnly := false
  filter
  attributes := request.attributes

/-- The error for a result other than success. -/
def Result.refusal (result : Result) : SessionError where
  code? := some result.code
  message := "rc=" ++ toString result.code.toNat ++
    if result.text = "" then "" else ": " ++ result.text

theorem message_result (code : UInt32) (text : String) :
    (Fault.result code text).message =
      "rc=" ++ toString code.toNat ++ if text = "" then "" else ": " ++ text := by
  change (if text.isEmpty then "rc=" ++ toString code
    else "rc=" ++ toString code ++ ": " ++ text) = _
  have hcode : toString code = toString code.toNat := rfl
  by_cases h : text = ""
  · rw [if_pos (String.isEmpty_iff.mpr h), if_pos h, hcode, String.append_empty]
  · rw [if_neg (mt String.isEmpty_iff.mp h), if_neg h, hcode, String.append_assoc]

theorem toError_result (result : Result) :
    (Fault.result result.code result.text).toError = result.refusal := by
  rw [Fault.toError, message_result]
  rfl

theorem mapError_outcome {α β : Type} (result : Result) (value : α) (f : α → β) :
    ((Link.outcome result value).map f).mapError Fault.toError =
      if result.code = 0 then .ok (f value) else .error result.refusal := by
  rw [Link.outcome]
  by_cases h : result.code = 0
  · rw [if_pos h, if_pos h]
    rfl
  · rw [if_neg h, if_neg h, ← toError_result]
    rfl

/-- What becomes of a search that a server answers to the end. -/
structure SearchServed (request : SearchRequest) (filter : Filter) (position : Nat)
    (rule : SearchRule) (before after : Link) (answer : Except SessionError (List Entry)) :
    Prop where
  /-- Nothing but this search is sent, and the connection stays open. -/
  sent : after = before.reach position (.search (.whole request filter))
  ok_iff : (∃ found, answer = .ok found) ↔ rule.result.code = 0
  carried : ∃ raws, Carries rule.messages raws
  complete : ∀ found, answer = .ok found →
    ∀ raws, Carries rule.messages raws → List.Forall₂ Delivers raws found
  refused : rule.result.code ≠ 0 → answer = .error rule.result.refusal

variable {filter : Filter} {position : Nat} {server : Server}

theorem message?_of {request : SearchRequest}
    (hfilter : Filter.parse? request.filter = some filter) :
    (Query.of request).message? = some (.whole request filter) := by
  rw [Query.message?, Query.of, hfilter]
  rfl

theorem collect_eq {request : SearchRequest} {link : Link}
    (hfilter : Filter.parse? request.filter = some filter)
    (hpeer : link.peer = some (position, server))
    (hlast : (server.searchRule request.base).hangsUp = false) :
    link.collect (.of request) =
      (.ok ⟨(server.searchRule request.base).messages, (server.searchRule request.base).result⟩,
        link.reach position (.search (.whole request filter))) := by
  rw [Link.collect, message?_of hfilter]
  dsimp only
  rw [hpeer]
  dsimp only
  rw [SearchMessage.whole, hlast]
  rfl

theorem reply_search_eq (builder : Builder) (now : Instant) {request : SearchRequest} {link : Link}
    (hfilter : Filter.parse? request.filter = some filter)
    (hpeer : link.peer = some (position, server))
    (hlast : (server.searchRule request.base).hangsUp = false) :
    (world builder now).reply (.search request) link =
      (⟨[], if (server.searchRule request.base).result.code = 0 then
          .ok (Link.entries (server.searchRule request.base).messages)
        else .error (server.searchRule request.base).result.refusal⟩,
      link.reach position (.search (.whole request filter))) := by
  have hreply : (world builder now).reply (.search request) link =
      (⟨[], (report (link.search request)).1⟩, (report (link.search request)).2) := rfl
  rw [hreply, Link.search, collect_eq hfilter hpeer hlast]
  dsimp only
  rw [report, mapError_outcome]

/-- A search is sent as it was asked for. A success has all the entries that the server sent, in
their order; any other result has its code and its words, and none of the entries. -/
theorem search_served (builder : Builder) (now : Instant) (request : SearchRequest) (link : Link)
    (hfilter : Filter.parse? request.filter = some filter)
    (hpeer : link.peer = some (position, server))
    (hlast : (server.searchRule request.base).hangsUp = false) :
    SearchServed request filter position (server.searchRule request.base) link
      ((world builder now).reply (.search request) link).2
      ((world builder now).reply (.search request) link).1.answer := by
  rw [reply_search_eq builder now hfilter hpeer hlast]
  generalize server.searchRule request.base = rule
  by_cases hcode : rule.result.code = 0
  · simp only [if_pos hcode]
    exact {
      sent := rfl
      ok_iff := iff_of_true ⟨_, rfl⟩ hcode
      carried := exists_carries rule.messages
      complete := by
        rintro found hfound raws h
        cases hfound
        exact h.delivers
      refused := fun h => absurd hcode h }
  · simp only [if_neg hcode]
    exact {
      sent := rfl
      ok_iff := by
        refine iff_of_false ?_ hcode
        rintro ⟨found, hfound⟩
        cases hfound
      carried := exists_carries rule.messages
      complete := by
        intro found hfound
        cases hfound
      refused := fun _ => rfl }

/-- A server that stops at its size limit, with another message among the entries. -/
def truncating : Server where
  searches := [{
    base := "dc=example"
    messages := [
      .entry { dn := "uid=ann,dc=example", attributes := [("uid", [Text.octets "ann"])] },
      .reference ["ldap://127.0.0.1/dc=other"],
      .entry { dn := "uid=anton,dc=example", attributes := [("uid", [Text.octets "anton"])] }]
    result := { code := 4, text := "Size limit exceeded" } }]

theorem search_truncated :
    let request : SearchRequest := { base := "dc=example", filter := "(uid=*)" }
    let link : Link := { servers := [truncating], peer? := some 0 }
    let reply := (world .untrusting 0).reply (.search request) link
    SearchServed request (.present "uid") 0 (truncating.searchRule "dc=example") link reply.2
        reply.1.answer ∧
      reply.1.answer = .error ⟨some 4, "rc=4: Size limit exceeded"⟩ := by
  intro request link reply
  have hfilter : Filter.parse? "(uid=*)" = some (.present "uid") := by rfl
  have h := search_served .untrusting 0 request link hfilter rfl rfl
  have hmessage : (truncating.searchRule "dc=example").result.refusal =
      ⟨some 4, "rc=4: Size limit exceeded"⟩ := by decide
  exact ⟨h, (h.refused (by decide)).trans (congrArg Except.error hmessage)⟩

end DirectoryLogin.Wire
