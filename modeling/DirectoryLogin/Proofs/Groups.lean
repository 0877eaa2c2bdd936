import DirectoryLogin.Proofs.Resolution
import Mathlib.Data.List.Induction
import Mathlib.Data.List.Nodup

/-!
# The groups of a user

A lookup that has found its user succeeds whatever the group searches answer. It gives the common
names of the groups that were found, in the order in which they came, each at its first occurrence.
-/

namespace DirectoryLogin.Client

open Config (GroupSearch Settings UserSearch)
open Directory (Entry groupNameAttribute)
open Session

/-! ## Each name once -/

theorem eraseDups_concat_of_mem {names : List String} {name : String} (h : name ∈ names) :
    (names ++ [name]).eraseDups = names.eraseDups := by
  have hnone : [name].removeAll names = [] := by simp [List.removeAll, h]
  rw [List.eraseDups_append, hnone, List.eraseDups_nil, List.append_nil]

theorem eraseDups_concat_of_notMem {names : List String} {name : String} (h : name ∉ names) :
    (names ++ [name]).eraseDups = names.eraseDups ++ [name] := by
  have hall : [name].removeAll names = [name] := by simp [List.removeAll, h]
  rw [List.eraseDups_append, hall]
  rfl

theorem addOnce_eraseDups (names : List String) (name : String) :
    addOnce names.eraseDups name = (names ++ [name]).eraseDups := by
  by_cases h : name ∈ names
  · rw [eraseDups_concat_of_mem h]
    simp [addOnce, List.mem_eraseDups, h]
  · rw [eraseDups_concat_of_notMem h]
    simp [addOnce, List.mem_eraseDups, h]

theorem foldl_addOnce (names : List String) : names.foldl addOnce [] = names.eraseDups := by
  induction names using List.reverseRecOn with
  | nil => rfl
  | append_singleton names name ih =>
      rw [List.foldl_append, ih, List.foldl_cons, List.foldl_nil, addOnce_eraseDups]

theorem nodup_eraseDups (names : List String) : names.eraseDups.Nodup := by
  induction names using List.reverseRecOn with
  | nil => exact List.nodup_nil
  | append_singleton names name ih =>
      by_cases h : name ∈ names
      · rwa [eraseDups_concat_of_mem h]
      · rw [eraseDups_concat_of_notMem h]
        have hfresh : name ∉ names.eraseDups := by rwa [List.mem_eraseDups]
        exact List.nodup_append_comm.mp (List.nodup_cons.mpr ⟨hfresh, ih⟩)

private theorem idxOf_concat_lt_iff {names : List String} {name a b : String} (h : name ∉ names)
    (ha : a ∈ names ++ [name]) (hb : b ∈ names ++ [name]) :
    (names ++ [name]).idxOf a < (names ++ [name]).idxOf b ↔
      a ∈ names ∧ (b ∈ names → names.idxOf a < names.idxOf b) := by
  have hname : (names ++ [name]).idxOf name = names.length := by
    rw [List.idxOf_append_of_notMem h, List.idxOf_cons_self, Nat.add_zero]
  rw [List.mem_append, List.mem_singleton] at ha hb
  rcases ha with ha | rfl
  · have hlt := List.idxOf_lt_length_iff.mpr ha
    rcases hb with hb | rfl
    · simp [List.idxOf_append_of_mem, ha, hb]
    · simp [List.idxOf_append_of_mem, ha, h, hname, hlt]
  · rcases hb with hb | rfl
    · have hlt := List.idxOf_lt_length_iff.mpr hb
      simp only [hname, List.idxOf_append_of_mem hb, h, false_and, iff_false]
      omega
    · simp [h]

theorem idxOf_eraseDups_lt_iff {names : List String} {a b : String} (ha : a ∈ names)
    (hb : b ∈ names) :
    names.eraseDups.idxOf a < names.eraseDups.idxOf b ↔ names.idxOf a < names.idxOf b := by
  induction names using List.reverseRecOn with
  | nil => cases ha
  | append_singleton names name ih =>
      by_cases h : name ∈ names
      · have hin {c : String} (hc : c ∈ names ++ [name]) : c ∈ names := by
          rcases List.mem_append.mp hc with hc | hc
          · exact hc
          · rwa [List.mem_singleton.mp hc]
        rw [eraseDups_concat_of_mem h, List.idxOf_append_of_mem (hin ha),
          List.idxOf_append_of_mem (hin hb), ih (hin ha) (hin hb)]
      · -- A new name comes last in both lists, so the order of the others decides.
        have hfresh : name ∉ names.eraseDups := by rwa [List.mem_eraseDups]
        have hlisted {c : String} (hc : c ∈ names ++ [name]) : c ∈ names.eraseDups ++ [name] := by
          simpa [List.mem_eraseDups] using hc
        rw [eraseDups_concat_of_notMem h, idxOf_concat_lt_iff h ha hb,
          idxOf_concat_lt_iff hfresh (hlisted ha) (hlisted hb), List.mem_eraseDups,
          List.mem_eraseDups]
        exact and_congr_right fun ha => forall_congr' fun hb => ih ha hb

/-! ## Names that the searches bring -/

/-- The common names of the groups that the searches find, in order. -/
def groupNames (bases : List (GroupSearch × SearchAnswer)) : List String :=
  bases.flatMap fun base => (entriesOf base.2).filterMap (·.firstValue? "cn")

/-- The list has the names of the groups that the searches find, each once and in order. -/
structure CollectedOnce (bases : List (GroupSearch × SearchAnswer)) (names : List String) :
    Prop where
  eq_eraseDups : names = (groupNames bases).eraseDups
  nodup : names.Nodup
  mem_iff : ∀ name, name ∈ names ↔ ∃ base ∈ bases, ∃ entries, base.2 = .ok entries ∧
    ∃ entry ∈ entries, entry.firstValue? "cn" = some name
  inOrder : ∀ a ∈ names, ∀ b ∈ names,
    names.idxOf a < names.idxOf b ↔ (groupNames bases).idxOf a < (groupNames bases).idxOf b
  /-- What some bases bring stays in front, whatever the others answer. -/
  kept : ∀ before after, bases = before ++ after → (groupNames before).eraseDups <+: names
  /-- A base whose search fails could as well not be there. -/
  unhindered : ∀ before base after, bases = before ++ base :: after → IsFailure base.2 →
    names = (groupNames (before ++ after)).eraseDups

theorem groupNames_append (before after : List (GroupSearch × SearchAnswer)) :
    groupNames (before ++ after) = groupNames before ++ groupNames after := List.flatMap_append

theorem mem_groupNames {bases : List (GroupSearch × SearchAnswer)} {name : String} :
    name ∈ groupNames bases ↔ ∃ base ∈ bases, ∃ entries, base.2 = .ok entries ∧
      ∃ entry ∈ entries, entry.firstValue? "cn" = some name := by
  rw [groupNames, List.mem_flatMap]
  refine exists_congr fun base => and_congr_right fun _ => ?_
  rw [List.mem_filterMap]
  cases base.2 with
  | ok entries => simp [entriesOf]
  | error cause => simp [entriesOf]

theorem collectedOnce_eraseDups (bases : List (GroupSearch × SearchAnswer)) :
    CollectedOnce bases (groupNames bases).eraseDups where
  eq_eraseDups := rfl
  nodup := nodup_eraseDups _
  mem_iff name := by rw [List.mem_eraseDups, mem_groupNames]
  inOrder a ha b hb :=
    idxOf_eraseDups_lt_iff (List.mem_eraseDups.mp ha) (List.mem_eraseDups.mp hb)
  kept before after hbases := by
    rw [hbases, groupNames_append, List.eraseDups_append]
    exact List.prefix_append _ _
  unhindered before base after hbases hfailed := by
    obtain ⟨search, answer⟩ := base
    obtain ⟨cause, rfl⟩ := hfailed
    have hnone : groupNames ((search, .error cause) :: after) = groupNames after := rfl
    rw [hbases, groupNames_append, hnone, groupNames_append]

/-! ## The lookup -/

/-- The run has a session to search, one of the user searches is the first that finds exactly one
entry, and the group searches are these bases, answered as they say. -/
structure UserResolved (settings : Settings) (entry : Entry)
    (bases : List (GroupSearch × SearchAnswer)) (passed : List (UserSearch × SearchAnswer))
    (search : UserSearch) (xs : List Exchange) : Prop where
  reached : Reached settings xs
  users : ∃ others, settings.userSearches = passed.map Prod.fst ++ search :: others
  passedOver : ∀ base ∈ passed, ¬ IsSingle base.2
  groups : settings.groupSearches = bases.map Prod.fst
  answered : AnsweredBy (passed.map Prod.snd ++ .ok [entry] :: bases.map Prod.snd) xs

private theorem eq_map_asking {β : Type} {request : β → Directory.SearchRequest}
    {bases : List (β × SearchAnswer)} {xs : List Exchange}
    (h : List.Forall₂ (Asked request) (bases.map Prod.fst) xs)
    (answers : AnsweredBy (bases.map Prod.snd) xs) : xs = bases.map (asking request) := by
  induction bases generalizing xs with
  | nil => exact List.forall₂_nil_left_iff.mp h
  | cons base others ih =>
      obtain ⟨x, rest, ⟨answer, rfl⟩, hothers, rfl⟩ := List.forall₂_cons_left_iff.mp h
      obtain ⟨rfl, hanswers⟩ := answeredBy_cons.mp answers
      rw [ih hothers hanswers]
      rfl

private theorem addGroups_entries {request : GroupSearch → Directory.SearchRequest}
    (bases : List (GroupSearch × SearchAnswer)) :
    addGroups [] ((bases.map (asking request)).flatMap Exchange.entries) =
      (groupNames bases).eraseDups := by
  have hnames : ((bases.map (asking request)).flatMap Exchange.entries).filterMap
      (·.firstValue? groupNameAttribute) = groupNames bases := by
    simp only [List.flatMap_map, entries_asking, List.filterMap_flatMap]
    rfl
  rw [addGroups, hnames, foldl_addOnce]

/-- A lookup that has found its user gives the names of the groups that the searches for that user
find, each once, and searches all bases for them. -/
theorem userGroups_collected {σ : Type} (world : World σ) (state : σ) (settings : Settings)
    (username : String) (entry : Entry) (bases : List (GroupSearch × SearchAnswer))
    (passed : List (UserSearch × SearchAnswer)) (search : UserSearch)
    (resolved : UserResolved settings entry bases passed search
      ((userGroups settings username).run world state).exchanges) :
    (∃ names, ((userGroups settings username).run world state).result = .ok names ∧
      CollectedOnce bases names) ∧
    searches ((userGroups settings username).run world state).exchanges =
      List.map (inquiry (userRequest settings.limits username))
          (passed ++ [(search, .ok [entry])]) ++
        bases.map (inquiry (groupRequest settings.limits entry.dn)) := by
  have hyields := Program.yields_run world (userGroups settings username) state
  generalize ((userGroups settings username).run world state).exchanges = xs at *
  generalize ((userGroups settings username).run world state).result = result at *
  have hcourse : Course (.userGroups username) settings xs result := course_of_yields hyields
  obtain ⟨url, session, htask, hsearches⟩ :=
    hcourse.performed_of_reached nofun resolved.reached
  have answered := resolved.answered.of_searches_eq hsearches
  obtain ⟨others, husers⟩ := resolved.users
  have phase := userPhase settings.limits username
  rw [hsearches]
  cases (yields_lookupGroups _ _ _ _ _).mp htask with
  | unknown h =>
      have hturn : InTurn (PassedOver settings.limits username) (Found settings.limits username)
          settings.userSearches session none := inTurn_none_iff.mpr h
      rw [husers] at hturn
      rw [← List.append_nil session] at answered
      obtain ⟨dn, hnone, -⟩ := phase.ended (search, .ok [entry]) hturn answered
        resolved.passedOver ⟨entry, rfl⟩
      cases hnone
  | @found ys zs dn hturn hgroups =>
      rw [husers] at hturn
      obtain ⟨_, hdn, ⟨_, hentry, rfl⟩, rfl, hmore⟩ :=
        phase.ended (search, .ok [entry]) hturn answered resolved.passedOver ⟨entry, rfl⟩
      cases hdn
      cases hentry
      rw [resolved.groups] at hgroups
      rw [eq_map_asking hgroups hmore, addGroups_entries, searches_append, searches_map_asking,
        searches_map_asking]
      exact ⟨⟨_, rfl, collectedOnce_eraseDups bases⟩, rfl⟩

/-- A base that fails stands between two that share a group. -/
theorem userGroups_collected_shared :
    ∃ (settings : Settings) (script : Scripted.Script) (entry : Entry)
      (bases : List (GroupSearch × SearchAnswer)) (names : List String),
      UserResolved settings entry bases [] { baseDn := "ou=people" }
        ((userGroups settings "ada").run (Scripted.world none) script).exchanges ∧
      CollectedOnce bases names ∧ names = ["staff", "admins", "vpn"] ∧
      ((userGroups settings "ada").run (Scripted.world none) script).result = .ok names := by
  let entry : Entry := { dn := "uid=ada" }
  let group (name : String) : Entry := { dn := "cn=" ++ name, attributes := [("cn", [name])] }
  let first : SearchAnswer := .ok [group "staff", { dn := "ou=unnamed" }, group "admins"]
  let broken : SearchAnswer := .error { message := "rc=51: busy" }
  let last : SearchAnswer := .ok [group "admins", group "vpn"]
  let nearby : GroupSearch := { baseDn := "ou=nearby" }
  let former : GroupSearch := { baseDn := "ou=former" }
  let shared : GroupSearch := { baseDn := "ou=shared" }
  let script : Scripted.Script :=
    { rules := [{ base := "ou=people", answer := .ok [entry] },
        { base := "ou=nearby", answer := first },
        { base := "ou=former", answer := broken }, { base := "ou=shared", answer := last }] }
  let settings : Settings :=
    { urls := ["ldap1"], anonymous := true, userSearches := [{ baseDn := "ou=people" }],
      groupSearches := [nearby, former, shared] }
  have hsearches : searches ((userGroups settings "ada").run (Scripted.world none)
      script).exchanges = [(userRequest {} "ada" { baseDn := "ou=people" }, .ok [entry]),
        (groupRequest {} "uid=ada" nearby, first), (groupRequest {} "uid=ada" former, broken),
        (groupRequest {} "uid=ada" shared, last)] := rfl
  have resolved : UserResolved settings entry [(nearby, first), (former, broken), (shared, last)] []
      { baseDn := "ou=people" }
      ((userGroups settings "ada").run (Scripted.world none) script).exchanges :=
    ⟨⟨_, ⟨[], "ldap1", .plain, none, rfl⟩, .inl rfl⟩, ⟨[], rfl⟩, by simp, rfl,
      by simp [AnsweredBy, hsearches]⟩
  obtain ⟨⟨names, hresult, hnames⟩, -⟩ :=
    userGroups_collected (Scripted.world none) script settings "ada" entry _ _ _ resolved
  have hlisted : ["staff", "admins", "vpn"] = names := Except.ok.inj hresult
  exact ⟨settings, script, entry, _, names, resolved, hnames, hlisted.symm, hresult⟩

end DirectoryLogin.Client
