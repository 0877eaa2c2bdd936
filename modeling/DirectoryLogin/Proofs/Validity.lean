import DirectoryLogin.Proofs.Operation
import DirectoryLogin.Proofs.Pieces
import DirectoryLogin.Scripted.Directory
import Mathlib.Data.List.Pairwise

/-!
# Which violation is reported

Settings are valid exactly if they break no rule. Otherwise the rule that is reported is the first
one that they break: every other broken rule comes after it in the order of the checks. An operation
with such settings does nothing but report that rule.
-/

namespace DirectoryLogin.Config

/-- The item at a position of a list that is counted from one. -/
def IsAt {α : Type} (items : List α) (position : Nat) (item : α) : Prop :=
  ∃ before after, items = before ++ item :: after ∧ position = before.length + 1

/-- The settings break the rule. -/
def Violation.Applies (s : Settings) : Violation → Prop
  | .noServer => s.urls = []
  | .blankServer => ∃ url ∈ s.urls, ∀ c ∈ url.toList, Text.isBlank c = true
  | .noReader => s.anonymous = false ∧ s.readerDn = ""
  | .certificateWithoutKey => s.tls.certPath.isSome ∧ s.tls.keyPath = none
  | .keyWithoutCertificate => s.tls.certPath = none ∧ s.tls.keyPath.isSome
  | .noUserBase n => ∃ search, IsAt s.userSearches n search ∧ search.baseDn = ""
  | .noUserAttribute n => ∃ search, IsAt s.userSearches n search ∧ search.loginAttribute = ""
  | .noGroupBase n => ∃ search, IsAt s.groupSearches n search ∧ search.baseDn = ""
  | .noGroupAttribute n => ∃ search, IsAt s.groupSearches n search ∧ search.memberAttribute = ""

/-- The place of a rule in the order of the checks: the part of the settings, the search in it, and
the member of the search. -/
def Violation.place : Violation → Nat × Nat × Nat
  | .noServer => (0, 0, 0)
  | .blankServer => (1, 0, 0)
  | .noReader => (2, 0, 0)
  | .certificateWithoutKey | .keyWithoutCertificate => (3, 0, 0)
  | .noUserBase n => (4, n, 0)
  | .noUserAttribute n => (4, n, 1)
  | .noGroupBase n => (5, n, 0)
  | .noGroupAttribute n => (5, n, 1)

/-- The rule is checked before the other one. -/
def Violation.Precedes (v w : Violation) : Prop :=
  Prod.Lex (· < ·) (Prod.Lex (· < ·) (· < ·)) v.place w.place

/-- The rule is the first that the settings break. -/
def Violation.IsFirst (s : Settings) (v : Violation) : Prop :=
  v.Applies s ∧ ∀ w : Violation, w.Applies s → w = v ∨ v.Precedes w

/-- The settings that an operation can work with. -/
structure Settings.Sound (s : Settings) : Prop where
  servers : s.urls ≠ []
  named : ∀ url ∈ s.urls, ∃ c ∈ url.toList, Text.isBlank c = false
  reader : s.readerDn ≠ "" ∨ s.anonymous = true
  paired : s.tls.certPath.isSome = s.tls.keyPath.isSome
  users : ∀ search ∈ s.userSearches, search.baseDn ≠ "" ∧ search.loginAttribute ≠ ""
  groups : ∀ search ∈ s.groupSearches, search.baseDn ≠ "" ∧ search.memberAttribute ≠ ""

theorem IsAt.mem {α : Type} {items : List α} {position : Nat} {item : α}
    (h : IsAt items position item) : item ∈ items := by
  obtain ⟨before, after, rfl, -⟩ := h
  exact List.mem_append_right _ List.mem_cons_self

theorem exists_isAt {α : Type} {items : List α} {item : α} (h : item ∈ items) :
    ∃ position, IsAt items position item := by
  obtain ⟨before, after, heq⟩ := List.append_of_mem h
  exact ⟨_, before, after, heq, rfl⟩

namespace Violation

theorem precedes_iff {v w : Violation} : v.Precedes w ↔ v.place.1 < w.place.1 ∨
    v.place.1 = w.place.1 ∧ (v.place.2.1 < w.place.2.1 ∨
      v.place.2.1 = w.place.2.1 ∧ v.place.2.2 < w.place.2.2) := by
  simp only [Precedes, Prod.lex_def]

theorem Precedes.not_precedes {v w : Violation} (h : v.Precedes w) : ¬ w.Precedes v := by
  rw [precedes_iff] at h ⊢
  omega

end Violation

/-! ## The list of the violations -/

theorem TlsSettings.mem_violations {tls : TlsSettings} {v : Violation} : v ∈ tls.violations ↔
    (v = .certificateWithoutKey ∧ tls.certPath.isSome ∧ tls.keyPath = none) ∨
      (v = .keyWithoutCertificate ∧ tls.certPath = none ∧ tls.keyPath.isSome) := by
  unfold TlsSettings.violations
  cases tls.certPath <;> cases tls.keyPath <;> simp

theorem UserSearch.mem_violations {n : Nat} {search : UserSearch} {v : Violation} :
    v ∈ search.violations n ↔ (v = .noUserBase n ∧ search.baseDn = "") ∨
      (v = .noUserAttribute n ∧ search.loginAttribute = "") := by
  unfold UserSearch.violations
  simp [and_comm]

theorem GroupSearch.mem_violations {n : Nat} {search : GroupSearch} {v : Violation} :
    v ∈ search.violations n ↔ (v = .noGroupBase n ∧ search.baseDn = "") ∨
      (v = .noGroupAttribute n ∧ search.memberAttribute = "") := by
  unfold GroupSearch.violations
  simp [and_comm]

theorem mem_violationsFrom {α : Type} {check : Nat → α → List Violation} {position : Nat}
    {items : List α} {v : Violation} : v ∈ violationsFrom check position items ↔
      ∃ before item after, items = before ++ item :: after ∧
        v ∈ check (position + before.length) item := by
  induction items generalizing position with
  | nil => simp [violationsFrom]
  | cons first rest ih =>
      rw [violationsFrom, List.mem_append, ih]
      constructor
      · rintro (h | ⟨before, item, after, rfl, h⟩)
        · exact ⟨[], first, rest, rfl, h⟩
        · refine ⟨first :: before, item, after, rfl, ?_⟩
          rwa [List.length_cons, Nat.add_comm before.length, ← Nat.add_assoc]
      · rintro ⟨before, item, after, heq, h⟩
        cases before with
        | nil =>
            obtain ⟨rfl, rfl⟩ := List.cons.inj heq
            exact .inl h
        | cons _ before =>
            obtain ⟨rfl, rfl⟩ := List.cons.inj heq
            refine .inr ⟨before, item, after, rfl, ?_⟩
            rwa [List.length_cons, Nat.add_comm before.length, ← Nat.add_assoc] at h

theorem mem_violationsFrom_one {α : Type} {check : Nat → α → List Violation} {items : List α}
    {v : Violation} : v ∈ violationsFrom check 1 items ↔
      ∃ position item, IsAt items position item ∧ v ∈ check position item := by
  rw [mem_violationsFrom]
  constructor
  · rintro ⟨before, item, after, heq, h⟩
    exact ⟨_, item, ⟨before, after, heq, Nat.add_comm 1 _⟩, h⟩
  · rintro ⟨_, item, ⟨before, after, heq, rfl⟩, h⟩
    exact ⟨before, item, after, heq, by rwa [Nat.add_comm]⟩

/-- The violations of a list of searches are in order if those of every search are, and each search
has its own position. -/
theorem pairwise_violationsFrom {α : Type} {check : Nat → α → List Violation} (part : Nat)
    (hcheck : ∀ n item, ∀ v ∈ check n item, v.place.1 = part ∧ v.place.2.1 = n)
    (hordered : ∀ n item, (check n item).Pairwise Violation.Precedes) (position : Nat)
    (items : List α) : (violationsFrom check position items).Pairwise Violation.Precedes := by
  induction items generalizing position with
  | nil => exact .nil
  | cons first rest ih =>
      refine List.pairwise_append.mpr ⟨hordered position first, ih (position + 1), ?_⟩
      intro v hv w hw
      obtain ⟨before, item, after, -, hw⟩ := mem_violationsFrom.mp hw
      obtain ⟨hvpart, hvposition⟩ := hcheck _ _ v hv
      obtain ⟨hwpart, hwposition⟩ := hcheck _ _ w hw
      rw [Violation.precedes_iff]
      omega

theorem Settings.mem_violations {s : Settings} {v : Violation} :
    v ∈ s.violations ↔ v.Applies s := by
  simp only [Settings.violations, List.mem_append, mem_violationsFrom_one,
    TlsSettings.mem_violations, UserSearch.mem_violations, GroupSearch.mem_violations]
  cases v <;> simp [Violation.Applies, Text.isBlankText_iff]

/-- The violations are in order, and all of them in the first parts of the settings. -/
structure OrderedBelow (part : Nat) (found : List Violation) : Prop where
  ordered : found.Pairwise Violation.Precedes
  below : ∀ v ∈ found, v.place.1 < part

theorem OrderedBelow.append {part : Nat} {found more : List Violation} (h : OrderedBelow part found)
    (ordered : more.Pairwise Violation.Precedes) (hmore : ∀ v ∈ more, v.place.1 = part) :
    OrderedBelow (part + 1) (found ++ more) where
  ordered := by
    refine List.pairwise_append.mpr ⟨h.ordered, ordered, fun v hv w hw => ?_⟩
    exact Violation.precedes_iff.mpr (.inl (by rw [hmore w hw]; exact h.below v hv))
  below := by
    refine List.forall_mem_append.mpr ⟨fun v hv => ?_, fun v hv => ?_⟩
    · exact Nat.lt_succ_of_lt (h.below v hv)
    · rw [hmore v hv]
      exact Nat.lt_succ_self part

theorem OrderedBelow.append_rule {part : Nat} {found : List Violation} (h : OrderedBelow part found)
    (broken : Prop) [Decidable broken] (v : Violation) (hv : v.place.1 = part) :
    OrderedBelow (part + 1) (found ++ if broken then [v] else []) := by
  split
  · exact h.append (List.pairwise_singleton _ _) fun w hw => by rwa [List.mem_singleton.mp hw]
  · exact h.append .nil fun w hw => absurd hw List.not_mem_nil

theorem TlsSettings.pairwise_violations (tls : TlsSettings) :
    tls.violations.Pairwise Violation.Precedes := by
  unfold TlsSettings.violations
  split <;> simp

theorem UserSearch.pairwise_violations (n : Nat) (search : UserSearch) :
    (search.violations n).Pairwise Violation.Precedes := by
  unfold UserSearch.violations
  split <;> split <;> simp [Violation.precedes_iff, Violation.place]

theorem GroupSearch.pairwise_violations (n : Nat) (search : GroupSearch) :
    (search.violations n).Pairwise Violation.Precedes := by
  unfold GroupSearch.violations
  split <;> split <;> simp [Violation.precedes_iff, Violation.place]

theorem UserSearch.place_of_mem {n : Nat} {search : UserSearch} {v : Violation}
    (h : v ∈ search.violations n) : v.place.1 = 4 ∧ v.place.2.1 = n := by
  rcases UserSearch.mem_violations.mp h with ⟨rfl, -⟩ | ⟨rfl, -⟩ <;> exact ⟨rfl, rfl⟩

theorem GroupSearch.place_of_mem {n : Nat} {search : GroupSearch} {v : Violation}
    (h : v ∈ search.violations n) : v.place.1 = 5 ∧ v.place.2.1 = n := by
  rcases GroupSearch.mem_violations.mp h with ⟨rfl, -⟩ | ⟨rfl, -⟩ <;> exact ⟨rfl, rfl⟩

theorem Settings.pairwise_violations (s : Settings) :
    s.violations.Pairwise Violation.Precedes := by
  have hservers : OrderedBelow 1 (if s.urls.isEmpty then [.noServer] else []) :=
    OrderedBelow.append_rule ⟨.nil, by simp⟩ _ .noServer rfl
  have hscalars := (hservers.append_rule (s.urls.any Text.isBlankText = true) .blankServer rfl)
    |>.append_rule ((!s.anonymous && s.readerDn.isEmpty) = true) .noReader rfl
  have htls := hscalars.append s.tls.pairwise_violations fun v hv => by
    rcases TlsSettings.mem_violations.mp hv with ⟨rfl, -⟩ | ⟨rfl, -⟩ <;> rfl
  have husers := htls.append (pairwise_violationsFrom 4 (fun _ _ _ => UserSearch.place_of_mem)
    UserSearch.pairwise_violations 1 s.userSearches) fun v hv => by
      obtain ⟨_, _, _, hv⟩ := mem_violationsFrom_one.mp hv
      exact (UserSearch.place_of_mem hv).1
  have hgroups := husers.append (pairwise_violationsFrom 5 (fun _ _ _ => GroupSearch.place_of_mem)
    GroupSearch.pairwise_violations 1 s.groupSearches) fun v hv => by
      obtain ⟨_, _, _, hv⟩ := mem_violationsFrom_one.mp hv
      exact (GroupSearch.place_of_mem hv).1
  exact hgroups.ordered

/-! ## The first violation -/

theorem Settings.validate_eq_error_iff {s : Settings} {v : Violation} :
    s.validate = .error v ↔ ∃ others, s.violations = v :: others := by
  unfold Settings.validate
  split <;> simp_all

/-- The rule that is reported is the first one that the settings break. -/
theorem Settings.validate_eq_error_iff_isFirst {s : Settings} {v : Violation} :
    s.validate = .error v ↔ v.IsFirst s := by
  rw [validate_eq_error_iff]
  have hordered := s.pairwise_violations
  constructor
  · rintro ⟨others, hothers⟩
    rw [hothers] at hordered
    refine ⟨mem_violations.mp (by rw [hothers]; exact List.mem_cons_self), fun w hw => ?_⟩
    rw [← mem_violations, hothers] at hw
    rcases List.mem_cons.mp hw with rfl | hw
    · exact .inl rfl
    · exact .inr (List.rel_of_pairwise_cons hordered hw)
  · rintro ⟨happlies, hfirst⟩
    have hmem := mem_violations.mpr happlies
    cases hviolations : s.violations with
    | nil =>
        rw [hviolations] at hmem
        cases hmem
    | cons head others =>
        rw [hviolations] at hmem hordered
        refine ⟨others, ?_⟩
        rcases List.mem_cons.mp hmem with rfl | hlater
        · rfl
        · have hhead : head ∈ s.violations := by
            rw [hviolations]
            exact List.mem_cons_self
          rcases hfirst head (mem_violations.mp hhead) with rfl | hprecedes
          · rfl
          · exact absurd (List.rel_of_pairwise_cons hordered hlater) hprecedes.not_precedes

theorem Settings.sound_of_not_applies {s : Settings} (h : ∀ v : Violation, ¬ v.Applies s) :
    s.Sound where
  servers := h .noServer
  named url hurl := by
    by_contra hblank
    refine h .blankServer ⟨url, hurl, fun c hc => ?_⟩
    by_contra hc'
    exact hblank ⟨c, hc, Bool.eq_false_iff.mpr hc'⟩
  reader := by
    by_contra hreader
    obtain ⟨hdn, hanonymous⟩ := not_or.mp hreader
    exact h .noReader ⟨Bool.eq_false_iff.mpr hanonymous, not_not.mp hdn⟩
  paired := by
    have hcertificate := h .certificateWithoutKey
    have hkey := h .keyWithoutCertificate
    simp only [Violation.Applies] at hcertificate hkey
    cases hcert : s.tls.certPath <;> cases hpath : s.tls.keyPath <;> simp_all
  users search hsearch := by
    obtain ⟨n, hn⟩ := exists_isAt hsearch
    exact ⟨fun hbase => h (.noUserBase n) ⟨search, hn, hbase⟩,
      fun hattribute => h (.noUserAttribute n) ⟨search, hn, hattribute⟩⟩
  groups search hsearch := by
    obtain ⟨n, hn⟩ := exists_isAt hsearch
    exact ⟨fun hbase => h (.noGroupBase n) ⟨search, hn, hbase⟩,
      fun hattribute => h (.noGroupAttribute n) ⟨search, hn, hattribute⟩⟩

theorem Settings.Sound.not_applies {s : Settings} (h : s.Sound) (v : Violation) :
    ¬ v.Applies s := by
  intro happlies
  cases v with
  | noServer => exact h.servers happlies
  | blankServer =>
      obtain ⟨url, hurl, hblank⟩ := happlies
      obtain ⟨c, hc, hnot⟩ := h.named url hurl
      rw [hblank c hc] at hnot
      cases hnot
  | noReader =>
      obtain ⟨hanonymous, hdn⟩ := happlies
      rcases h.reader with hreader | hreader
      · exact hreader hdn
      · rw [hanonymous] at hreader
        cases hreader
  | certificateWithoutKey =>
      have hpaired := h.paired
      rw [happlies.1, happlies.2] at hpaired
      cases hpaired
  | keyWithoutCertificate =>
      have hpaired := h.paired
      rw [happlies.1, happlies.2] at hpaired
      cases hpaired
  | noUserBase n =>
      obtain ⟨search, hn, hbase⟩ := happlies
      exact (h.users search hn.mem).1 hbase
  | noUserAttribute n =>
      obtain ⟨search, hn, hattribute⟩ := happlies
      exact (h.users search hn.mem).2 hattribute
  | noGroupBase n =>
      obtain ⟨search, hn, hbase⟩ := happlies
      exact (h.groups search hn.mem).1 hbase
  | noGroupAttribute n =>
      obtain ⟨search, hn, hattribute⟩ := happlies
      exact (h.groups search hn.mem).2 hattribute

/-- The settings that pass are the sound ones. -/
theorem Settings.validate_eq_ok_iff_sound {s : Settings} : s.validate = .ok () ↔ s.Sound := by
  rw [validate_eq_ok_iff, List.eq_nil_iff_forall_not_mem]
  simp only [mem_violations]
  exact ⟨sound_of_not_applies, Sound.not_applies⟩

end DirectoryLogin.Config

namespace DirectoryLogin.Client

open Config (Settings Violation)
open Session

/-- With settings that break a rule, an operation is over before it asks or notes anything. -/
theorem Operation.program_of_invalid (op : Operation) {s : Settings} {v : Violation}
    (h : s.validate = .error v) :
    op.program s = .done (.error (op.fail (.ofConfig (.ofViolation v)))) := by
  have hover {ε α : Type} (lift : Directory.Error → ε)
      (use : Connection → Program (Except ε α)) (note : Except ε α → Program Unit) :
      withConnection s lift use note = .done (.error (lift (.ofConfig (.ofViolation v)))) := by
    rw [withConnection, acquire, h]
    rfl
  cases op <;> exact hover _ _ _

end DirectoryLogin.Client
