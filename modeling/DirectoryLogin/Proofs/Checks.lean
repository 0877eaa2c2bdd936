import DirectoryLogin.Proofs.Sections
import Mathlib.Data.List.Forall2
import Mathlib.Tactic.ByContra

/-!
# The checks of certificates and keys

Certificates and keys pass through checks in a fixed order. `Check.FailsFirst` tells which check is
the first that fails; it depends on the files of that check and of those before it only. What comes
of a file is said by its sections (`CertificatesIn`, `KeyIn`), and not by the loaders. A result is
`Check.Decided` by checks if it is the fault of the first one that fails, or else what is made.
-/

namespace DirectoryLogin.Transport

open Der (Authority)

/-! ## Reading items in turn -/

section MapM

variable {α β ε : Type} {f : α → Except ε β}

theorem mapM_eq_ok_iff {items : List α} {results : List β} : items.mapM f = .ok results ↔
    List.Forall₂ (fun item result => f item = .ok result) items results := by
  induction items generalizing results with
  | nil =>
      rw [List.forall₂_nil_left_iff]
      exact ⟨fun h => (Except.ok.inj h).symm, fun h => congrArg Except.ok h.symm⟩
  | cons item others ih =>
      rw [List.mapM_cons, List.forall₂_cons_left_iff]
      cases hitem : f item with
      | error e => exact iff_of_false nofun fun ⟨_, _, h, _⟩ => by cases h
      | ok result =>
          cases hothers : others.mapM f with
          | error e =>
              refine iff_of_false nofun fun ⟨_, rest, _, h, _⟩ => ?_
              rw [ih.mpr h] at hothers
              cases hothers
          | ok rest =>
              constructor
              · intro h
                exact ⟨result, rest, rfl, ih.mp hothers, (Except.ok.inj h).symm⟩
              · rintro ⟨_, rest', h, hrest, rfl⟩
                cases h
                cases hothers.symm.trans (ih.mpr hrest)
                rfl

/-- The first item that fails gives the error. -/
theorem mapM_eq_error_iff {items : List α} {e : ε} : items.mapM f = .error e ↔
    ∃ before item after, items = before ++ item :: after ∧
      (∀ earlier ∈ before, ∃ result, f earlier = .ok result) ∧ f item = .error e := by
  induction items with
  | nil => exact iff_of_false nofun (by simp)
  | cons first others ih =>
      rw [List.mapM_cons]
      cases hfirst : f first with
      | error e' =>
          constructor
          · intro h
            cases h
            exact ⟨[], first, others, rfl, by simp, hfirst⟩
          · rintro ⟨before, item, after, heq, hbefore, hitem⟩
            cases before with
            | nil =>
                obtain ⟨rfl, rfl⟩ := List.cons.inj heq
                cases hfirst.symm.trans hitem
                rfl
            | cons earlier before =>
                obtain ⟨rfl, rfl⟩ := List.cons.inj heq
                obtain ⟨result, hresult⟩ := hbefore _ List.mem_cons_self
                cases hfirst.symm.trans hresult
      | ok result =>
          have hothers : (do let rest ← others.mapM f; pure (result :: rest)) = Except.error e ↔
              others.mapM f = .error e := by
            cases others.mapM f with
            | error e' => exact Iff.rfl
            | ok rest => exact iff_of_false nofun nofun
          refine hothers.trans (ih.trans ?_)
          constructor
          · rintro ⟨before, item, after, rfl, hbefore, hitem⟩
            exact ⟨first :: before, item, after, rfl,
              List.forall_mem_cons.mpr ⟨⟨result, hfirst⟩, hbefore⟩, hitem⟩
          · rintro ⟨before, item, after, heq, hbefore, hitem⟩
            cases before with
            | nil =>
                obtain ⟨rfl, rfl⟩ := List.cons.inj heq
                cases hfirst.symm.trans hitem
            | cons earlier before =>
                obtain ⟨rfl, rfl⟩ := List.cons.inj heq
                exact ⟨before, item, after, rfl, (List.forall_mem_cons.mp hbefore).2, hitem⟩

end MapM

/-! ## Loading and matching -/

/-- What comes of loading the certificates in a file: its fault, that of the first malformed section
or all that its sections hold. -/
inductive CertificatesIn (files : Files) (path : String) :
    Except Fault (List (List UInt8)) → Prop
  | unopened {fault} (h : files path = .unopened fault) :
      CertificatesIn files path (.error (.certificatesUnopened path fault))
  | unread {fault} (h : files path = .unread fault) :
      CertificatesIn files path (.error (.certificatesUnread fault))
  | malformed {file before fault after} (h : files path = .contents file)
      (sections : Pem.Sections (Pem.lines file) (before ++ .error fault :: after))
      (fine : ∀ x ∈ before, IsItem x) :
      CertificatesIn files path (.error (.certificatesMalformed fault))
  | missing {file found} (h : files path = .contents file)
      (sections : Pem.Sections (Pem.lines file) found) (fine : ∀ x ∈ found, IsItem x)
      (empty : found.filterMap certificate? = []) :
      CertificatesIn files path (.error (.noCertificates path))
  | loaded {file found} (h : files path = .contents file)
      (sections : Pem.Sections (Pem.lines file) found) (fine : ∀ x ∈ found, IsItem x)
      (some : found.filterMap certificate? ≠ []) :
      CertificatesIn files path (.ok (found.filterMap certificate?))

/-- What comes of loading the key in a file: whatever stands behind the first key or the first
malformed section does not matter. -/
inductive KeyIn (files : Files) (path : String) : Except Fault Pem.Item → Prop
  | unopened {fault} (h : files path = .unopened fault) :
      KeyIn files path (.error (.keyUnopened path fault))
  | unread {fault} (h : files path = .unread fault) : KeyIn files path (.error (.keyUnread fault))
  | malformed {file before fault after} (h : files path = .contents file)
      (sections : Pem.Sections (Pem.lines file) (before ++ .error fault :: after))
      (others : ∀ x ∈ before, IsOther x) : KeyIn files path (.error (.keyMalformed fault))
  | missing {file found} (h : files path = .contents file)
      (sections : Pem.Sections (Pem.lines file) found) (others : ∀ x ∈ found, IsOther x) :
      KeyIn files path (.error (.noKey path))
  | loaded {file before key after} (h : files path = .contents file)
      (sections : Pem.Sections (Pem.lines file) (before ++ .ok key :: after))
      (others : ∀ x ∈ before, IsOther x) (isKey : IsKey key) : KeyIn files path (.ok key)

/-- What comes of holding a key against the first of certificates. -/
inductive Matched (key : Pem.Item) (certificates : List (List UInt8)) :
    Except IdentityFault Unit → Prop
  | unusable (h : Der.publicKey? key = none) : Matched key certificates (.error .unusableKey)
  | unreadable {usable fault} (h : Der.publicKey? key = some usable)
      (certificate : Der.Certificate.read .refused (certificates.headD []) = .error fault) :
      Matched key certificates (.error (.certificate fault))
  | other {usable certificate} (h : Der.publicKey? key = some usable)
      (read : Der.Certificate.read .refused (certificates.headD []) = .ok certificate)
      (ne : certificate.publicKey ≠ usable.certified) :
      Matched key certificates (.error .otherKey)
  | fits {usable certificate} (h : Der.publicKey? key = some usable)
      (read : Der.Certificate.read .refused (certificates.headD []) = .ok certificate)
      (eq : certificate.publicKey = usable.certified) : Matched key certificates (.ok ())

section

variable {files : Files} {path : String}

theorem certificatesIn_loadCertificates (files : Files) (path : String) :
    CertificatesIn files path (Material.loadCertificates files path) := by
  cases h : files path with
  | unopened fault =>
      rw [Material.loadCertificates, h]
      exact .unopened h
  | unread fault =>
      rw [Material.loadCertificates, h]
      exact .unread h
  | contents file =>
      obtain ⟨found, sections⟩ := Pem.exists_sections (Pem.lines file)
      rw [loadCertificates_eq_of_sections h sections, certificatesOf]
      cases hfault : found.findSome? fault? with
      | some fault =>
          obtain ⟨before, after, rfl, fine⟩ := findSome?_fault?_eq_some_iff.mp hfault
          exact .malformed h sections fine
      | none =>
          have fine := findSome?_fault?_eq_none_iff.mp hfault
          by_cases empty : found.filterMap certificate? = []
          · simpa only [empty, if_true] using .missing h sections fine empty
          · simpa only [empty, if_false] using .loaded h sections fine empty

theorem certificatesIn_iff {result : Except Fault (List (List UInt8))} :
    CertificatesIn files path result ↔ Material.loadCertificates files path = result := by
  constructor
  · intro hin
    cases hin with
    | unopened h | unread h => rw [Material.loadCertificates, h]
    | malformed h sections fine =>
        rw [loadCertificates_eq_of_sections h sections]
        exact ((certificatesChosen path _).malformed _).mpr ⟨_, _, rfl, fine⟩
    | missing h sections fine empty =>
        rw [loadCertificates_eq_of_sections h sections]
        exact (certificatesChosen path _).missing.mpr ⟨fine, empty⟩
    | loaded h sections fine some =>
        rw [loadCertificates_eq_of_sections h sections]
        exact ((certificatesChosen path _).loaded _).mpr ⟨fine, rfl, some⟩
  · rintro rfl
    exact certificatesIn_loadCertificates files path

theorem CertificatesIn.unique {result result' : Except Fault (List (List UInt8))}
    (h : CertificatesIn files path result) (h' : CertificatesIn files path result') :
    result = result' :=
  (certificatesIn_iff.mp h).symm.trans (certificatesIn_iff.mp h')

theorem CertificatesIn.congr {files' : Files} {result : Except Fault (List (List UInt8))}
    (h : CertificatesIn files path result) (hpath : files' path = files path) :
    CertificatesIn files' path result := by
  rw [certificatesIn_iff, Material.loadCertificates] at h ⊢
  rwa [hpath]

theorem keyIn_loadKey (files : Files) (path : String) :
    KeyIn files path (Material.loadKey files path) := by
  cases h : files path with
  | unopened fault =>
      rw [Material.loadKey, h]
      exact .unopened h
  | unread fault =>
      rw [Material.loadKey, h]
      exact .unread h
  | contents file =>
      obtain ⟨found, sections⟩ := Pem.exists_sections (Pem.lines file)
      have chosen := keyChosen path found
      rw [loadKey_eq_of_sections h sections]
      cases hfind : found.find? endsSearch with
      | none =>
          rw [hfind] at chosen
          exact .missing h sections (chosen.missing.mp rfl)
      | some x =>
          rw [hfind] at chosen
          cases x with
          | error fault =>
              obtain ⟨before, after, rfl, others⟩ := (chosen.malformed fault).mp rfl
              exact .malformed h sections others
          | ok key =>
              obtain ⟨before, after, rfl, others, isKey⟩ := (chosen.loaded key).mp rfl
              exact .loaded h sections others isKey

theorem keyIn_iff {result : Except Fault Pem.Item} :
    KeyIn files path result ↔ Material.loadKey files path = result := by
  constructor
  · intro hin
    cases hin with
    | unopened h | unread h => rw [Material.loadKey, h]
    | malformed h sections others =>
        rw [loadKey_eq_of_sections h sections]
        exact ((keyChosen path _).malformed _).mpr ⟨_, _, rfl, others⟩
    | missing h sections others =>
        rw [loadKey_eq_of_sections h sections]
        exact (keyChosen path _).missing.mpr others
    | loaded h sections others isKey =>
        rw [loadKey_eq_of_sections h sections]
        exact ((keyChosen path _).loaded _).mpr ⟨_, _, rfl, others, isKey⟩
  · rintro rfl
    exact keyIn_loadKey files path

theorem KeyIn.unique {result result' : Except Fault Pem.Item} (h : KeyIn files path result)
    (h' : KeyIn files path result') : result = result' :=
  (keyIn_iff.mp h).symm.trans (keyIn_iff.mp h')

theorem KeyIn.congr {files' : Files} {result : Except Fault Pem.Item} (h : KeyIn files path result)
    (hpath : files' path = files path) : KeyIn files' path result := by
  rw [keyIn_iff, Material.loadKey] at h ⊢
  rwa [hpath]

theorem matched_iff {key : Pem.Item} {certificates : List (List UInt8)}
    {result : Except IdentityFault Unit} :
    Matched key certificates result ↔ Material.matchKey key certificates = result := by
  constructor
  · intro hmatched
    unfold Material.matchKey
    cases hmatched with
    | unusable h => rw [h]
    | unreadable h read => rw [h, read]
    | other h read ne => simp only [h, read, if_neg ne]
    | fits h read eq => simp only [h, read, if_pos eq]
  · rintro rfl
    unfold Material.matchKey
    cases h : Der.publicKey? key with
    | none => exact .unusable h
    | some usable =>
        cases read : Der.Certificate.read .refused (certificates.headD []) with
        | error fault => exact .unreadable h read
        | ok certificate =>
            by_cases eq : certificate.publicKey = usable.certified
            · simpa only [if_pos eq] using .fits h read eq
            · simpa only [if_neg eq] using .other h read eq

end

/-! ## The checks -/

/-- What is checked before connections are secured. -/
inductive Check where
  /-- The file of the authorities can be loaded. -/
  | authorityFile
  /-- Every certificate in it is that of an authority. -/
  | authorities
  /-- A client certificate and a key are asked for together or not at all. -/
  | pair
  /-- The client certificate can be loaded. -/
  | certificate
  /-- The key can be loaded. -/
  | key
  /-- Certificate and key are usable and fit. -/
  | identity

/-- The certificate is the first in a file that is not that of an authority. -/
def FirstRefused (found : List (List UInt8)) (fault : Der.CertificateFault) : Prop :=
  ∃ before octets after, found = before ++ octets :: after ∧
    (∀ earlier ∈ before, ∃ authority, Authority.read earlier = .ok authority) ∧
      Authority.read octets = .error fault

namespace Check

def order : List Check := [.authorityFile, .authorities, .pair, .certificate, .key, .identity]

/-- The paths of the files that a check is about. -/
def reads (request : MaterialRequest) : Check → List String
  | .authorityFile | .authorities => request.caPath.toList
  | .pair => []
  | .certificate => request.certPath.toList
  | .key => request.keyPath.toList
  | .identity => request.certPath.toList ++ request.keyPath.toList

def Fails (files : Files) (request : MaterialRequest) : Check → Fault → Prop
  | .authorityFile, fault => ∃ path, request.caPath = some path ∧
      CertificatesIn files path (.error fault)
  | .authorities, fault => ∃ path found refused, request.caPath = some path ∧
      CertificatesIn files path (.ok found) ∧ FirstRefused found refused ∧
      fault = .badAuthority path refused
  | .pair, fault => request.certPath.isSome ≠ request.keyPath.isSome ∧ fault = .unpaired
  | .certificate, fault => ∃ path, request.certPath = some path ∧
      CertificatesIn files path (.error fault)
  | .key, fault => ∃ path, request.keyPath = some path ∧ KeyIn files path (.error fault)
  | .identity, fault => ∃ certPath keyPath certificates key refused,
      request.certPath = some certPath ∧ request.keyPath = some keyPath ∧
      CertificatesIn files certPath (.ok certificates) ∧ KeyIn files keyPath (.ok key) ∧
      Matched key certificates (.error refused) ∧ fault = .identity refused

/-- None of the checks fails. -/
def NoneFails (files : Files) (request : MaterialRequest) (checks : List Check) : Prop :=
  ∀ check ∈ checks, ∀ fault, ¬ check.Fails files request fault

/-- The check fails, and none of those that stand before it does. -/
def FailsFirst (files : Files) (request : MaterialRequest) (checks before : List Check)
    (check : Check) (fault : Fault) : Prop :=
  before ++ [check] <+: checks ∧ NoneFails files request before ∧ check.Fails files request fault

section

variable {files : Files} {request : MaterialRequest} {check check' : Check}
  {checks before before' : List Check} {fault fault' : Fault}

theorem Fails.unique (h : check.Fails files request fault) (h' : check.Fails files request fault') :
    fault = fault' := by
  cases check with
  | authorityFile | certificate | key =>
      obtain ⟨path, hpath, load⟩ := h
      obtain ⟨path', hpath', load'⟩ := h'
      cases hpath.symm.trans hpath'
      exact Except.error.inj (load.unique load')
  | authorities =>
      obtain ⟨path, found, refused, hpath, load, hrefused, rfl⟩ := h
      obtain ⟨path', found', refused', hpath', load', hrefused', rfl⟩ := h'
      cases hpath.symm.trans hpath'
      cases Except.ok.inj (load.unique load')
      cases (mapM_eq_error_iff.mpr hrefused).symm.trans (mapM_eq_error_iff.mpr hrefused')
      rfl
  | pair => rw [h.2, h'.2]
  | identity =>
      obtain ⟨certPath, keyPath, certificates, key, refused, hcert, hkey, loadCert, loadKey,
        hrefused, rfl⟩ := h
      obtain ⟨certPath', keyPath', certificates', key', refused', hcert', hkey', loadCert',
        loadKey', hrefused', rfl⟩ := h'
      cases hcert.symm.trans hcert'
      cases hkey.symm.trans hkey'
      cases Except.ok.inj (loadCert.unique loadCert')
      cases Except.ok.inj (loadKey.unique loadKey')
      cases (matched_iff.mp hrefused).symm.trans (matched_iff.mp hrefused')
      rfl

theorem Fails.unpaired (h : check.Fails files request .unpaired) :
    request.certPath.isSome ≠ request.keyPath.isSome := by
  cases check with
  | authorityFile | certificate | key =>
      obtain ⟨path, -, load⟩ := h
      cases load
  | authorities =>
      obtain ⟨_, _, _, -, -, -, heq⟩ := h
      cases heq
  | pair => exact h.1
  | identity =>
      obtain ⟨_, _, _, _, _, -, -, -, -, -, heq⟩ := h
      cases heq

/-- A check depends on its own files only. -/
theorem Fails.congr {files' : Files}
    (hfiles : ∀ path ∈ check.reads request, files' path = files path)
    (h : check.Fails files request fault) : check.Fails files' request fault := by
  cases check with
  | authorityFile | certificate | key =>
      obtain ⟨path, hpath, load⟩ := h
      exact ⟨path, hpath, load.congr (hfiles path (by simp [reads, hpath]))⟩
  | authorities =>
      obtain ⟨path, found, refused, hpath, load, hrefused⟩ := h
      exact ⟨path, found, refused, hpath, load.congr (hfiles path (by simp [reads, hpath])),
        hrefused⟩
  | pair => exact h
  | identity =>
      obtain ⟨certPath, keyPath, certificates, key, refused, hcert, hkey, loadCert, loadKey,
        hrefused⟩ := h
      refine ⟨certPath, keyPath, certificates, key, refused, hcert, hkey, ?_, ?_, hrefused⟩
      · exact loadCert.congr (hfiles certPath (by simp [reads, hcert]))
      · exact loadKey.congr (hfiles keyPath (by simp [reads, hkey]))

/-! ## The first check that fails -/

theorem FailsFirst.length_le (h : FailsFirst files request checks before check fault)
    (h' : FailsFirst files request checks before' check' fault') :
    before'.length ≤ before.length := by
  by_contra hlt
  have hlength : (before ++ [check]).length ≤ before'.length := by
    rw [List.length_append, List.length_singleton]
    omega
  have hinitial : before ++ [check] <+: before' :=
    List.prefix_of_prefix_length_le h.1 ((List.prefix_append _ _).trans h'.1) hlength
  exact h'.2.1 check (hinitial.subset (by simp)) fault h.2.2

/-- The first check that fails has one fault only. -/
theorem FailsFirst.unique (h : FailsFirst files request checks before check fault)
    (h' : FailsFirst files request checks before' check' fault') : fault = fault' := by
  have hlength : before.length = before'.length :=
    Nat.le_antisymm (h'.length_le h) (h.length_le h')
  have hsame : before ++ [check] = before' ++ [check'] :=
    (List.prefix_of_prefix_length_le h.1 h'.1 (by simp [hlength])).eq_of_length (by simp [hlength])
  obtain ⟨-, hcheck⟩ := List.append_inj hsame hlength
  cases hcheck
  exact h.2.2.unique h'.2.2

theorem FailsFirst.not_noneFails (h : FailsFirst files request checks before check fault) :
    ¬ NoneFails files request checks :=
  fun hnone => hnone check (h.1.subset (by simp)) fault h.2.2

/-- The first check that fails does so whatever the files of later ones hold. -/
theorem FailsFirst.congr {files' : Files}
    (hfiles : ∀ path ∈ (before ++ [check]).flatMap (reads request), files' path = files path)
    (h : FailsFirst files request checks before check fault) :
    FailsFirst files' request checks before check fault := by
  obtain ⟨horder, hbefore, hfails⟩ := h
  have hreads {earlier : Check} (hearlier : earlier ∈ before ++ [check]) :
      ∀ path ∈ earlier.reads request, files' path = files path :=
    fun path hpath => hfiles path (List.mem_flatMap.mpr ⟨earlier, hearlier, hpath⟩)
  refine ⟨horder, fun earlier hearlier fault' hfails' => ?_, hfails.congr (hreads (by simp))⟩
  refine hbefore earlier hearlier fault' (hfails'.congr fun path hpath => ?_)
  exact (hreads (List.mem_append_left _ hearlier) path hpath).symm

end

/-- The result stands for the checks: it is the fault of the first that fails, or what is made if
none does. -/
inductive Decided {α : Type} (files : Files) (request : MaterialRequest) (checks : List Check)
    (Made : α → Prop) : Except Fault α → Prop
  | refused {before check fault} (h : FailsFirst files request checks before check fault) :
      Decided files request checks Made (.error fault)
  | passed {value} (h : NoneFails files request checks) (made : Made value) :
      Decided files request checks Made (.ok value)

namespace Decided

variable {α : Type} {files : Files} {request : MaterialRequest} {check : Check}
  {checks : List Check} {Made : α → Prop} {fault : Fault} {result : Except Fault α}

theorem of_fails (check : Check) (h : check.Fails files request fault) :
    Decided files request (check :: checks) Made (.error fault) := by
  have hfirst : FailsFirst files request (check :: checks) [] check fault :=
    ⟨List.prefix_append [check] checks, by simp [NoneFails], h⟩
  exact .refused hfirst

theorem done {value : α} (made : Made value) : Decided files request [] Made (.ok value) :=
  .passed (by simp [NoneFails]) made

theorem cons (h : ∀ fault, ¬ check.Fails files request fault)
    (decided : Decided files request checks Made result) :
    Decided files request (check :: checks) Made result := by
  cases decided with
  | refused hfirst =>
      obtain ⟨horder, hbefore, hfails⟩ := hfirst
      exact .refused ⟨(List.prefix_cons_inj check).mpr horder,
        List.forall_mem_cons.mpr ⟨h, hbefore⟩, hfails⟩
  | passed hnone made => exact .passed (List.forall_mem_cons.mpr ⟨h, hnone⟩) made

theorem append {β : Type} {value : β} {PartMade : β → Prop} {others : List Check}
    (part : Decided files request checks PartMade (.ok value))
    (decided : PartMade value → Decided files request others Made result) :
    Decided files request (checks ++ others) Made result := by
  cases part with
  | passed hnone made =>
      cases decided made with
      | refused hfirst =>
          obtain ⟨horder, hbefore, hfails⟩ := hfirst
          refine .refused ⟨?_, List.forall_mem_append.mpr ⟨hnone, hbefore⟩, hfails⟩
          rw [List.append_assoc]
          exact (List.prefix_append_right_inj checks).mpr horder
      | passed hothers made => exact .passed (List.forall_mem_append.mpr ⟨hnone, hothers⟩) made

theorem append_error {β : Type} {PartMade : β → Prop}
    (part : Decided files request checks PartMade (.error fault)) (others : List Check) :
    Decided files request (checks ++ others) Made (.error fault) := by
  cases part with
  | refused h => exact .refused ⟨h.1.trans (List.prefix_append _ _), h.2⟩

theorem error_iff (decided : Decided files request checks Made result) :
    result = .error fault ↔
      ∃ before check, FailsFirst files request checks before check fault := by
  cases decided with
  | refused h =>
      constructor
      · intro heq
        cases heq
        exact ⟨_, _, h⟩
      · rintro ⟨before, check, h'⟩
        rw [h.unique h']
  | passed hnone => exact iff_of_false nofun fun ⟨_, _, h⟩ => h.not_noneFails hnone

theorem exists_ok_iff (decided : Decided files request checks Made result) :
    (∃ value, result = .ok value) ↔ NoneFails files request checks := by
  cases decided with
  | refused h => exact iff_of_false nofun h.not_noneFails
  | passed hnone => exact iff_of_true ⟨_, rfl⟩ hnone

theorem made_of_ok {value : α} (decided : Decided files request checks Made result)
    (h : result = .ok value) : Made value := by
  subst h
  cases decided with
  | passed _ made => exact made

end Decided

end Check

end DirectoryLogin.Transport
