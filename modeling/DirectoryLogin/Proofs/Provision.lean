import DirectoryLogin.Proofs.Checks
import DirectoryLogin.Proofs.Classification
import DirectoryLogin.Proofs.Validity

/-!
# What secures connections is checked in order

What is made from files is decided by the checks: it is the fault of the first one that fails, or
the identity and the authorities that were asked for. Not verifying servers makes no difference to
that. Operations ask for it only with settings that pass, so the check that a certificate has its
key never fails for them.
-/

namespace DirectoryLogin.Transport

open Der (Authority)

/-! ## What is made -/

section

variable (files : Files) (request : MaterialRequest)

/-- The authorities are those of the platform, or all that the file holds. -/
inductive AuthoritiesFrom : Option (List Authority) → Prop
  | platform (h : request.caPath = none) : AuthoritiesFrom none
  | file {path found authorities} (h : request.caPath = some path)
      (load : CertificatesIn files path (.ok found))
      (accepted : List.Forall₂ (fun octets authority => Authority.read octets = .ok authority)
        found authorities) : AuthoritiesFrom (some authorities)

/-- The identity is that of the two files, if there are to be any. -/
inductive IdentityFrom : Option Identity → Prop
  | anonymous (hcert : request.certPath = none) (hkey : request.keyPath = none) : IdentityFrom none
  | pair {certPath keyPath certificates key} (hcert : request.certPath = some certPath)
      (hkey : request.keyPath = some keyPath)
      (loadCert : CertificatesIn files certPath (.ok certificates))
      (loadKey : KeyIn files keyPath (.ok key)) (fits : Matched key certificates (.ok ())) :
      IdentityFrom (some { certificates, key })

/-- The material is what was asked for. -/
structure Provided (material : Material) : Prop where
  authorities : AuthoritiesFrom files request material.authorities
  identity : IdentityFrom files request material.identity
  verifies : material.verifies = !request.skipVerify

end

section

variable {files : Files} {request : MaterialRequest}

theorem IdentityFrom.isSome_iff {identity : Option Identity}
    (h : IdentityFrom files request identity) :
    identity.isSome ↔ request.certPath.isSome ∧ request.keyPath.isSome := by
  cases h with
  | anonymous hcert hkey => simp [hcert, hkey]
  | pair hcert hkey => simp [hcert, hkey]

open Check in
theorem requestedAuthorities_decided (files : Files) (request : MaterialRequest) :
    Decided files request [.authorityFile, .authorities] (AuthoritiesFrom files request)
      (Material.requestedAuthorities files request) := by
  unfold Material.requestedAuthorities
  cases hpath : request.caPath with
  | none =>
      refine .cons (by simp [Fails, hpath]) ?_
      exact .cons (by simp [Fails, hpath]) (.done (.platform hpath))
  | some path =>
      simp only [Material.loadAuthorities, bind, Except.bind, Except.map]
      cases hload : Material.loadCertificates files path with
      | error fault => exact .of_fails .authorityFile ⟨path, hpath, certificatesIn_iff.mpr hload⟩
      | ok found =>
          have hfound := certificatesIn_iff.mpr hload
          refine .cons (by simp [Fails, hpath, certificatesIn_iff, hload]) ?_
          cases hread : found.mapM Authority.read with
          | error fault =>
              have hrefused := mapM_eq_error_iff.mp hread
              have hfails : Check.authorities.Fails files request (.badAuthority path fault) :=
                ⟨path, found, fault, hpath, hfound, hrefused, rfl⟩
              simpa [hread] using Decided.of_fails _ hfails
          | ok authorities =>
              have hnone {fault} : ¬ FirstRefused found fault := fun hrefused => by
                cases hread.symm.trans (mapM_eq_error_iff.mpr hrefused)
              have hmade := AuthoritiesFrom.file hpath hfound (mapM_eq_ok_iff.mp hread)
              refine .cons (by simp [Fails, hpath, certificatesIn_iff, hload, hnone]) ?_
              simpa [hread] using .done hmade

open Check in
theorem loadIdentity_decided {certPath keyPath : String} (hcert : request.certPath = some certPath)
    (hkey : request.keyPath = some keyPath) :
    Decided files request [.certificate, .key, .identity] (IdentityFrom files request)
      ((Material.loadIdentity files certPath keyPath).map some) := by
  simp only [Material.loadIdentity, bind, Except.bind, Except.map]
  cases loadCert : Material.loadCertificates files certPath with
  | error fault => exact .of_fails .certificate ⟨certPath, hcert, certificatesIn_iff.mpr loadCert⟩
  | ok certificates =>
      have hcertificates := certificatesIn_iff.mpr loadCert
      refine .cons (by simp [Fails, hcert, certificatesIn_iff, loadCert]) ?_
      cases loadKey : Material.loadKey files keyPath with
      | error fault => exact .of_fails .key ⟨keyPath, hkey, keyIn_iff.mpr loadKey⟩
      | ok key =>
          have hloaded := keyIn_iff.mpr loadKey
          refine .cons (by simp [Fails, hkey, keyIn_iff, loadKey]) ?_
          cases hmatch : Material.matchKey key certificates with
          | error fault =>
              have hfails : Check.identity.Fails files request (.identity fault) :=
                ⟨certPath, keyPath, certificates, key, fault, hcert, hkey, hcertificates, hloaded,
                  matched_iff.mpr hmatch, rfl⟩
              simpa [hmatch] using Decided.of_fails _ hfails
          | ok =>
              have hmade := IdentityFrom.pair hcert hkey hcertificates hloaded
                (matched_iff.mpr hmatch)
              refine .cons ?_ (by simpa [hmatch] using .done hmade)
              simp [Fails, hcert, hkey, certificatesIn_iff, keyIn_iff, matched_iff, loadCert,
                loadKey, hmatch]

open Check in
theorem requestedIdentity_decided (files : Files) (request : MaterialRequest) :
    Decided files request [.pair, .certificate, .key, .identity] (IdentityFrom files request)
      (Material.requestedIdentity files request) := by
  unfold Material.requestedIdentity
  cases hcert : request.certPath with
  | none =>
      cases hkey : request.keyPath with
      | none =>
          refine .cons (by simp [Fails, hcert, hkey]) ?_
          refine .cons (by simp [Fails, hcert]) (.cons (by simp [Fails, hkey]) ?_)
          exact .cons (by simp [Fails, hcert]) (.done (.anonymous hcert hkey))
      | some keyPath => exact .of_fails .pair ⟨by simp [hcert, hkey], rfl⟩
  | some certPath =>
      cases hkey : request.keyPath with
      | none => exact .of_fails .pair ⟨by simp [hcert, hkey], rfl⟩
      | some keyPath =>
          exact .cons (by simp [Fails, hcert, hkey]) (loadIdentity_decided hcert hkey)

open Check in
/-- What is made is what was asked for, or the fault of the first check that fails. -/
theorem build_decided (files : Files) (request : MaterialRequest) :
    Decided files request order (Provided files request) (Material.build files request).2 := by
  have hauthorities := requestedAuthorities_decided files request
  have hidentity := requestedIdentity_decided files request
  change Decided files request ([.authorityFile, .authorities] ++ _) _ _
  unfold Material.build
  cases hfound : Material.requestedAuthorities files request with
  | error fault =>
      rw [hfound] at hauthorities
      exact hauthorities.append_error _
  | ok authorities =>
      rw [hfound] at hauthorities
      refine hauthorities.append fun hfrom => ?_
      cases hpair : Material.requestedIdentity files request with
      | error fault =>
          rw [hpair] at hidentity
          cases hidentity with
          | refused h => exact .refused h
      | ok identity =>
          rw [hpair] at hidentity
          cases hidentity with
          | passed hnone made => exact .passed hnone ⟨hfrom, made, rfl⟩

theorem build_skipVerify (skips : Bool) :
    (Material.build files { request with skipVerify := skips }).2 =
      (Material.build files request).2.map
        fun material => { material with verifies := !skips } := by
  have hauthorities : Material.requestedAuthorities files { request with skipVerify := skips } =
      Material.requestedAuthorities files request := rfl
  have hidentity : Material.requestedIdentity files { request with skipVerify := skips } =
      Material.requestedIdentity files request := rfl
  rw [Material.build, Material.build, hauthorities, hidentity]
  cases Material.requestedAuthorities files request with
  | error => rfl
  | ok => cases Material.requestedIdentity files request <;> rfl

end

end DirectoryLogin.Transport

namespace DirectoryLogin.Wire

open Transport (Check MaterialRequest Provided)

/-- What a request gets from files. An error is that of the first check that fails, and stays the
same where the files of later checks differ. -/
structure ChecksInOrder (files : Files) (request : MaterialRequest) : Prop where
  error_iff : ∀ e, (Builder.ofFiles files request).2 = .error e ↔ ∃ before check fault,
    e = .config (.material fault) ∧ Check.FailsFirst files request Check.order before check fault
  succeeds : (∃ material, (Builder.ofFiles files request).2 = .ok material) ↔
    Check.NoneFails files request Check.order
  later : ∀ before check fault, Check.FailsFirst files request Check.order before check fault →
    ∀ files' : Files, (∀ path ∈ (before ++ [check]).flatMap (Check.reads request),
      files' path = files path) →
        (Builder.ofFiles files' request).2 = .error (.config (.material fault))
  provided : ∀ material, (Builder.ofFiles files request).2 = .ok material →
    Provided files request material ∧
      (material.identity.isSome ↔ request.certPath.isSome ∧ request.keyPath.isSome)
  skipVerify : ∀ skips, (Builder.ofFiles files { request with skipVerify := skips }).2 =
    (Builder.ofFiles files request).2.map fun material => { material with verifies := !skips }

section

variable {files : Files} {request : MaterialRequest}

theorem ofFiles_eq_mapError : (Builder.ofFiles files request).2 =
    (Transport.Material.build files request).2.mapError fun fault => .config (.material fault) :=
  rfl

theorem ofFiles_eq_error_iff {e : Directory.Error} : (Builder.ofFiles files request).2 = .error e ↔
    ∃ before check fault, e = .config (.material fault) ∧
      Check.FailsFirst files request Check.order before check fault := by
  have hbuilt {fault : Transport.Fault} :
      (Transport.Material.build files request).2 = .error fault ↔ ∃ before check,
        Check.FailsFirst files request Check.order before check fault :=
    (Transport.build_decided files request).error_iff
  rw [ofFiles_eq_mapError]
  constructor
  · intro h
    cases hresult : (Transport.Material.build files request).2 with
    | error fault =>
        rw [hresult] at h
        obtain ⟨before, check, hfirst⟩ := hbuilt.mp hresult
        exact ⟨before, check, fault, (Except.error.inj h).symm, hfirst⟩
    | ok material =>
        rw [hresult] at h
        cases h
  · rintro ⟨before, check, fault, rfl, hfirst⟩
    rw [hbuilt.mpr ⟨before, check, hfirst⟩]
    rfl

theorem ofFiles_eq_ok_iff {material : Transport.Material} :
    (Builder.ofFiles files request).2 = .ok material ↔
      (Transport.Material.build files request).2 = .ok material := by
  rw [ofFiles_eq_mapError]
  cases (Transport.Material.build files request).2 with
  | error => exact iff_of_false nofun nofun
  | ok => simp [Except.mapError]

theorem checksInOrder (files : Files) (request : MaterialRequest) :
    ChecksInOrder files request where
  error_iff _ := ofFiles_eq_error_iff
  succeeds := by
    rw [← (Transport.build_decided files request).exists_ok_iff]
    exact exists_congr fun _ => ofFiles_eq_ok_iff
  later before check fault hfirst files' hfiles :=
    ofFiles_eq_error_iff.mpr ⟨before, check, fault, rfl, hfirst.congr hfiles⟩
  provided material h := by
    have hprovided := (Transport.build_decided files request).made_of_ok (ofFiles_eq_ok_iff.mp h)
    exact ⟨hprovided, hprovided.identity.isSome_iff⟩
  skipVerify skips := by
    rw [ofFiles_eq_mapError, Transport.build_skipVerify, ofFiles_eq_mapError]
    cases (Transport.Material.build files request).2 <;> rfl

end

end DirectoryLogin.Wire

namespace DirectoryLogin.Session

/-- What secures connections is made from files, which may be others each time. -/
def World.BuildsFromFiles {σ : Type} (world : World σ) : Prop := ∀ request state, ∃ files : Files,
  (world.reply (.build request) state).1.answer = (Wire.Builder.ofFiles files request).2

end DirectoryLogin.Session

namespace DirectoryLogin.Wire

theorem buildsFromFiles_ofFiles (files : Files) (now : Der.Instant) :
    (world (.ofFiles files) now).BuildsFromFiles :=
  fun _ _ => ⟨files, rfl⟩

end DirectoryLogin.Wire

namespace DirectoryLogin.Client

open Config (Settings)
open Session
open Transport (MaterialRequest)

variable {op : Operation} {settings : Settings} {xs : List Exchange} {request : MaterialRequest}

theorem Negotiated.request_eq {tls : Config.TlsSettings}
    {negotiated : Except Directory.Error Transport.Security} (h : Negotiated tls xs negotiated)
    {answer} (hmem : ⟨.build request, answer⟩ ∈ xs) : request = .ofSettings tls := by
  cases h with
  | plain => cases hmem
  | built | unbuilt =>
      cases List.mem_singleton.mp hmem
      rfl

theorem Opening.request_eq {acquired : Except Directory.Error Connection}
    (h : Opening settings xs acquired) {answer} (hmem : ⟨.build request, answer⟩ ∈ xs) :
    settings.validate = .ok () ∧ request = .ofSettings settings.tls := by
  have not_refused {security : Transport.Security} {urls : List String} {ys : List Exchange}
      (h : List.Forall₂ (Refused security settings.connectTimeout) urls ys) :
      ⟨.build request, answer⟩ ∉ ys := by
    intro hmem
    obtain ⟨_, _, heq⟩ := exists_of_refused h _ hmem
    cases heq
  cases h with
  | invalid => cases hmem
  | unbuilt valid h => exact ⟨valid, h.request_eq hmem⟩
  | unreachable valid h refused =>
      rcases List.mem_append.mp hmem with hmem | hmem
      · exact ⟨valid, h.request_eq hmem⟩
      · exact absurd hmem (not_refused refused)
  | opened valid h _ refused =>
      simp only [List.mem_append, List.mem_singleton] at hmem
      rcases hmem with hmem | hmem | hmem
      · exact ⟨valid, h.request_eq hmem⟩
      · exact absurd hmem (not_refused refused)
      · cases hmem

theorem Course.request_eq {result : Except op.Failure op.Value} (h : Course op settings xs result)
    {answer} (hmem : ⟨.build request, answer⟩ ∈ xs) :
    settings.validate = .ok () ∧ request = .ofSettings settings.tls := by
  have of_opened {opening later : List Exchange} {url : String}
      (opened : Opening settings opening (.ok (.opened url))) (hlater : ∀ x ∈ later, ¬ x.call.Opens)
      (hmem : ⟨.build request, answer⟩ ∈ opening ++ later) :
      settings.validate = .ok () ∧ request = .ofSettings settings.tls := by
    rcases List.mem_append.mp hmem with hmem | hmem
    · exact opened.request_eq hmem
    · exact absurd trivial (hlater _ hmem)
  cases h with
  | unopened h => exact h.request_eq hmem
  | refused opened bind released =>
      exact of_opened opened (List.forall_mem_append.mpr ⟨bind.not_opens, released.not_opens⟩) hmem
  | performed opened bind task released =>
      have hlater := List.forall_mem_append.mpr ⟨bind.not_opens, not_opens_of_task task released⟩
      exact of_opened opened hlater hmem

/-- A fault of certificates and keys that an operation reports is one that it was told. -/
theorem Course.exists_build_of_error {result : Except op.Failure op.Value} {fault : Transport.Fault}
    (h : Course op settings xs result)
    (herror : op.error? result = some (.config (.material fault))) :
    ∃ request, ⟨.build request, .error (.config (.material fault))⟩ ∈ xs := by
  cases h with
  | unopened h =>
      rw [op.error?_fail] at herror
      cases h with
      | invalid | unreachable => cases herror
      | unbuilt _ h =>
          cases h with
          | unbuilt =>
              cases herror
              exact ⟨_, List.mem_cons_self⟩
  | refused opened bind =>
      rw [op.error?_fail] at herror
      cases bind <;> cases herror
  | performed opened bind task =>
      exact absurd herror ((Stage.error?_ne_of_ending (ending_of_task task)).1 _)

/-- A certificate that was asked for without its key, or the other way round. -/
def unpaired : Directory.Error := .config (.material .unpaired)

/-- What a run has to do with certificates without their keys: settings that name one without the
other are rejected before anything is asked, so no such fault is ever told or reported. -/
structure AlwaysPaired (op : Operation) (settings : Settings) {σ : Type}
    (run : Run σ (Except op.Failure op.Value)) : Prop where
  requested : ∀ request answer, ⟨.build request, answer⟩ ∈ run.exchanges →
    request.certPath.isSome = request.keyPath.isSome
  told : ∀ request, ⟨.build request, .error unpaired⟩ ∉ run.exchanges
  reported : op.error? run.result ≠ some unpaired
  rejected : settings.tls.certPath.isSome ≠ settings.tls.keyPath.isSome → ∃ violation,
    settings.validate = .error violation ∧ run.steps = [] ∧
      run.result = .error (op.fail (.ofConfig (.ofViolation violation)))

theorem alwaysPaired {σ : Type} {world : World σ} (hworld : world.BuildsFromFiles) (state : σ)
    (op : Operation) (settings : Settings) :
    AlwaysPaired op settings ((op.program settings).run world state) := by
  have hcourse := course_of_yields (Program.yields_run world (op.program settings) state)
  have hrequested (request : MaterialRequest) (answer)
      (hmem : ⟨.build request, answer⟩ ∈ ((op.program settings).run world state).exchanges) :
      request.certPath.isSome = request.keyPath.isSome := by
    obtain ⟨valid, rfl⟩ := hcourse.request_eq hmem
    exact (Config.Settings.validate_eq_ok_iff_sound.mp valid).paired
  have htold (request) :
      ⟨.build request, .error unpaired⟩ ∉ ((op.program settings).run world state).exchanges := by
    intro hmem
    obtain ⟨asked, hanswer⟩ := exists_of_mem_exchanges world _ _ hmem
    obtain ⟨files, hfiles⟩ := hworld request asked
    obtain ⟨_, _, _, hfault, -, -, hfails⟩ :=
      Wire.ofFiles_eq_error_iff.mp (hfiles.symm.trans hanswer.symm)
    cases hfault
    exact hfails.unpaired (hrequested _ _ hmem)
  refine ⟨hrequested, htold, fun herror => ?_, fun hunpaired => ?_⟩
  · obtain ⟨request, hmem⟩ := hcourse.exists_build_of_error herror
    exact htold request hmem
  · cases hvalid : settings.validate with
    | ok => exact absurd (Config.Settings.validate_eq_ok_iff_sound.mp hvalid).paired hunpaired
    | error violation =>
        rw [op.program_of_invalid hvalid]
        exact ⟨violation, rfl, rfl, rfl⟩

/-- What is made from files is the fault of the first check that fails, or all that was asked for.
No operation ever asks for a certificate without its key. -/
theorem material_checked (files : Files) (request : MaterialRequest) {σ : Type} (world : World σ)
    (hworld : world.BuildsFromFiles) (state : σ) (op : Operation) (settings : Settings) :
    Wire.ChecksInOrder files request ∧
      AlwaysPaired op settings ((op.program settings).run world state) :=
  ⟨Wire.checksInOrder files request, alwaysPaired hworld state op settings⟩

/-- Where there are no files, a certificate without its key is the fault and not its file, and an
operation is over before that. -/
theorem material_checked_unpaired : ∃ (files : Files) (settings : Settings),
    (Wire.world (.ofFiles files) 0).BuildsFromFiles ∧
    (Wire.Builder.ofFiles files (.ofSettings settings.tls)).2 = .error unpaired ∧
    ((Operation.program settings .testConnectivity).run (Wire.world (.ofFiles files) 0)
      { servers := [] }).steps = [] := by
  let files : Files := fun _ => .unopened .missing
  let settings : Settings :=
    { urls := ["ldap1"], anonymous := true,
      tls := { enabled := true, certPath := some "client.pem" } }
  have hworld := Wire.buildsFromFiles_ofFiles files 0
  obtain ⟨hchecks, hpaired⟩ := material_checked files (.ofSettings settings.tls)
    (Wire.world (.ofFiles files) 0) hworld { servers := [] } .testConnectivity settings
  have hfirst : Transport.Check.FailsFirst files (.ofSettings settings.tls) Transport.Check.order
      [.authorityFile, .authorities] .pair .unpaired := by
    refine ⟨⟨[.certificate, .key, .identity], rfl⟩, ?_, Bool.noConfusion, rfl⟩
    simp [Transport.Check.NoneFails, Transport.Check.Fails, MaterialRequest.ofSettings, settings]
  obtain ⟨_, -, hsteps, -⟩ := hpaired.rejected Bool.noConfusion
  exact ⟨files, settings, hworld, (hchecks.error_iff _).mpr ⟨_, _, _, rfl, hfirst⟩, hsteps⟩

end DirectoryLogin.Client
