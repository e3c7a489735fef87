import GaleraHealth.Proofs.AgentUrl
import GaleraHealth.Proofs.CertificateBundles
import GaleraHealth.Proofs.WellFormedConfig

/-!
# From the trusted text to the roots of trust

The text of the certificates that are trusted is read twice. When a configuration is checked, it has
to be free of faults and to hold a certificate. When an agent is turned to, every certificate in it
has to be an anchor of trust as well for the library that makes the client, and nothing has asked
that library before.

* `Surroundings.ChecksRoots`: what is known of that library.
* `TlsSettings.RootsUsable`: every certificate of the text is an anchor of trust.
* `exists_ofParts_iff`: whether a host makes a URL does not depend on TLS.
* `Endpoint.build_of_plain`: where an endpoint is built without TLS, the client alone decides.
* `built_iff_rootsUsable`: what that means for the endpoints and for the answers of the agents.
-/

namespace GaleraHealth

/-- The library that makes clients refuses certificates of which one is no anchor of trust, and has
nothing else against certificates that are to be trusted. -/
structure Surroundings.ChecksRoots (w : Surroundings) (IsAnchor : List UInt8 → Prop) : Prop where
  refuses : ∀ roots, (∃ body ∈ roots, ¬ IsAnchor body) → ∃ why, w.client (.only roots) = .error why
  accepts : ∀ roots, w.client .usual = .ok () → (∀ body ∈ roots, IsAnchor body) →
    w.client (.only roots) = .ok ()

/-- Every certificate of the text is an anchor of trust. -/
def TlsSettings.RootsUsable (IsAnchor : List UInt8 → Prop) (t : TlsSettings) : Prop :=
  t.enabled = true → ∀ bodies, Pem.certificates t.ca = .ok bodies → ∀ body ∈ bodies, IsAnchor body

/-- The same settings without TLS. -/
def TlsSettings.disabled (t : TlsSettings) : TlsSettings := { t with enabled := false }

/-- The same agent without TLS. -/
def AgentSettings.disabled (a : AgentSettings) : AgentSettings := { a with tls := a.tls.disabled }

/-! ### URLs with TLS and without -/

namespace Net.Url

/-- Whether there is a port depends on its digits alone. -/
theorem exists_readPort_iff (scheme : Scheme) (cs : List Char) :
    (∃ own, readPort scheme cs = .ok own) ↔
      cs.length ≤ 1 ∨ ∃ n, Decimal.natural? (cs.drop 1) = some n ∧ n ≤ 65535 := by
  match cs with
  | [] => exact iff_of_true ⟨none, rfl⟩ (.inl (Nat.zero_le 1))
  | [c] => exact iff_of_true ⟨none, rfl⟩ (.inl (Nat.le_refl 1))
  | c :: d :: ds =>
    have hlong : ¬ (c :: d :: ds).length ≤ 1 := by
      rw [List.length_cons, List.length_cons]
      omega
    have hdrop : (c :: d :: ds).drop 1 = d :: ds := rfl
    rw [or_iff_right hlong, hdrop, readPort.eq_3 scheme c (d :: ds) (by simp)]
    cases hread : Decimal.natural? (d :: ds) with
    | none => simp
    | some n =>
      show (∃ own, (if 65535 < n then .error UrlFault.badPort
        else if n = scheme.port.toNat then .ok none else .ok (some n.toUInt16)) =
          Except.ok own) ↔ ∃ m, some n = some m ∧ m ≤ 65535
      by_cases hn : n ≤ 65535
      · rw [if_neg (Nat.not_lt_of_le hn)]
        refine iff_of_true ?_ ⟨n, rfl, hn⟩
        split
        · exact ⟨none, rfl⟩
        · exact ⟨some n.toUInt16, rfl⟩
      · rw [if_pos (Nat.lt_of_not_le hn)]
        simp [hn]

theorem exists_read [NameTable] (scheme scheme' : Scheme) {cs : List Char}
    (h : ∃ url, read scheme cs = .ok url) : ∃ url, read scheme' cs = .ok url := by
  simp only [read, exists_bind_eq_ok] at h ⊢
  obtain ⟨name, hname, own, hown, -⟩ := h
  obtain ⟨own', hown'⟩ := (exists_readPort_iff scheme' _).mpr
    ((exists_readPort_iff scheme _).mp ⟨own, hown⟩)
  exact ⟨name, hname, own', hown', _, rfl⟩

theorem exists_ofParts_iff [NameTable] (scheme scheme' : Scheme) (host path : String)
    (port : UInt16) : (∃ url, ofParts scheme host port path = .ok url) ↔
      ∃ url, ofParts scheme' host port path = .ok url :=
  ⟨exists_read scheme scheme', exists_read scheme' scheme⟩

end Net.Url

/-! ### Roots of trust -/

/-- Once they are checked, the certificates of the text are what a client is to trust. -/
theorem TlsSettings.trust_of_check {t : TlsSettings} (hcheck : t.check = .ok ())
    (henabled : t.enabled = true) :
    ∃ roots, Pem.certificates t.ca = .ok roots ∧ t.trust = .ok (.only roots) := by
  obtain ⟨certificate, rest, hread⟩ := tlsCheck_eq_ok_iff.mp hcheck henabled
  refine ⟨certificate :: rest, hread, ?_⟩
  rw [TlsSettings.trust, if_pos henabled, hread]

/-- Certificates that are not usable make no client. -/
theorem TlsSettings.client_of_not_usable {w : Surroundings} {t : TlsSettings}
    {IsAnchor : List UInt8 → Prop} (hroots : w.ChecksRoots IsAnchor) (hcheck : t.check = .ok ())
    (h : ¬ t.RootsUsable IsAnchor) :
    ∃ trust why, t.trust = .ok trust ∧ w.client trust = .error why := by
  rw [TlsSettings.RootsUsable, Classical.not_imp] at h
  obtain ⟨henabled, hbodies⟩ := h
  obtain ⟨roots, hread, htrust⟩ := TlsSettings.trust_of_check hcheck henabled
  have hbad : ∃ body ∈ roots, ¬ IsAnchor body := by
    by_contra hnone
    refine hbodies fun bodies hbodies body hbody => ?_
    rw [← Except.ok.inj (hread.symm.trans hbodies)] at hbody
    exact Classical.not_not.mp fun hnot => hnone ⟨body, hbody, hnot⟩
  obtain ⟨why, hwhy⟩ := hroots.refuses roots hbad
  exact ⟨_, why, htrust, hwhy⟩

/-! ### Endpoints and agents -/

section Accepted

variable [Net.NameTable] {w : Surroundings} {t : TlsSettings}

/-- Where an endpoint is built without TLS, with TLS and no pinned name the client decides alone. -/
theorem Endpoint.build_of_plain {trust : Trust} (htrust : t.trust = .ok trust)
    (hname : t.serverName = none ∨ t.serverName = some "") {host path : String} {port : UInt16}
    {d : Credentials} (hplain : ∃ e, Endpoint.build w t.disabled host port path d = .ok e) :
    w.client .usual = .ok () ∧ ∃ e, Endpoint.build w t host port path d =
      (w.client trust).mapError EndpointFault.noClient >>= fun _ => .ok e := by
  obtain ⟨e, he⟩ := hplain
  obtain ⟨trust', -, url, htrust', -, hurl, hclient, -⟩ := Endpoint.build_eq_ok_iff.mp he
  have husual : trust' = .usual := (Except.ok.inj htrust').symm
  rw [husual] at hclient
  obtain ⟨url', hurl'⟩ := (Net.Url.exists_ofParts_iff _ t.scheme host path port).mp ⟨url, hurl⟩
  exact ⟨hclient, _, Endpoint.build_unpinned htrust
    (TlsSettings.pinnedName?_eq_none (.inr hname)) hurl'⟩

theorem Endpoint.exists_build_of_usable {IsAnchor : List UInt8 → Prop}
    (hroots : w.ChecksRoots IsAnchor) (hcheck : t.check = .ok ())
    (hname : t.serverName = none ∨ t.serverName = some "") (husable : t.RootsUsable IsAnchor)
    {host path : String} {port : UInt16} {d : Credentials}
    (hplain : ∃ e, Endpoint.build w t.disabled host port path d = .ok e) :
    ∃ e, Endpoint.build w t host port path d = .ok e := by
  cases henabled : t.enabled with
  | true =>
    obtain ⟨roots, hread, htrust⟩ := TlsSettings.trust_of_check hcheck henabled
    obtain ⟨husual, e, hbuild⟩ := Endpoint.build_of_plain htrust hname hplain
    rw [hroots.accepts roots husual (husable henabled roots hread)] at hbuild
    exact ⟨e, hbuild⟩
  | false =>
    have hsame : t.disabled = t := by rw [TlsSettings.disabled, ← henabled]
    rw [hsame] at hplain
    exact hplain

theorem AgentSettings.askSeqno_of_fault {a : AgentSettings} {host : String} {f : EndpointFault}
    (h : a.seqnoEndpoint w host = .error f) (limit : Duration) :
    a.askSeqno limit w host = .after 0 (.error ⟨.agentUnavailable, f.fullMessage⟩) := by
  rw [AgentSettings.askSeqno, AgentSettings.askSequenceNumber, h]
  rfl

theorem AgentSettings.askDisks_of_fault {a : AgentSettings} {host : String} {f : EndpointFault}
    (h : a.diskEndpoint w host = .error f) (limit : Duration) :
    a.askDisks limit w host = .after 0 (.error ⟨.diskLookupFailed, f.fullMessage⟩) := by
  rw [AgentSettings.askDisks, h]
  rfl

end Accepted

theorem EndpointFault.fullMessage_noClient (why : String) :
    (EndpointFault.noClient why).fullMessage = "Failed to create HTTP client: " ++ why := by
  show "Failed to create HTTP client" ++ (": " ++ why) = _
  rw [← String.append_assoc]
  rfl

/-- No client can be made with these settings, for one reason. So no endpoint is ever built, and
that reason is told wherever nothing but the certificates is in the way: of an endpoint, and of the
agents that are asked. -/
structure TlsSettings.Refused [Net.NameTable] (w : Surroundings) (t : TlsSettings)
    (why : String) : Prop where
  unbuilt : ∀ host path port d e, Endpoint.build w t host port path d ≠ .ok e
  endpoint : ∀ host path port d, (∃ e, Endpoint.build w t.disabled host port path d = .ok e) →
    Endpoint.build w t host port path d = .error (.noClient why)
  seqno : ∀ (a : AgentSettings) host limit, a.tls = t →
    (∃ e, a.disabled.seqnoEndpoint w host = .ok e) → a.askSeqno limit w host =
      .after 0 (.error ⟨.agentUnavailable, "Failed to create HTTP client: " ++ why⟩)
  disks : ∀ (a : AgentSettings) host limit, a.tls = t →
    (∃ e, a.disabled.diskEndpoint w host = .ok e) → a.askDisks limit w host =
      .after 0 (.error ⟨.diskLookupFailed, "Failed to create HTTP client: " ++ why⟩)

theorem TlsSettings.refused_of_client [Net.NameTable] {w : Surroundings} {t : TlsSettings}
    {trust : Trust} {why : String} (htrust : t.trust = .ok trust)
    (hclient : w.client trust = .error why)
    (hname : t.serverName = none ∨ t.serverName = some "") : t.Refused w why := by
  have hendpoint : ∀ host path port d,
      (∃ e, Endpoint.build w t.disabled host port path d = .ok e) →
        Endpoint.build w t host port path d = .error (.noClient why) := by
    intro host path port d hplain
    obtain ⟨-, e, hbuild⟩ := Endpoint.build_of_plain htrust hname hplain
    rw [hbuild, hclient]
    rfl
  refine ⟨?_, hendpoint, ?_, ?_⟩
  · intro host path port d e he
    obtain ⟨trust', -, -, htrust', -, -, hclient', -⟩ := Endpoint.build_eq_ok_iff.mp he
    rw [Except.ok.inj (htrust'.symm.trans htrust), hclient] at hclient'
    cases hclient'
  · rintro a host limit rfl hplain
    rw [AgentSettings.askSeqno_of_fault (hendpoint host _ _ _ hplain),
      EndpointFault.fullMessage_noClient]
  · rintro a host limit rfl hplain
    rw [AgentSettings.askDisks_of_fault (hendpoint host _ _ _ hplain),
      EndpointFault.fullMessage_noClient]

/-- **What the check of a trusted text leaves open.** Of settings that are accepted and name no
server, an endpoint can be built wherever it can be without TLS, exactly if every certificate of the
text is an anchor of trust. If one is not, no endpoint is built for any host, and every agent that
could be asked without TLS fails for the reason that there is no client. -/
theorem TlsSettings.built_iff_rootsUsable [Net.NameTable] {w : Surroundings}
    {IsAnchor : List UInt8 → Prop} (hroots : w.ChecksRoots IsAnchor) {t : TlsSettings}
    (hcheck : t.check = .ok ()) (hname : t.serverName = none ∨ t.serverName = some "") :
    (∀ host path port d, (∃ e, Endpoint.build w t.disabled host port path d = .ok e) →
      ((∃ e, Endpoint.build w t host port path d = .ok e) ↔ t.RootsUsable IsAnchor)) ∧
    (¬ t.RootsUsable IsAnchor → ∃ why, t.Refused w why) := by
  have hrefused : ¬ t.RootsUsable IsAnchor → ∃ why, t.Refused w why := by
    intro hnot
    obtain ⟨trust, why, htrust, hclient⟩ := TlsSettings.client_of_not_usable hroots hcheck hnot
    exact ⟨why, TlsSettings.refused_of_client htrust hclient hname⟩
  refine ⟨fun host path port d hplain => ⟨?_, ?_⟩, hrefused⟩
  · rintro ⟨e, he⟩
    by_contra hnot
    obtain ⟨why, hwhy⟩ := hrefused hnot
    exact hwhy.unbuilt host path port d e he
  · intro husable
    exact Endpoint.exists_build_of_usable hroots hcheck hname husable hplain

/-! ### A certificate and what is none -/

/-- The smallest certificate: all of its names, its dates and its key are empty. -/
def smallCertificate : List (List Char) := ["MBkwEqADAgECAgEBMAAwADAAMAAwADAAAwEA".toList]

/-- Settings that trust the smallest certificate. -/
def smallTls : TlsSettings := ⟨true, Pem.bundle [smallCertificate], none⟩

/-- Settings that trust three bytes. They stand where a certificate should. -/
def junkTls : TlsSettings :=
  ⟨true, "-----BEGIN CERTIFICATE-----\nAAAA\n-----END CERTIFICATE-----\n", none⟩

theorem certificates_smallTls : Pem.certificates smallTls.ca =
    .ok [[0x30, 0x19, 0x30, 0x12, 0xA0, 0x03, 0x02, 0x01, 0x02, 0x02, 0x01, 0x01, 0x30, 0x00, 0x30,
      0x00, 0x30, 0x00, 0x30, 0x00, 0x30, 0x00, 0x30, 0x00, 0x03, 0x01, 0x00]] := by
  have hlines : ∀ l ∈ smallCertificate, Pem.IsBodyLine l :=
    List.forall_mem_singleton.mpr ⟨by decide +kernel, Pem.noBreak_of_all (by decide +kernel)⟩
  rw [smallTls, Pem.certificates_bundle (List.forall_mem_singleton.mpr hlines)]
  rfl

theorem certificates_junkTls : Pem.certificates junkTls.ca = .ok [[0, 0, 0]] := by
  have hbundle : junkTls.ca = Pem.bundle [["AAAA".toList]] := rfl
  have hlines : ∀ l ∈ ["AAAA".toList], Pem.IsBodyLine l :=
    List.forall_mem_singleton.mpr ⟨by decide +kernel, Pem.noBreak_of_all (by decide +kernel)⟩
  rw [hbundle, Pem.certificates_bundle (List.forall_mem_singleton.mpr hlines)]
  rfl

/-- What has the outer form of a certificate. -/
def HasForm (body : List UInt8) : Prop := Der.isCertificate body = true

theorem checksRoots_unreachable : Surroundings.unreachable.ChecksRoots HasForm where
  refuses roots := by
    rintro ⟨body, hbody, hbad⟩
    refine ⟨_, if_neg fun hall => ?_⟩
    exact hbad (List.all_eq_true.mp hall body hbody)
  accepts roots _ hall := if_pos (List.all_eq_true.mpr hall)

theorem check_junkTls : junkTls.check = .ok () :=
  tlsCheck_eq_ok_iff.mpr fun _ => ⟨_, _, certificates_junkTls⟩

theorem not_rootsUsable_junkTls : ¬ junkTls.RootsUsable HasForm := by
  intro h
  have hcertificate := h rfl _ certificates_junkTls [0, 0, 0] List.mem_cons_self
  cases hcertificate

section Examples

attribute [local instance] Net.NameTable.empty

theorem Endpoint.exists_build_disabled (t : TlsSettings) (d : Credentials) : ∃ e,
    Endpoint.build .unreachable t.disabled "10.0.0.1" 9200 "/sequence_number" d = .ok e := by
  have hname : Net.Url.normalHost "10.0.0.1" = .ok (.v4 ⟨10, 0, 0, 1⟩) := by decide +kernel
  exact ⟨_, Endpoint.build_off rfl rfl List.mem_cons_self hname⟩

theorem TlsSettings.built_smallTls : Surroundings.unreachable.ChecksRoots HasForm ∧
    smallTls.check = .ok () ∧
    (∃ e, Endpoint.build .unreachable smallTls "10.0.0.1" 9200 "/sequence_number"
      ⟨"galera", "secret"⟩ = .ok e) ∧
    junkTls.check = .ok () ∧ ¬ junkTls.RootsUsable HasForm ∧
    ∃ why, (AgentSettings.mk "galera" "secret" 9200 junkTls).askSeqno (.ofSeconds 30)
      .unreachable "10.0.0.1" =
        .after 0 (.error ⟨.agentUnavailable, "Failed to create HTTP client: " ++ why⟩) := by
  have hsmall : smallTls.check = .ok () :=
    tlsCheck_eq_ok_iff.mpr fun _ => ⟨_, _, certificates_smallTls⟩
  have husable : smallTls.RootsUsable HasForm := by
    intro _ bodies hbodies body hbody
    rw [certificates_smallTls] at hbodies
    cases hbodies
    cases List.mem_singleton.mp hbody
    show Der.isCertificate _ = true
    decide +kernel
  obtain ⟨hbuilt, -⟩ :=
    TlsSettings.built_iff_rootsUsable checksRoots_unreachable hsmall (.inl rfl)
  obtain ⟨-, hrefused⟩ :=
    TlsSettings.built_iff_rootsUsable checksRoots_unreachable check_junkTls (.inl rfl)
  obtain ⟨why, hwhy⟩ := hrefused not_rootsUsable_junkTls
  refine ⟨checksRoots_unreachable, hsmall,
    (hbuilt _ _ _ _ (Endpoint.exists_build_disabled _ _)).mpr husable, check_junkTls,
    not_rootsUsable_junkTls, why, ?_⟩
  exact hwhy.seqno _ _ _ rfl (Endpoint.exists_build_disabled _ _)

/-- What is accepted as a certificate when the settings are checked need not be one, and then no
endpoint can be built where it could be without TLS. -/
theorem TlsSettings.junk_accepted : Surroundings.unreachable.ChecksRoots HasForm ∧
    junkTls.check = .ok () ∧ junkTls.serverName = none ∧
    (∃ e, Endpoint.build .unreachable junkTls.disabled "10.0.0.1" 9200 "/sequence_number"
      ⟨"galera", "secret"⟩ = .ok e) ∧
    ∃ why, Endpoint.build .unreachable junkTls "10.0.0.1" 9200 "/sequence_number"
      ⟨"galera", "secret"⟩ = .error (.noClient why) := by
  have hplain := Endpoint.exists_build_disabled junkTls ⟨"galera", "secret"⟩
  obtain ⟨trust, why, htrust, hclient⟩ :=
    TlsSettings.client_of_not_usable checksRoots_unreachable check_junkTls not_rootsUsable_junkTls
  have hrefused := TlsSettings.refused_of_client htrust hclient (.inl rfl)
  exact ⟨checksRoots_unreachable, check_junkTls, rfl, hplain, why,
    hrefused.endpoint _ _ _ _ hplain⟩

end Examples

end GaleraHealth
