import GaleraHealth.Agent.Clients
import GaleraHealth.Proofs.UrlPlaces

/-!
# Where the URL of an agent leads

The URL of an agent is put together as text from a scheme, a host, a port and a path, and nothing
looks at the host before. With a slash, a question mark or a number sign in it, the port becomes
part of the path, the query or the fragment; what stands before an at sign becomes a user name.

* `Endpoint.build_eq_ok_iff`: what an endpoint is built from.
* `Endpoint.build_unpinned`, `Endpoint.build_off`: without a pinned name, the client decides last.
* `Url.Addresses`: the URL leads to the place that was meant.
* `Endpoint.addresses_iff`: its URL leads to that place exactly when the host has no delimiters.
-/

namespace GaleraHealth

/-! ### The paths of the agents -/

/-- The paths at which agents are asked. -/
def agentPaths : List String := ["/sequence_number", "/api/v1/info", "/api/v1/status"]

theorem isPlainPath_of_mem {path : String} (h : path ∈ agentPaths) :
    Net.Url.IsPlainPath path.toList := by
  simp only [agentPaths, List.mem_cons, List.not_mem_nil, or_false] at h
  rcases h with rfl | rfl | rfl
  · show Net.Url.IsPlainPath ('/' :: "sequence_number".toList)
    exact .of_plain (by simp [Net.Url.IsPlain]) (by decide +kernel)
  · show Net.Url.IsPlainPath ('/' :: "api/v1/info".toList)
    exact .of_plain (by simp [Net.Url.IsPlain]) (by decide +kernel)
  · show Net.Url.IsPlainPath ('/' :: "api/v1/status".toList)
    exact .of_plain (by simp [Net.Url.IsPlain]) (by decide +kernel)

/-! ### Endpoints -/

/-- Without TLS, and without a name to check certificates against, no name is pinned. -/
theorem TlsSettings.pinnedName?_eq_none {tls : TlsSettings}
    (h : tls.enabled = false ∨ tls.serverName = none ∨ tls.serverName = some "") :
    tls.pinnedName? = none := by
  have hempty : (some "").filter (· ≠ "") = none := rfl
  unfold TlsSettings.pinnedName?
  rcases h with h | h | h
  · rw [h]
    rfl
  · rw [h, Option.filter_none, ite_self]
  · rw [h, hempty, ite_self]

section Endpoints

variable [Net.NameTable] {w : Surroundings} {tls : TlsSettings} {host path : String}
  {port : UInt16} {d : Credentials} {e : Endpoint}

/-- An endpoint is built if there are certificates to trust, an address where one is needed, a URL,
and a client that trusts the certificates. -/
theorem Endpoint.build_eq_ok_iff : Endpoint.build w tls host port path d = .ok e ↔
    ∃ trust address url, tls.trust = .ok trust ∧ tls.ownAddress w host port = .ok address ∧
      Net.Url.ofParts tls.scheme (tls.urlHost host) port path = .ok url ∧
      w.client trust = .ok () ∧ e = ⟨url, address, d⟩ := by
  simp only [Endpoint.build, exists_of_bind_eq_ok, mapError_eq_ok_iff]
  constructor
  · rintro ⟨trust, htrust, address, haddress, url, hurl, u, hclient, he⟩
    exact ⟨trust, address, url, htrust, haddress, hurl, hclient, (Except.ok.inj he).symm⟩
  · rintro ⟨trust, address, url, htrust, haddress, hurl, hclient, rfl⟩
    exact ⟨trust, htrust, address, haddress, url, hurl, (), hclient, rfl⟩

/-- Without a pinned name, the URL has the host itself, and nothing is looked up. What is left to
decide is whether there is a client. -/
theorem Endpoint.build_unpinned {trust : Trust} {url : Net.Url} (htrust : tls.trust = .ok trust)
    (hpinned : tls.pinnedName? = none)
    (hurl : Net.Url.ofParts tls.scheme host port path = .ok url) :
    Endpoint.build w tls host port path d =
      (w.client trust).mapError .noClient >>= fun _ => .ok ⟨url, none, d⟩ := by
  rw [Endpoint.build, htrust, TlsSettings.ownAddress, TlsSettings.urlHost, hpinned,
    Option.getD_none, hurl]
  rfl

/-- Without TLS, an agent is asked at the normal form of its host. -/
theorem Endpoint.build_off {name : Net.Host} (hoff : tls.enabled = false)
    (hclient : w.client .usual = .ok ()) (hpath : path ∈ agentPaths)
    (hname : Net.Url.normalHost host = .ok name) :
    Endpoint.build w tls host port path d =
      .ok ⟨Net.Url.place .http name port path.toList, none, d⟩ := by
  have htrust : tls.trust = .ok .usual := by
    rw [TlsSettings.trust, hoff]
    rfl
  have hscheme : tls.scheme = .http := by
    rw [TlsSettings.scheme, hoff]
    rfl
  have hurl : Net.Url.ofParts tls.scheme host port path =
      .ok (Net.Url.place .http name port path.toList) := by
    rw [hscheme]
    exact (Net.Url.ofParts_eq_ok_iff (isPlainPath_of_mem hpath)
      (Net.Url.not_isDelimiter_of_normalHost hname)).mpr ⟨name, hname, rfl⟩
  rw [Endpoint.build_unpinned htrust (TlsSettings.pinnedName?_eq_none (.inl hoff)) hurl, hclient]
  rfl

end Endpoints

/-- A URL leads to the place that was meant: the path on the port of the host, or of the name that
the certificate is checked against, with TLS exactly if that is on. -/
structure Net.Url.Addresses [Net.NameTable] (url : Net.Url) (tls : TlsSettings) (host : String)
    (port : UInt16) (path : String) : Prop where
  scheme : url.scheme = .https ↔ tls.enabled = true
  noUser : url.username = [] ∧ url.password = []
  host : Net.Url.normalHost (tls.urlHost host) = .ok url.host
  port : url.port = port
  path : url.pathChars = path.toList
  noQuery : url.query = none
  noFragment : url.fragment = none

theorem scheme_eq_https_iff (tls : TlsSettings) : tls.scheme = .https ↔ tls.enabled = true := by
  cases h : tls.enabled with
  | true => simp [TlsSettings.scheme, h]
  | false => simp [TlsSettings.scheme, h]

/-- **Where the URL of an agent leads.** Once an endpoint is built, its URL leads to the given path
on the given port and host exactly if no character of the host delimits parts of a URL. -/
theorem Endpoint.addresses_iff [Net.NameTable] {w : Surroundings} {tls : TlsSettings}
    {host path : String} {port : UInt16} {d : Credentials} {e : Endpoint}
    (hpath : path ∈ agentPaths) (hbuild : Endpoint.build w tls host port path d = .ok e) :
    e.url.Addresses tls host port path ↔
      ∀ c ∈ (tls.urlHost host).toList, ¬ Net.Url.IsDelimiter c := by
  constructor
  · intro h
    exact Net.Url.not_isDelimiter_of_normalHost h.host
  · intro hhost
    have hplain := isPlainPath_of_mem hpath
    obtain ⟨-, -, url, -, -, hurl, -, rfl⟩ := Endpoint.build_eq_ok_iff.mp hbuild
    obtain ⟨name, hname, rfl⟩ := (Net.Url.ofParts_eq_ok_iff hplain hhost).mp hurl
    exact {
      scheme := scheme_eq_https_iff tls
      noUser := ⟨rfl, rfl⟩
      host := hname
      port := Net.Url.port_place _ _ _ _
      path := hplain.resolved
      noQuery := rfl
      noFragment := rfl }

section Examples

attribute [local instance] Net.NameTable.empty

/-- The URL of an IPv6 literal leads where it should. -/
theorem Endpoint.addresses_loopback : "/sequence_number" ∈ agentPaths ∧ ∃ e : Endpoint,
    Endpoint.build .unreachable .off "::1" 9200 "/sequence_number" ⟨"diag", "secret"⟩ = .ok e ∧
      e.url.Addresses .off "::1" 9200 "/sequence_number" := by
  have hpath : "/sequence_number" ∈ agentPaths := List.mem_cons_self
  have hname : Net.Url.normalHost "::1" = .ok (.v6 ⟨[0, 0, 0, 0, 0, 0, 0, 1], rfl⟩) := by
    decide +kernel
  have hbuild : Endpoint.build .unreachable .off "::1" 9200 "/sequence_number"
      ⟨"diag", "secret"⟩ = .ok ⟨Net.Url.place .http (.v6 ⟨[0, 0, 0, 0, 0, 0, 0, 1], rfl⟩) 9200
        "/sequence_number".toList, none, ⟨"diag", "secret"⟩⟩ :=
    Endpoint.build_off rfl rfl hpath hname
  exact ⟨hpath, _, hbuild,
    (Endpoint.addresses_iff hpath hbuild).mpr (Net.Url.not_isDelimiter_of_normalHost hname)⟩

/-- A slash in the host ends it. What follows becomes part of the path, the port too, and the port
of the URL is that of the scheme. -/
theorem Endpoint.slash_ends_host : "/sequence_number" ∈ agentPaths ∧ ∃ e : Endpoint,
    Endpoint.build .unreachable .off "10.0.0.1/db" 9200 "/sequence_number" ⟨"diag", "secret"⟩ =
      .ok e ∧
      e.url.port = 80 ∧ e.url.pathChars = "/db:9200/sequence_number".toList ∧
      ¬ e.url.Addresses .off "10.0.0.1/db" 9200 "/sequence_number" := by
  have hname : Net.Host.read "10.0.0.1".toList = .ok (.v4 ⟨10, 0, 0, 1⟩) := by decide +kernel
  have hurl : Net.Url.ofParts .http "10.0.0.1/db" 9200 "/sequence_number" =
      (Net.Host.read "10.0.0.1".toList).map fun name =>
        Net.Url.place .http name 80 "/db:9200/sequence_number".toList := rfl
  rw [hname] at hurl
  refine ⟨List.mem_cons_self, _, Endpoint.build_eq_ok_iff.mpr
    ⟨.usual, none, _, rfl, rfl, hurl, rfl, rfl⟩, Net.Url.port_place _ _ _ _, ?_, ?_⟩
  · have hplain : ∀ c ∈ "db:9200/sequence_number".toList, Net.Url.IsPlain c := by
      simp [Net.Url.IsPlain]
    show (Net.Url.readPath ('/' :: "db:9200/sequence_number".toList)).flatMap ('/' :: ·) = _
    rw [Net.Url.readPath_of_plain hplain]
    decide +kernel
  · intro h
    have hslash := Net.Url.not_isDelimiter_of_normalHost h.host '/' (by decide)
    exact hslash (by decide)

end Examples

end GaleraHealth
