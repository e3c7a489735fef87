import GaleraHealth.DiskAgent.Router
import GaleraHealth.Proofs.HeaderCredentials

/-!
# Who is told about the disks

The agent looks at a request in a fixed order: path, credentials, method, disks. What comes first
keeps what comes later from showing.

* `isAuthorized_iff`: the agent lets in whoever sends a header that carries its credentials.
* `respond_at_info`, `respond_elsewhere`: the answer on either side of the choice of a path.
* `respond_guarded`: without credentials an answer says nothing about the disks, and depends on
  nothing about them.
-/

namespace GaleraHealth

namespace DiskAgent

/-! ### Authorized requests -/

/-- A request is authorized with an agent: the first of its authorization headers carries the
credentials of the agent. -/
def Authorized (a : DiskAgent) (r : Incoming) : Prop :=
  ∃ header, r.headers.lookup "authorization" = some header ∧
    Credentials.Carries header a.credentials

/-- The agent lets in whoever is authorized. -/
theorem isAuthorized_iff {a : DiskAgent} {r : Incoming} :
    a.isAuthorized r = true ↔ a.Authorized r := by
  rw [isAuthorized]
  constructor
  · intro h
    match hread : (r.headers.lookup "authorization").bind Credentials.ofHeader? with
    | none =>
      rw [hread] at h
      cases h
    | some c =>
      rw [hread] at h
      obtain rfl := beq_iff_eq.mp h
      obtain ⟨header, hheader, hc⟩ := Option.bind_eq_some_iff.mp hread
      exact ⟨header, hheader, Credentials.ofHeader?_eq_some_iff.mp hc⟩
  · rintro ⟨header, hheader, hcarries⟩
    rw [hheader, Option.bind_some, Credentials.ofHeader?_eq_some_iff.mpr hcarries]
    exact beq_self_eq_true a.credentials

theorem isAuthorized_eq_false_iff {a : DiskAgent} {r : Incoming} :
    a.isAuthorized r = false ↔ ¬ a.Authorized r := by
  rw [← isAuthorized_iff, Bool.not_eq_true]

/-! ### Answers -/

theorem fitted_status (method : String) (r : Response) : (fitted method r).status = r.status := by
  unfold fitted
  split
  · rfl
  · split <;> rfl

theorem fitted_authenticate (method : String) (r : Response) :
    (fitted method r).authenticate = r.authenticate := by
  unfold fitted
  split
  · rfl
  · split <;> rfl

theorem fitted_content (method : String) (r : Response) :
    (fitted method r).content = r.content := by
  unfold fitted
  split
  · rfl
  · split <;> rfl

/-- The path of the disks. -/
def infoPath : List UInt8 := "/api/v1/info".toUTF8.toList

theorem ofPath?_eq_info_iff {path : List UInt8} :
    Route.ofPath? path = some .info ↔ path = infoPath := by
  rw [Route.ofPath?]
  constructor
  · intro h
    split at h
    · cases h
    · split at h
      · assumption
      · cases h
  · rintro rfl
    have hother : infoPath ≠ "/health".toUTF8.toList := by
      rw [infoPath, Ne, Text.toUTF8_toList_inj]
      decide
    rw [if_neg hother, infoPath, if_pos rfl]

/-- The answer at the path of the disks. -/
theorem respond_at_info (a : DiskAgent) (fs : Filesystem) {r : Incoming}
    (hpath : r.path = infoPath) : a.respond fs r = fitted r.method
      (if !a.isAuthorized r then unauthorized
      else if serves r.method then a.info fs
      else methodNotAllowed) := by
  rw [respond, ofPath?_eq_info_iff.mpr hpath]

/-- The answer at any other path, which asks nothing of the agent. -/
theorem respond_elsewhere (a : DiskAgent) (fs : Filesystem) {r : Incoming}
    (hpath : r.path ≠ infoPath) : a.respond fs r = match Route.ofPath? r.path with
      | none => notFound
      | some _ => fitted r.method (if serves r.method then health else methodNotAllowed) := by
  rw [respond]
  match hroute : Route.ofPath? r.path with
  | none => rfl
  | some .health => rfl
  | some .info => exact absurd (ofPath?_eq_info_iff.mp hroute) hpath

theorem respond_of_not_authorized {a : DiskAgent} (fs : Filesystem) {r : Incoming}
    (hpath : r.path = infoPath) (h : ¬ a.Authorized r) :
    a.respond fs r = fitted r.method unauthorized := by
  rw [respond_at_info a fs hpath, isAuthorized_eq_false_iff.mpr h]
  rfl

theorem respond_of_authorized {a : DiskAgent} (fs : Filesystem) {r : Incoming}
    (hpath : r.path = infoPath) (h : a.Authorized r) (hmethod : r.method = "GET") :
    a.respond fs r = a.info fs := by
  rw [respond_at_info a fs hpath, isAuthorized_iff.mpr h, hmethod]
  rfl

/-- What the agent says about its disks: both of them, or why the first one that it could not look
at was not to be looked at, the persistent one before the ephemeral one. -/
theorem info_eq (a : DiskAgent) (fs : Filesystem) : a.info fs =
    match fs.usage a.persistent, fs.usage a.ephemeral with
    | .ok p, .ok e => json 200 (DiskPair.mk p e).toJson
    | .error f, _ => json 500 (.object [("error", .string f.message)])
    | .ok _, .error f => json 500 (.object [("error", .string f.message)]) := by
  rw [info, Filesystem.disks]
  cases fs.usage a.persistent with
  | error f => rfl
  | ok p =>
    cases fs.usage a.ephemeral with
    | error f => rfl
    | ok e => rfl

/-! ### What an answer tells -/

/-- A content tells about disks: both of them, or an error. -/
def TellsDisks (content : Content) : Prop :=
  (∃ p : DiskPair, content = .json p.toJson) ∨
    ∃ message : String, content = .json (.object [("error", .string message)])

theorem not_tellsDisks_nothing : ¬ TellsDisks .nothing := by
  rintro (⟨p, h⟩ | ⟨m, h⟩)
  · cases h
  · cases h

theorem not_tellsDisks_text (s : String) : ¬ TellsDisks (.text s) := by
  rintro (⟨p, h⟩ | ⟨m, h⟩)
  · cases h
  · cases h

theorem not_tellsDisks_health : ¬ TellsDisks health.content := by
  rintro (⟨p, h⟩ | ⟨m, h⟩)
  · simp [health, json, DiskPair.toJson] at h
  · simp [health, json] at h

/-- What an agent keeps to itself, and from whom. -/
structure Guarded (a : DiskAgent) (fs : Filesystem) (r : Incoming) : Prop where
  /-- Whoever is not authorized is told to authenticate. -/
  refused : r.path = infoPath → ¬ a.Authorized r →
    (a.respond fs r).status = 401 ∧ (a.respond fs r).authenticate.isSome = true ∧
      ¬ TellsDisks (a.respond fs r).content
  /-- That answer is the same whatever the disks are and whatever is on them. -/
  indifferent : r.path = infoPath → ¬ a.Authorized r → ∀ (persistent ephemeral : String)
    (other : Filesystem), respond ⟨a.credentials, persistent, ephemeral⟩ other r = a.respond fs r
  /-- Whoever is authorized and gets the path is told about both disks, or about the first of them
  that could not be looked at. -/
  told : r.path = infoPath → a.Authorized r → r.method = "GET" → a.respond fs r =
    match fs.usage a.persistent, fs.usage a.ephemeral with
    | .ok p, .ok e => json 200 (DiskPair.mk p e).toJson
    | .error f, _ => json 500 (.object [("error", .string f.message)])
    | .ok _, .error f => json 500 (.object [("error", .string f.message)])
  /-- No other path asks for credentials, and none tells about disks. -/
  elsewhere : r.path ≠ infoPath →
    (a.respond fs r).status ≠ 401 ∧ ¬ TellsDisks (a.respond fs r).content

/-- **Without credentials the agent tells nothing about its disks.** -/
theorem respond_guarded (a : DiskAgent) (fs : Filesystem) (r : Incoming) : a.Guarded fs r where
  refused := by
    intro hpath h
    rw [respond_of_not_authorized fs hpath h, fitted_status, fitted_authenticate, fitted_content]
    exact ⟨rfl, rfl, not_tellsDisks_text _⟩
  indifferent := by
    intro hpath h persistent ephemeral other
    have hother : ¬ Authorized ⟨a.credentials, persistent, ephemeral⟩ r := h
    rw [respond_of_not_authorized other hpath hother, respond_of_not_authorized fs hpath h]
  told := by
    intro hpath h hmethod
    rw [respond_of_authorized fs hpath h hmethod, info_eq]
  elsewhere := by
    intro hpath
    rw [respond_elsewhere a fs hpath]
    match Route.ofPath? r.path with
    | none =>
      show notFound.status ≠ 401 ∧ ¬ TellsDisks notFound.content
      exact ⟨by decide, not_tellsDisks_nothing⟩
    | some _ =>
      show (fitted r.method _).status ≠ 401 ∧ ¬ TellsDisks (fitted r.method _).content
      rw [fitted_status, fitted_content]
      by_cases hserves : serves r.method = true
      · rw [if_pos hserves]
        exact ⟨by decide, not_tellsDisks_health⟩
      · rw [if_neg hserves]
        exact ⟨by decide, not_tellsDisks_nothing⟩

/-- An agent whose password holds a colon, and which looks for its disks below the root. -/
def colonAgent : DiskAgent := ⟨⟨"diag", "pa:ss"⟩, "/store", "/data"⟩

/-- A root with nothing below. -/
def bareRoot : Filesystem where
  entry place := if place = [] then some .directory else none
  content _ := ""
  workingDirectory := []
  volume _ := ⟨0, 0, 0, 0, 0⟩

theorem colonAgent_answers :
    let asked (headers : List (String × List UInt8)) : Incoming := ⟨"GET", infoPath, headers⟩
    let login := ("authorization", colonAgent.credentials.header)
    (colonAgent.respond bareRoot (asked [])).status = 401 ∧
      colonAgent.respond bareRoot (asked [login]) = json 500 (.object [("error",
        .string "failed to stat \"/store\": ENOENT: No such file or directory")]) := by
  intro asked login
  have hnone : ¬ colonAgent.Authorized (asked []) := by
    rintro ⟨header, hheader, -⟩
    cases hheader
  have hlogin : colonAgent.Authorized (asked [login]) :=
    ⟨_, rfl, Credentials.carries_header_iff.mpr ⟨by decide, by decide⟩⟩
  have hstore : bareRoot.usage colonAgent.persistent = .error ⟨"/store", .missing⟩ := by decide
  have hmessage : (Filesystem.StatFault.mk "/store" .missing).message =
      "failed to stat \"/store\": ENOENT: No such file or directory" := by decide
  refine ⟨((respond_guarded colonAgent bareRoot _).refused rfl hnone).1, ?_⟩
  rw [(respond_guarded colonAgent bareRoot _).told rfl hlogin rfl, hstore, ← hmessage]

end DiskAgent

end GaleraHealth
