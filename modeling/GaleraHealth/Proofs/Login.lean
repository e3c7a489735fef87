import GaleraHealth.Agent.Clients
import GaleraHealth.CommandLine.Serve
import GaleraHealth.Proofs.AgentUrl
import GaleraHealth.Proofs.GuardedDisks

/-!
# Logging in to a disk agent

A client joins user name and password with a colon, and the agent splits at the first one. The two
undo each other only where that colon is the one that joined, and nothing refuses a colon in a user
name: an agent is loaded with one, and a client is.

* `admits_iff`: the agent admits a client whose joined text is its own, if no colon is in its own
  user name.
* `agreesWith_of_no_colon`: user names without colons are enough to agree.
* `login_law`: who can log in, and which agents agree with every client.
-/

namespace GaleraHealth

/-- A request is sent with some settings: the first of its authorization headers is the one that a
client with these settings sends. -/
def Incoming.SentWith (r : Incoming) (s : AgentSettings) : Prop :=
  r.headers.lookup "authorization" = some s.credentials.header

theorem Endpoint.build_credentials [Net.NameTable] {w : Surroundings} {tls : TlsSettings}
    {host path : String} {port : UInt16} {d : Credentials} {e : Endpoint}
    (h : Endpoint.build w tls host port path d = .ok e) : e.credentials = d := by
  obtain ⟨-, -, -, -, -, -, -, rfl⟩ := Endpoint.build_eq_ok_iff.mp h
  rfl

/-- The header in a client's request for the disks of a node. -/
theorem AgentSettings.diskEndpoint_authorization [Net.NameTable] {s : AgentSettings}
    {w : Surroundings} {host : String} {e : Endpoint} (h : s.diskEndpoint w host = .ok e)
    (id : RequestId) :
    (e.request id).authorization = s.credentials.header := by
  show e.credentials.header = s.credentials.header
  rw [Endpoint.build_credentials h]

namespace AgentConfig

/-- The credentials that an agent asks for. -/
def credentials (c : AgentConfig) : Credentials := (Serve.agent c).credentials

/-- An agent admits a request: it does not ask for credentials any more. -/
def Admits (c : AgentConfig) (r : Incoming) : Prop := (Serve.agent c).isAuthorized r = true

/-- An agent agrees with a client: it admits what the client sends exactly if the client has its
credentials. -/
def AgreesWith (c : AgentConfig) (s : AgentSettings) : Prop :=
  ∀ r : Incoming, r.SentWith s → (c.Admits r ↔ s.credentials = c.credentials)

variable {c : AgentConfig} {s : AgentSettings} {r : Incoming}

theorem joined_toList (d : Credentials) :
    d.joined.toList = d.username.toList ++ ':' :: d.password.toList := by
  simp [Credentials.joined]

/-- **What an agent admits.** -/
theorem admits_iff (hsent : r.SentWith s) : c.Admits r ↔
    ':' ∉ c.username.toList ∧ s.credentials.joined = c.credentials.joined := by
  have hauthorized : c.Admits r ↔ Credentials.Carries s.credentials.header c.credentials := by
    rw [Admits, DiskAgent.isAuthorized_iff]
    constructor
    · rintro ⟨header, hheader, hcarries⟩
      obtain rfl := Option.some.inj (hsent.symm.trans hheader)
      exact hcarries
    · intro hcarries
      exact ⟨_, hsent, hcarries⟩
  rw [hauthorized, Credentials.carries_header_iff, ← joined_toList, String.toList_inj, and_comm]
  rfl

/-- Two credentials are the same if their joined texts are, and neither user name has a colon. -/
theorem eq_of_joined_eq {d e : Credentials} (hd : ':' ∉ d.username.toList)
    (he : ':' ∉ e.username.toList) (h : d.joined = e.joined) : d = e := by
  have hsplit := Credentials.ofJoined?_eq_some_iff.mpr ⟨joined_toList d, hd⟩
  rw [h, Credentials.ofJoined?_eq_some_iff.mpr ⟨joined_toList e, he⟩] at hsplit
  exact (Option.some.inj hsplit).symm

/-- User names without colons are enough to agree. -/
theorem agreesWith_of_no_colon (hc : ':' ∉ c.username.toList) (hs : ':' ∉ s.username.toList) :
    c.AgreesWith s := by
  intro r hsent
  rw [admits_iff hsent]
  constructor
  · rintro ⟨-, hjoined⟩
    exact eq_of_joined_eq hs hc hjoined
  · intro h
    exact ⟨hc, by rw [h]⟩

/-! ### Agents that agree with everybody -/

/-- A request with the header that a client sends. -/
def loginRequest (s : AgentSettings) : Incoming :=
  ⟨"GET", DiskAgent.infoPath, [("authorization", s.credentials.header)]⟩

theorem sentWith_loginRequest (s : AgentSettings) : (loginRequest s).SentWith s := rfl

/-- The settings of a client with some credentials. -/
def settingsOf (d : Credentials) : AgentSettings := ⟨d.username, d.password, 8112, .off⟩

/-- An agent that agrees with the clients that have its own credentials has no colon in its user
name. -/
theorem no_colon_in_username (h : c.AgreesWith (settingsOf c.credentials)) :
    ':' ∉ c.username.toList := by
  have hsent := sentWith_loginRequest (settingsOf c.credentials)
  have hadmitted : c.Admits (loginRequest (settingsOf c.credentials)) := (h _ hsent).mpr rfl
  exact ((admits_iff hsent).mp hadmitted).1

/-- A colon in the password lets in whoever takes it for the one that joins. -/
theorem admits_other_split {front back : String} (hname : ':' ∉ c.username.toList)
    (hpassword : c.password = front ++ ":" ++ back) :
    c.Admits (loginRequest (settingsOf ⟨c.username ++ ":" ++ front, back⟩)) := by
  refine (admits_iff (sentWith_loginRequest _)).mpr ⟨hname, ?_⟩
  show c.username ++ ":" ++ front ++ ":" ++ back = c.username ++ ":" ++ c.password
  rw [hpassword]
  simp only [String.append_assoc]

/-- An agent that agrees with every client has no colon in its password. -/
theorem no_colon_in_password (h : ∀ s, c.AgreesWith s) : ':' ∉ c.password.toList := by
  intro hcolon
  obtain ⟨front, back, hsplit⟩ := List.append_of_mem hcolon
  have hpassword : c.password = String.ofList front ++ ":" ++ String.ofList back := by
    rw [← String.toList_inj, hsplit]
    simp
  have hadmitted := admits_other_split (no_colon_in_username (h _)) hpassword
  have hsame : Credentials.mk (c.username ++ ":" ++ String.ofList front) (String.ofList back) =
      c.credentials := (h _ _ (sentWith_loginRequest _)).mp hadmitted
  have hlength : (c.username ++ ":" ++ String.ofList front).toList.length =
      c.username.toList.length := congrArg (fun d => d.username.toList.length) hsame
  simp at hlength

/-- An agent without colons agrees with every client. -/
theorem agreesWith_all (hname : ':' ∉ c.username.toList) (hpassword : ':' ∉ c.password.toList)
    (s : AgentSettings) : c.AgreesWith s := by
  intro r hsent
  rw [admits_iff hsent]
  constructor
  · rintro ⟨-, hjoined⟩
    rw [← String.toList_inj, joined_toList, joined_toList] at hjoined
    -- the joined text of the agent has one colon only
    obtain ⟨husername, -, hsecret⟩ :=
      (List.append_cons_inj_of_notMem hname hpassword).mp hjoined.symm
    have hnames : c.username = s.username := String.toList_inj.mp husername
    have hsecrets : c.password = s.password := String.toList_inj.mp hsecret
    show Credentials.mk s.username s.password = ⟨c.username, c.password⟩
    rw [hnames, hsecrets]
  · intro h
    exact ⟨hname, by rw [h]⟩

/-- **Who can log in.** The header of a client is that of its credentials. The agent admits it if
the joined texts are the same and its own user name has no colon. So user names without colons are
enough for one client to agree, and all clients agree exactly if the agent has no colon at all. -/
theorem login_law [Net.NameTable] (c : AgentConfig) :
    (∀ (s : AgentSettings) w host e id, s.diskEndpoint w host = .ok e →
      (e.request id).authorization = s.credentials.header) ∧
    (∀ s r, r.SentWith s → (c.Admits r ↔
      ':' ∉ c.username.toList ∧ s.credentials.joined = c.credentials.joined)) ∧
    (∀ s : AgentSettings, ':' ∉ c.username.toList → ':' ∉ s.username.toList →
      c.AgreesWith s) ∧
    ((∀ s, c.AgreesWith s) ↔ ':' ∉ c.username.toList ∧ ':' ∉ c.password.toList) := by
  refine ⟨fun s w host e id h => AgentSettings.diskEndpoint_authorization h id,
    fun s r hsent => admits_iff hsent, fun s hc hs => agreesWith_of_no_colon hc hs, ?_⟩
  constructor
  · intro h
    exact ⟨no_colon_in_username (h _), no_colon_in_password h⟩
  · rintro ⟨hname, hpassword⟩
    exact agreesWith_all hname hpassword

/-- A configuration with a colon in the user name. -/
def colonInName : AgentConfig := ⟨"0.0.0.0", 8112, "u:x", "y", none, none, none, .off⟩

/-- A configuration with a colon in the password, and the same joined text. -/
def colonInPassword : AgentConfig := ⟨"0.0.0.0", 8112, "u", "x:y", none, none, none, .off⟩

/-- Both configurations are accepted. Nobody logs in to the first agent, not even with its own
credentials, and the second one lets in a client with the credentials of the first. -/
theorem colon_moves_the_split :
    AgentConfig.ofYaml "port: 8112\nusername: u:x\npassword: y\n" = .ok colonInName ∧
      AgentConfig.ofYaml "port: 8112\nusername: u\npassword: x:y\n" = .ok colonInPassword ∧
      ¬ colonInName.Admits (loginRequest (settingsOf colonInName.credentials)) ∧
      colonInPassword.Admits (loginRequest (settingsOf colonInName.credentials)) ∧
      (settingsOf colonInName.credentials).credentials ≠ colonInPassword.credentials := by
  have hsent := sentWith_loginRequest (settingsOf colonInName.credentials)
  refine ⟨by decide +kernel, by decide +kernel, ?_, ?_, by decide⟩
  · intro hadmitted
    exact absurd ((admits_iff hsent).mp hadmitted).1 (by decide)
  · exact (admits_iff hsent).mpr ⟨by decide, by decide⟩

end AgentConfig

end GaleraHealth
