import GaleraHealth.Proofs.FailureKinds

/-!
# A login that the server refuses

A server that refuses a login says why by a number and by a state, and either can tell that the
access is denied: the number 1045, or the state `28000`, which other numbers have too. An error of
the server's own protocol carries both, and of it the live check looks at the number alone: a
denial under another number passes for a server that cannot be reached.

* `DatabaseError.DeniesAccess`: the number or the state says so.
* `DatabaseError.DeniesByState`: the denials that the live check passes over.
* `DatabaseError.Classifies`: a failure as the rule of `DeniesAccess` makes it.
* `refused_login_classified`: what the live check reports of every refused login, and which of its
  reports follow the rule.
-/

namespace GaleraHealth

namespace DatabaseError

/-- The number of an error. An error that does not come by the server's own protocol, but from
something between, carries the state only. -/
def number? : DatabaseError → Option UInt16
  | .own e => some e.number
  | .other _ => none

/-- An error denies the access, by its number or by its state. -/
def DeniesAccess (e : DatabaseError) : Prop :=
  e.number? = some 1045 ∨ e.report.state = "28000"

/-- An error denies the access by its state, and has another number than the one for it. -/
def DeniesByState (e : DatabaseError) : Prop :=
  ∃ n, e.number? = some n ∧ n ≠ 1045 ∧ e.report.state = "28000"

/-- A failure is the one for an error: a denial is a failed authentication with the server's own
message, and after any other error the server counts as unreachable. -/
structure Classifies (e : DatabaseError) (f : Failure) : Prop where
  denied : e.DeniesAccess → f = ⟨.authFailed, e.report.message⟩
  other : ¬ e.DeniesAccess → f.kind = .unreachable

/-- What the live check goes by: the number where there is one, and otherwise the state. -/
theorem isAccessDenied_iff (e : DatabaseError) :
    e.isAccessDenied = true ↔
      e.number? = some 1045 ∨ e.number? = none ∧ e.report.state = "28000" := by
  cases e with
  | own e => simp [isAccessDenied, number?, accessDenied]
  | other e => simp [isAccessDenied, number?, report]

/-- Every denial counts as one, but for those by the state. -/
theorem isAccessDenied_iff_deniesAccess (e : DatabaseError) :
    e.isAccessDenied = true ↔ e.DeniesAccess ∧ ¬ e.DeniesByState := by
  rw [isAccessDenied_iff, DeniesAccess, DeniesByState]
  cases hnumber : e.number? with
  | none => simp
  | some n =>
    by_cases hn : n = 1045
    · simp [hn]
    · simp [hn]

theorem DeniesByState.deniesAccess {e : DatabaseError} (h : e.DeniesByState) : e.DeniesAccess := by
  obtain ⟨n, -, -, hstate⟩ := h
  exact .inr hstate

end DatabaseError

/-- The failure of a refused connection is the one for the error, unless that denies by its
state. -/
theorem classifies_failure_iff (e : DatabaseError) :
    e.Classifies (ConnectFault.refused e).failure ↔ ¬ e.DeniesByState := by
  have hiff := e.isAccessDenied_iff_deniesAccess
  obtain ⟨hdenied, hfailure⟩ | ⟨hdenied, hfailure⟩ := failure_refused e
  · obtain ⟨haccess, hstate⟩ := hiff.mp hdenied
    refine ⟨fun _ => hstate, fun _ => ⟨fun _ => hfailure, ?_⟩⟩
    intro hnot
    exact absurd haccess hnot
  · constructor
    · intro hclass hstate
      have hauth := hclass.denied hstate.deniesAccess
      rw [hfailure] at hauth
      cases hauth
    · intro hstate
      have hnot : ¬ e.DeniesAccess := by
        intro haccess
        rw [hiff.mpr ⟨haccess, hstate⟩] at hdenied
        cases hdenied
      exact ⟨fun haccess => absurd haccess hnot, fun _ => by rw [hfailure]⟩

/-- A server that answers the login with an error rejects it with one of its own protocol. -/
theorem rejects_of_login (e : ServerError) (status readOnly : Stage) :
    (DatabaseServer.listening (.error e) status readOnly).Rejects (.own e) :=
  .inr ⟨.error e, status, readOnly, rfl, rfl⟩

/-- A server that rejects the connection makes the live check fail at once, for that reason. -/
theorem probe_of_rejects {server : DatabaseServer} {e : DatabaseError} (times : Timeouts)
    (h : server.Rejects e) :
    server.probe times .up =
      .after 0 (.answered (.error (ConnectFault.refused e).failure)) := by
  obtain hserver | ⟨login, status, readOnly, hserver, hlogin⟩ := h
  · rw [hserver]
    rfl
  · rw [hserver, DatabaseServer.probe, hlogin]

/-- **What the live check reports of a refused login.** It fails at once, with a failed
authentication and the server's own message, or as on an unreachable server. The first it does by
the number of an error that has one, and by the state of any other. That is the rule for denied
access, but on those errors that deny it by the state under another number. -/
theorem refused_login_classified {server : DatabaseServer} {e : DatabaseError} (times : Timeouts)
    (hrejects : server.Rejects e) :
    ∃ f : Failure, server.probe times .up = .after 0 (.answered (.error f)) ∧
      (f = ⟨.authFailed, e.report.message⟩ ∨ f.kind = .unreachable) ∧
      (f.kind = .authFailed ↔
        e.number? = some 1045 ∨ e.number? = none ∧ e.report.state = "28000") ∧
      (e.Classifies f ↔ ¬ e.DeniesByState) := by
  refine ⟨_, probe_of_rejects times hrejects, ?_, ?_, classifies_failure_iff e⟩
  · obtain ⟨-, hfailure⟩ | ⟨-, hfailure⟩ := failure_refused e
    · exact .inl hfailure
    · exact .inr (by rw [hfailure])
  · rw [← e.isAccessDenied_iff]
    obtain ⟨hdenied, hfailure⟩ | ⟨hdenied, hfailure⟩ := failure_refused e
    · rw [hdenied, hfailure]
      simp
    · rw [hdenied, hfailure]
      simp

/-- An error that denies the access by the number and the state for it. -/
def accessDeniedError : ServerError :=
  ⟨1045, "28000", "Access denied for user 'diag'@'localhost' (using password: YES)"⟩

/-- A login refused with both is a failed authentication, as the rule has it. -/
theorem refused_login_accessDenied : ∃ f : Failure,
    (DatabaseServer.listening (.error accessDeniedError) .fine .fine).probe .standard .up =
        .after 0 (.answered (.error f)) ∧
      f.kind = .authFailed ∧ (DatabaseError.own accessDeniedError).Classifies f := by
  obtain ⟨f, hprobe, -, hauth, hclass⟩ :=
    refused_login_classified .standard (rejects_of_login accessDeniedError .fine .fine)
  refine ⟨f, hprobe, hauth.mpr (.inl rfl), hclass.mpr ?_⟩
  rintro ⟨n, hn, hne, -⟩
  exact hne (Option.some.inj hn).symm

/-- An error of the same state under another number: the user has to log in without a password. -/
def otherNumberError : ServerError := ⟨1698, "28000", "Access denied for user 'diag'@'localhost'"⟩

/-- The error denies the access by its state, and the live check reports the server as
unreachable. -/
theorem refused_login_otherNumber :
    (DatabaseError.own otherNumberError).DeniesAccess ∧ ∃ f : Failure,
      (DatabaseServer.listening (.error otherNumberError) .fine .fine).probe .standard .up =
          .after 0 (.answered (.error f)) ∧
        f = ⟨.unreachable,
          "error returned from database: 1698 (28000): Access denied for user 'diag'@'localhost'"⟩ ∧
        ¬ (DatabaseError.own otherNumberError).Classifies f := by
  have hdenies : (DatabaseError.own otherNumberError).DeniesAccess := .inr rfl
  have hprobe := probe_of_rejects .standard (rejects_of_login otherNumberError .fine .fine)
  refine ⟨hdenies, _, hprobe, by decide +kernel, ?_⟩
  intro hclass
  exact absurd (hclass.denied hdenies) (by decide +kernel)

end GaleraHealth
