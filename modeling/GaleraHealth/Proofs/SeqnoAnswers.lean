import GaleraHealth.Agent.Clients
import GaleraHealth.Proofs.AgentUrl
import GaleraHealth.Proofs.FailureKinds
import GaleraHealth.Proofs.IntegerText
import GaleraHealth.Proofs.ReadBack

/-!
# Answers with a sequence number

A number that is misread from an agent's answer would rank a node among those that may bootstrap the
cluster. An answer is taken for a number if and only if its status says that the body is what was
asked for and the body is of one of the two agreed forms. No answer says where else to ask, so a
redirection is one more status that is not of success.

* `valuesOf`: the values that an object has for a key, and `lookup_eq_head?`, which of them counts.
* `TellsSeqno`: an object tells a sequence number. `ofJson?_eq_some_iff`: what a value tells.
* `IsSeqnoBody`: a body tells a sequence number. `ofBody?_eq_some_iff`: the client agrees.
* `fetch_answered`: what the status has to say, for every kind of agent.
* `askSeqno_answered`: the answers of a galera agent.
-/

namespace GaleraHealth

/-! ### Objects -/

/-- The values that an object has for a key, in written order. -/
def valuesOf (name : String) (fields : List (String × Json)) : List Json :=
  (fields.filter fun f => f.1 == name).map Prod.snd

/-- Of several values for a key, the first is looked at. -/
theorem lookup_eq_head? (name : String) (fields : List (String × Json)) :
    fields.lookup name = (valuesOf name fields).head? := by
  induction fields with
  | nil => rfl
  | cons f fields ih =>
    obtain ⟨key, j⟩ := f
    rw [List.lookup_cons, valuesOf, List.filter_cons]
    by_cases h : key = name
    · rw [h, if_pos (beq_self_eq_true name), beq_self_eq_true]
      rfl
    · rw [if_neg (mt beq_iff_eq.mp h), beq_false_of_ne (Ne.symm h)]
      exact ih

/-- An object is a record if none of the names of the record is repeated. -/
theorem record?_object_eq_some_iff {names : List String} (least : Nat)
    {fields fs : List (String × Json)} : (Json.object fields).record? names least = some fs ↔
      fs = fields ∧ ∀ name ∈ names, (valuesOf name fields).length ≤ 1 := by
  rw [Json.record?, Option.ite_none_right_eq_some, Option.some.injEq, List.all_eq_true, and_comm,
    eq_comm]
  simp only [decide_eq_true_eq, valuesOf, List.length_map]

/-- A field that has to be there, of a name that is not repeated. -/
theorem required?_once_iff {α : Type} {name : String} {fields : List (String × Json)}
    (h : (valuesOf name fields).length ≤ 1) {read : Json → Option α} {a : α} :
    required? fields name read = some a ↔ ∃ j, valuesOf name fields = [j] ∧ read j = some a := by
  rw [required?, lookup_eq_head?]
  cases hvalues : valuesOf name fields with
  | nil => simp
  | cons j rest =>
    rw [hvalues, List.length_cons] at h
    obtain rfl : rest = [] := List.eq_nil_of_length_eq_zero (by omega)
    simp

theorem isNull_iff {j : Json} : j.isNull = true ↔ j = .null := by
  cases j with
  | null => simp [Json.isNull]
  | _ => simp [Json.isNull]

/-- A field that may be absent or `null`, of a name that is not repeated. -/
theorem omittable?_once_iff {α : Type} {name : String} {fields : List (String × Json)}
    (h : (valuesOf name fields).length ≤ 1) (read : Json → Option α) :
    (∃ a?, omittable? Json.form fields name read = some a?) ↔ valuesOf name fields = [] ∨
      valuesOf name fields = [.null] ∨ ∃ j a, valuesOf name fields = [j] ∧ read j = some a := by
  rw [omittable?, defaulted?, lookup_eq_head?]
  cases hvalues : valuesOf name fields with
  | nil => simp
  | cons j rest =>
    rw [hvalues, List.length_cons] at h
    obtain rfl : rest = [] := List.eq_nil_of_length_eq_zero (by omega)
    rw [List.head?_cons]
    show (∃ a?, (if j.isNull = true then some none else (read j).map some) = some a?) ↔ _
    by_cases hnull : j.isNull = true
    · rw [if_pos hnull, isNull_iff.mp hnull]
      simp
    · have hne : j ≠ .null := mt isNull_iff.mpr hnull
      rw [if_neg hnull]
      simp [hne, Option.map_eq_some_iff]

/-! ### Values -/

theorem signed64?_eq_some_iff {j : Json} {n : Int64} :
    j.signed64? = some n ↔ j = .int n.toInt := by
  constructor
  · intro h
    obtain ⟨z, hz, hn⟩ := Option.map_eq_some_iff.mp h
    cases j with
    | int m =>
      obtain ⟨hbounds, hm⟩ := Option.ite_none_right_eq_some.mp hz
      obtain rfl := Option.some.inj hm
      rw [← hn, Int64.toInt_ofInt_of_le hbounds.1 (Int.lt_add_one_of_le hbounds.2)]
    | _ => cases hz
  · rintro rfl
    exact Json.signed64?_int n

theorem string?_eq_some_iff {j : Json} {s : String} : j.string? = some s ↔ j = .string s := by
  constructor
  · intro h
    cases j with
    | string t => rw [Option.some.inj h]
    | _ => cases h
  · rintro rfl
    rfl

/-- An object tells a sequence number if it names one number, and beside it no time, or one time
that is a text or `null`. Other keys do not matter. -/
structure TellsSeqno (fields : List (String × Json)) (n : Int64) : Prop where
  number : valuesOf "sequence_number" fields = [.int n.toInt]
  time : valuesOf "timestamp" fields = [] ∨ valuesOf "timestamp" fields = [.null] ∨
    ∃ s, valuesOf "timestamp" fields = [.string s]

/-- An object that tells a sequence number repeats neither name. -/
theorem TellsSeqno.once {fields : List (String × Json)} {n : Int64} (h : TellsSeqno fields n) :
    ∀ name ∈ ["sequence_number", "timestamp"], (valuesOf name fields).length ≤ 1 := by
  rw [List.forall_mem_cons, List.forall_mem_singleton, h.number]
  refine ⟨Nat.le_refl 1, ?_⟩
  obtain htime | htime | ⟨s, htime⟩ := h.time
  · rw [htime]
    exact Nat.zero_le 1
  · rw [htime]
    exact Nat.le_refl 1
  · rw [htime]
    exact Nat.le_refl 1

namespace SequenceNumber

theorem ofJson?_object_eq_some_iff {fields : List (String × Json)} {n : Int64} :
    (ofJson? (.object fields)).map value = some n ↔ TellsSeqno fields n := by
  rw [Option.map_eq_some_iff, ofJson?]
  constructor
  · rintro ⟨s, hs, hn⟩
    obtain ⟨fs, hfs, hbody⟩ := Option.bind_eq_some_iff.mp hs
    obtain ⟨rfl, honce⟩ := (record?_object_eq_some_iff 2).mp hfs
    have hnumber := honce "sequence_number" (by simp)
    have htime := honce "timestamp" (by simp)
    obtain ⟨m, hm, hrest⟩ := Option.bind_eq_some_iff.mp hbody
    obtain ⟨time, ht, hmake⟩ := Option.bind_eq_some_iff.mp hrest
    cases hmake
    obtain rfl : m = n := hn
    obtain ⟨j, hj, hread⟩ := (required?_once_iff hnumber).mp hm
    refine ⟨?_, ?_⟩
    · rw [hj, signed64?_eq_some_iff.mp hread]
    · obtain habsent | hnull | ⟨j, s, hj, hread⟩ := (omittable?_once_iff htime _).mp ⟨time, ht⟩
      · exact .inl habsent
      · exact .inr (.inl hnull)
      · refine .inr (.inr ⟨s, ?_⟩)
        rw [hj, string?_eq_some_iff.mp hread]
  · intro h
    have hrecord := (record?_object_eq_some_iff 2).mpr ⟨rfl, h.once⟩
    have hnumber := h.once "sequence_number" (by simp)
    have htime := h.once "timestamp" (by simp)
    have hvalue := (required?_once_iff hnumber).mpr ⟨_, h.number, signed64?_eq_some_iff.mpr rfl⟩
    obtain ⟨time, ht⟩ := (omittable?_once_iff htime Json.string?).mpr
      (h.time.imp_right (.imp_right fun ⟨s, hs⟩ => ⟨_, s, hs, rfl⟩))
    refine ⟨⟨n, time⟩, ?_, rfl⟩
    rw [hrecord]
    show (required? fields "sequence_number" Json.signed64?).bind _ = _
    rw [hvalue]
    show (omittable? Json.form fields "timestamp" Json.string?).bind _ = _
    rw [ht]
    rfl

/-- A value tells a sequence number if it is one, or an object that tells it. -/
theorem ofJson?_eq_some_iff {j : Json} {n : Int64} :
    (ofJson? j).map value = some n ↔
      j = .int n.toInt ∨ ∃ fields, j = .object fields ∧ TellsSeqno fields n := by
  by_cases hobject : ∃ fields, j = .object fields
  · obtain ⟨fields, rfl⟩ := hobject
    rw [ofJson?_object_eq_some_iff]
    simp
  · have hbare : ofJson? j = j.signed64?.map (⟨·, none⟩) := by
      rw [ofJson?]
      exact fun fields hj => hobject ⟨fields, hj⟩
    rw [hbare, Option.map_map]
    show j.signed64?.map id = _ ↔ _
    rw [Option.map_id, id_eq, signed64?_eq_some_iff]
    constructor
    · exact .inl
    · rintro (hj | ⟨fields, hj, -⟩)
      · exact hj
      · exact absurd ⟨fields, hj⟩ hobject

end SequenceNumber

/-! ### Bodies -/

/-- A body tells a sequence number: the number stands alone in it, in decimal with nothing but white
space around it, or the body is an object that tells it. -/
inductive IsSeqnoBody (body : List UInt8) (n : Int64) : Prop
  | bare : Json.IsSpaced body (Json.Reader.ascii (Decimal.intText n.toInt)) → IsSeqnoBody body n
  | detailed {fields : List (String × Json)} : Json.wholeOfBytes? body = some (.object fields) →
      TellsSeqno fields n → IsSeqnoBody body n

theorem inWords_toInt (n : Int64) : Json.Reader.InWords n.toInt := by
  have hlow := n.le_toInt
  have hhigh := n.toInt_lt
  unfold Json.Reader.InWords
  omega

/-- **The bodies that are read** are those that tell a sequence number, and it is the one read. -/
theorem SequenceNumber.ofBody?_eq_some_iff {body : List UInt8} {n : Int64} :
    (ofBody? body).map value = some n ↔ IsSeqnoBody body n := by
  rw [ofBody?, Option.map_bind, Option.bind_eq_some_iff]
  simp only [Function.comp_apply, ofJson?_eq_some_iff]
  constructor
  · rintro ⟨j, hbody, rfl | ⟨fields, rfl, hfields⟩⟩
    · exact .bare (Json.wholeOfBytes?_eq_int_iff.mp hbody).2
    · exact .detailed hbody hfields
  · rintro (hbare | ⟨hbody, hfields⟩)
    · exact ⟨_, Json.wholeOfBytes?_eq_int_iff.mpr ⟨inWords_toInt n, hbare⟩, .inl rfl⟩
    · exact ⟨_, hbody, .inr ⟨_, rfl, hfields⟩⟩

/-- A body tells one number at most. -/
theorem IsSeqnoBody.unique {body : List UInt8} {n m : Int64} (hn : IsSeqnoBody body n)
    (hm : IsSeqnoBody body m) : n = m := by
  have h := SequenceNumber.ofBody?_eq_some_iff.mpr hn
  rw [SequenceNumber.ofBody?_eq_some_iff.mpr hm] at h
  exact (Option.some.inj h).symm

/-! ### Answers -/

/-- What is received as the body of an answer. Some statuses have none, whatever follows them. -/
def receivedBody (status : UInt16) (body : List UInt8) : List UInt8 :=
  if hasNoBody status then [] else body

theorem isSuccess_iff {status : UInt16} :
    isSuccess status = true ↔ 200 ≤ status ∧ status < 300 := by
  rw [isSuccess, Bool.and_eq_true, decide_eq_true_eq, decide_eq_true_eq]

/-- What an answer holds: its body counts if its status is one of success. -/
theorem Endpoint.judge_eq_ok_iff {α : Type} (e : Endpoint) (read? : List UInt8 → Option α)
    (status : UInt16) (body : List UInt8) (a : α) : e.judge read? status body = .ok a ↔
      (200 ≤ status ∧ status < 300) ∧ read? (receivedBody status body) = some a := by
  rw [← isSuccess_iff, Endpoint.judge, ← receivedBody]
  cases isSuccess status with
  | false => simp
  | true =>
    cases read? (receivedBody status body) with
    | none => simp
    | some b => simp

theorem follow_of_answered {reply : Net.Url → Reply} {url : Net.Url} {status : UInt16}
    {body : List UInt8} (h : reply url = .answered status body) (hops : Nat) :
    follow reply hops url = (url, .answered status body) := by
  cases hops with
  | zero => rw [follow, h]
  | succ hops => rw [follow, h]

/-- **What an answer is worth**, for every kind of agent: it is taken for what its body is read as
if its status is one of success, and for nothing otherwise. -/
theorem Endpoint.fetch_answered {α : Type} {e : Endpoint} {w : Surroundings} {status : UInt16}
    {body : List UInt8} (hup : w.link = .up)
    (hreply : w.reply e.address e.url = .answered status body) (read? : List UInt8 → Option α)
    (limit : Duration) : ∃ result, e.fetch read? limit w = .after 0 result ∧
      ∀ a, result = .ok a ↔ (200 ≤ status ∧ status < 300) ∧
        read? (receivedBody status body) = some a := by
  have hown : e.replyAt w e.url = .answered status body := by
    rw [Endpoint.replyAt, if_pos rfl, hreply]
  rw [Endpoint.fetch, hup]
  show ∃ result, e.receive read? limit (follow (e.replyAt w) mostHops e.url).1
    (follow (e.replyAt w) mostHops e.url).2 = .after 0 result ∧ _
  rw [follow_of_answered hown, Endpoint.receive, Endpoint.ifFinal]
  by_cases hfinal : 200 ≤ status ∧ status < 1000
  · rw [if_pos hfinal]
    exact ⟨_, rfl, e.judge_eq_ok_iff read? status body⟩
  · rw [if_neg hfinal]
    refine ⟨_, rfl, fun a => ⟨nofun, ?_⟩⟩
    rintro ⟨⟨hlow, hhigh⟩, -⟩
    exact absurd ⟨hlow, UInt16.lt_trans hhigh (by decide)⟩ hfinal

/-- **The answers of a galera agent.** A number is taken from an answer exactly if its status is one
of success and its body tells that number; every other answer makes the agent unavailable. -/
theorem AgentSettings.askSeqno_answered [Net.NameTable] {a : AgentSettings} {w : Surroundings}
    {host : String} {e : Endpoint} {status : UInt16} {body : List UInt8} (limit : Duration)
    (hup : w.link = .up) (hendpoint : a.seqnoEndpoint w host = .ok e)
    (hreply : w.reply e.address e.url = .answered status body) :
    ∃ result, a.askSeqno limit w host = .after 0 result ∧
      (∀ n, result = .ok n ↔ (200 ≤ status ∧ status < 300) ∧
        IsSeqnoBody (receivedBody status body) n) ∧
      ((¬ ∃ n, (200 ≤ status ∧ status < 300) ∧ IsSeqnoBody (receivedBody status body) n) →
        ∃ detail, result = .error ⟨.agentUnavailable, detail⟩) := by
  obtain ⟨r, hfetch, hr⟩ := Endpoint.fetch_answered hup hreply SequenceNumber.ofBody? limit
  let told : Except Failure Int64 :=
    ((r.mapError AgentFault.noAnswer).map SequenceNumber.value).mapError
      (AgentFault.failure .agentUnavailable)
  have hask : a.askSeqno limit w host = .after 0 told := by
    rw [AgentSettings.askSeqno, AgentSettings.askSequenceNumber, hendpoint]
    show (((e.fetch SequenceNumber.ofBody? limit w).map _).map _) = _
    rw [hfetch]
    rfl
  have htold : ∀ n, told = .ok n ↔ (200 ≤ status ∧ status < 300) ∧
      IsSeqnoBody (receivedBody status body) n := by
    intro n
    calc told = .ok n
      _ ↔ ∃ s, r = .ok s ∧ s.value = n := by
          simp only [told, mapError_eq_ok_iff, map_eq_ok_iff]
      _ ↔ (200 ≤ status ∧ status < 300) ∧ (SequenceNumber.ofBody? (receivedBody status body)).map
            SequenceNumber.value = some n := by
          simp only [hr, and_assoc, exists_and_left, Option.map_eq_some_iff]
      _ ↔ _ := by rw [SequenceNumber.ofBody?_eq_some_iff]
  refine ⟨told, hask, htold, ?_⟩
  intro hnone
  cases hresult : told with
  | ok n => exact absurd ⟨n, (htold n).mp hresult⟩ hnone
  | error f =>
    rw [hresult] at hask
    exact ⟨f.detail, by rw [← askSeqno_eq_error hask]⟩

/-- A galera agent that is asked over an IPv6 address. -/
def loopbackAgent : AgentSettings := ⟨"diag", "secret", 9200, .off⟩

/-- An object that tells a number, and that no time is known. -/
def timelessBody : List UInt8 :=
  Json.Reader.ascii "\x7b\"timestamp\": null, \"sequence_number\": -1\x7d"

/-- Surroundings in which every agent answers alike. -/
def answering (status : UInt16) (body : List UInt8) : Surroundings where
  link := .up
  lookup _ _ := .ok []
  client := Trust.byForm
  reply _ _ := .answered status body

section Examples

attribute [local instance] Net.NameTable.empty

open Json.Reader in
/-- The agent may tell a number alone or in an object, and under the status 503 it tells none. -/
theorem AgentSettings.askSeqno_loopback : ∃ e detail,
    (∀ status body, loopbackAgent.seqnoEndpoint (answering status body) "::1" = .ok e) ∧
      loopbackAgent.askSeqno (.ofSeconds 5) (answering 200 (ascii " 57\n")) "::1" =
        .after 0 (.ok 57) ∧
      loopbackAgent.askSeqno (.ofSeconds 5) (answering 200 timelessBody) "::1" =
        .after 0 (.ok (-1)) ∧
      loopbackAgent.askSeqno (.ofSeconds 5) (answering 503 (ascii "57")) "::1" =
        .after 0 (.error ⟨.agentUnavailable, detail⟩) := by
  have hname : Net.Url.normalHost "::1" = .ok (.v6 ⟨[0, 0, 0, 0, 0, 0, 0, 1], rfl⟩) := by
    decide +kernel
  have hendpoint : ∀ status body, loopbackAgent.seqnoEndpoint (answering status body) "::1" = .ok
      ⟨Net.Url.place .http (.v6 ⟨[0, 0, 0, 0, 0, 0, 0, 1], rfl⟩) 9200 "/sequence_number".toList,
        none, ⟨"diag", "secret"⟩⟩ := by
    intro status body
    exact Endpoint.build_off rfl rfl List.mem_cons_self hname
  have hbare : IsSeqnoBody (ascii " 57\n") 57 :=
    .bare ⟨[0x20], [0x0A], by decide +kernel, List.forall_mem_singleton.mpr rfl,
      List.forall_mem_singleton.mpr rfl⟩
  have hobject : IsSeqnoBody timelessBody (-1) :=
    SequenceNumber.ofBody?_eq_some_iff.mp (by decide +kernel)
  obtain ⟨alone, halone, hfirst, -⟩ := AgentSettings.askSeqno_answered (.ofSeconds 5) rfl
    (hendpoint 200 (ascii " 57\n")) rfl
  obtain ⟨beside, hbeside, hsecond, -⟩ := AgentSettings.askSeqno_answered (.ofSeconds 5) rfl
    (hendpoint 200 timelessBody) rfl
  obtain ⟨refused, hrefused, -, hthird⟩ := AgentSettings.askSeqno_answered (.ofSeconds 5) rfl
    (hendpoint 503 (ascii "57")) rfl
  obtain ⟨detail, hdetail⟩ := hthird (by rintro ⟨n, h, -⟩; exact absurd h (by decide))
  refine ⟨_, detail, hendpoint, ?_, ?_, ?_⟩
  · rw [halone, (hfirst 57).mpr ⟨by decide, hbare⟩]
  · rw [hbeside, (hsecond (-1)).mpr ⟨by decide, hobject⟩]
  · rw [hrefused, hdetail]

end Examples

end GaleraHealth
