import GaleraHealth.CommandLine.Serve
import GaleraHealth.Proofs.HostText
import GaleraHealth.Proofs.WellFormedConfig

/-!
# Where an agent listens

The agent writes its address, a colon and its port, and the text is read back as a socket address.
An IPv6 address has colons of its own. Without brackets around it, the reader takes the first of
them for the one before the port, and so the text of such an address is never read.

* `port?_digits`: the digits of a port are read as that port.
* `ofChars?_plain_iff`, `ofChars?_bracketed_iff`: what is read without brackets, and with them.
* `AgentConfig.ListensOn`, `ofText?_bind_iff`: the socket addresses that agents are started with.
* `AgentConfig.binds_v4_only`: of the two families, one can be bound; in brackets, both can.
-/

namespace GaleraHealth

namespace Net

/-- An IPv6 literal has a colon. -/
theorem Ipv6.colon_mem {a : Ipv6} {cs : List Char} (h : Ipv6.ofChars? cs = some a) : ':' ∈ cs := by
  unfold Ipv6.ofChars? at h
  split at h
  · -- one piece makes two groups at most
    obtain ⟨gs, hgs, hlength⟩ := Option.bind_eq_some_iff.mp h
    by_contra hcolon
    have height : gs.length = 8 := by
      unfold ofGroups? at hlength
      split at hlength
      · assumption
      · cases hlength
    unfold groups? at hgs
    split at hgs
    · cases hgs
      cases height
    · rw [Text.pieces_of_notMem hcolon, groupsOfPieces?] at hgs
      rcases Option.or_eq_some_iff.mp hgs with hgs | ⟨-, hgs⟩
      · obtain ⟨x, -, rfl⟩ := Option.map_eq_some_iff.mp hgs
        cases height
      · obtain ⟨g, -, rfl⟩ := Option.map_eq_some_iff.mp hgs
        cases height
  · rename_i front back hcut
    rw [Text.eq_of_cutAt? hcut]
    simp

namespace SocketAddress

/-- The socket address of an address without a zone. -/
def of : Address → UInt16 → SocketAddress
  | .v4 a, p => .v4 a p
  | .v6 a, p => .v6 a 0 p

/-! ### Ports -/

theorem notMem_of_number? {c : Char} (hc : c.isDigit = false) {high n : Nat} {cs : List Char}
    (h : number? high cs = some n) : c ∉ cs := by
  obtain ⟨hread, -⟩ := Option.filter_eq_some_iff.mp h
  intro hmem
  have hdigit := (Decimal.natural?_eq_some_iff.mp hread).digits c hmem
  rw [hc] at hdigit
  cases hdigit

/-- The digits of a port are read as that port. -/
theorem port?_digits (p : UInt16) : port? (Nat.toDigits 10 p.toNat) = some p := by
  have hle : p.toNat ≤ 65535 := by
    have := p.toNat_lt
    omega
  have hread : number? 65535 (Nat.toDigits 10 p.toNat) = some p.toNat := by
    rw [number?, Decimal.natural?_toDigits]
    exact Option.filter_some_pos (decide_eq_true hle)
  rw [port?, hread, Option.map_some, Nat.toUInt16_eq, UInt16.ofNat_toNat]

/-- **The last colon stands before the port.** -/
theorem eq_of_port? {xs ys port : List Char} {p q : UInt16} (hport : port? port = some q)
    (h : xs ++ ':' :: port = ys ++ ':' :: Nat.toDigits 10 p.toNat) : xs = ys ∧ q = p := by
  obtain ⟨n, hn, -⟩ := Option.map_eq_some_iff.mp hport
  have hdigits : ':' ∉ Nat.toDigits 10 p.toNat := by
    intro hmem
    cases Nat.isDigit_of_mem_toDigits (by decide) (by decide) hmem
  obtain ⟨rfl, rfl⟩ :=
    (append_cons_inj_of_notMem_right (notMem_of_number? (by decide) hn) hdigits).mp h
  rw [port?_digits] at hport
  exact ⟨rfl, (Option.some.inj hport).symm⟩

/-! ### Addresses -/

/-- The text of an IPv4 literal is none of an IPv6 address. -/
theorem ipv4_eq_none {a : Ipv6} {cs : List Char} (h : Ipv6.ofChars? cs = some a) :
    Ipv4.ofChars? cs = none := by
  cases hread : Ipv4.ofChars? cs with
  | none => rfl
  | some b =>
    rcases Ipv6.isDigit_of_ipv4 hread ':' (Ipv6.colon_mem h) with hdigit | hpoint
    · cases hdigit
    · cases hpoint

/-- What stands in the brackets has none of its own. -/
theorem bracket_notMem {inside : List Char} {a : Ipv6} {zone : UInt32}
    (h : zoned? inside = some (a, zone)) : ']' ∉ inside := by
  have hliteral : ∀ {cs : List Char} {a : Ipv6}, Ipv6.ofChars? cs = some a → ']' ∉ cs :=
    fun hread hmem => (Ipv6.isLiteralChar_of_ofChars? hread ']' hmem).not_mem (by decide)
  unfold zoned? at h
  split at h
  · obtain ⟨b, hb, -⟩ := Option.map_eq_some_iff.mp h
    exact hliteral hb
  · rename_i address number hcut
    simp only [Option.bind_eq_bind, Option.bind_eq_some_iff] at h
    obtain ⟨b, hb, n, hn, -⟩ := h
    rw [Text.eq_of_cutAt? hcut, List.mem_append, List.mem_append, not_or, not_or]
    exact ⟨⟨hliteral hb, by decide⟩, notMem_of_number? (by decide) hn⟩

/-- A literal stands in the brackets without a zone. -/
theorem zoned?_literal {inside : List Char} {a : Ipv6} (h : Ipv6.ofChars? inside = some a) :
    zoned? inside = some (a, 0) := by
  have hpercent : '%' ∉ inside := by
    intro hmem
    rcases Ipv6.isLiteralChar_of_ofChars? h '%' hmem with hdigit | hcolon | hpoint
    · revert hdigit
      decide
    · cases hcolon
    · cases hpoint
  unfold zoned?
  cases hcut : Text.cutAt? ['%'] inside with
  | none =>
    show (Ipv6.ofChars? inside).map (·, 0) = _
    rw [h, Option.map_some]
  | some parts =>
    rw [Text.eq_of_cutAt? hcut] at hpercent
    simp at hpercent

/-- **Without brackets**, only IPv4 literals are read. -/
theorem ofChars?_plain_iff {address : List Char} (h : address.head? ≠ some '[') (p : UInt16)
    (s : SocketAddress) : ofChars? (address ++ ':' :: Nat.toDigits 10 p.toNat) = some s ↔
      ∃ a, Ipv4.ofChars? address = some a ∧ s = .v4 a p := by
  have hhead : ∀ rest, address ++ ':' :: Nat.toDigits 10 p.toNat ≠ '[' :: rest := by
    intro rest hrest
    cases address with
    | nil => cases hrest
    | cons c cs => exact h (congrArg some (List.cons.inj hrest).1)
  rw [ofChars?.eq_2 _ hhead]
  constructor
  · intro hread
    cases hcut : Text.cutAt? [':'] (address ++ ':' :: Nat.toDigits 10 p.toNat) with
    | none =>
      rw [hcut] at hread
      cases hread
    | some parts =>
      rw [hcut] at hread
      simp only [Option.bind_eq_bind, Option.bind_eq_some_iff] at hread
      obtain ⟨a, ha, q, hq, hs⟩ := hread
      have hparts := Text.eq_of_cutAt? hcut
      rw [List.append_assoc, List.singleton_append] at hparts
      obtain ⟨rfl, rfl⟩ := eq_of_port? hq hparts.symm
      exact ⟨a, ha, (Option.some.inj hs).symm⟩
  · rintro ⟨a, ha, rfl⟩
    have hcolon : ':' ∉ address := by
      intro hmem
      rcases Ipv6.isDigit_of_ipv4 ha ':' hmem with hdigit | hpoint
      · cases hdigit
      · cases hpoint
    have hcut : Text.cutAt? [':'] (address ++ [':'] ++ Nat.toDigits 10 p.toNat) = _ :=
      Text.cutAt?_of_notMem hcolon _
    rw [List.append_assoc, List.singleton_append] at hcut
    simp [hcut, ha, port?_digits]

/-- **With a bracket in front**, what is read stands in brackets. -/
theorem ofChars?_bracketed_iff (address : List Char) (p : UInt16) (s : SocketAddress) :
    ofChars? ('[' :: address ++ ':' :: Nat.toDigits 10 p.toNat) = some s ↔
      ∃ inside a zone, address = inside ++ [']'] ∧ zoned? inside = some (a, zone) ∧
        s = .v6 a zone p := by
  have hmark : "]:".toList = [']', ':'] := rfl
  have hregroup : ∀ xs ys : List Char, xs ++ [']', ':'] ++ ys = xs ++ [']'] ++ ':' :: ys := by
    simp
  rw [List.cons_append, ofChars?, hmark]
  constructor
  · intro hread
    cases hcut : Text.cutAt? [']', ':'] (address ++ ':' :: Nat.toDigits 10 p.toNat) with
    | none =>
      rw [hcut] at hread
      cases hread
    | some parts =>
      rw [hcut] at hread
      simp only [Option.bind_eq_bind, Option.bind_eq_some_iff] at hread
      obtain ⟨⟨a, zone⟩, ha, q, hq, hs⟩ := hread
      have hparts := Text.eq_of_cutAt? hcut
      rw [hregroup] at hparts
      obtain ⟨hinside, rfl⟩ := eq_of_port? hq hparts.symm
      exact ⟨parts.1, a, zone, hinside.symm, ha, (Option.some.inj hs).symm⟩
  · rintro ⟨inside, a, zone, rfl, ha, rfl⟩
    have hcut : Text.cutAt? [']', ':'] (inside ++ [']', ':'] ++ Nat.toDigits 10 p.toNat) = _ :=
      Text.cutAt?_of_notMem (bracket_notMem ha) _
    rw [hregroup] at hcut
    rw [hcut]
    simp [ha, port?_digits]

end SocketAddress

end Net

namespace AgentConfig

open Net (Ipv4 Ipv6 Address SocketAddress)

/-- The socket address that an agent is started with: its IPv4 literal, or what it has in
brackets. -/
inductive ListensOn (c : AgentConfig) : SocketAddress → Prop
  | v4 {a : Ipv4} : Ipv4.ofChars? c.bindAddress.toList = some a → c.ListensOn (.v4 a c.port)
  | v6 {inside : List Char} {a : Ipv6} {zone : UInt32} :
      c.bindAddress.toList = '[' :: inside ++ [']'] →
      SocketAddress.zoned? inside = some (a, zone) → c.ListensOn (.v6 a zone c.port)

theorem bind_toList (c : AgentConfig) :
    c.bind.toList = c.bindAddress.toList ++ ':' :: Nat.toDigits 10 c.port.toNat := by
  have hdigits : (Decimal.natText c.port.toNat).toList = Nat.toDigits 10 c.port.toNat :=
    String.toList_ofList
  rw [bind, String.toList_append, String.toList_append, hdigits]
  exact List.append_assoc c.bindAddress.toList [':'] _

/-- **What is read back** of an agent's address and port. -/
theorem ofText?_bind_iff (c : AgentConfig) (s : SocketAddress) :
    SocketAddress.ofText? c.bind = some s ↔ c.ListensOn s := by
  rw [SocketAddress.ofText?, bind_toList]
  by_cases hhead : c.bindAddress.toList.head? = some '['
  · obtain ⟨address, haddress⟩ := List.head?_eq_some_iff.mp hhead
    rw [haddress, SocketAddress.ofChars?_bracketed_iff]
    constructor
    · rintro ⟨inside, a, zone, rfl, ha, rfl⟩
      exact .v6 haddress ha
    · rintro (hread | ⟨hinside, ha⟩)
      · rw [haddress] at hread
        cases (Ipv6.isLiteralChar_of_ipv4 hread '[' List.mem_cons_self).not_mem (by decide)
      · rw [haddress, List.cons_append] at hinside
        exact ⟨_, _, _, (List.cons.inj hinside).2, ha, rfl⟩
  · rw [SocketAddress.ofChars?_plain_iff hhead]
    constructor
    · rintro ⟨a, ha, rfl⟩
      exact .v4 ha
    · rintro (hread | ⟨hinside, ha⟩)
      · exact ⟨_, hread, rfl⟩
      · rw [hinside] at hhead
        exact absurd rfl hhead

/-- A bare IPv6 literal is no socket address with any port. -/
theorem ofText?_bind_ipv6 {c : AgentConfig} {a : Ipv6}
    (h : Ipv6.ofChars? c.bindAddress.toList = some a) : SocketAddress.ofText? c.bind = none := by
  cases hread : SocketAddress.ofText? c.bind with
  | none => rfl
  | some s =>
    rcases (c.ofText?_bind_iff s).mp hread with hv4 | ⟨hinside, -⟩
    · rw [SocketAddress.ipv4_eq_none h] at hv4
      cases hv4
    · have hmem : '[' ∈ c.bindAddress.toList := by
        rw [hinside]
        exact List.mem_cons_self
      exact absurd (by decide) (Ipv6.isLiteralChar_of_ofChars? h '[' hmem).not_mem

/-- The agent of a configuration whose address is written as the hosts of URLs are. -/
def bracketed (c : AgentConfig) : AgentConfig :=
  { c with bindAddress := String.ofList (Net.Url.hostText c.bindAddress) }

theorem ofText?_bind_bracketed {c : AgentConfig} {a : Address}
    (h : Address.ofChars? c.bindAddress.toList = some a) :
    SocketAddress.ofText? c.bracketed.bind = some (.of a c.port) := by
  have htext : c.bracketed.bindAddress.toList = Net.Url.hostText c.bindAddress :=
    String.toList_ofList
  rw [ofText?_bind_iff]
  rcases Option.or_eq_some_iff.mp h with h | ⟨hv4, h⟩
  · obtain ⟨x, hx, rfl⟩ := Option.map_eq_some_iff.mp h
    have hv6 : Ipv6.ofChars? c.bindAddress.toList = none := by
      cases hread : Ipv6.ofChars? c.bindAddress.toList with
      | none => rfl
      | some y =>
        rw [SocketAddress.ipv4_eq_none hread] at hx
        cases hx
    rw [Net.Url.hostText, hv6] at htext
    exact .v4 (by rw [htext, hx])
  · obtain ⟨x, hx, rfl⟩ := Option.map_eq_some_iff.mp h
    rw [Net.Url.hostText, hx] at htext
    exact .v6 htext (SocketAddress.zoned?_literal hx)

/-- **Of the two families, one can be bound.** An agent is started with the address of its IPv4
literal, or with what it has in brackets. An address literal is read back with the port exactly if
it is an IPv4 literal, and an IPv6 literal is refused. With the brackets that the client puts around
such a host, every address can be bound. -/
theorem binds_v4_only (c : AgentConfig) :
    (∀ s, Serve.address c = .ok s ↔ c.ListensOn s) ∧
    ∀ a, Address.ofChars? c.bindAddress.toList = some a →
      (SocketAddress.ofText? c.bind = some (.of a c.port) ↔ ∃ x, a = .v4 x) ∧
      ((∃ x, a = .v6 x) → Serve.address c = .error
        (.ofCause ("Invalid bind address " ++ c.bind) (some "invalid socket address syntax"))) ∧
      SocketAddress.ofText? c.bracketed.bind = some (.of a c.port) := by
  refine ⟨fun s => ?_, fun a h => ?_⟩
  · rw [← ofText?_bind_iff, Serve.address]
    cases SocketAddress.ofText? c.bind with
    | none => simp
    | some t => simp
  · refine ⟨?_, ?_, ofText?_bind_bracketed h⟩
    · rcases Option.or_eq_some_iff.mp h with h | ⟨-, h⟩
      · obtain ⟨x, hx, rfl⟩ := Option.map_eq_some_iff.mp h
        exact iff_of_true ((c.ofText?_bind_iff _).mpr (.v4 hx)) ⟨x, rfl⟩
      · obtain ⟨x, hx, rfl⟩ := Option.map_eq_some_iff.mp h
        rw [ofText?_bind_ipv6 hx]
        simp
    · rintro ⟨x, rfl⟩
      rcases Option.or_eq_some_iff.mp h with h | ⟨-, h⟩
      · obtain ⟨y, -, hy⟩ := Option.map_eq_some_iff.mp h
        cases hy
      · obtain ⟨y, hy, -⟩ := Option.map_eq_some_iff.mp h
        rw [Serve.address, ofText?_bind_ipv6 hy]

/-- An agent on the loopback address of IPv6. -/
def loopback6 : AgentConfig := ⟨"::1", 8112, "diag", "secret", none, none, none, .off⟩

/-- The loopback address of IPv6. -/
def loopback6Address : Ipv6 := ⟨[0, 0, 0, 0, 0, 0, 0, 1], rfl⟩

theorem binds_loopback6_in_brackets :
    Address.ofChars? loopback6.bindAddress.toList = some (.v6 loopback6Address) ∧
    Serve.address loopback6 = .error (.ofCause "Invalid bind address ::1:8112"
      (some "invalid socket address syntax")) ∧
    SocketAddress.ofText? loopback6.bracketed.bind = some (.v6 loopback6Address 0 8112) := by
  have hread : Address.ofChars? loopback6.bindAddress.toList = some (.v6 loopback6Address) := by
    decide
  obtain ⟨-, hrefused, hbound⟩ := (binds_v4_only loopback6).2 _ hread
  exact ⟨hread, hrefused ⟨_, rfl⟩, hbound⟩

/-- **A colon of the address is taken for the one before the port**: the address is written without
brackets, and the text is no socket address. -/
theorem loopback6_is_refused :
    Address.ofChars? loopback6.bindAddress.toList = some (.v6 loopback6Address) ∧
    loopback6.bind = "::1:8112" ∧ SocketAddress.ofText? loopback6.bind = none := by
  decide

end AgentConfig

end GaleraHealth
