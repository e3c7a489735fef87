/-!
# Bytes as text

Servers are not bound to send well-formed UTF-8. Where a byte sequence breaks off, the longest part
of it that could have been the start of a character is replaced by one replacement character, and
reading goes on behind that part.
-/

namespace GaleraHealth.Text

/-- The replacement character. -/
def replacement : Char := '\uFFFD'

/-- What a lead byte says: its bits of the code point, and between which bounds each of the bytes
that follow it lies. -/
def followers? (lead : UInt8) : Option (Nat × List (UInt8 × UInt8)) :=
  let any : UInt8 × UInt8 := (0x80, 0xBF)
  if lead < 0x80 then some (lead.toNat, [])
  else if lead < 0xC2 then none
  else if lead < 0xE0 then some (lead.toNat - 0xC0, [any])
  else if lead = 0xE0 then some (0, [(0xA0, 0xBF), any])
  else if lead = 0xED then some (0xD, [(0x80, 0x9F), any])
  else if lead < 0xF0 then some (lead.toNat - 0xE0, [any, any])
  else if lead = 0xF0 then some (0, [(0x90, 0xBF), any, any])
  else if lead < 0xF4 then some (lead.toNat - 0xF0, [any, any, any])
  else if lead = 0xF4 then some (4, [(0x80, 0x8F), any, any])
  else none

/-- Reads the bytes that follow, as far as they lie between their bounds. Answers the code point,
if all are there, and the rest. -/
def follow (point : Nat) : List (UInt8 × UInt8) → List UInt8 → Option Nat × List UInt8
  | [], rest => (some point, rest)
  | _ :: _, [] => (none, [])
  | (low, high) :: bounds, b :: rest =>
    if low ≤ b ∧ b ≤ high then follow (point * 64 + (b.toNat - 0x80)) bounds rest
    else (none, b :: rest)

theorem length_follow_le (bounds : List (UInt8 × UInt8)) (point : Nat) (bs : List UInt8) :
    (follow point bounds bs).2.length ≤ bs.length := by
  induction bounds generalizing point bs with
  | nil => simp [follow]
  | cons bound bounds ih =>
    cases bs with
    | nil => simp [follow]
    | cons b rest =>
      unfold follow
      split
      · exact Nat.le_succ_of_le (ih _ rest)
      · exact Nat.le_refl _

/-- The text of bytes, with broken sequences replaced. -/
def decodeLossy : List UInt8 → List Char
  | [] => []
  | lead :: rest =>
    match followers? lead with
    | none => replacement :: decodeLossy rest
    | some (point, bounds) =>
      let read := follow point bounds rest
      (read.1.map Char.ofNat).getD replacement :: decodeLossy read.2
termination_by bs => bs.length
decreasing_by
  · exact Nat.lt_succ_self _
  · exact Nat.lt_succ_of_le (length_follow_le bounds point rest)

/-- The text of bytes, with broken sequences replaced. -/
def ofBytesLossy (bs : List UInt8) : String := String.ofList (decodeLossy bs)

end GaleraHealth.Text
