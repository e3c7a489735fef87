import GaleraHealth.Net.Domain
import GaleraHealth.Net.Punycode
import GaleraHealth.Text.Printable
import GaleraHealth.Text.SmallLetters

/-!
# A small table of names

The program brings a table of its own. It knows the small letters, the characters of other widths,
and what is not seen at all, but neither composed characters nor the direction of writing. A label
outside ASCII is written as `xn--` and its Punycode; a label that is given in that form must be one
that this would have written.
-/

namespace GaleraHealth.Net

namespace Letters

/-- Characters that are dropped from a name. -/
def isIgnored (c : Char) : Bool :=
  c.val == 0xAD || c.val == 0x200B || c.val == 0x2060 || c.val == 0xFEFF ||
    (0xFE00 ≤ c.val && c.val ≤ 0xFE0F)

/-- A character in its plain width; the full stops of other scripts are full stops. -/
def plainWidth (c : Char) : Char :=
  if c.val == 0x3002 || c.val == 0xFF61 then '.'
  else if 0xFF01 ≤ c.val ∧ c.val ≤ 0xFF5E then Char.ofNat (c.toNat - 0xFEE0)
  else c

/-- A name with its letters small, in plain width, and without what does not count. -/
def folded (cs : List Char) : List Char :=
  (cs.filter fun c => !isIgnored c).map fun c => Text.small (plainWidth c)

def isLetter (c : Char) : Bool := Text.isCombining c || !Text.isHidden c

/-- A label of allowed characters, which does not begin with a combining one. -/
def isLabel (cs : List Char) : Bool :=
  cs.all (fun c => c.toNat < 128 || isLetter c) && !(cs.head?.any Text.isCombining)

/-- The ASCII form of a label in small letters. -/
def label? (cs : List Char) : Option (List Char) :=
  if Domain.mark.isPrefixOf cs then do
    let decoded ← Punycode.decode? (cs.drop Domain.mark.length)
    if decoded.any (128 ≤ ·.toNat) && isLabel decoded && folded decoded == decoded &&
        Domain.mark ++ Punycode.encode decoded == cs then some cs
    else none
  else if cs.all (·.toNat < 128) then some cs
  else if isLabel cs then some (Domain.mark ++ Punycode.encode cs)
  else none

end Letters

/-- The table that the program brings. -/
@[reducible]
def NameTable.letters : NameTable where
  ascii? cs := do
    let labels ← (Text.pieces '.' (Letters.folded cs)).mapM Letters.label?
    return Text.joined '.' labels

end GaleraHealth.Net
