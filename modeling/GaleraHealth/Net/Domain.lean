import GaleraHealth.Text.Pieces

/-!
# Domain names

The normal form of a domain name is in ASCII and in small letters. What a name with other characters
or with an encoded label is in ASCII, the tables of Unicode say; they are no part of this library.
Characters that delimit other parts of a URL are not part of any name.
-/

namespace GaleraHealth.Net

/-- The tables of Unicode, as far as domain names need them. -/
class NameTable where
  /-- The ASCII form of a name that has characters outside ASCII or encoded labels. -/
  ascii? : List Char → Option (List Char)

/-- A table without entries, with which only plain names have a normal form. -/
@[reducible]
def NameTable.empty : NameTable := ⟨fun _ => none⟩

namespace Domain

/-- ASCII characters that no name has. -/
def isForbidden (c : Char) : Bool :=
  c.toNat ≤ 0x20 || c.toNat == 0x7F || "%#/:<>?@[\\]^|".toList.contains c

/-- Forbidden characters that delimit a host in a URL. No table turns them into anything else. -/
def isDelimiter (c : Char) : Bool := "/\\?#@:[]".toList.contains c

/-- What an encoded label begins with. -/
def mark : List Char := "xn--".toList

/-- Whether a name is known without any tables. -/
def isPlain (cs : List Char) : Bool :=
  cs.all (·.toNat < 128) && !(Text.pieces '.' (cs.map Char.toLower)).any mark.isPrefixOf

/-- The normal form of a name, which is empty where nothing of the name counts. -/
def normal? [NameTable] (cs : List Char) : Option (List Char) :=
  if cs.any isDelimiter then none
  else
    let name := if isPlain cs then some (cs.map Char.toLower) else NameTable.ascii? cs
    name.filter (!·.any isForbidden)

end Domain

end GaleraHealth.Net
