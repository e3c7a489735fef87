/-!
# Forms of documents

The same records are read from JSON values and from YAML nodes. A `Form` says how the scalars,
lists and records of one kind of document are read; the readers of the configuration are written
once over any form. Reading answers `none` for a document of the wrong shape.
-/

namespace GaleraHealth

/-- How values are read from documents of type `ν`. -/
structure Form (ν : Type) where
  /-- A text. -/
  string? : ν → Option String
  /-- A truth value. -/
  bool? : ν → Option Bool
  /-- A natural number up to a bound. -/
  natUpTo? : Nat → ν → Option Nat
  /-- A number. -/
  float? : ν → Option Float
  /-- The name of a choice. -/
  name? : ν → Option String
  /-- Whether a value stands for nothing, unless the document contradicts itself. -/
  isNone? : ν → Option Bool
  /-- The members of a list. -/
  items? : ν → Option (List ν)
  /-- The fields of a record with the given names, as many of them required as the number says
  when it is written without names. -/
  record? : List String → Nat → ν → Option (List (String × ν))

namespace Form

variable {ν α : Type}

/-- A 16-bit word. -/
def word16? (f : Form ν) (d : ν) : Option UInt16 :=
  (f.natUpTo? 0xFFFF d).map UInt16.ofNat

/-- A 32-bit word. -/
def word32? (f : Form ν) (d : ν) : Option UInt32 :=
  (f.natUpTo? 0xFFFFFFFF d).map UInt32.ofNat

/-- A 64-bit word. -/
def word64? (f : Form ν) (d : ν) : Option UInt64 :=
  (f.natUpTo? 0xFFFFFFFFFFFFFFFF d).map UInt64.ofNat

/-- A value that may stand for nothing. -/
def optional? (f : Form ν) (read : ν → Option α) (d : ν) : Option (Option α) :=
  (f.isNone? d).bind fun b => if b then some none else (read d).map some

/-- A list, all of whose members are read. -/
def list? (f : Form ν) (read : ν → Option α) (d : ν) : Option (List α) :=
  (f.items? d).bind fun ds => ds.mapM read

def choice? (f : Form ν) (choices : List (String × α)) (d : ν) : Option α :=
  (f.name? d).bind fun n => List.lookup n choices

end Form

/-! ### Fields of a record -/

section Fields

variable {ν α : Type}

/-- A field that has to be there. -/
def required? (fields : List (String × ν)) (name : String) (read : ν → Option α) : Option α :=
  (List.lookup name fields).bind read

/-- A field that takes a default value when it is absent. -/
def defaulted? (fields : List (String × ν)) (name : String) (default : α)
    (read : ν → Option α) : Option α :=
  match List.lookup name fields with
  | none => some default
  | some d => read d

/-- A field that may be absent or stand for nothing. -/
def omittable? (f : Form ν) (fields : List (String × ν)) (name : String)
    (read : ν → Option α) : Option (Option α) :=
  defaulted? fields name none (f.optional? read)

end Fields

end GaleraHealth
