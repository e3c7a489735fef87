import GaleraHealth.Proofs.KeyOrder

/-!
# Reading back what was written

A type that is written as JSON and read again is `FaithfulOn` a set of its values when each of them
is read back from what is written of it, and its reader does not mind the order of keys. The
second part needs what is written to hold no key twice, which is the third.

The laws of this file are those of single values, of values that may be missing and of lists; a
record is read field by field, by the laws for `required?`, `defaulted?` and `omittable?`.
-/

namespace GaleraHealth

/-! ### Fields of a record that is given field by field -/

section Fields

variable {ν α : Type} {name other : String} (d : ν) (fields : List (String × ν))
  (read : ν → Option α)

@[simp]
theorem required?_cons_self : required? ((name, d) :: fields) name read = read d := by
  simp [required?]

@[simp]
theorem required?_cons_ne (h : name ≠ other) :
    required? ((other, d) :: fields) name read = required? fields name read := by
  have htest : (name == other) = false := beq_eq_false_iff_ne.mpr h
  simp only [required?, List.lookup_cons, htest]

@[simp]
theorem defaulted?_nil (default : α) :
    defaulted? ([] : List (String × ν)) name default read = some default := rfl

@[simp]
theorem defaulted?_cons_self (default : α) :
    defaulted? ((name, d) :: fields) name default read = read d := by
  simp [defaulted?]

@[simp]
theorem defaulted?_cons_ne (h : name ≠ other) (default : α) :
    defaulted? ((other, d) :: fields) name default read = defaulted? fields name default read := by
  have htest : (name == other) = false := beq_eq_false_iff_ne.mpr h
  simp only [defaulted?, List.lookup_cons, htest]

@[simp]
theorem omittable?_nil (f : Form ν) :
    omittable? f ([] : List (String × ν)) name read = some none := rfl

@[simp]
theorem omittable?_cons_self (f : Form ν) :
    omittable? f ((name, d) :: fields) name read = f.optional? read d :=
  defaulted?_cons_self d fields (f.optional? read) none

@[simp]
theorem omittable?_cons_ne (f : Form ν) (h : name ≠ other) :
    omittable? f ((other, d) :: fields) name read = omittable? f fields name read :=
  defaulted?_cons_ne d fields (f.optional? read) h none

end Fields

namespace Json

variable {α : Type}

/-! ### Values without a key twice -/

section DistinctKeys

@[simp]
theorem distinctKeys_null : DistinctKeys null := .scalar rfl rfl

@[simp]
theorem distinctKeys_bool (b : Bool) : DistinctKeys (.bool b) := .scalar rfl rfl

@[simp]
theorem distinctKeys_int (n : Int) : DistinctKeys (.int n) := .scalar rfl rfl

@[simp]
theorem distinctKeys_string (s : String) : DistinctKeys (.string s) := .scalar rfl rfl

@[simp]
theorem distinctKeys_ofNat (n : Nat) : DistinctKeys (.ofNat n) := .scalar rfl rfl

@[simp]
theorem distinctKeys_ofFloat (x : Float) : DistinctKeys (.ofFloat x) := by
  unfold ofFloat
  split
  · exact .scalar rfl rfl
  · exact .scalar rfl rfl

@[simp]
theorem distinctKeys_ofOption {write : α → Json} (h : ∀ a, (write a).DistinctKeys)
    (o : Option α) : (ofOption write o).DistinctKeys := by
  cases o with
  | none => exact distinctKeys_null
  | some a => exact h a

theorem distinctKeys_ofList {write : α → Json} {xs : List α}
    (h : ∀ x ∈ xs, (write x).DistinctKeys) : (ofList write xs).DistinctKeys := by
  refine .array ?_
  simpa using h

@[simp]
theorem distinctKeys_object {fs : List (String × Json)} :
    (Json.object fs).DistinctKeys ↔ (fs.map Prod.fst).Nodup ∧ ∀ f ∈ fs, f.2.DistinctKeys :=
  ⟨DistinctKeys.fields, fun ⟨hnodup, hvalues⟩ => .object hnodup hvalues⟩

end DistinctKeys

/-! ### Single values -/

@[simp]
theorem fields?_object (fs : List (String × Json)) : fields? (.object fs) = some fs := rfl

@[simp]
theorem string?_string (s : String) : string? (.string s) = some s := rfl

@[simp]
theorem bool?_bool (b : Bool) : bool? (.bool b) = some b := rfl

theorem float?_ofFloat {x : Float} (h : x.isFinite) : float? (.ofFloat x) = some x := by
  rw [ofFloat, if_pos h]
  rfl

theorem isNull_ofFloat {x : Float} (h : x.isFinite) : (ofFloat x).isNull = false := by
  rw [ofFloat, if_pos h]
  rfl

theorem intIn?_int {low high n : Int} (hlow : low ≤ n) (hhigh : n ≤ high) :
    intIn? low high (.int n) = some n :=
  if_pos ⟨hlow, hhigh⟩

theorem natUpTo?_ofNat {high n : Nat} (h : n ≤ high) : natUpTo? high (.ofNat n) = some n := by
  rw [natUpTo?, ofNat, intIn?_int (Int.natCast_nonneg n) (Int.ofNat_le.mpr h)]
  rfl

@[simp]
theorem word16?_ofNat (n : UInt16) : form.word16? (.ofNat n.toNat) = some n := by
  have hn : n.toNat ≤ 0xFFFF := Nat.le_of_lt_succ n.toNat_lt
  rw [Form.word16?, form_natUpTo?, natUpTo?_ofNat hn, Option.map_some, UInt16.ofNat_toNat]

@[simp]
theorem word32?_ofNat (n : UInt32) : form.word32? (.ofNat n.toNat) = some n := by
  have hn : n.toNat ≤ 0xFFFFFFFF := Nat.le_of_lt_succ n.toNat_lt
  rw [Form.word32?, form_natUpTo?, natUpTo?_ofNat hn, Option.map_some, UInt32.ofNat_toNat]

@[simp]
theorem word64?_ofNat (n : UInt64) : form.word64? (.ofNat n.toNat) = some n := by
  have hn : n.toNat ≤ 0xFFFFFFFFFFFFFFFF := Nat.le_of_lt_succ n.toNat_lt
  rw [Form.word64?, form_natUpTo?, natUpTo?_ofNat hn, Option.map_some, UInt64.ofNat_toNat]

@[simp]
theorem signed64?_int (n : Int64) : signed64? (.int n.toInt) = some n := by
  have hlow : -0x8000000000000000 ≤ n.toInt := n.le_toInt
  have hhigh : n.toInt ≤ 0x7FFFFFFFFFFFFFFF := Int.le_of_lt_add_one n.toInt_lt
  rw [signed64?, intIn?_int hlow hhigh, Option.map_some, Int64.ofInt_toInt]

@[simp]
theorem choice?_string (choices : List (String × α)) (s : String) :
    form.choice? choices (.string s) = choices.lookup s := rfl

/-! ### Values that may be missing, and lists -/

/-- A value that is written, and not as `null`, is told apart from a missing one. -/
theorem optional?_ofOption {read : Json → Option α} {write : α → Json} {o : Option α}
    (hread : ∀ a ∈ o, read (write a) = some a) (hnull : ∀ a ∈ o, (write a).isNull = false) :
    form.optional? read (ofOption write o) = some o := by
  cases o with
  | none => rfl
  | some a =>
    show (if (write a).isNull then some none else (read (write a)).map some) = some (some a)
    rw [hnull a rfl, hread a rfl]
    rfl

theorem optional?_of_read {read : Json → Option α} {j : Json} {a : α} (hread : read j = some a)
    (hnull : j.isNull = false) : form.optional? read j = some (some a) := by
  show (if j.isNull then some none else (read j).map some) = some (some a)
  rw [hnull, hread]
  rfl

theorem list?_ofList {read : Json → Option α} {write : α → Json} {xs : List α}
    (h : ∀ x ∈ xs, read (write x) = some x) : form.list? read (ofList write xs) = some xs := by
  show (xs.map write).mapM read = some xs
  rw [List.mapM_map]
  induction xs with
  | nil => rfl
  | cons x xs ih =>
    rw [List.forall_mem_cons] at h
    simp only [List.mapM_cons, Function.comp_apply, h.1, ih h.2]
    rfl

/-! ### Faithful pairs of a writer and a reader -/

/-- The values of a set are read back from what is written of them, in whatever order the keys of
objects stand. -/
structure FaithfulOn (valid : α → Prop) (write : α → Json) (read : Json → Option α) : Prop where
  /-- The reader undoes the writer. -/
  readBack : ∀ a, valid a → read (write a) = some a
  /-- No key is written twice. -/
  distinctKeys : ∀ a, (write a).DistinctKeys
  /-- The order of keys does not matter to the reader. -/
  orderFree : OrderFree read

/-- **A value is read back after its keys have been put in another order.** -/
theorem FaithfulOn.read_reordered {valid : α → Prop} {write : α → Json} {read : Json → Option α}
    (h : FaithfulOn valid write read) {a : α} (ha : valid a) {k : Json}
    (hk : Reordered (write a) k) : read k = some a := by
  rw [h.orderFree (h.distinctKeys a) hk, h.readBack a ha]

/-- A list is faithful where its members are. -/
theorem FaithfulOn.list {valid : α → Prop} {write : α → Json} {read : Json → Option α}
    (h : FaithfulOn valid write read) :
    FaithfulOn (fun xs => ∀ x ∈ xs, valid x) (ofList write) (form.list? read) where
  readBack _ hxs := list?_ofList fun x hx => h.readBack x (hxs x hx)
  distinctKeys _ := distinctKeys_ofList fun x _ => h.distinctKeys x
  orderFree := h.orderFree.list

end Json

end GaleraHealth
