import GaleraHealth.Json.Basic

/-!
# The order of keys does not matter

A JSON object holds its keys in some order, and readers look for the keys they want. Here the values
that differ only in the order of keys are set against what a reader makes of them:

* `Json.Reordered`: two values with the same keys in every object, in any order, and the same
  members in every array.
* `Json.DistinctKeys`: no object holds a key twice, so there is only one value to find.
* `FieldsAgree`: two lists of fields among which the same values are found, up to the order of keys
  inside them. Reordered objects have such fields (`fieldsAgree_of_object`), and so have records
  written as lists (`fieldsAgree_zip`).
* `OrderFree`: a reader that takes reordered values for the same. The readers of single values are,
  and a reader of records is if it makes the same of fields that agree (`OrderFree.record`).
-/

namespace GaleraHealth.Json

variable {α β : Type}

/-! ### Fields under their keys -/

/-- Where keys are distinct, a value is found under its own key. -/
theorem lookup_eq_some_iff_mem {fs : List (String × α)} (h : (fs.map Prod.fst).Nodup)
    (name : String) (v : α) : fs.lookup name = some v ↔ (name, v) ∈ fs := by
  rw [List.lookup_eq_some_iff]
  constructor
  · rintro ⟨before, after, rfl, -⟩
    exact List.mem_append_right before List.mem_cons_self
  · intro hmem
    obtain ⟨before, after, rfl⟩ := List.append_of_mem hmem
    refine ⟨before, after, rfl, ?_⟩
    intro p hp
    rw [List.map_append, List.nodup_append] at h
    have hne := h.2.2 p.1 (List.mem_map_of_mem hp) name (by simp)
    simpa using hne.symm

theorem lookup_eq_none_iff_keys (fs : List (String × Json)) (name : String) :
    fs.lookup name = none ↔ name ∉ fs.map Prod.fst := by
  rw [List.lookup_eq_none_iff, List.mem_map]
  constructor
  · rintro h ⟨p, hp, rfl⟩
    simpa using h p hp
  · intro h p hp
    rw [bne_iff_ne]
    intro heq
    exact h ⟨p, hp, heq.symm⟩

/-! ### Values that differ in the order of keys -/

/-- Two values that differ at most in the order in which the keys of objects stand. -/
inductive Reordered : Json → Json → Prop
  | same (j : Json) : Reordered j j
  | array {xs ys : List Json} : xs.length = ys.length →
      (∀ p ∈ xs.zip ys, Reordered p.1 p.2) → Reordered (.array xs) (.array ys)
  | object {fs gs : List (String × Json)} : (fs.map Prod.fst).Perm (gs.map Prod.fst) →
      (∀ name v w, (name, v) ∈ fs → (name, w) ∈ gs → Reordered v w) →
      Reordered (.object fs) (.object gs)

/-- Objects are reordered if each field of the one is found again in the other. -/
theorem Reordered.of_lookup {fs gs : List (String × Json)} (hnodup : (gs.map Prod.fst).Nodup)
    (hkeys : (fs.map Prod.fst).Perm (gs.map Prod.fst))
    (hfound : ∀ f ∈ fs, ∃ w, gs.lookup f.1 = some w ∧ Reordered f.2 w) :
    Reordered (.object fs) (.object gs) := by
  refine .object hkeys fun name v w hv hw => ?_
  obtain ⟨w', hlookup, hreordered⟩ := hfound (name, v) hv
  have hown := (lookup_eq_some_iff_mem hnodup name w).mpr hw
  rw [hlookup] at hown
  cases hown
  exact hreordered

/-- The keys of an object in reverse order. -/
theorem Reordered.reverse {fs : List (String × Json)} (h : (fs.map Prod.fst).Nodup) :
    Reordered (.object fs) (.object fs.reverse) := by
  refine .object ?_ fun name v w hv hw => ?_
  · rw [List.map_reverse]
    exact (List.reverse_perm _).symm
  · rw [List.mem_reverse, ← lookup_eq_some_iff_mem h] at hw
    rw [← lookup_eq_some_iff_mem h, hw] at hv
    cases hv
    exact .same v

/-- No object in a value holds a key twice. -/
inductive DistinctKeys : Json → Prop
  | scalar {j : Json} : j.items? = none → j.fields? = none → DistinctKeys j
  | array {items : List Json} : (∀ j ∈ items, DistinctKeys j) → DistinctKeys (.array items)
  | object {fields : List (String × Json)} : (fields.map Prod.fst).Nodup →
      (∀ f ∈ fields, DistinctKeys f.2) → DistinctKeys (.object fields)

theorem DistinctKeys.items {xs : List Json} (h : (Json.array xs).DistinctKeys) :
    ∀ j ∈ xs, j.DistinctKeys := by
  cases h with
  | scalar hitems => cases hitems
  | array hmembers => exact hmembers

theorem DistinctKeys.fields {fs : List (String × Json)} (h : (Json.object fs).DistinctKeys) :
    (fs.map Prod.fst).Nodup ∧ ∀ f ∈ fs, f.2.DistinctKeys := by
  cases h with
  | scalar _ hfields => cases hfields
  | object hnodup hvalues => exact ⟨hnodup, hvalues⟩

/-- A reader that takes values that differ in the order of keys for the same. -/
def OrderFree (read : Json → Option α) : Prop :=
  ∀ ⦃j k : Json⦄, j.DistinctKeys → Reordered j k → read k = read j

/-- A reader that refuses arrays and objects. -/
theorem OrderFree.of_scalar {read : Json → Option α} (harray : ∀ xs, read (.array xs) = none)
    (hobject : ∀ fs, read (.object fs) = none) : OrderFree read := by
  intro j k _ h
  cases h with
  | same => rfl
  | array => rw [harray, harray]
  | object => rw [hobject, hobject]

/-- What is done with the value that is read does not matter. -/
theorem OrderFree.bind {read : Json → Option α} (h : OrderFree read) (f : α → Option β) :
    OrderFree fun j => (read j).bind f := by
  intro j k hj hjk
  show (read k).bind f = (read j).bind f
  rw [h hj hjk]

theorem OrderFree.map {read : Json → Option α} (h : OrderFree read) (f : α → β) :
    OrderFree fun j => (read j).map f := by
  intro j k hj hjk
  show (read k).map f = (read j).map f
  rw [h hj hjk]

/-! ### Fields that agree -/

/-- Nothing is found in either of two places, or values are that differ in the order of keys. -/
inductive Agree : Option Json → Option Json → Prop
  | absent : Agree none none
  | found {v w : Json} : v.DistinctKeys → Reordered v w → Agree (some v) (some w)

/-- Under every name the same is found among two lists of fields, up to the order of keys. -/
def FieldsAgree (fs gs : List (String × Json)) : Prop :=
  ∀ name, Agree (fs.lookup name) (gs.lookup name)

theorem fieldsAgree_of_object {fs gs : List (String × Json)} (hfs : (Json.object fs).DistinctKeys)
    (hkeys : (fs.map Prod.fst).Perm (gs.map Prod.fst))
    (hvalues : ∀ name v w, (name, v) ∈ fs → (name, w) ∈ gs → Reordered v w) :
    FieldsAgree fs gs := by
  obtain ⟨hnodup, hdistinct⟩ := hfs.fields
  have hnodup' := hkeys.nodup_iff.mp hnodup
  intro name
  cases hv : fs.lookup name with
  | none =>
    rw [lookup_eq_none_iff_keys, hkeys.mem_iff, ← lookup_eq_none_iff_keys] at hv
    rw [hv]
    exact .absent
  | some v =>
    have hmem := (lookup_eq_some_iff_mem hnodup name v).mp hv
    have hkey : name ∈ gs.map Prod.fst := hkeys.mem_iff.mp (List.mem_map_of_mem hmem)
    obtain ⟨⟨name', w⟩, hw, rfl⟩ := List.mem_map.mp hkey
    rw [(lookup_eq_some_iff_mem hnodup' _ w).mpr hw]
    exact .found (hdistinct _ hmem) (hvalues _ v w hmem hw)

theorem fieldsAgree_zip (names : List String) {xs ys : List Json} (hlength : xs.length = ys.length)
    (hdistinct : ∀ j ∈ xs, j.DistinctKeys) (hvalues : ∀ p ∈ xs.zip ys, Reordered p.1 p.2) :
    FieldsAgree (names.zip xs) (names.zip ys) := by
  intro name
  induction names generalizing xs ys with
  | nil => exact .absent
  | cons first names ih =>
    cases xs with
    | nil =>
      cases List.length_eq_zero_iff.mp hlength.symm
      exact .absent
    | cons x xs =>
      obtain ⟨y, ys, rfl⟩ := List.exists_cons_of_length_eq_add_one hlength.symm
      rw [List.forall_mem_cons] at hdistinct
      rw [List.zip_cons_cons, List.forall_mem_cons] at hvalues
      rw [List.zip_cons_cons, List.zip_cons_cons, List.lookup_cons, List.lookup_cons]
      cases name == first with
      | true => exact .found hdistinct.1 hvalues.1
      | false => exact ih (Nat.succ.inj hlength) hdistinct.2 hvalues.2

/-! ### Readers of records -/

/-- An object with distinct keys is read as a record with its fields. -/
theorem record?_object {fs : List (String × Json)} (h : (fs.map Prod.fst).Nodup)
    (names : List String) (least : Nat) : record? names least (.object fs) = some fs := by
  have honce : ∀ name, (fs.filter fun f => f.1 == name).length ≤ 1 := by
    intro name
    have hcount := List.nodup_iff_count.mp h name
    rwa [List.count, List.countP_map, List.countP_eq_length_filter] at hcount
  rw [record?, if_pos]
  rw [List.all_eq_true]
  intro name _
  exact decide_eq_true (honce name)

/-- **A reader of records is free of the order of keys** if it makes the same of fields that
agree. -/
theorem OrderFree.record {names : List String} {least : Nat}
    {body : List (String × Json) → Option α}
    (hbody : ∀ fs gs, FieldsAgree fs gs → body gs = body fs) :
    OrderFree fun j => (j.record? names least).bind body := by
  intro j k hj hjk
  cases hjk with
  | same => rfl
  | array hlength hvalues =>
    simp only [record?, hlength]
    split
    · exact hbody _ _ (fieldsAgree_zip names hlength hj.items hvalues)
    · rfl
  | object hkeys hvalues =>
    have hnodup := hj.fields.1
    simp only [record?_object hnodup, record?_object (hkeys.nodup_iff.mp hnodup)]
    exact hbody _ _ (fieldsAgree_of_object hj hkeys hvalues)

/-- The same for records that are never written as lists. -/
theorem OrderFree.fields {body : List (String × Json) → Option α}
    (hbody : ∀ fs gs, FieldsAgree fs gs → body gs = body fs) :
    OrderFree fun j => j.fields?.bind body := by
  intro j k hj hjk
  cases hjk with
  | same => rfl
  | array => rfl
  | object hkeys hvalues => exact hbody _ _ (fieldsAgree_of_object hj hkeys hvalues)

namespace FieldsAgree

variable {fs gs : List (String × Json)} {read : Json → Option α}

theorem required (h : FieldsAgree fs gs) (hread : OrderFree read) (name : String) :
    required? gs name read = required? fs name read := by
  have hname := h name
  unfold required?
  generalize fs.lookup name = v, gs.lookup name = w at hname ⊢
  cases hname with
  | absent => rfl
  | found hv hvw => exact hread hv hvw

theorem defaulted (h : FieldsAgree fs gs) (hread : OrderFree read) (name : String) (default : α) :
    defaulted? gs name default read = defaulted? fs name default read := by
  have hname := h name
  unfold defaulted?
  generalize fs.lookup name = v, gs.lookup name = w at hname ⊢
  cases hname with
  | absent => rfl
  | found hv hvw => exact hread hv hvw

end FieldsAgree

/-! ### Readers of single values -/

theorem orderFree_string? : OrderFree string? := .of_scalar (fun _ => rfl) fun _ => rfl

theorem orderFree_bool? : OrderFree bool? := .of_scalar (fun _ => rfl) fun _ => rfl

theorem orderFree_float? : OrderFree float? := .of_scalar (fun _ => rfl) fun _ => rfl

theorem orderFree_intIn? (low high : Int) : OrderFree (intIn? low high) :=
  .of_scalar (fun _ => rfl) fun _ => rfl

theorem orderFree_signed64? : OrderFree signed64? := (orderFree_intIn? _ _).map _

theorem orderFree_natUpTo? (high : Nat) : OrderFree (natUpTo? high) := (orderFree_intIn? _ _).map _

theorem orderFree_word16? : OrderFree form.word16? := (orderFree_natUpTo? _).map _

theorem orderFree_word32? : OrderFree form.word32? := (orderFree_natUpTo? _).map _

theorem orderFree_word64? : OrderFree form.word64? := (orderFree_natUpTo? _).map _

theorem Reordered.isNull {j k : Json} (h : Reordered j k) : k.isNull = j.isNull := by
  cases h <;> rfl

theorem Reordered.string? {j k : Json} (h : Reordered j k) : k.string? = j.string? := by
  cases h <;> rfl

/-- The only key of an object with `null` beside it names a choice. -/
theorem name?_single (name : String) (v : Json) :
    name? (.object [(name, v)]) = if v.isNull then some name else none := by
  cases v <;> rfl

theorem name?_of_length {fs : List (String × Json)} (h : fs.length ≠ 1) :
    name? (.object fs) = none := by
  unfold name?
  split
  · rename_i heq
    cases heq
  · rename_i heq
    cases heq
    exact absurd rfl h
  · rfl

theorem orderFree_name? : OrderFree name? := by
  intro j k _ h
  cases h with
  | same => rfl
  | array => rfl
  | @object fs gs hkeys hvalues =>
    have hlength : fs.length = gs.length := by simpa using hkeys.length_eq
    by_cases hone : fs.length = 1
    · obtain ⟨⟨name, v⟩, rfl⟩ := List.length_eq_one_iff.mp hone
      obtain ⟨⟨name', w⟩, rfl⟩ := List.length_eq_one_iff.mp (hlength ▸ hone)
      have hname : name = name' := by simpa using hkeys
      subst hname
      have hnull := (hvalues name v w (by simp) (by simp)).isNull
      rw [name?_single, name?_single, hnull]
    · rw [name?_of_length hone, name?_of_length (hlength ▸ hone)]

theorem orderFree_choice? (choices : List (String × α)) : OrderFree (form.choice? choices) :=
  orderFree_name?.bind _

/-! ### Readers of values that may be missing, and of lists -/

theorem OrderFree.optional {read : Json → Option α} (h : OrderFree read) :
    OrderFree (form.optional? read) := by
  intro j k hj hjk
  show (if k.isNull then some none else (read k).map some) =
    if j.isNull then some none else (read j).map some
  rw [hjk.isNull, h hj hjk]

theorem FieldsAgree.omittable {fs gs : List (String × Json)} {read : Json → Option α}
    (h : FieldsAgree fs gs) (hread : OrderFree read) (name : String) :
    omittable? form gs name read = omittable? form fs name read :=
  h.defaulted hread.optional name none

theorem FieldsAgree.isNull {fs gs : List (String × Json)} (h : FieldsAgree fs gs)
    (name : String) : (gs.lookup name).all Json.isNull = (fs.lookup name).all Json.isNull := by
  have hname := h name
  generalize fs.lookup name = v, gs.lookup name = w at hname ⊢
  cases hname with
  | absent => rfl
  | found _ hvw => exact hvw.isNull

theorem OrderFree.list {read : Json → Option α} (h : OrderFree read) :
    OrderFree (form.list? read) := by
  intro j k hj hjk
  cases hjk with
  | same => rfl
  | object => rfl
  | @array xs ys hlength hvalues =>
    have hdistinct := hj.items
    clear hj
    -- induction on both lists at once, whose members stand in pairs
    show ys.mapM read = xs.mapM read
    induction xs generalizing ys with
    | nil =>
      cases List.length_eq_zero_iff.mp hlength.symm
      rfl
    | cons x xs ih =>
      obtain ⟨y, ys, rfl⟩ := List.exists_cons_of_length_eq_add_one hlength.symm
      rw [List.forall_mem_cons] at hdistinct
      rw [List.zip_cons_cons, List.forall_mem_cons] at hvalues
      rw [List.mapM_cons, List.mapM_cons, h hdistinct.1 hvalues.1,
        ih (Nat.succ.inj hlength) hvalues.2 hdistinct.2]

end GaleraHealth.Json
