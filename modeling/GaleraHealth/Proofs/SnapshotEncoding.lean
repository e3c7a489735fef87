import GaleraHealth.Cluster.Encoding
import GaleraHealth.Proofs.ReadBack

/-!
# The JSON form of a snapshot loses nothing

Every type that occurs in a snapshot is read back from what is written of it, whatever the order of
keys: one `faithful` law for each type, from the leaves up to `Snapshot.faithful`. The laws of the
states of nodes and disks, of verdicts and of the canary go through their tags, which may stand
before or behind the fields they govern.

Only a fraction that is not finite is lost, since JSON has no value for it
(`Snapshot.HasFiniteFractions`).
-/

namespace GaleraHealth

open Json

/-! ### Nodes and failures -/

theorem Node.faithful : FaithfulOn (fun _ => True) Node.toJson (Node.read? form) where
  readBack n _ := by
    obtain ⟨host, name, uuid, port⟩ := n
    cases port with
    | none => simp [Node.read?, Node.toJson, record?_object]
    | some p =>
      have hport : form.optional? form.word16? (.ofNat p.toNat) = some (some p) :=
        optional?_of_read (word16?_ofNat p) rfl
      simp [Node.read?, Node.toJson, record?_object, hport]
  distinctKeys n := by
    obtain ⟨host, name, uuid, port⟩ := n
    cases port <;> simp [Node.toJson]
  orderFree := by
    refine OrderFree.record fun fs gs h => ?_
    simp only [form_string?, h.required orderFree_string?, h.defaulted orderFree_string?,
      h.omittable orderFree_word16?]

theorem Failure.faithful : FaithfulOn (fun _ => True) Failure.toJson Failure.ofJson? where
  readBack f _ := by
    simp [Failure.ofJson?, Failure.toJson, record?_object, Kind.lookup_name]
  distinctKeys f := by simp [Failure.toJson]
  orderFree := by
    refine OrderFree.record fun fs gs h => ?_
    simp only [h.required (orderFree_choice? _), h.required orderFree_string?]

/-! ### Live status -/

theorem NodeStatus.faithful :
    FaithfulOn (fun _ => True) NodeStatus.toJson NodeStatus.ofJson? where
  readBack s _ := by
    have hindex : form.optional? string? (.ofOption .string s.localIndex) = some s.localIndex :=
      optional?_ofOption (fun a _ => string?_string a) fun _ _ => rfl
    have hcommitted : form.optional? signed64? (.ofOption (.int ·.toInt) s.lastCommitted) =
        some s.lastCommitted :=
      optional?_ofOption (fun a _ => signed64?_int a) fun _ _ => rfl
    simp [NodeStatus.ofJson?, NodeStatus.toJson, record?_object, SyncState.lookup_name, hindex,
      hcommitted]
  distinctKeys s := by simp [NodeStatus.toJson]
  orderFree := by
    refine OrderFree.record fun fs gs h => ?_
    simp only [h.required (orderFree_choice? _), h.required orderFree_string?,
      h.required orderFree_word32?, h.required orderFree_bool?, h.omittable orderFree_string?,
      h.omittable orderFree_signed64?]

/-! ### Node reports -/

section SharedTags

variable {α : Type} (tags : List (String × α)) (fs : List (String × Json)) {field other : String}

@[simp]
theorem sharedTag?_cons_self (s : String) :
    sharedTag? tags ((field, .string s) :: fs) field = tags.lookup s := by
  rw [sharedTag?, required?_cons_self]

@[simp]
theorem sharedTag?_cons_ne (j : Json) (h : field ≠ other) :
    sharedTag? tags ((other, j) :: fs) field = sharedTag? tags fs field :=
  required?_cons_ne j fs _ h

theorem sharedTag?_agree {fs gs : List (String × Json)} (h : FieldsAgree fs gs) (field : String) :
    sharedTag? tags gs field = sharedTag? tags fs field :=
  h.required (OrderFree.of_scalar (fun _ => rfl) fun _ => rfl) field

end SharedTags

theorem NodeReport.faithful :
    FaithfulOn (fun _ => True) NodeReport.toJson NodeReport.ofJson? where
  readBack r _ := by
    obtain ⟨node, state⟩ := r
    have hnode := Node.faithful.readBack node trivial
    cases state with
    | live status =>
      have hstatus := NodeStatus.faithful.readBack status trivial
      simp [ofJson?, NodeReport.toJson, NodeState.toFields, NodeState.Tag.names, hnode, hstatus]
    | recovered failure seqno =>
      have hfailure := Failure.faithful.readBack failure trivial
      simp [ofJson?, NodeReport.toJson, NodeState.toFields, NodeState.Tag.names, List.lookup_cons,
        hnode, hfailure]
    | down failure agentFailure =>
      have hfailure := Failure.faithful.readBack failure trivial
      cases agentFailure with
      | none =>
        simp [ofJson?, NodeReport.toJson, NodeState.toFields, NodeState.Tag.names,
          List.lookup_cons, hnode, hfailure]
      | some agentFailure =>
        have hagent : form.optional? Failure.ofJson? agentFailure.toJson =
            some (some agentFailure) :=
          optional?_of_read (Failure.faithful.readBack agentFailure trivial) rfl
        simp [ofJson?, NodeReport.toJson, NodeState.toFields, NodeState.Tag.names,
          List.lookup_cons, hnode, hfailure, hagent]
  distinctKeys r := by
    obtain ⟨node, state⟩ := r
    have hnode := Node.faithful.distinctKeys node
    cases state with
    | live status =>
      simp [NodeReport.toJson, NodeState.toFields, hnode, NodeStatus.faithful.distinctKeys]
    | recovered failure seqno =>
      simp [NodeReport.toJson, NodeState.toFields, hnode, Failure.faithful.distinctKeys]
    | down failure agentFailure =>
      cases agentFailure <;>
        simp [NodeReport.toJson, NodeState.toFields, hnode, Failure.faithful.distinctKeys]
  orderFree := by
    refine OrderFree.fields fun fs gs h => ?_
    simp only [h.required Node.faithful.orderFree, sharedTag?_agree _ h,
      h.required NodeStatus.faithful.orderFree, h.required Failure.faithful.orderFree,
      h.required orderFree_signed64?, h.omittable Failure.faithful.orderFree]

/-! ### Disks -/

theorem DiskUsage.faithful :
    FaithfulOn (fun _ => True) DiskUsage.toJson DiskUsage.ofJson? where
  readBack d _ := by simp [DiskUsage.ofJson?, DiskUsage.toJson, record?_object]
  distinctKeys d := by simp [DiskUsage.toJson]
  orderFree := by
    refine OrderFree.record fun fs gs h => ?_
    simp only [h.required orderFree_word64?]

theorem DiskPair.faithful : FaithfulOn (fun _ => True) DiskPair.toJson DiskPair.ofJson? where
  readBack p _ := by
    have hpersistent := DiskUsage.faithful.readBack p.persistent trivial
    have hephemeral := DiskUsage.faithful.readBack p.ephemeral trivial
    simp [DiskPair.ofJson?, DiskPair.toJson, record?_object, hpersistent, hephemeral]
  distinctKeys p := by simp [DiskPair.toJson, DiskUsage.faithful.distinctKeys]
  orderFree := by
    refine OrderFree.record fun fs gs h => ?_
    simp only [h.required DiskUsage.faithful.orderFree]

theorem DiskReport.faithful :
    FaithfulOn (fun _ => True) DiskReport.toJson DiskReport.ofJson? where
  readBack r _ := by
    obtain ⟨node, reading⟩ := r
    have hnode := Node.faithful.readBack node trivial
    cases reading with
    | available disks =>
      have hdisks := DiskPair.faithful.readBack disks trivial
      simp [DiskReport.ofJson?, DiskReport.toJson, DiskReading.toFields, DiskReading.Tag.names,
        hnode, hdisks]
    | failed failure =>
      have hfailure := Failure.faithful.readBack failure trivial
      simp [DiskReport.ofJson?, DiskReport.toJson, DiskReading.toFields, DiskReading.Tag.names,
        List.lookup_cons, hnode, hfailure]
  distinctKeys r := by
    obtain ⟨node, reading⟩ := r
    cases reading <;>
      simp [DiskReport.toJson, DiskReading.toFields, Node.faithful.distinctKeys,
        DiskPair.faithful.distinctKeys, Failure.faithful.distinctKeys]
  orderFree := by
    refine OrderFree.fields fun fs gs h => ?_
    simp only [h.required Node.faithful.orderFree, sharedTag?_agree _ h,
      h.required DiskPair.faithful.orderFree, h.required Failure.faithful.orderFree]

/-- Both fractions of an issue are numbers that JSON has a value for. -/
def DiskIssue.HasFiniteFractions (i : DiskIssue) : Prop :=
  i.usedFraction.isFinite ∧ ∀ x ∈ i.inodesUsedFraction, x.isFinite

theorem DiskIssue.faithful :
    FaithfulOn DiskIssue.HasFiniteFractions DiskIssue.toJson DiskIssue.ofJson? where
  readBack i hi := by
    have hused := float?_ofFloat hi.1
    have hinodes : form.optional? float? (.ofOption .ofFloat i.inodesUsedFraction) =
        some i.inodesUsedFraction :=
      optional?_ofOption (fun x hx => float?_ofFloat (hi.2 x hx))
        fun x hx => isNull_ofFloat (hi.2 x hx)
    simp [DiskIssue.ofJson?, DiskIssue.toJson, record?_object, DiskKind.lookup_label, hused,
      hinodes]
  distinctKeys i := by simp [DiskIssue.toJson]
  orderFree := by
    refine OrderFree.record fun fs gs h => ?_
    simp only [h.required (orderFree_choice? _), h.required orderFree_string?,
      h.required orderFree_float?, h.omittable orderFree_float?]

/-! ### Verdict and canary -/

theorem Verdict.orderFree_beside? (tag : Verdict.Tag) : OrderFree (beside? tag) := by
  cases tag with
  | notNeeded =>
    refine OrderFree.record fun fs gs h => ?_
    rw [h.required orderFree_string?]
  | bootstrap =>
    refine OrderFree.record fun fs gs h => ?_
    simp only [h.required orderFree_string?, h.required orderFree_signed64?]
  | manualInvestigation => exact OrderFree.record fun _ _ _ => rfl

/-- In a list the tag of a verdict stands first. -/
theorem Verdict.split?_cons (j : Json) (rest : List Json) :
    split? (.array (j :: rest)) =
      (j.string?.bind fun s => Tag.names.lookup s).map fun tag => (tag, .array rest) := by
  cases j <;> rfl

/-- The tag of a verdict is found wherever it stands among the other keys. -/
theorem Verdict.orderFree_ofJson? : OrderFree ofJson? := by
  intro j k hj hjk
  unfold ofJson?
  cases hjk with
  | same => rfl
  | @array xs ys hlength hvalues =>
    cases xs with
    | nil =>
      cases List.length_eq_zero_iff.mp hlength.symm
      rfl
    | cons x xs =>
      obtain ⟨y, ys, rfl⟩ := List.exists_cons_of_length_eq_add_one hlength.symm
      have hdistinct := hj.items
      rw [List.forall_mem_cons] at hdistinct
      rw [List.zip_cons_cons, List.forall_mem_cons] at hvalues
      -- the tag of a list is its first member, and that is a text in both or in neither
      rw [split?_cons, split?_cons, hvalues.1.string?]
      cases x.string?.bind fun s => Tag.names.lookup s with
      | none => rfl
      | some tag =>
        exact orderFree_beside? tag (.array hdistinct.2) (.array (Nat.succ.inj hlength) hvalues.2)
  | @object fs gs hkeys hvalues =>
    have hagree := fieldsAgree_of_object hj hkeys hvalues
    simp only [split?, hagree.required (orderFree_string?.bind _)]
    cases required? fs "decision" _ with
    | none => rfl
    | some tag => exact orderFree_beside? tag hj (.object hkeys hvalues)

theorem Verdict.faithful : FaithfulOn (fun _ => True) Verdict.toJson Verdict.ofJson? where
  readBack v _ := by
    cases v <;>
      simp [ofJson?, Verdict.toJson, split?, Tag.names, List.lookup_cons, beside?, record?_object]
  distinctKeys v := by cases v <;> simp [Verdict.toJson]
  orderFree := orderFree_ofJson?

theorem Canary.faithful : FaithfulOn (fun _ => True) Canary.toJson Canary.ofJson? where
  readBack c _ := by
    cases c <;>
      simp [Canary.ofJson?, Canary.toJson, record?_object, Canary.Tag.names, List.lookup_cons]
  distinctKeys c := by cases c <;> simp [Canary.toJson]
  orderFree := by
    refine OrderFree.record fun fs gs h => ?_
    simp only [h.required (orderFree_choice? _), h.required orderFree_string?, h.isNull]

/-! ### Snapshots -/

/-- All fractions of a snapshot are numbers that JSON has a value for. -/
def Snapshot.HasFiniteFractions (s : Snapshot) : Prop :=
  ∀ i ∈ s.diskIssues, i.HasFiniteFractions

theorem Snapshot.faithful :
    FaithfulOn Snapshot.HasFiniteFractions Snapshot.toJson Snapshot.ofJson? where
  readBack s hs := by
    have hnodes := NodeReport.faithful.list.readBack s.nodes fun _ _ => trivial
    have hdisks := DiskReport.faithful.list.readBack s.disks fun _ _ => trivial
    have hissues := DiskIssue.faithful.list.readBack s.diskIssues hs
    have hverdict := Verdict.faithful.readBack s.verdict trivial
    have hcanary := Canary.faithful.readBack s.canary trivial
    simp [Snapshot.ofJson?, Snapshot.toJson, record?_object, hnodes, hdisks, hissues, hverdict,
      hcanary]
  distinctKeys s := by
    have hnodes := NodeReport.faithful.list.distinctKeys s.nodes
    have hdisks := DiskReport.faithful.list.distinctKeys s.disks
    have hissues := DiskIssue.faithful.list.distinctKeys s.diskIssues
    simp [Snapshot.toJson, hnodes, hdisks, hissues, Verdict.faithful.distinctKeys,
      Canary.faithful.distinctKeys]
  orderFree := by
    refine OrderFree.record fun fs gs h => ?_
    simp only [h.required orderFree_string?, h.required NodeReport.faithful.orderFree.list,
      h.required DiskReport.faithful.orderFree.list, h.required DiskIssue.faithful.orderFree.list,
      h.required orderFree_bool?, h.required Verdict.faithful.orderFree,
      h.required Canary.faithful.orderFree]

/-- **A snapshot's JSON form loses nothing.** No key is written twice in it, it is read back as the
same snapshot, also after the keys of its objects have been put in any other order, and the order
of keys matters in no other value either. -/
theorem Snapshot.read_back_in_any_key_order (s : Snapshot) (hs : s.HasFiniteFractions) :
    s.toJson.DistinctKeys ∧
    Snapshot.ofJson? s.toJson = some s ∧
    (∀ k, Reordered s.toJson k → Snapshot.ofJson? k = some s) ∧
    ∀ j k, j.DistinctKeys → Reordered j k → Snapshot.ofJson? k = Snapshot.ofJson? j :=
  ⟨Snapshot.faithful.distinctKeys s, Snapshot.faithful.readBack s hs,
    fun _ hk => Snapshot.faithful.read_reordered hs hk,
    fun _ _ hj hjk => Snapshot.faithful.orderFree hj hjk⟩

/-- A report of a recovered node. -/
def recoveredReport : NodeReport :=
  ⟨⟨"db0.example", "db0", "", some 3307⟩, .recovered ⟨.unreachable, "refused"⟩ (-7)⟩

/-- Its record from the last key to the first. -/
def recoveredReportReversed : Json :=
  .object [("seqno", .int (-7)),
    ("error", .object [("detail", .string "refused"), ("kind", .string "unreachable")]),
    ("state", .string "recovered_seqno"),
    ("node", .object [("port", .int 3307), ("uuid", .string ""), ("name", .string "db0"),
      ("host", .string "db0.example")])]

theorem reordered_recoveredReport :
    Reordered recoveredReport.toJson recoveredReportReversed := by
  refine .of_lookup (by decide) (by decide) ?_
  simp only [recoveredReport, NodeState.toFields, List.forall_mem_cons]
  exact ⟨⟨_, rfl, .reverse (by decide)⟩, ⟨_, rfl, .same _⟩, ⟨_, rfl, .reverse (by decide)⟩,
    ⟨_, rfl, .same _⟩, List.forall_mem_nil _⟩

/-- A snapshot with this report. -/
def recoveredSnapshot : Snapshot where
  takenAt := "2026-01-01T00:00:00Z"
  nodes := [recoveredReport]
  disks := []
  diskIssues := [⟨"db0", .ephemeral, 0.95, none⟩]
  needsBootstrap := true
  verdict := .bootstrap "db1" 42
  canary := .unknown "no answer"

/-- Its record from the last key to the first, with every tag behind the fields it governs. -/
def recoveredSnapshotReversed : Json :=
  .object [("canary", .object [("reason", .string "no answer"), ("canary", .string "unknown")]),
    ("bootstrap", .object [("seqno", .int 42), ("candidate", .string "db1"),
      ("decision", .string "bootstrap")]),
    ("needs_bootstrap", .bool true),
    ("disk_space_issues", .array [.object [("node", .string "db0"),
      ("disk_type", .string "Ephemeral"), ("used_fraction", .float 0.95),
      ("inodes_used_fraction", .null)]]),
    ("node_disk_infos", .array []),
    ("node_cluster_statuses", .array [recoveredReportReversed]),
    ("taken_at", .string "2026-01-01T00:00:00Z")]

theorem recoveredSnapshot_finite : recoveredSnapshot.HasFiniteFractions := by
  have hused : (0.95 : Float).isFinite := rfl
  simp [Snapshot.HasFiniteFractions, DiskIssue.HasFiniteFractions, recoveredSnapshot, hused]

theorem reordered_recoveredSnapshot :
    Reordered recoveredSnapshot.toJson recoveredSnapshotReversed := by
  have hreports : Reordered (.ofList NodeReport.toJson [recoveredReport])
      (.array [recoveredReportReversed]) :=
    .array rfl (List.forall_mem_cons.mpr ⟨reordered_recoveredReport, List.forall_mem_nil _⟩)
  refine .of_lookup (by decide) (by decide) ?_
  simp only [List.forall_mem_cons]
  exact ⟨⟨_, rfl, .same _⟩, ⟨_, rfl, hreports⟩, ⟨_, rfl, .same _⟩, ⟨_, rfl, .same _⟩,
    ⟨_, rfl, .same _⟩, ⟨_, rfl, .reverse (by decide)⟩, ⟨_, rfl, .reverse (by decide)⟩,
    List.forall_mem_nil _⟩

theorem read_back_recoveredSnapshot :
    recoveredSnapshot.HasFiniteFractions ∧
    Reordered recoveredSnapshot.toJson recoveredSnapshotReversed ∧
    Snapshot.ofJson? recoveredSnapshotReversed = some recoveredSnapshot :=
  ⟨recoveredSnapshot_finite, reordered_recoveredSnapshot,
    (recoveredSnapshot.read_back_in_any_key_order recoveredSnapshot_finite).2.2.1 _
      reordered_recoveredSnapshot⟩

end GaleraHealth
