import Mathlib.Algebra.Group.Nat.Defs
import Mathlib.Data.Int.Notation
import GaleraHealth.Proofs.AgentUrl
import GaleraHealth.Proofs.FailureKinds
import GaleraHealth.Proofs.GuardedDisks
import GaleraHealth.Proofs.OffendingDisks
import GaleraHealth.Proofs.SeqnoAnswers
import GaleraHealth.Proofs.SnapshotEncoding
import GaleraHealth.Proofs.WrittenJson

/-!
# The way of a disk's numbers

The agent counts its two volumes, multiplies the blocks by their size without wrapping around, and
sends eight numbers as JSON. A client reads them from the bytes, refuses a disk without bytes, and
measures the risk by what is in use.

* `Volume.Sound`, `DiskUsage.Reports`: no more is free than there is, before and after the products.
* `DiskPair.ofBody?_written`: the record of two disks is read back from its bytes.
* `outcome_at_once`, `askDisks_answered`: an answer that comes at once is the result of its worker.
* `DiskReading.Keeps`, `DiskPair.keeps_checked`: what the check leaves of the numbers.
* `DiskAgent.IsAsked`, `ClusterConfig.Hears`, `disk_numbers_travel`: from the volumes to the record.
-/

namespace GaleraHealth

/-! ### Counters of a volume -/

/-- A volume has no more free than there is. -/
structure Volume.Sound (v : Volume) : Prop where
  blocks : v.freeBlocks ≤ v.blocks
  files : v.freeFiles ≤ v.files

theorem saturatingMul_le {a b : UInt64} (h : a ≤ b) (c : UInt64) :
    saturatingMul a c ≤ saturatingMul b c := by
  rw [UInt64.le_iff_toNat_le] at h ⊢
  rw [saturatingMul_toNat, saturatingMul_toNat]
  have hproducts := Nat.mul_le_mul_right c.toNat h
  omega

theorem saturatingMul_eq_zero_iff (a b : UInt64) : saturatingMul a b = 0 ↔ a = 0 ∨ b = 0 := by
  have hzero : ∀ w : UInt64, w = 0 ↔ w.toNat = 0 := fun w => UInt64.toNat_inj.symm
  have hlargest := largestWord_toNat
  rw [hzero, hzero a, hzero b, saturatingMul_toNat, ← Nat.mul_eq_zero]
  omega

/-- What is reported of a volume: the exact products up to the largest word, the inodes as they are,
and no bytes only if there are no blocks or the blocks have no size. -/
structure DiskUsage.Reports (d : DiskUsage) (v : Volume) : Prop where
  bytesTotal : d.bytesTotal.toNat = min (v.blocks.toNat * v.blockSize.toNat) (2 ^ 64 - 1)
  bytesFree : d.bytesFree.toNat = min (v.freeBlocks.toNat * v.blockSize.toNat) (2 ^ 64 - 1)
  inodesTotal : d.inodesTotal = v.files
  inodesFree : d.inodesFree = v.freeFiles
  bytes_le : d.bytesFree ≤ d.bytesTotal
  inodes_le : d.inodesFree ≤ d.inodesTotal
  empty : d.bytesTotal = 0 ↔ v.blocks = 0 ∨ v.blockSize = 0

theorem Volume.Sound.reports {v : Volume} (h : v.Sound) : v.usage.Reports v where
  bytesTotal := saturatingMul_toNat v.blocks v.blockSize
  bytesFree := saturatingMul_toNat v.freeBlocks v.blockSize
  inodesTotal := rfl
  inodesFree := rfl
  bytes_le := saturatingMul_le h.blocks v.blockSize
  inodes_le := h.files
  empty := saturatingMul_eq_zero_iff v.blocks v.blockSize

/-- Nothing in use is cut off at zero. -/
structure DiskUsage.Uncut (d : DiskUsage) : Prop where
  bytes : ((used d.bytesTotal d.bytesFree).toNat : ℤ) = d.bytesTotal.toNat - d.bytesFree.toNat
  inodes : ((used d.inodesTotal d.inodesFree).toNat : ℤ) = d.inodesTotal.toNat - d.inodesFree.toNat

theorem used_of_le {total free : UInt64} (h : free ≤ total) :
    ((used total free).toNat : ℤ) = total.toNat - free.toNat := by
  rw [UInt64.le_iff_toNat_le] at h
  rw [used_toNat]
  omega

theorem DiskUsage.Reports.uncut {d : DiskUsage} {v : Volume} (h : d.Reports v) : d.Uncut :=
  ⟨used_of_le h.bytes_le, used_of_le h.inodes_le⟩

/-! ### The agent's answer -/

/-- A path leads to a place whose volume can be counted. -/
def Filesystem.Counts (fs : Filesystem) (path : String) (v : Volume) : Prop :=
  ∃ place, fs.resolve path = .ok place ∧ fs.uncounted place = none ∧ fs.volume place = v

theorem Filesystem.Counts.usage_eq {fs : Filesystem} {path : String} {v : Volume}
    (h : fs.Counts path v) : fs.usage path = .ok v.usage := by
  obtain ⟨place, hplace, hcounted, rfl⟩ := h
  rw [Filesystem.usage, hplace]
  dsimp only
  rw [hcounted]

theorem inWords_toNat (w : UInt64) : Json.Reader.InWords w.toNat := by
  have := w.toNat_lt
  unfold Json.Reader.InWords
  omega

theorem DiskUsage.isExact_toJson (d : DiskUsage) : d.toJson.IsExact := by
  refine .object fun f hf => ?_
  simp only [List.mem_cons, List.not_mem_nil, or_false] at hf
  rcases hf with rfl | rfl | rfl | rfl
  · exact .int (inWords_toNat _)
  · exact .int (inWords_toNat _)
  · exact .int (inWords_toNat _)
  · exact .int (inWords_toNat _)

theorem DiskPair.isExact_toJson (p : DiskPair) : p.toJson.IsExact := by
  refine .object fun f hf => ?_
  simp only [List.mem_cons, List.not_mem_nil, or_false] at hf
  rcases hf with rfl | rfl
  · exact p.persistent.isExact_toJson
  · exact p.ephemeral.isExact_toJson

/-- **The record of two disks** is read back from its bytes. -/
theorem DiskPair.ofBody?_written (p : DiskPair) :
    DiskPair.ofBody? (Json.written p.toJson) = some p := by
  rw [DiskPair.ofBody?, Json.ofBytes?_written p.isExact_toJson, Option.bind_some]
  exact DiskPair.faithful.readBack p trivial

/-! ### The client's record -/

/-- A worker that ends at once leaves its own result, unless the run was cancelled before. Work that
ends at its limit still counts, so the limit may be anything. -/
theorem outcome_at_once {α : Type} {phase : Phase} {limit : Duration} {cancel : Nat}
    (h : cancel ≠ 0) (r : Except Failure α) :
    (Course.after 0 (.answered r)).outcome phase limit (some cancel) 0 = r := by
  have hown : earlier (0 + 0, Fate.ended (.answered r)) (0 + limit.ticks, Fate.expired) =
      (0, .ended (.answered r)) := if_pos (by omega)
  have hfate : (Course.after 0 (.answered r)).fate limit (some cancel) 0 =
      (0, .ended (.answered r)) := by
    show earlier (max 0 cancel, Fate.cancelled) (earlier _ _) = _
    rw [hown]
    exact if_neg (by omega)
  rw [Course.outcome, hfate]
  rfl

theorem ticks_ofSeconds_ne_zero {secs : UInt64} (h : secs ≠ 0) :
    (Duration.ofSeconds secs).ticks ≠ 0 := by
  have hsecs : secs.toNat ≠ 0 := fun hzero => h (UInt64.toNat_inj.mp hzero)
  simp only [Duration.ticks, Duration.ofSeconds]
  omega

theorem cancelTick_ne_zero {limit : Duration} (h : limit.ticks ≠ 0) {outside : Option Nat}
    (hbegun : outside ≠ some 0) : cancelTick limit outside ≠ 0 := by
  cases outside with
  | none =>
    rw [cancelTick, Option.map_none, Option.getD_none]
    exact h
  | some t =>
    have ht : t ≠ 0 := fun ht => hbegun (congrArg some ht)
    rw [cancelTick, Option.map_some, Option.getD_some]
    omega

/-- The limit of a whole run lies in the future. -/
theorem ClusterConfig.Passes.ticks_run_ne_zero {config : ClusterConfig} (h : config.Passes) :
    config.timeouts.run.ticks ≠ 0 := by
  refine ticks_ofSeconds_ne_zero fun hzero => ?_
  have hrun := h.run
  rw [checkTimeout, if_pos (.inl hzero)] at hrun
  cases hrun

/-- What a client makes of the numbers of a node. -/
theorem AgentSettings.askDisks_answered [Net.NameTable] {s : AgentSettings} {w : Surroundings}
    {host : String} {e : Endpoint} {p : DiskPair} {status : UInt16} {body : List UInt8}
    {limit : Duration} (hup : w.link = .up) (hendpoint : s.diskEndpoint w host = .ok e)
    (hreply : w.reply e.address e.url = .answered status body)
    (hstatus : 200 ≤ status ∧ status < 300)
    (hbody : DiskPair.ofBody? (receivedBody status body) = some p) :
    s.askDisks limit w host = .after 0 (.ok p) := by
  obtain ⟨result, hfetch, hresult⟩ := Endpoint.fetch_answered hup hreply DiskPair.ofBody? limit
  obtain rfl := (hresult p).mpr ⟨hstatus, hbody⟩
  rw [AgentSettings.askDisks, hendpoint]
  show ((e.fetch DiskPair.ofBody? limit w).map _).map _ = _
  rw [hfetch]
  rfl

/-- What is kept of the numbers of a node: all of them if both disks have bytes, and otherwise that
the lookup failed. -/
structure DiskReading.Keeps (reading : DiskReading) (disks : DiskPair) : Prop where
  available : reading = .available disks ↔ ∀ kind, (disks.get kind).bytesTotal ≠ 0
  failed : (∃ kind, (disks.get kind).bytesTotal = 0) →
    ∃ detail, reading = .failed ⟨.diskLookupFailed, detail⟩

theorem DiskPair.keeps_checked (p : DiskPair) : (DiskReading.ofResult p.checked).Keeps p := by
  have hok := p.checked_eq_ok_iff p
  rw [eq_self_iff_true, true_and] at hok
  cases hchecked : p.checked with
  | ok q =>
    obtain ⟨rfl, hbytes⟩ := (p.checked_eq_ok_iff q).mp hchecked
    exact ⟨iff_of_true rfl hbytes, fun ⟨kind, hzero⟩ => absurd hzero (hbytes kind)⟩
  | error f =>
    obtain ⟨kind, detail⟩ := f
    obtain rfl : kind = .diskLookupFailed := checked_eq_error hchecked
    have hbytes : ¬ ∀ kind, (p.get kind).bytesTotal ≠ 0 := fun h => by
      rw [hok.mpr h] at hchecked
      cases hchecked
    exact ⟨iff_of_false nofun hbytes, fun _ => ⟨detail, rfl⟩⟩

/-! ### From one end to the other -/

/-- A request for the disks, from somebody who may ask, to an agent whose disks are on two volumes
that can be counted. -/
structure DiskAgent.IsAsked (a : DiskAgent) (fs : Filesystem) (r : Incoming)
    (persistent ephemeral : Volume) : Prop where
  persistent : fs.Counts a.persistent persistent
  ephemeral : fs.Counts a.ephemeral ephemeral
  path : r.path = DiskAgent.infoPath
  method : r.method = "GET"
  authorized : a.Authorized r

theorem DiskAgent.IsAsked.respond_eq {a : DiskAgent} {fs : Filesystem} {r : Incoming}
    {persistent ephemeral : Volume} (h : a.IsAsked fs r persistent ephemeral) :
    a.respond fs r =
      DiskAgent.json 200 (DiskPair.mk persistent.usage ephemeral.usage).toJson := by
  rw [DiskAgent.respond_of_authorized fs h.path h.authorized h.method, DiskAgent.info_eq,
    h.persistent.usage_eq, h.ephemeral.usage_eq]

/-- A node's agent is asked over a link that is up, and a response comes back. -/
structure ClusterConfig.Hears [Net.NameTable] (c : ClusterConfig) (p : Peers) (n : Node)
    (response : Response) : Prop where
  node : n ∈ c.nodes
  link : p.link = .up
  reply : ∃ s e, c.database.agent = some s ∧ s.diskEndpoint p.toSurroundings n.host = .ok e ∧
    p.reply e.address e.url = .answered response.status response.body

/-- What a client that hears some numbers keeps of them. -/
theorem reading_of_hears [Net.NameTable] {config : ClusterConfig} {c : CheckedConfig}
    (hc : config.checked = .ok c) {p : Peers} {n : Node} {disks : DiskPair}
    (hheard : config.Hears p n (DiskAgent.json 200 disks.toJson)) {outside : Option Nat}
    (hbegun : outside ≠ some 0) (takenAt : String) :
    (∃ d ∈ (c.diagnose p outside takenAt).snapshot.disks, d.node = n) ∧
    ∀ d ∈ (c.diagnose p outside takenAt).snapshot.disks, d.node = n →
      d.reading = .ofResult disks.checked := by
  obtain ⟨hpasses, rfl, -⟩ := (checked_eq_ok_iff config c).mp hc
  obtain ⟨hn, hlink, s, e, hs, he, hreply⟩ := hheard
  have hasked : s.askDisks c.config.timeouts.diskAgent p.toSurroundings n.host =
      .after 0 (.ok disks) := by
    have hstatus : (200 : UInt16) ≤ 200 ∧ (200 : UInt16) < 300 := by decide
    exact AgentSettings.askDisks_answered hlink he hreply hstatus disks.ofBody?_written
  have hsource : (c.config.sources p).disk = some fun m =>
      (s.askDisks c.config.timeouts.diskAgent p.toSurroundings m.host).map .answered := by
    show c.config.database.agent.map _ = _
    rw [hs]
    rfl
  have hcancel := cancelTick_ne_zero hpasses.ticks_run_ne_zero hbegun
  rw [CheckedConfig.diagnose, c.disks_run_eq _ _ _ hsource]
  refine ⟨⟨_, List.mem_map_of_mem hn, rfl⟩, fun d hd hnode => ?_⟩
  obtain ⟨m, -, rfl⟩ := List.mem_map.mp hd
  obtain rfl : m = n := hnode
  show DiskReading.ofResult _ = _
  rw [diskCourse, hasked]
  exact congrArg DiskReading.ofResult (outcome_at_once hcancel disks.checked)

/-- **The numbers of the disks travel unchanged.** What the agent reports of its volumes are their
exact products, cut off at the largest word, and no more is free than there is. The client reads the
same numbers from the bytes of the answer. Its record of the node has them if both disks have bytes;
otherwise it is a failed lookup. Nothing in use is cut off at zero. -/
theorem disk_numbers_travel [Net.NameTable] {a : DiskAgent} {fs : Filesystem} {r : Incoming}
    {persistent ephemeral : Volume} (hasked : a.IsAsked fs r persistent ephemeral)
    (hpersistent : persistent.Sound) (hephemeral : ephemeral.Sound) {config : ClusterConfig}
    {c : CheckedConfig} (hc : config.checked = .ok c) {p : Peers} {n : Node}
    (hheard : config.Hears p n (a.respond fs r)) {outside : Option Nat}
    (hbegun : outside ≠ some 0) (takenAt : String) :
    ∃ disks : DiskPair,
      disks.persistent.Reports persistent ∧ disks.ephemeral.Reports ephemeral ∧
      a.respond fs r = DiskAgent.json 200 disks.toJson ∧
      DiskPair.ofBody? (a.respond fs r).body = some disks ∧
      (∃ d ∈ (c.diagnose p outside takenAt).snapshot.disks, d.node = n) ∧
      (∀ d ∈ (c.diagnose p outside takenAt).snapshot.disks, d.node = n →
        d.reading.Keeps disks) ∧
      ∀ kind, (disks.get kind).Uncut := by
  have hresponse := hasked.respond_eq
  rw [hresponse] at hheard ⊢
  obtain ⟨hrecord, hreading⟩ := reading_of_hears hc hheard hbegun takenAt
  refine ⟨_, hpersistent.reports, hephemeral.reports, rfl, DiskPair.ofBody?_written _, hrecord,
    fun d hd hnode => ?_, fun kind => ?_⟩
  · rw [hreading d hd hnode]
    exact DiskPair.keeps_checked _
  · cases kind with
    | persistent => exact hpersistent.reports.uncut
    | ephemeral => exact hephemeral.reports.uncut

/-- Two volumes. The bytes of the first do not fit a word. -/
def wideRoot : Filesystem where
  entry _ := some .directory
  content _ := ""
  workingDirectory := []
  volume place :=
    if place = ["store".toList] then ⟨0x8000000000000000, 3, 4, 100, 7⟩ else ⟨10, 1, 4096, 50, 49⟩

/-- An agent with its disks on the volumes of `wideRoot`. -/
def wideAgent : DiskAgent := ⟨⟨"disk", "secret"⟩, "/store", "/data"⟩

/-- The agent's answer to a client that has the credentials. -/
def wideResponse : Response :=
  wideAgent.respond wideRoot
    ⟨"GET", DiskAgent.infoPath, [("authorization", wideAgent.credentials.header)]⟩

/-- Peers whose disk agents all give that answer. -/
def widePeers : Peers where
  toSurroundings := answering wideResponse.status wideResponse.body
  database _ _ := .listening (.error ⟨1045, "28000", "Access denied"⟩) .fine .fine

section Examples

attribute [local instance] Net.NameTable.empty

theorem disk_numbers_of_wideRoot :
    let disks : DiskPair :=
      ⟨⟨0xFFFFFFFFFFFFFFFF, 12, 100, 7⟩, ⟨40960, 4096, 50, 49⟩⟩
    wideResponse = DiskAgent.json 200 disks.toJson ∧
      ∃ d ∈ ((CheckedConfig.mk pairConfig .standard).diagnose widePeers none "").snapshot.disks,
        d.node.uuid = "a" ∧ d.reading = .available disks := by
  intro disks
  have hasked : wideAgent.IsAsked wideRoot
      ⟨"GET", DiskAgent.infoPath, [("authorization", wideAgent.credentials.header)]⟩
      ⟨0x8000000000000000, 3, 4, 100, 7⟩ ⟨10, 1, 4096, 50, 49⟩ :=
    { persistent := ⟨["store".toList], by decide, rfl, rfl⟩
      ephemeral := ⟨["data".toList], by decide, rfl, rfl⟩
      path := rfl
      method := rfl
      authorized := ⟨_, rfl, Credentials.carries_header_iff.mpr ⟨by decide, by decide⟩⟩ }
  have hchecked : pairConfig.checked = .ok ⟨pairConfig, .standard⟩ := by
    rw [checked_eq_ok_iff]
    exact ⟨⟨rfl, rfl, rfl, rfl, rfl, rfl, rfl, rfl, rfl, rfl, rfl, rfl⟩, rfl, rfl⟩
  have hname : Net.Url.normalHost "10.0.0.1" = .ok (.v4 ⟨10, 0, 0, 1⟩) := by decide +kernel
  have hheard : pairConfig.Hears widePeers ⟨"10.0.0.1", "mysql", "a", none⟩ wideResponse :=
    { node := List.mem_cons_self
      link := rfl
      reply := ⟨_, _, rfl,
        Endpoint.build_off rfl rfl (List.mem_cons_of_mem _ List.mem_cons_self) hname, rfl⟩ }
  obtain ⟨told, -, -, hresponse, hread, ⟨d, hd, hnode⟩, hkeeps, -⟩ :=
    disk_numbers_travel hasked ⟨by decide, by decide⟩ ⟨by decide, by decide⟩ hchecked hheard
      (Option.some_ne_none 0).symm ""
  obtain rfl : told = disks := by
    rw [hasked.respond_eq] at hread
    exact Option.some.inj (hread.symm.trans (DiskPair.ofBody?_written _))
  have hbytes : ∀ kind, (disks.get kind).bytesTotal ≠ 0 := by
    intro kind
    cases kind with
    | persistent => decide
    | ephemeral => decide
  exact ⟨hresponse, d, hd, by rw [hnode], (hkeeps d hd hnode).available.mpr hbytes⟩

end Examples

end GaleraHealth
