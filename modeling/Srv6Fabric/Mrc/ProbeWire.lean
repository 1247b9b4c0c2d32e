import Srv6Fabric.Mrc.Probe

/-!
# The wire format of the three packets

Each codec is settled by one record of facts: packets survive a round trip, the byte
strings accepted are known exactly, and an accepted one is reproduced by encoding what
it decodes to, up to the bytes its layout does not keep.
-/

namespace Srv6Fabric.Mrc

open Srv6Fabric.Library

/-! ## Packets, layouts and accepted byte strings -/

def Probe.encode (probe : Probe) : Except PyError (List UInt8) :=
  encodeProbe probe.reqId.toNat probe.planeId.toNat probe.txNs.toNat probe.tenantId.toNat
    probe.srcId.toNat probe.replyPort.toNat

def ProbeReply.encode (reply : ProbeReply) : Except PyError (List UInt8) :=
  encodeProbeReply reply.reqId.toNat reply.planeId.toNat reply.txNs.toNat reply.svcTimeNs.toNat
    reply.tenantId.toNat reply.srcId.toNat reply.replyPort.toNat

def LossReport.encode (report : LossReport) : Except PyError (List UInt8) :=
  encodeLossReport report.windowId.toNat report.planes

/-- The fields of a probe packet; only the reserved byte and, in a PROBE, the service
time are not kept. -/
def probeLayout (service : Bool) : List (Nat × Bool) :=
  probeFmt.zip [true, true, true, true, false, true, service, true, true, true]

def lossHdrLayout : List (Nat × Bool) := lossHdrFmt.zip [true, true, true, true, false]

def lossRecLayout : List (Nat × Bool) := lossRecFmt.zip [true, false, false, true, true, true]

/-- The fields of a LOSS_REPORT with a number of records. -/
def lossLayout (numPlanes : Nat) : List (Nat × Bool) :=
  lossHdrLayout ++ (List.replicate numPlanes lossRecLayout).flatten

/-- `num_planes` as the header of a LOSS_REPORT has it: the two bytes at offset 4. -/
def numRecords (payload : List UInt8) : Nat := valueOf ((payload.drop 4).take 2)

/-- The byte strings the decoder of a probe packet accepts. -/
def AcceptsProbe (magic : Nat) (payload : List UInt8) : Prop :=
  probeSize ≤ payload.length ∧ payload[0]? = some (.ofNat magic) ∧
    payload[1]? = some (.ofNat probeVersion)

/-- The byte strings `decode_loss_report` accepts. -/
def AcceptsLossReport (payload : List UInt8) : Prop :=
  lossHdrSize + numRecords payload * lossRecSize ≤ payload.length ∧
    payload[0]? = some (.ofNat magicLossReport) ∧ payload[1]? = some (.ofNat lossReportVersion)

/-- A codec for the valid packets.  The canonical form of an accepted byte string is
what its packet is encoded to. -/
structure Faithful {α : Type} (encode : α → Except PyError (List UInt8))
    (decode : List UInt8 → Except PyError α) (valid : α → Prop) (accepts : List UInt8 → Prop)
    (canonical : List UInt8 → List UInt8) : Prop where
  roundTrip : ∀ packet, valid packet →
    ∃ payload, encode packet = .ok payload ∧ decode payload = .ok packet
  accepted : ∀ payload, accepts payload →
    ∃ packet, valid packet ∧ decode payload = .ok packet ∧ encode packet = .ok (canonical payload)
  rejected : ∀ payload, ¬ accepts payload →
    ∃ message, decode payload = .error (.probeDecodeError message)

/-! ## Probe packets -/

theorem decodeProbePacket_rejected {magic : Nat} (small : magic < 256) {payload : List UInt8}
    (rejected : ¬ AcceptsProbe magic payload) :
    ∃ message, decodeProbePacket payload magic = .error (.probeDecodeError message) := by
  unfold decodeProbePacket
  split
  · exact ⟨_, rfl⟩
  · next long =>
    have long : probeSize ≤ payload.length := not_lt.mp long
    have size : probeSize = 28 := rfl
    rw [show unpack probeFmt (payload.take probeSize) = unpack probeFmt payload from
      unpack_take (le_refl probeSize) payload]
    simp only [unpack, probeFmt]
    split
    · exact ⟨_, rfl⟩
    · next magicOk =>
      rw [not_not, valueOf_take_one_eq_iff (by omega) small] at magicOk
      split
      · exact ⟨_, rfl⟩
      · next versionOk =>
        rw [not_not, valueOf_take_one_eq_iff (by rw [List.length_drop]; omega) (by decide),
          List.getElem?_drop] at versionOk
        exact absurd ⟨long, magicOk, versionOk⟩ rejected

/-- What an accepted probe packet decodes to, and the fields it is made of. -/
theorem decodeProbePacket_accepted {magic : Nat} (small : magic < 256) {payload : List UInt8}
    (accepted : AcceptsProbe magic payload) :
    ∃ reply, decodeProbePacket payload magic = .ok reply ∧ ∀ service,
      probeFields magic reply.reqId.toNat reply.planeId.toNat reply.txNs.toNat
        (if service then reply.svcTimeNs.toNat else 0) reply.tenantId.toNat reply.srcId.toNat
        reply.replyPort.toNat = keptFields (probeLayout service) payload := by
  obtain ⟨long, magicOk, versionOk⟩ := accepted
  have size : probeSize = 28 := rfl
  rw [← valueOf_take_one_eq_iff (by omega) small] at magicOk
  have versionOk : valueOf ((payload.drop 1).take 1) = probeVersion := by
    rw [valueOf_take_one_eq_iff (by rw [List.length_drop]; omega) (by decide),
      List.getElem?_drop]
    exact versionOk
  unfold decodeProbePacket
  rw [if_neg (not_lt.mpr long), show unpack probeFmt (payload.take probeSize) =
    unpack probeFmt payload from unpack_take (le_refl probeSize) payload]
  simp only [unpack, probeFmt, magicOk, versionOk, ne_eq, not_true_eq_false, if_false]
  refine ⟨_, rfl, fun service => ?_⟩
  have u8 : ∀ bytes : List UInt8, (UInt8.ofNat (valueOf (bytes.take 1))).toNat =
      valueOf (bytes.take 1) := fun bytes => UInt8.toNat_ofNat_of_lt' (valueOf_take_lt 1 bytes)
  have u16 : ∀ bytes : List UInt8, (UInt16.ofNat (valueOf (bytes.take 2))).toNat =
      valueOf (bytes.take 2) := fun bytes => UInt16.toNat_ofNat_of_lt' (valueOf_take_lt 2 bytes)
  have u64 : ∀ bytes : List UInt8, (UInt64.ofNat (valueOf (bytes.take 8))).toNat =
      valueOf (bytes.take 8) := fun bytes => UInt64.toNat_ofNat_of_lt' (valueOf_take_lt 8 bytes)
  simp only [probeFields, probeLayout, probeFmt, keptFields, List.zip_cons_cons, List.zip_nil_left,
    u8, u16, u64, magicOk, versionOk, if_true, Bool.false_eq_true, if_false]

theorem Probe.encode_eq (probe : Probe) :
    probe.encode = .ok (pack (probeFields magicProbe probe.reqId.toNat probe.planeId.toNat
      probe.txNs.toNat 0 probe.tenantId.toNat probe.srcId.toNat probe.replyPort.toNat)) := by
  rw [Probe.encode, encodeProbe, checkUint_of_lt _ probe.reqId.toNat_lt,
    checkUint_of_lt _ probe.planeId.toNat_lt, checkUint_of_lt _ probe.txNs.toNat_lt,
    checkUint_of_lt _ probe.tenantId.toNat_lt, checkUint_of_lt _ probe.srcId.toNat_lt,
    checkUint_of_lt _ probe.replyPort.toNat_lt]
  rfl

theorem ProbeReply.encode_eq (reply : ProbeReply) :
    reply.encode = .ok (pack (probeFields magicProbeReply reply.reqId.toNat reply.planeId.toNat
      reply.txNs.toNat reply.svcTimeNs.toNat reply.tenantId.toNat reply.srcId.toNat
      reply.replyPort.toNat)) := by
  rw [ProbeReply.encode, encodeProbeReply, checkUint_of_lt _ reply.reqId.toNat_lt,
    checkUint_of_lt _ reply.planeId.toNat_lt, checkUint_of_lt _ reply.txNs.toNat_lt,
    checkUint_of_lt _ reply.svcTimeNs.toNat_lt, checkUint_of_lt _ reply.tenantId.toNat_lt,
    checkUint_of_lt _ reply.srcId.toNat_lt, checkUint_of_lt _ reply.replyPort.toNat_lt]
  rfl

/-- The layout of a probe packet fits an accepted byte string. -/
theorem AcceptsProbe.covers {magic : Nat} {payload : List UInt8}
    (accepted : AcceptsProbe magic payload) (service : Bool) :
    ((probeLayout service).map Prod.fst).sum ≤ payload.length :=
  accepted.1

theorem probe_faithful : Faithful Probe.encode decodeProbe (fun _ => True)
    (AcceptsProbe magicProbe) (zeroed (probeLayout false)) where
  roundTrip probe _ := by
    have decoded : decodeProbePacket (pack (probeFields magicProbe probe.reqId.toNat
        probe.planeId.toNat probe.txNs.toNat 0 probe.tenantId.toNat probe.srcId.toNat
        probe.replyPort.toNat)) magicProbe = .ok ⟨probe.reqId, probe.planeId, probe.txNs, 0,
          probe.tenantId, probe.srcId, probe.replyPort⟩ :=
      decodeProbePacket_pack ⟨_, _, _, 0, _, _, _⟩ (by decide)
    refine ⟨_, probe.encode_eq, ?_⟩
    rw [decodeProbe, decoded]
    rfl
  accepted payload accepted := by
    obtain ⟨reply, decoded, fields⟩ :=
      decodeProbePacket_accepted (by decide : magicProbe < 256) accepted
    refine ⟨⟨reply.reqId, reply.planeId, reply.txNs, reply.tenantId, reply.srcId,
      reply.replyPort⟩, trivial, ?_, ?_⟩
    · rw [decodeProbe, decoded]
      rfl
    · rw [Probe.encode_eq, ← pack_keptFields (accepted.covers false), ← fields false]
      rfl
  rejected payload rejected := by
    obtain ⟨message, failed⟩ := decodeProbePacket_rejected (by decide : magicProbe < 256) rejected
    exact ⟨message, by rw [decodeProbe, failed]; rfl⟩

theorem probeReply_faithful : Faithful ProbeReply.encode decodeProbeReply (fun _ => True)
    (AcceptsProbe magicProbeReply) (zeroed (probeLayout true)) where
  roundTrip reply _ :=
    ⟨_, reply.encode_eq, decodeProbePacket_pack reply (by decide : magicProbeReply < 256)⟩
  accepted payload accepted := by
    obtain ⟨reply, decoded, fields⟩ :=
      decodeProbePacket_accepted (by decide : magicProbeReply < 256) accepted
    refine ⟨reply, trivial, decoded, ?_⟩
    rw [ProbeReply.encode_eq, ← pack_keptFields (accepted.covers true), ← fields true]
    rfl
  rejected payload rejected :=
    decodeProbePacket_rejected (by decide : magicProbeReply < 256) rejected

/-! ## Loss reports -/

theorem encodeRecord_decodeRecord {bytes : List UInt8} (long : lossRecSize ≤ bytes.length) :
    encodeRecord (decodeRecord (bytes.take lossRecSize)) = zeroed lossRecLayout bytes := by
  have u8 : ∀ bytes : List UInt8, (UInt8.ofNat (valueOf (bytes.take 1))).toNat =
      valueOf (bytes.take 1) := fun bytes => UInt8.toNat_ofNat_of_lt' (valueOf_take_lt 1 bytes)
  have u32 : ∀ bytes : List UInt8, (UInt32.ofNat (valueOf (bytes.take 4))).toNat =
      valueOf (bytes.take 4) := fun bytes => UInt32.toNat_ofNat_of_lt' (valueOf_take_lt 4 bytes)
  rw [← pack_keptFields (show (lossRecLayout.map Prod.fst).sum ≤ bytes.length from long),
    encodeRecord, decodeRecord, show unpack lossRecFmt (bytes.take lossRecSize) =
      unpack lossRecFmt bytes from unpack_take (le_refl lossRecSize) bytes]
  simp only [unpack, lossRecFmt, lossRecLayout, keptFields, List.zip_cons_cons, List.zip_nil_left,
    u8, u32, if_true, Bool.false_eq_true, if_false]

theorem length_decodeRecords (count : Nat) (bytes : List UInt8) :
    (decodeRecords count bytes).length = count := by
  induction count generalizing bytes with
  | zero => rfl
  | succ count ih => rw [decodeRecords, List.length_cons, ih]

/-- Encoding decoded records gives back their bytes, reserved ones apart. -/
theorem encodeRecords_decodeRecords {count : Nat} {bytes : List UInt8}
    (long : count * lossRecSize ≤ bytes.length) :
    (decodeRecords count bytes).flatMap encodeRecord =
      zeroed (List.replicate count lossRecLayout).flatten bytes := by
  induction count generalizing bytes with
  | zero => rfl
  | succ count ih =>
      rw [Nat.succ_mul] at long
      have here : lossRecSize ≤ bytes.length := by omega
      have later : count * lossRecSize ≤ (bytes.drop lossRecSize).length := by
        rw [List.length_drop]
        omega
      rw [decodeRecords, List.flatMap_cons, encodeRecord_decodeRecord here, ih later,
        List.replicate_succ, List.flatten_cons, zeroed_append]
      rfl

theorem decodeLossReport_rejected {payload : List UInt8} (rejected : ¬ AcceptsLossReport payload) :
    ∃ message, decodeLossReport payload = .error (.probeDecodeError message) := by
  unfold decodeLossReport
  split
  · exact ⟨_, rfl⟩
  · next long =>
    have long : lossHdrSize ≤ payload.length := not_lt.mp long
    have size : lossHdrSize = 8 := rfl
    rw [show unpack lossHdrFmt (payload.take lossHdrSize) = unpack lossHdrFmt payload from
      unpack_take (le_refl lossHdrSize) payload]
    simp only [unpack, lossHdrFmt]
    split
    · exact ⟨_, rfl⟩
    · next magicOk =>
      rw [not_not, valueOf_take_one_eq_iff (by omega) (by decide)] at magicOk
      split
      · exact ⟨_, rfl⟩
      · next versionOk =>
        rw [not_not, valueOf_take_one_eq_iff (by rw [List.length_drop]; omega) (by decide),
          List.getElem?_drop] at versionOk
        split
        · exact ⟨_, rfl⟩
        · next covered =>
          simp only [List.drop_drop] at covered
          exact absurd ⟨not_lt.mp covered, magicOk, versionOk⟩ rejected

theorem lossLayout_covers {payload : List UInt8} (accepted : AcceptsLossReport payload) :
    lossHdrSize ≤ payload.length ∧
      numRecords payload * lossRecSize ≤ (payload.drop lossHdrSize).length := by
  have covered := accepted.1
  rw [List.length_drop]
  omega

/-- What an accepted loss report decodes to, and the bytes it is encoded to. -/
theorem decodeLossReport_accepted {payload : List UInt8} (accepted : AcceptsLossReport payload) :
    ∃ report, report.planes.length ≤ 0xFFFF ∧ decodeLossReport payload = .ok report ∧
      report.encode = .ok (zeroed (lossLayout (numRecords payload)) payload) := by
  obtain ⟨long, records⟩ := lossLayout_covers accepted
  obtain ⟨covered, magicOk, versionOk⟩ := accepted
  have size : lossHdrSize = 8 := rfl
  have few : numRecords payload < 256 ^ 2 := valueOf_take_lt 2 _
  rw [← valueOf_take_one_eq_iff (by omega) (by decide)] at magicOk
  have versionOk : valueOf ((payload.drop 1).take 1) = lossReportVersion := by
    rw [valueOf_take_one_eq_iff (by rw [List.length_drop]; omega) (by decide),
      List.getElem?_drop]
    exact versionOk
  have count : valueOf ((((payload.drop 1).drop 1).drop 2).take 2) = numRecords payload := by
    rw [List.drop_drop, List.drop_drop, numRecords]
  have windowId : (UInt16.ofNat (valueOf (((payload.drop 1).drop 1).take 2))).toNat =
      valueOf (((payload.drop 1).drop 1).take 2) :=
    UInt16.toNat_ofNat_of_lt' (valueOf_take_lt 2 _)
  have length := length_decodeRecords (numRecords payload) (payload.drop lossHdrSize)
  refine ⟨⟨.ofNat (valueOf (((payload.drop 1).drop 1).take 2)),
    decodeRecords (numRecords payload) (payload.drop lossHdrSize)⟩, ?_, ?_, ?_⟩
  · dsimp only
    rw [length]
    omega
  · unfold decodeLossReport
    rw [if_neg (not_lt.mpr long), show unpack lossHdrFmt (payload.take lossHdrSize) =
      unpack lossHdrFmt payload from unpack_take (le_refl lossHdrSize) payload]
    simp only [unpack, lossHdrFmt, magicOk, versionOk, count, ne_eq, not_true_eq_false, if_false]
    rw [if_neg (not_lt.mpr covered)]
  · have header : lossHdrFmt.zip [magicLossReport, lossReportVersion,
        valueOf (((payload.drop 1).drop 1).take 2), numRecords payload, 0] =
        keptFields lossHdrLayout payload := by
      simp only [lossHdrLayout, lossHdrFmt, keptFields, List.zip_cons_cons, List.zip_nil_left,
        magicOk, versionOk, count, if_true, Bool.false_eq_true, if_false]
    rw [LossReport.encode, encodeLossReport, checkUint_of_lt _ (UInt16.toNat_lt _), length,
      windowId]
    simp only [bind, Except.bind]
    rw [if_neg (by omega), header, pack_keptFields (show (lossHdrLayout.map Prod.fst).sum ≤
      payload.length from long), encodeRecords_decodeRecords records, lossLayout, zeroed_append]
    rfl

theorem lossReport_faithful : Faithful LossReport.encode decodeLossReport
    (fun report => report.planes.length ≤ 0xFFFF) AcceptsLossReport
    (fun payload => zeroed (lossLayout (numRecords payload)) payload) where
  roundTrip report few := decodeLossReport_of_encodeLossReport report few
  accepted _ accepted := decodeLossReport_accepted accepted
  rejected _ rejected := decodeLossReport_rejected rejected

/-! ## Tagged apart -/

/-- The decoder returns a packet. -/
def Decodes {α : Type} (decode : List UInt8 → Except PyError α) (payload : List UInt8) : Prop :=
  ∃ packet, decode payload = .ok packet

/-- What a decoder accepts carries the tag it looks for. -/
theorem Faithful.accepts {α : Type} {encode : α → Except PyError (List UInt8)}
    {decode : List UInt8 → Except PyError α} {valid : α → Prop} {accepts : List UInt8 → Prop}
    {canonical : List UInt8 → List UInt8} (faithful : Faithful encode decode valid accepts canonical)
    {payload : List UInt8} (decodes : Decodes decode payload) : accepts payload := by
  by_contra rejected
  obtain ⟨packet, decoded⟩ := decodes
  obtain ⟨message, failed⟩ := faithful.rejected payload rejected
  rw [decoded] at failed
  cases failed

/-- No byte string is accepted by two decoders. -/
theorem decoders_exclusive (payload : List UInt8) :
    ¬ (Decodes decodeProbe payload ∧ Decodes decodeProbeReply payload) ∧
      ¬ (Decodes decodeProbe payload ∧ Decodes decodeLossReport payload) ∧
      ¬ (Decodes decodeProbeReply payload ∧ Decodes decodeLossReport payload) := by
  have probe := fun decodes : Decodes decodeProbe payload => (probe_faithful.accepts decodes).2.1
  have reply := fun decodes : Decodes decodeProbeReply payload => (probeReply_faithful.accepts decodes).2.1
  have report := fun decodes : Decodes decodeLossReport payload => (lossReport_faithful.accepts decodes).2.1
  refine ⟨fun both => ?_, fun both => ?_, fun both => ?_⟩
  · exact absurd ((probe both.1).symm.trans (reply both.2)) (by decide)
  · exact absurd ((probe both.1).symm.trans (report both.2)) (by decide)
  · exact absurd ((reply both.1).symm.trans (report both.2)) (by decide)

/-! ## What the encoders refuse -/

/-- An unsigned field of this many bits holds the value. -/
def UintRange (bits : Nat) (value : Int) : Prop := 0 ≤ value ∧ value < 2 ^ bits

theorem checkUint_bind_returns {α : Type} (bits : Nat) (name : String) (value : Int)
    (next : Nat → Except PyError α) :
    (∃ result, (checkUint bits name value >>= next) = .ok result) ↔
      UintRange bits value ∧ ∃ result, next value.toNat = .ok result := by
  unfold checkUint
  split
  · next inRange => exact ⟨fun returns => ⟨inRange, returns⟩, fun both => both.2⟩
  · next outside =>
    constructor
    · rintro ⟨result, returned⟩
      cases returned
    · exact fun both => absurd both.1 outside

theorem encodeProbe_returns_iff (reqId planeId txNs tenantId srcId replyPort : Int) :
    (∃ payload, encodeProbe reqId planeId txNs tenantId srcId replyPort = .ok payload) ↔
      UintRange 16 reqId ∧ UintRange 8 planeId ∧ UintRange 64 txNs ∧ UintRange 16 tenantId ∧
        UintRange 16 srcId ∧ UintRange 16 replyPort := by
  simp [encodeProbe, checkUint_bind_returns]

theorem encodeProbeReply_returns_iff
    (reqId planeId txNs svcTimeNs tenantId srcId replyPort : Int) :
    (∃ payload, encodeProbeReply reqId planeId txNs svcTimeNs tenantId srcId replyPort =
      .ok payload) ↔
      UintRange 16 reqId ∧ UintRange 8 planeId ∧ UintRange 64 txNs ∧ UintRange 64 svcTimeNs ∧
        UintRange 16 tenantId ∧ UintRange 16 srcId ∧ UintRange 16 replyPort := by
  simp [encodeProbeReply, checkUint_bind_returns]

theorem planeLossRecord_returns_iff (planeId seen expected maxGap : Int) :
    (∃ record, PlaneLossRecord.new planeId seen expected maxGap = .ok record) ↔
      UintRange 8 planeId ∧ UintRange 32 seen ∧ UintRange 32 expected ∧ UintRange 32 maxGap := by
  simp [PlaneLossRecord.new, checkUint_bind_returns]

theorem encodeLossReport_returns_iff (windowId : Int) (planes : List PlaneLossRecord) :
    (∃ payload, encodeLossReport windowId planes = .ok payload) ↔
      UintRange 16 windowId ∧ planes.length ≤ 0xFFFF := by
  rw [encodeLossReport, checkUint_bind_returns]
  refine and_congr_right fun _ => ?_
  split
  · next many =>
    constructor
    · rintro ⟨payload, returned⟩
      cases returned
    · exact fun few => absurd few (not_le.mpr many)
  · next few => exact ⟨fun _ => not_lt.mp few, fun _ => ⟨_, rfl⟩⟩

/-- The wire format: three faithful codecs that no byte string confuses, and encoders
that return exactly on fields in range. -/
theorem wire_format :
    (Faithful Probe.encode decodeProbe (fun _ => True) (AcceptsProbe magicProbe)
        (zeroed (probeLayout false)) ∧
      Faithful ProbeReply.encode decodeProbeReply (fun _ => True) (AcceptsProbe magicProbeReply)
        (zeroed (probeLayout true)) ∧
      Faithful LossReport.encode decodeLossReport (fun report => report.planes.length ≤ 0xFFFF)
        AcceptsLossReport fun payload => zeroed (lossLayout (numRecords payload)) payload) ∧
    (∀ payload, ¬ (Decodes decodeProbe payload ∧ Decodes decodeProbeReply payload) ∧
      ¬ (Decodes decodeProbe payload ∧ Decodes decodeLossReport payload) ∧
      ¬ (Decodes decodeProbeReply payload ∧ Decodes decodeLossReport payload)) ∧
    (∀ reqId planeId txNs tenantId srcId replyPort,
      (∃ payload, encodeProbe reqId planeId txNs tenantId srcId replyPort = .ok payload) ↔
        UintRange 16 reqId ∧ UintRange 8 planeId ∧ UintRange 64 txNs ∧ UintRange 16 tenantId ∧
          UintRange 16 srcId ∧ UintRange 16 replyPort) ∧
    (∀ reqId planeId txNs svcTimeNs tenantId srcId replyPort,
      (∃ payload, encodeProbeReply reqId planeId txNs svcTimeNs tenantId srcId replyPort =
        .ok payload) ↔
        UintRange 16 reqId ∧ UintRange 8 planeId ∧ UintRange 64 txNs ∧ UintRange 64 svcTimeNs ∧
          UintRange 16 tenantId ∧ UintRange 16 srcId ∧ UintRange 16 replyPort) ∧
    (∀ planeId seen expected maxGap,
      (∃ record, PlaneLossRecord.new planeId seen expected maxGap = .ok record) ↔
        UintRange 8 planeId ∧ UintRange 32 seen ∧ UintRange 32 expected ∧ UintRange 32 maxGap) ∧
    ∀ windowId planes, (∃ payload, encodeLossReport windowId planes = .ok payload) ↔
      UintRange 16 windowId ∧ planes.length ≤ 0xFFFF :=
  ⟨⟨probe_faithful, probeReply_faithful, lossReport_faithful⟩, decoders_exclusive,
    encodeProbe_returns_iff, encodeProbeReply_returns_iff, planeLossRecord_returns_iff,
    encodeLossReport_returns_iff⟩

end Srv6Fabric.Mrc
