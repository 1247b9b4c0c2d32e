import Srv6Fabric.Library.PackedFields
import Srv6Fabric.PyError

/-!
# Probe and loss-report packets

The codecs of `probe.py`.  Decoded payloads hold fixed-width integers: their
constructors accept exactly these ranges.
-/

namespace Srv6Fabric.Mrc

open Srv6Fabric.Library

def probeVersion : Nat := 2
def lossReportVersion : Nat := 1
def magicProbe : Nat := 0xA5
def magicProbeReply : Nat := 0xA6
def magicLossReport : Nat := 0xA7

/-- `_PROBE_FMT`: magic, version, req_id, plane_id, reserved, tx_ns, svc_time_ns,
tenant_id, src_id, reply_port. -/
def probeFmt : List Nat := [1, 1, 2, 1, 1, 8, 8, 2, 2, 2]

/-- `_LOSS_HDR_FMT`: magic, version, window_id, num_planes, reserved. -/
def lossHdrFmt : List Nat := [1, 1, 2, 2, 2]

/-- `_LOSS_REC_FMT`: plane_id, two reserved fields, seen, expected, max_gap. -/
def lossRecFmt : List Nat := [1, 1, 2, 4, 4, 4]

def probeSize : Nat := probeFmt.sum
def lossHdrSize : Nat := lossHdrFmt.sum
def lossRecSize : Nat := lossRecFmt.sum

structure Probe where
  reqId : UInt16
  planeId : UInt8
  txNs : UInt64
  tenantId : UInt16
  srcId : UInt16
  replyPort : UInt16
  deriving DecidableEq, Repr

structure ProbeReply where
  reqId : UInt16
  planeId : UInt8
  txNs : UInt64
  svcTimeNs : UInt64
  tenantId : UInt16
  srcId : UInt16
  replyPort : UInt16
  deriving DecidableEq, Repr

structure PlaneLossRecord where
  planeId : UInt8
  seen : UInt32
  expected : UInt32
  maxGap : UInt32
  deriving DecidableEq, Repr

structure LossReport where
  windowId : UInt16
  planes : List PlaneLossRecord
  deriving DecidableEq, Repr

/-! ## Range checks -/

/-- `_check_u8`, `_check_u16`, `_check_u32` and `_check_u64`. -/
def checkUint (bits : Nat) (name : String) (value : Int) : Except PyError Nat :=
  if 0 ≤ value ∧ value < 2 ^ bits then .ok value.toNat
  else .error (.valueError s!"{name} must be uint{bits}, got {value}")

/-- `PlaneLossRecord(...)`. -/
def PlaneLossRecord.new (planeId seen expected maxGap : Int) : Except PyError PlaneLossRecord := do
  let planeId ← checkUint 8 "plane_id" planeId
  let seen ← checkUint 32 "seen" seen
  let expected ← checkUint 32 "expected" expected
  let maxGap ← checkUint 32 "max_gap" maxGap
  .ok ⟨.ofNat planeId, .ofNat seen, .ofNat expected, .ofNat maxGap⟩

/-! ## Encoders -/

/-- The fields of a PROBE or PROBE_REPLY, in wire order. -/
def probeFields (magic reqId planeId txNs svcTimeNs tenantId srcId replyPort : Nat) :
    List (Nat × Nat) :=
  probeFmt.zip [magic, probeVersion, reqId, planeId, 0, txNs, svcTimeNs, tenantId, srcId, replyPort]

def encodeProbe (reqId planeId txNs tenantId srcId replyPort : Int) :
    Except PyError (List UInt8) := do
  let reqId ← checkUint 16 "req_id" reqId
  let planeId ← checkUint 8 "plane_id" planeId
  let txNs ← checkUint 64 "tx_ns" txNs
  let tenantId ← checkUint 16 "tenant_id" tenantId
  let srcId ← checkUint 16 "src_id" srcId
  let replyPort ← checkUint 16 "reply_port" replyPort
  .ok (pack (probeFields magicProbe reqId planeId txNs 0 tenantId srcId replyPort))

def encodeProbeReply (reqId planeId txNs svcTimeNs tenantId srcId replyPort : Int) :
    Except PyError (List UInt8) := do
  let reqId ← checkUint 16 "req_id" reqId
  let planeId ← checkUint 8 "plane_id" planeId
  let txNs ← checkUint 64 "tx_ns" txNs
  let svcTimeNs ← checkUint 64 "svc_time_ns" svcTimeNs
  let tenantId ← checkUint 16 "tenant_id" tenantId
  let srcId ← checkUint 16 "src_id" srcId
  let replyPort ← checkUint 16 "reply_port" replyPort
  .ok (pack (probeFields magicProbeReply reqId planeId txNs svcTimeNs tenantId srcId replyPort))

/-- One record of a LOSS_REPORT on the wire. -/
def encodeRecord (record : PlaneLossRecord) : List UInt8 :=
  pack (lossRecFmt.zip [record.planeId.toNat, 0, 0, record.seen.toNat, record.expected.toNat,
    record.maxGap.toNat])

def encodeLossReport (windowId : Int) (planes : List PlaneLossRecord) :
    Except PyError (List UInt8) := do
  let windowId ← checkUint 16 "window_id" windowId
  if 0xFFFF < planes.length then
    .error (.valueError s!"too many plane records: {planes.length} > 65535")
  else
    .ok (pack (lossHdrFmt.zip [magicLossReport, lossReportVersion, windowId, planes.length, 0])
      ++ planes.flatMap encodeRecord)

/-! ## Decoders -/

/-- Two hexadecimal digits, as `:02x` prints them. -/
def hex2 (value : Nat) : String :=
  String.ofList [(value / 16 % 16).digitChar, (value % 16).digitChar]

/-- `_decode_probe_packet`, shared by the two probe packets; a PROBE is read with its
service time, which its caller drops. -/
def decodeProbePacket (payload : List UInt8) (expectMagic : Nat) : Except PyError ProbeReply :=
  if payload.length < probeSize then
    .error (.probeDecodeError s!"probe payload too short: {payload.length} < {probeSize}")
  else
    match unpack probeFmt (payload.take probeSize) with
    | [magic, version, reqId, planeId, _, txNs, svcTimeNs, tenantId, srcId, replyPort] =>
        if magic ≠ expectMagic then
          .error (.probeDecodeError
            s!"expected magic 0x{hex2 expectMagic}, got 0x{hex2 magic}")
        else if version ≠ probeVersion then
          .error (.probeDecodeError s!"unsupported probe protocol version {version}")
        else .ok ⟨.ofNat reqId, .ofNat planeId, .ofNat txNs, .ofNat svcTimeNs, .ofNat tenantId,
          .ofNat srcId, .ofNat replyPort⟩
    | _ => .error (.structError s!"unpack requires a buffer of {probeSize} bytes")

def decodeProbe (payload : List UInt8) : Except PyError Probe := do
  let fields ← decodeProbePacket payload magicProbe
  .ok ⟨fields.reqId, fields.planeId, fields.txNs, fields.tenantId, fields.srcId, fields.replyPort⟩

def decodeProbeReply (payload : List UInt8) : Except PyError ProbeReply :=
  decodeProbePacket payload magicProbeReply

/-- One record of a LOSS_REPORT off the wire. -/
def decodeRecord (bytes : List UInt8) : PlaneLossRecord :=
  match unpack lossRecFmt bytes with
  | [planeId, _, _, seen, expected, maxGap] =>
      ⟨.ofNat planeId, .ofNat seen, .ofNat expected, .ofNat maxGap⟩
  | _ => ⟨0, 0, 0, 0⟩

/-- The record loop of `decode_loss_report`. -/
def decodeRecords : Nat → List UInt8 → List PlaneLossRecord
  | 0, _ => []
  | count + 1, bytes =>
      decodeRecord (bytes.take lossRecSize) :: decodeRecords count (bytes.drop lossRecSize)

def decodeLossReport (payload : List UInt8) : Except PyError LossReport :=
  if payload.length < lossHdrSize then
    .error (.probeDecodeError s!"loss_report payload too short: {payload.length} < {lossHdrSize}")
  else
    match unpack lossHdrFmt (payload.take lossHdrSize) with
    | [magic, version, windowId, numPlanes, _] =>
        if magic ≠ magicLossReport then
          .error (.probeDecodeError
            s!"expected LOSS_REPORT magic 0x{hex2 magicLossReport}, got 0x{hex2 magic}")
        else if version ≠ lossReportVersion then
          .error (.probeDecodeError s!"unsupported loss-report protocol version {version}")
        else
          let expectedLen := lossHdrSize + numPlanes * lossRecSize
          if payload.length < expectedLen then
            .error (.probeDecodeError (s!"loss_report truncated: got {payload.length}B, "
              ++ s!"expected {expectedLen}B for {numPlanes} plane records"))
          else .ok ⟨.ofNat windowId, decodeRecords numPlanes (payload.drop lossHdrSize)⟩
    | _ => .error (.structError s!"unpack requires a buffer of {lossHdrSize} bytes")

/-! ## Round trips -/

theorem checkUint_ok {bits : Nat} {name : String} {value : Int} {checked : Nat}
    (passed : checkUint bits name value = .ok checked) :
    (checked : Int) = value ∧ checked < 2 ^ bits := by
  unfold checkUint at passed
  split at passed
  · next inRange =>
    rw [← Except.ok.inj passed]
    refine ⟨Int.toNat_of_nonneg inRange.1, (Int.toNat_lt inRange.1).mpr ?_⟩
    exact_mod_cast inRange.2
  · cases passed

theorem checkUint_of_lt {bits : Nat} (name : String) {value : Nat} (fits : value < 2 ^ bits) :
    checkUint bits name value = .ok value := by
  have inRange : 0 ≤ (value : Int) ∧ (value : Int) < 2 ^ bits := ⟨Int.natCast_nonneg value, by
    exact_mod_cast fits⟩
  rw [checkUint, if_pos inRange, Int.toNat_natCast]

/-- The wire form of a probe packet decodes to the packet. -/
theorem decodeProbePacket_pack (reply : ProbeReply) {magic : Nat} (small : magic < 256) :
    decodeProbePacket (pack (probeFields magic reply.reqId.toNat reply.planeId.toNat
      reply.txNs.toNat reply.svcTimeNs.toNat reply.tenantId.toNat reply.srcId.toNat
      reply.replyPort.toNat)) magic = .ok reply := by
  set fields := probeFields magic reply.reqId.toNat reply.planeId.toNat reply.txNs.toNat
    reply.svcTimeNs.toNat reply.tenantId.toNat reply.srcId.toNat reply.replyPort.toNat with fieldsEq
  have size : (pack fields).length = probeSize := length_pack fields
  have fits : Fits fields := by
    have bounds := And.intro reply.reqId.toNat_lt (And.intro reply.planeId.toNat_lt
      (And.intro reply.txNs.toNat_lt (And.intro reply.svcTimeNs.toNat_lt
        (And.intro reply.tenantId.toNat_lt (And.intro reply.srcId.toNat_lt
          reply.replyPort.toNat_lt)))))
    simp [Fits, fieldsEq, probeFields, probeFmt, probeVersion]
    omega
  have read : unpack probeFmt ((pack fields).take probeSize) = fields.map Prod.snd := by
    rw [← size, List.take_length, ← List.append_nil (pack fields)]
    exact unpack_pack fits []
  rw [decodeProbePacket, if_neg (by rw [size]; exact lt_irrefl _), read]
  simp [fieldsEq, probeFields, probeFmt]

/-- A PROBE the sender could encode is decoded by the receiver to its own fields. -/
theorem decodeProbe_of_encodeProbe {reqId planeId txNs tenantId srcId replyPort : Int}
    {payload : List UInt8}
    (encoded : encodeProbe reqId planeId txNs tenantId srcId replyPort = .ok payload) :
    ∃ probe, decodeProbe payload = .ok probe ∧ (probe.reqId.toNat : Int) = reqId ∧
      (probe.planeId.toNat : Int) = planeId ∧ (probe.txNs.toNat : Int) = txNs ∧
      (probe.tenantId.toNat : Int) = tenantId ∧ (probe.srcId.toNat : Int) = srcId ∧
      (probe.replyPort.toNat : Int) = replyPort := by
  unfold encodeProbe at encoded
  obtain ⟨reqId', reqIdOk, reqIdRest⟩ := bind_eq_ok encoded
  obtain ⟨planeId', planeIdOk, planeIdRest⟩ := bind_eq_ok reqIdRest
  obtain ⟨txNs', txNsOk, txNsRest⟩ := bind_eq_ok planeIdRest
  obtain ⟨tenantId', tenantIdOk, tenantIdRest⟩ := bind_eq_ok txNsRest
  obtain ⟨srcId', srcIdOk, srcIdRest⟩ := bind_eq_ok tenantIdRest
  obtain ⟨replyPort', replyPortOk, packed⟩ := bind_eq_ok srcIdRest
  obtain ⟨rfl, reqIdLt⟩ := checkUint_ok reqIdOk
  obtain ⟨rfl, planeIdLt⟩ := checkUint_ok planeIdOk
  obtain ⟨rfl, txNsLt⟩ := checkUint_ok txNsOk
  obtain ⟨rfl, tenantIdLt⟩ := checkUint_ok tenantIdOk
  obtain ⟨rfl, srcIdLt⟩ := checkUint_ok srcIdOk
  obtain ⟨rfl, replyPortLt⟩ := checkUint_ok replyPortOk
  have decoded := decodeProbePacket_pack ⟨.ofNat reqId', .ofNat planeId', .ofNat txNs', 0,
    .ofNat tenantId', .ofNat srcId', .ofNat replyPort'⟩ (by decide : magicProbe < 256)
  simp only [UInt8.toNat_ofNat', UInt16.toNat_ofNat', UInt64.toNat_ofNat', UInt64.toNat_zero,
    Nat.mod_eq_of_lt, reqIdLt, planeIdLt, txNsLt, tenantIdLt, srcIdLt, replyPortLt] at decoded
  refine ⟨⟨.ofNat reqId', .ofNat planeId', .ofNat txNs', .ofNat tenantId', .ofNat srcId',
    .ofNat replyPort'⟩, ?_, ?_⟩
  · rw [← Except.ok.inj packed, decodeProbe, decoded]
    rfl
  · simp only [UInt8.toNat_ofNat', UInt16.toNat_ofNat', UInt64.toNat_ofNat', Nat.mod_eq_of_lt,
      reqIdLt, planeIdLt, txNsLt, tenantIdLt, srcIdLt, replyPortLt, and_self]

/-- The echo of a decoded probe can always be encoded, and decodes to the probe's own
fields. -/
theorem encodeProbeReply_echo (probe : Probe) :
    ∃ payload, encodeProbeReply probe.reqId.toNat probe.planeId.toNat probe.txNs.toNat 0
        probe.tenantId.toNat probe.srcId.toNat probe.replyPort.toNat = .ok payload ∧
      decodeProbeReply payload = .ok ⟨probe.reqId, probe.planeId, probe.txNs, 0, probe.tenantId,
        probe.srcId, probe.replyPort⟩ := by
  have decoded := decodeProbePacket_pack ⟨probe.reqId, probe.planeId, probe.txNs, 0,
    probe.tenantId, probe.srcId, probe.replyPort⟩ (by decide : magicProbeReply < 256)
  have noService : checkUint 64 "svc_time_ns" 0 = .ok 0 :=
    checkUint_of_lt "svc_time_ns" (by decide : 0 < 2 ^ 64)
  refine ⟨_, ?_, decoded⟩
  rw [encodeProbeReply, checkUint_of_lt _ probe.reqId.toNat_lt,
    checkUint_of_lt _ probe.planeId.toNat_lt, checkUint_of_lt _ probe.txNs.toNat_lt, noService,
    checkUint_of_lt _ probe.tenantId.toNat_lt, checkUint_of_lt _ probe.srcId.toNat_lt,
    checkUint_of_lt _ probe.replyPort.toNat_lt]
  rfl

@[simp] theorem length_encodeRecord (record : PlaneLossRecord) :
    (encodeRecord record).length = lossRecSize :=
  length_pack _

theorem decodeRecord_encodeRecord (record : PlaneLossRecord) :
    decodeRecord (encodeRecord record) = record := by
  set fields := lossRecFmt.zip [record.planeId.toNat, 0, 0, record.seen.toNat,
    record.expected.toNat, record.maxGap.toNat] with fieldsEq
  have fits : Fits fields := by
    have bounds := And.intro record.planeId.toNat_lt (And.intro record.seen.toNat_lt
      (And.intro record.expected.toNat_lt record.maxGap.toNat_lt))
    simp [Fits, fieldsEq, lossRecFmt]
    omega
  have read : unpack lossRecFmt (encodeRecord record) = fields.map Prod.snd := by
    rw [encodeRecord, ← fieldsEq, ← List.append_nil (pack fields)]
    exact unpack_pack fits []
  rw [decodeRecord, read]
  simp [fieldsEq, lossRecFmt]

theorem decodeRecords_encode (records : List PlaneLossRecord) (rest : List UInt8) :
    decodeRecords records.length (records.flatMap encodeRecord ++ rest) = records := by
  induction records with
  | nil => rfl
  | cons record later ih =>
      have front : ((record :: later).flatMap encodeRecord ++ rest).take lossRecSize =
          encodeRecord record := by
        simp
      have back : ((record :: later).flatMap encodeRecord ++ rest).drop lossRecSize =
          later.flatMap encodeRecord ++ rest := by
        simp
      rw [List.length_cons, decodeRecords, front, back, decodeRecord_encodeRecord, ih]

theorem length_flatMap_encodeRecord (records : List PlaneLossRecord) :
    (records.flatMap encodeRecord).length = records.length * lossRecSize := by
  induction records with
  | nil => simp
  | cons record later ih =>
      rw [List.flatMap_cons, List.length_append, length_encodeRecord, ih, List.length_cons,
        Nat.succ_mul, Nat.add_comm]

/-- A report that fits a LOSS_REPORT is decoded to itself. -/
theorem decodeLossReport_of_encodeLossReport (report : LossReport)
    (count : report.planes.length ≤ 0xFFFF) :
    ∃ payload, encodeLossReport report.windowId.toNat report.planes = .ok payload ∧
      decodeLossReport payload = .ok report := by
  set fields := lossHdrFmt.zip [magicLossReport, lossReportVersion, report.windowId.toNat,
    report.planes.length, 0] with fieldsEq
  have fits : Fits fields := by
    have bound := report.windowId.toNat_lt
    simp [Fits, fieldsEq, lossHdrFmt, magicLossReport, lossReportVersion]
    omega
  have size : (pack fields).length = lossHdrSize := length_pack fields
  refine ⟨pack fields ++ report.planes.flatMap encodeRecord, ?_, ?_⟩
  · rw [encodeLossReport, checkUint_of_lt _ report.windowId.toNat_lt]
    simp only [bind, Except.bind]
    rw [if_neg (by omega)]
  · have read : unpack lossHdrFmt ((pack fields ++ report.planes.flatMap encodeRecord).take
        lossHdrSize) = fields.map Prod.snd := by
      rw [← size, List.take_left, ← List.append_nil (pack fields)]
      exact unpack_pack fits []
    have records : decodeRecords report.planes.length
        ((pack fields ++ report.planes.flatMap encodeRecord).drop lossHdrSize) = report.planes := by
      rw [← size, List.drop_left, ← List.append_nil (report.planes.flatMap encodeRecord)]
      exact decodeRecords_encode report.planes []
    have total : (pack fields ++ report.planes.flatMap encodeRecord).length =
        lossHdrSize + report.planes.length * lossRecSize := by
      rw [List.length_append, size, length_flatMap_encodeRecord]
    have values : fields.map Prod.snd = [magicLossReport, lossReportVersion,
        report.windowId.toNat, report.planes.length, 0] := rfl
    rw [decodeLossReport, read, values, total, if_neg (by omega)]
    simp only [ne_eq, not_true_eq_false, if_false, lt_irrefl, records, UInt16.ofNat_toNat]

end Srv6Fabric.Mrc
