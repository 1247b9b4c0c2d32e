import Mathlib.Algebra.Order.Ring.Nat
import Mathlib.Data.List.Basic
import Mathlib.Tactic.Ring

/-!
# Packed big-endian fields

A record of unsigned integers laid out one after the other in network byte order, each
in a fixed number of bytes: the layout `struct` gives a format that starts with `!`.
-/

namespace Srv6Fabric.Library

/-! ## One integer -/

/-- The low `width` bytes of a number, most significant first. -/
def bytesOf : Nat → Nat → List UInt8
  | 0, _ => []
  | width + 1, value => UInt8.ofNat (value / 256 ^ width % 256) :: bytesOf width value

/-- The number a byte string spells. -/
def valueOf : List UInt8 → Nat
  | [] => 0
  | byte :: rest => byte.toNat * 256 ^ rest.length + valueOf rest

@[simp] theorem length_bytesOf (width value : Nat) : (bytesOf width value).length = width := by
  induction width with
  | zero => rfl
  | succ width ih => simp [bytesOf, ih]

theorem valueOf_bytesOf_mod (width value : Nat) :
    valueOf (bytesOf width value) = value % 256 ^ width := by
  induction width with
  | zero => simp [bytesOf, valueOf, Nat.mod_one]
  | succ width ih =>
      have digit : (UInt8.ofNat (value / 256 ^ width % 256)).toNat = value / 256 ^ width % 256 := by
        simp
      rw [bytesOf, valueOf, length_bytesOf, ih, digit, Nat.pow_succ, Nat.mod_mul]
      ring

/-- Reading a field gives back the number that was written, if it fits. -/
theorem valueOf_bytesOf {width value : Nat} (fits : value < 256 ^ width) :
    valueOf (bytesOf width value) = value := by
  rw [valueOf_bytesOf_mod, Nat.mod_eq_of_lt fits]

theorem valueOf_lt (bytes : List UInt8) : valueOf bytes < 256 ^ bytes.length := by
  induction bytes with
  | nil => exact Nat.one_pos
  | cons byte rest ih =>
      have digit : byte.toNat + 1 ≤ 256 := byte.toNat_lt
      calc byte.toNat * 256 ^ rest.length + valueOf rest
          < (byte.toNat + 1) * 256 ^ rest.length := by
            rw [Nat.succ_mul]
            exact Nat.add_lt_add_left ih _
        _ ≤ 256 * 256 ^ rest.length := Nat.mul_le_mul_right _ digit
        _ = 256 ^ (byte :: rest).length := by rw [List.length_cons, Nat.pow_succ, Nat.mul_comm]

/-- The low bytes of a number do not depend on what lies above them. -/
theorem bytesOf_add_valueOf (high : Nat) (bytes : List UInt8) :
    bytesOf bytes.length (high * 256 ^ bytes.length + valueOf bytes) = bytes := by
  induction bytes generalizing high with
  | nil => rfl
  | cons byte rest ih =>
      have positive : 0 < 256 ^ rest.length := Nat.pow_pos (by decide)
      have split : high * 256 ^ (byte :: rest).length + valueOf (byte :: rest) =
          (high * 256 + byte.toNat) * 256 ^ rest.length + valueOf rest := by
        rw [valueOf, List.length_cons, Nat.pow_succ]
        ring
      have digit : ((high * 256 + byte.toNat) * 256 ^ rest.length + valueOf rest) /
          256 ^ rest.length = high * 256 + byte.toNat := by
        rw [Nat.mul_comm, Nat.mul_add_div positive, Nat.div_eq_of_lt (valueOf_lt rest),
          Nat.add_zero]
      rw [split, List.length_cons, bytesOf, digit, Nat.mul_add_mod_of_lt byte.toNat_lt, ih,
        UInt8.ofNat_toNat]

/-- Writing the number a byte string spells gives back the byte string. -/
theorem bytesOf_valueOf (bytes : List UInt8) : bytesOf bytes.length (valueOf bytes) = bytes := by
  simpa using bytesOf_add_valueOf 0 bytes

@[simp] theorem bytesOf_zero (width : Nat) : bytesOf width 0 = List.replicate width 0 := by
  induction width with
  | zero => rfl
  | succ width ih => simp [bytesOf, ih, List.replicate_succ]

/-! ## A record -/

/-- Write the fields of a record, each given by its width and its value. -/
def pack : List (Nat × Nat) → List UInt8
  | [] => []
  | (width, value) :: rest => bytesOf width value ++ pack rest

/-- Read fields of the given widths off the front of a byte string. -/
def unpack : List Nat → List UInt8 → List Nat
  | [], _ => []
  | width :: rest, bytes => valueOf (bytes.take width) :: unpack rest (bytes.drop width)

/-- Every value fits its field. -/
def Fits (fields : List (Nat × Nat)) : Prop :=
  ∀ field ∈ fields, field.2 < 256 ^ field.1

@[simp] theorem length_pack (fields : List (Nat × Nat)) :
    (pack fields).length = (fields.map Prod.fst).sum := by
  induction fields with
  | nil => rfl
  | cons field rest ih => simp [pack, ih]

/-- What was packed is unpacked, whatever follows it. -/
theorem unpack_pack {fields : List (Nat × Nat)} (fits : Fits fields) (rest : List UInt8) :
    unpack (fields.map Prod.fst) (pack fields ++ rest) = fields.map Prod.snd := by
  induction fields with
  | nil => rfl
  | cons field later ih =>
      obtain ⟨width, value⟩ := field
      have head : value < 256 ^ width := fits _ List.mem_cons_self
      have front : (pack ((width, value) :: later) ++ rest).take width = bytesOf width value := by
        simp [pack]
      have back : (pack ((width, value) :: later) ++ rest).drop width = pack later ++ rest := by
        simp [pack]
      rw [List.map_cons, unpack, front, back, valueOf_bytesOf head,
        ih fun field mem => fits field (List.mem_cons_of_mem _ mem)]
      rfl

theorem valueOf_take_lt (width : Nat) (bytes : List UInt8) :
    valueOf (bytes.take width) < 256 ^ width :=
  lt_of_lt_of_le (valueOf_lt _) (Nat.pow_le_pow_right (by decide) (by simp))

/-- A field of one byte spells that byte. -/
theorem valueOf_take_one_eq_iff {bytes : List UInt8} (some_ : 0 < bytes.length) {value : Nat}
    (small : value < 256) :
    valueOf (bytes.take 1) = value ↔ bytes[0]? = some (.ofNat value) := by
  obtain ⟨byte, rest, rfl⟩ := List.exists_cons_of_length_pos some_
  have here : valueOf ((byte :: rest).take 1) = byte.toNat := by simp [valueOf]
  rw [here, List.getElem?_cons_zero, Option.some.injEq]
  constructor
  · rintro rfl
    rw [UInt8.ofNat_toNat]
  · rintro rfl
    exact UInt8.toNat_ofNat_of_lt' small

/-- Reading fields looks no further than their widths. -/
theorem unpack_take {widths : List Nat} {size : Nat} (covered : widths.sum ≤ size)
    (bytes : List UInt8) : unpack widths (bytes.take size) = unpack widths bytes := by
  induction widths generalizing size bytes with
  | nil => rfl
  | cons width rest ih =>
      rw [List.sum_cons] at covered
      rw [unpack, unpack, List.take_take, Nat.min_eq_left (by omega), List.drop_take,
        ih (by omega)]

/-! ## Reserved fields -/

/-- The fields of a layout read off a byte string, those that are not kept as zero. -/
def keptFields : List (Nat × Bool) → List UInt8 → List (Nat × Nat)
  | [], _ => []
  | (width, kept) :: rest, bytes =>
      (width, if kept then valueOf (bytes.take width) else 0) :: keptFields rest (bytes.drop width)

/-- The bytes of a layout, with zeros in the fields that are not kept. -/
def zeroed : List (Nat × Bool) → List UInt8 → List UInt8
  | [], _ => []
  | (width, kept) :: rest, bytes =>
      (if kept then bytes.take width else List.replicate width 0) ++ zeroed rest (bytes.drop width)

/-- Packing what was unpacked gives back the bytes of the kept fields. -/
theorem pack_keptFields {layout : List (Nat × Bool)} {bytes : List UInt8}
    (enough : (layout.map Prod.fst).sum ≤ bytes.length) :
    pack (keptFields layout bytes) = zeroed layout bytes := by
  induction layout generalizing bytes with
  | nil => rfl
  | cons field rest ih =>
      obtain ⟨width, kept⟩ := field
      rw [List.map_cons, List.sum_cons] at enough
      have here : (bytes.take width).length = width := List.length_take_of_le (by omega)
      have later : (rest.map Prod.fst).sum ≤ (bytes.drop width).length := by
        rw [List.length_drop]
        omega
      rw [keptFields, pack, zeroed, ih later]
      cases kept with
      | true =>
          have written := bytesOf_valueOf (bytes.take width)
          rw [here] at written
          rw [if_pos rfl, if_pos rfl, written]
      | false => simp

theorem zeroed_append (first second : List (Nat × Bool)) (bytes : List UInt8) :
    zeroed (first ++ second) bytes =
      zeroed first bytes ++ zeroed second (bytes.drop (first.map Prod.fst).sum) := by
  induction first generalizing bytes with
  | nil => rfl
  | cons field rest ih =>
      obtain ⟨width, kept⟩ := field
      simp only [List.cons_append, zeroed, ih, List.append_assoc, List.map_cons, List.sum_cons,
        List.drop_drop]

end Srv6Fabric.Library
