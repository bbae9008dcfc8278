import Landmark.Disassembler
import Landmark.Proofs.Log.Attempt

/-! # What is relied on of decoders

A disassembler answers for the address it was asked about and has an answer in every mode there is,
whatever decoder it has. What instructions look like is up to the decoder: how many bytes they take,
and that they depend on these alone, is assumed by name wherever a property needs it.
-/

namespace Landmark

/-- A disassembler that answers for the address it was asked about. -/
def Disassembler.Located (disassembler : Disassembler) : Prop :=
  ∀ address bytes decoding, disassembler.decode address bytes = .ok decoding →
    decoding.address = address

/-- No instruction takes more bytes than fifteen. -/
def Disassembler.Short (disassembler : Disassembler) : Prop :=
  ∀ address bytes decoding, disassembler.decode address bytes = .ok decoding →
    decoding.length ≤ 15

/-- An instruction takes a byte at least. -/
def Disassembler.Advances (disassembler : Disassembler) : Prop :=
  ∀ address bytes decoding, disassembler.decode address bytes = .ok decoding → 0 < decoding.length

/-- An instruction takes at least one byte, at most fifteen and no more than there are, and depends
on the bytes it takes alone. -/
structure Steady {ε : Type} (detail : Nat → Bytes → Except ε X86.Instruction) : Prop where
  length : ∀ {address bytes whole}, detail address bytes = .ok whole →
    1 ≤ whole.length ∧ whole.length ≤ X86.maxLength ∧ whole.length ≤ bytes.length
  alone : ∀ {address bytes other whole}, detail address bytes = .ok whole →
    bytes.take whole.length = other.take whole.length → detail address other = .ok whole

/-- What is looked at to decode an instruction holds it whole. -/
theorem X86.take_window {code : Bytes} (rest : Bytes) (short : code.length ≤ X86.maxLength) :
    (code ++ rest).take X86.maxLength = code ++ rest.take (X86.maxLength - code.length) := by
  rw [List.take_append, List.take_of_length_le short]

theorem X86.Instruction.nearTarget?_eq_some_iff {whole : Instruction} {target : Nat} :
    whole.nearTarget? = some target ↔ ∃ width, .nearTarget width target ∈ whole.operands.head? := by
  unfold nearTarget?
  split
  next width address rest operands => simp [operands, eq_comm]
  next other =>
    simp only [reduceCtorEq, false_iff, not_exists]
    intro width first
    obtain ⟨rest, operands⟩ := List.head?_eq_some_iff.mp first
    exact other _ _ _ operands

namespace Disassembler

variable {detail : Nat → Bytes → Except DecodeError X86.Instruction} {address : Nat} {bytes : Bytes}
  {decoding : Decoding}

theorem ofDetail_decode_eq_ok_iff :
    (ofDetail detail).decode address bytes = .ok decoding ↔
      ∃ whole, detail address bytes = .ok whole ∧ decoding = { whole.decoding with address } := by
  change (detail address bytes).map _ = _ ↔ _
  cases detail address bytes with
  | error error => simp [Except.map]
  | ok whole => simp [Except.map, eq_comm]

theorem located_ofDetail : (ofDetail detail).Located := by
  intro address bytes decoding decoded
  obtain ⟨whole, _, rfl⟩ := ofDetail_decode_eq_ok_iff.mp decoded
  rfl

theorem advances_ofDetail (steady : Steady detail) : (ofDetail detail).Advances := by
  intro address bytes decoding decoded
  obtain ⟨whole, read, rfl⟩ := ofDetail_decode_eq_ok_iff.mp decoded
  exact (steady.length read).1

end Disassembler

variable [Decoder]

namespace Decoder

/-- No instruction takes more bytes than fifteen. -/
def Short : Prop :=
  ∀ mode address bytes whole, decode mode address bytes = .ok whole → whole.length ≤ X86.maxLength

theorem short_of_steady (steady : ∀ mode, Steady (decode mode)) : Short :=
  fun mode _ _ _ decoded => ((steady mode).length decoded).2.1

variable {bits address : Nat} {bytes : Bytes} {whole : X86.Instruction} {mode : X86.Mode}

theorem detail_eq_ok_iff : detail bits address bytes = .ok whole ↔
    ∃ mode, X86.Mode.ofBits? bits = some mode ∧ decode mode address bytes = .ok whole := by
  unfold detail
  split
  next none => simp [none]
  next mode known => simp [known, mapError_eq_ok]

theorem detail_eq_ok (known : X86.Mode.ofBits? bits = some mode)
    (decoded : decode mode address bytes = .ok whole) : detail bits address bytes = .ok whole :=
  detail_eq_ok_iff.mpr ⟨mode, known, decoded⟩

/-- In a mode that there is, the bitness is never what is wrong. -/
theorem detail_supported (known : X86.Mode.ofBits? bits = some mode) (address : Nat)
    (bytes : Bytes) (other : Nat) :
    detail bits address bytes ≠ .error (.unsupportedBitness other) := by
  intro failed
  simp only [detail, known] at failed
  cases refused : decode mode address bytes with
  | ok whole => simp [refused] at failed
  | error refusal => cases refusal <;> simp [refused, DecodeError.ofRefusal] at failed

theorem steady_detail (steady : ∀ mode, Steady (decode mode)) (bits : Nat) :
    Steady (detail bits) where
  length := by
    intro address bytes whole decoded
    obtain ⟨mode, _, decoded⟩ := detail_eq_ok_iff.mp decoded
    exact (steady mode).length decoded
  alone := by
    intro address bytes other whole decoded same
    obtain ⟨mode, known, decoded⟩ := detail_eq_ok_iff.mp decoded
    exact detail_eq_ok known ((steady mode).alone decoded same)

end Decoder

namespace Disassembler

theorem located_ofBits (bits : Nat) : (ofBits bits).Located := located_ofDetail

section Read

variable {bits address : Nat} {bytes : Bytes} {whole : X86.Instruction}
  (read : Decoder.detail bits address bytes = .ok whole)
include read

theorem ofBits_decode : (ofBits bits).decode address bytes = .ok { whole.decoding with address } :=
  ofDetail_decode_eq_ok_iff.mpr ⟨whole, read, rfl⟩

theorem ofBits_target? : (ofBits bits).target? address bytes = whole.nearTarget? := by
  change (Decoder.detail bits address bytes).toOption.bind _ = _
  rw [read]
  rfl

end Read

theorem short_ofBits (short : Decoder.Short) (bits : Nat) : (ofBits bits).Short := by
  intro address bytes decoding decoded
  obtain ⟨whole, read, rfl⟩ := ofDetail_decode_eq_ok_iff.mp decoded
  obtain ⟨mode, _, read⟩ := Decoder.detail_eq_ok_iff.mp read
  exact short mode _ _ whole read

end Disassembler

end Landmark
