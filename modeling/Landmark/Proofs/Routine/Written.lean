import Landmark.Proofs.Routine.Straight
import Landmark.Proofs.X86.Readings

/-! # Reconstructing what was written

Lines written one behind another, with a return behind the last, are straight code. The
function that is reconstructed from them is what was written.
-/

namespace Landmark

open X86 (Line)
open X86.Encode (Buffer)

namespace X86.Encode.Buffer

@[simp] theorem here_emit (buffer : Buffer) (bytes : Bytes) :
    (buffer.emit bytes).here = buffer.here + bytes.length := by
  rw [here, here, emit, List.length_append, Nat.add_assoc]

theorem emit_emit (buffer : Buffer) (first second : Bytes) :
    (buffer.emit first).emit second = buffer.emit (first ++ second) := by
  rw [emit, emit, emit, List.append_assoc]

end X86.Encode.Buffer

namespace X86.Line

variable {lines : List Line} {line : Line} {address : Nat} {decoding : Decoding}

/-- Writes lines one behind another, and a return behind the last. -/
def write : List Line → Buffer → Buffer
  | [], buffer => buffer.emit [Encode.ret]
  | line :: rest, buffer => write rest (buffer.emitHere line.encode)

/-- Where the buffer stands before each instruction is written. -/
def places : List Line → Buffer → List Nat
  | [], buffer => [buffer.here]
  | line :: rest, buffer => buffer.here :: places rest (buffer.emitHere line.encode)

/-- The bytes that are written from an address on. -/
def code : List Line → Nat → Bytes
  | [], _ => [Encode.ret]
  | line :: rest, address => line.encode address ++ code rest (address + line.size)

def ending (address : Nat) : Decoding :=
  { address, length := 1, mnemonic := .ret, category := .return }

/-- What is decoded from an address on. -/
def row : List Line → Nat → List (Nat × Decoding)
  | [], address => [(address, ending address)]
  | line :: rest, address => (address, line.decoding address) :: row rest (address + line.size)

theorem write_eq (lines : List Line) (buffer : Buffer) :
    write lines buffer = buffer.emit (code lines buffer.here) := by
  induction lines generalizing buffer with
  | nil => rfl
  | cons line rest ih =>
    rw [write, ih, Buffer.emitHere, Buffer.here_emit, length_encode, Buffer.emit_emit]
    rfl

theorem places_eq (lines : List Line) (buffer : Buffer) :
    places lines buffer = (row lines buffer.here).map Prod.fst := by
  induction lines generalizing buffer with
  | nil => rfl
  | cons line rest ih =>
    rw [places, ih, Buffer.emitHere, Buffer.here_emit, length_encode]
    rfl

theorem length_row (lines : List Line) (address : Nat) :
    (row lines address).length = lines.length + 1 := by
  induction lines generalizing address with
  | nil => rfl
  | cons line rest ih => rw [row, List.length_cons, ih, List.length_cons]

end X86.Line

/-- Bytes stand whole in a segment, behind the first of it. -/
structure Segment.Shows (segment : Segment) (bytes : Bytes) (address : Nat) : Prop where
  inside : segment.base < address
  fits : address + bytes.length ≤ segment.stop
  shown : (segment.data.drop (address - segment.base)).take bytes.length = bytes

namespace Segment.Shows

variable {segment : Segment} {first second bytes : Bytes} {address : Nat}

theorem front (shows : segment.Shows (first ++ second) address) : segment.Shows first address where
  inside := shows.inside
  fits := by
    have fits := shows.fits
    rw [List.length_append] at fits
    omega
  shown := by
    have shown := congrArg (List.take first.length) shows.shown
    rw [List.take_take, List.length_append, Nat.min_eq_left (Nat.le_add_right _ _),
      List.take_left] at shown
    exact shown

theorem behind (shows : segment.Shows (first ++ second) address) :
    segment.Shows second (address + first.length) where
  inside := Nat.lt_add_right _ shows.inside
  fits := by
    have fits := shows.fits
    rwa [List.length_append, ← Nat.add_assoc] at fits
  shown := by
    have inside := shows.inside
    have shown := congrArg (List.drop first.length) shows.shown
    rw [List.length_append, List.drop_take, List.drop_left, List.drop_drop,
      Nat.add_sub_cancel_left] at shown
    rwa [Nat.sub_add_comm (Nat.le_of_lt inside)]

theorem lt_stop (shows : segment.Shows bytes address) (any : bytes ≠ []) :
    address < segment.stop :=
  Nat.lt_of_lt_of_le (Nat.lt_add_of_pos_right (List.length_pos_iff.mpr any)) shows.fits

theorem bytesFrom? (shows : segment.Shows bytes address) (any : bytes ≠ []) :
    ∃ rest, segment.bytesFrom? address = some (bytes ++ rest) := by
  have inside := shows.inside
  have below := shows.lt_stop any
  have split := List.take_append_drop bytes.length (segment.data.drop (address - segment.base))
  rw [shows.shown] at split
  refine ⟨(segment.data.drop (address - segment.base)).drop bytes.length, ?_⟩
  rw [Segment.bytesFrom?, Segment.offset?, if_pos (by omega), Option.map_some]
  exact congrArg some split.symm

theorem contains (shows : segment.Shows bytes address) (any : bytes ≠ []) :
    segment.contains address = true := by
  have inside := shows.inside
  have below := shows.lt_stop any
  unfold Segment.stop at below
  simp only [Segment.contains, Bool.and_eq_true, decide_eq_true_eq]
  omega

end Segment.Shows

namespace X86.Line

open Discovery (Task)

variable {segment : Segment} {lines : List Line} {line : Line} {limit address : Nat}

def Low (line : Line) : Prop := ∀ target, line.target? = some target → target < 2 ^ 32

/-- What is decoded is a line that stands there, or the return. -/
theorem exists_of_mem_row {place : Nat} {decoding : Decoding}
    (shows : segment.Shows (code lines address) address)
    (member : (place, decoding) ∈ row lines address) :
    (∃ line ∈ lines, decoding = line.decoding place ∧ segment.Shows (line.encode place) place) ∨
      (decoding = ending place ∧ segment.Shows [Encode.ret] place) := by
  induction lines generalizing address with
  | nil =>
    cases List.mem_singleton.mp member
    exact .inr ⟨rfl, shows⟩
  | cons line rest ih =>
    cases List.mem_cons.mp member with
    | inl here =>
      cases here
      exact .inl ⟨line, List.mem_cons_self, rfl, shows.front⟩
    | inr among =>
      have later := shows.behind
      rw [length_encode] at later
      cases ih later among with
      | inl found =>
        obtain ⟨other, member, same⟩ := found
        exact .inl ⟨other, List.mem_cons_of_mem _ member, same⟩
      | inr last => exact .inr last

theorem lt_stop_of_mem {place : Nat} (shows : segment.Shows (code lines address) address)
    (member : place ∈ (row lines address).map Prod.fst) : place < segment.stop := by
  obtain ⟨⟨_, decoding⟩, stands, rfl⟩ := List.mem_map.mp member
  rcases exists_of_mem_row shows stands with ⟨line, _, _, here⟩ | ⟨_, here⟩
  · exact here.lt_stop (line.encode_ne_nil _)
  · exact here.lt_stop (List.cons_ne_nil _ _)

theorem map_address_row (lines : List Line) (address : Nat) :
    ((row lines address).map Prod.snd).map Decoding.address =
      (row lines address).map Prod.fst := by
  induction lines generalizing address with
  | nil => rfl
  | cons line rest ih => exact congrArg (address :: ·) (ih _)

theorem stop_row (lines : List Line) (address : Nat) :
    ∃ last, ((row lines address).map Prod.snd).getLast? = some last ∧
      last.stop = address + (code lines address).length := by
  induction lines generalizing address with
  | nil => exact ⟨ending address, rfl, rfl⟩
  | cons line rest ih =>
    obtain ⟨last, found, stop⟩ := ih (address + line.size)
    refine ⟨last, ?_, ?_⟩
    · rw [row, List.map_cons, List.getLast?_cons, found, Option.getD_some]
    · rw [stop, code, List.length_append, length_encode, Nat.add_assoc]

/-! ## What is decoded -/

section Decoder

variable [Decoder]

/-- What a traversal of 32-bit code is about. -/
def task (segment : Segment) (limit : Nat) : Task :=
  { segment, disassembler := .ofBits 32, limit }

/-- What is looked at to decode begins with the bytes that stand there. -/
theorem exists_window {code : Bytes} (limit : Nat) (shows : segment.Shows code address)
    (any : code ≠ []) (short : code.length ≤ maxLength) :
    ∃ rest, (task segment limit).window? address = some (code ++ rest) := by
  obtain ⟨rest, found⟩ := shows.bytesFrom? any
  refine ⟨rest.take (maxLength - code.length), ?_⟩
  rw [Task.window?, task, shows.contains any, if_pos rfl, found, Option.map_some]
  exact congrArg some (take_window rest short)

theorem exists_window_line (limit : Nat) (shows : segment.Shows (line.encode address) address) :
    ∃ rest, (task segment limit).window? address = some (line.encode address ++ rest) :=
  exists_window limit shows (line.encode_ne_nil address)
    (by rw [length_encode]; exact line.size_le)

theorem exists_window_ending (limit : Nat) (shows : segment.Shows [Encode.ret] address) :
    ∃ rest, (task segment limit).window? address = some ([Encode.ret] ++ rest) :=
  exists_window limit shows (List.cons_ne_nil _ _) (show 1 ≤ maxLength by decide)

/-- Where a call leads that is decoded in a segment. -/
def leadsTo? (segment : Segment) (decoding : Decoding) : Option Nat :=
  (Disassembler.ofBits 32).target? decoding.address
    ((segment.bytesFrom? decoding.address).getD [])

section Decoded

variable (reads : ReadsLines) (below : segment.stop ≤ 2 ^ 32)
include reads below

theorem decodes_line_of_shows (low : line.Low)
    (shows : segment.Shows (line.encode address) address) (rest : Bytes) :
    ReadsLines.Decodes address (line.encode address ++ rest) (line.decoding address)
      line.target? := by
  have inside := shows.lt_stop (line.encode_ne_nil address)
  exact reads.decodes_line line (by omega) low rest

theorem decodes_ending_of_shows (shows : segment.Shows [Encode.ret] address) (rest : Bytes) :
    ReadsLines.Decodes address ([Encode.ret] ++ rest) (ending address) none := by
  have inside := shows.lt_stop (List.cons_ne_nil _ _)
  exact reads.decodes_ret (by omega) rest

theorem straight_row (limit : Nat) (low : ∀ line ∈ lines, line.Low)
    (shows : segment.Shows (code lines address) address) :
    (task segment limit).Straight address (row lines address) := by
  induction lines generalizing address with
  | nil =>
    obtain ⟨rest, window⟩ := exists_window_ending limit shows
    have decodes := decodes_ending_of_shows reads below shows rest
    exact .last ⟨_, window, decodes.decode⟩ rfl Nat.one_pos rfl
  | cons line others ih =>
    obtain ⟨rest, window⟩ := exists_window_line limit shows.front
    have decodes :=
      decodes_line_of_shows reads below (low line List.mem_cons_self) shows.front rest
    -- What stands behind the line is what was written from its end on.
    have later := shows.behind
    rw [length_encode] at later
    exact .onward ⟨_, window, decodes.decode⟩ rfl line.size_pos line.fallsThrough
      (ih (fun other among => low other (List.mem_cons_of_mem _ among)) later)

/-- Jumps to what is written do not lead out of it. -/
theorem inward_row (limit : Nat) (low : ∀ line ∈ lines, line.Low)
    (shows : segment.Shows (code lines address) address)
    (jumps : ∀ target, .jumpIfZero target ∈ lines → target ∈ (row lines address).map Prod.fst) :
    (task segment limit).Inward (row lines address) := by
  intro place decoding window target member found branches leads
  rcases exists_of_mem_row shows member with ⟨line, among, rfl, here⟩ | ⟨rfl, _⟩
  · obtain ⟨rest, window'⟩ := exists_window_line limit here
    obtain rfl := Option.some.inj (found.symm.trans window')
    have decodes := decodes_line_of_shows reads below (low line among) here rest
    have aim : line.target? = some target := decodes.target?.symm.trans leads
    -- Of the lines with a target only the jump goes there for good.
    cases line with
    | jumpIfZero other =>
      obtain rfl := Option.some.inj aim
      exact jumps other among
    | call other => cases branches
    | _ => cases aim
  · cases branches

/-! ## Calls -/

theorem leadsTo?_line (low : line.Low) (shows : segment.Shows (line.encode address) address) :
    leadsTo? segment (line.decoding address) = line.target? := by
  obtain ⟨rest, found⟩ := shows.bytesFrom? (line.encode_ne_nil address)
  have bytes : segment.bytesFrom? (line.decoding address).address =
      some (line.encode address ++ rest) := found
  rw [leadsTo?, bytes, Option.getD_some]
  exact (decodes_line_of_shows reads below low shows rest).target?

/-- The calls that are decoded lead where those that were written do. -/
theorem callees_row (low : ∀ line ∈ lines, line.Low)
    (shows : segment.Shows (code lines address) address) :
    (((row lines address).map Prod.snd).filter Decoding.isCall).filterMap (leadsTo? segment) =
      lines.filterMap callee? := by
  induction lines generalizing address with
  | nil => rfl
  | cons line rest ih =>
    have later := shows.behind
    rw [length_encode] at later
    have others := ih (fun other among => low other (List.mem_cons_of_mem _ among)) later
    have here := leadsTo?_line reads below (low line List.mem_cons_self) shows.front
    rw [row, List.map_cons, List.filter_cons]
    cases line with
    | call target =>
      have isCall : ((call target).decoding address).isCall = true := rfl
      rw [if_pos isCall, List.filterMap_cons_some here, others]
      rfl
    | _ => exact others

end Decoded

/-! ## The function -/

/-- A function is what was written from `base` on. -/
structure Recovers (lines : List Line) (base : Nat) (routine : Routine) : Prop where
  instructions : routine.instructions = (row lines base).map Prod.snd
  addresses : routine.instructions.map Decoding.address = places lines { base }
  gaps : routine.gaps = 0
  start : routine.start = base
  stop : routine.stop = (write lines { base }).here
  callees : (routine.callTargets none).value = lines.filterMap callee?

theorem routineOf_recovers (reads : ReadsLines) (below : segment.stop ≤ 2 ^ 32) {base : Nat}
    (low : ∀ line ∈ lines, line.Low) (shows : segment.Shows (code lines base) base) :
    Recovers lines base ((task segment limit).routineOf base (row lines base)) where
  instructions := rfl
  addresses := (map_address_row lines base).trans (places_eq lines { base }).symm
  gaps := (straight_row reads below limit low shows).gaps_routineOf
  start := (straight_row reads below limit low shows).start_routineOf
  stop := by
    obtain ⟨last, found, stop⟩ := stop_row lines base
    have here : (write lines { base }).here = base + (code lines base).length := by
      rw [write_eq, Buffer.here_emit]
      rfl
    have final : ((task segment limit).routineOf base (row lines base)).instructions.getLast? =
        some last := found
    rw [here, ← stop, Routine.stop, final]
  callees := callees_row reads below low shows

/-- **What was written is recovered.** From lines that stand whole in a segment, behind its first
byte and below the end of the address space, the function that was written is reconstructed where
the limit allows it, and it is too much where the limit does not. -/
theorem parse_write (reads : ReadsLines) (segment : Segment) (lines : List Line) (base limit : Nat)
    (shows : segment.Shows (write lines { base }).bytes base)
    (below : segment.stop ≤ 0x100000000)
    (callees : ∀ target, .call target ∈ lines → target < 0x100000000)
    (jumps : ∀ target, .jumpIfZero target ∈ lines → target ∈ places lines { base }) :
    (lines.length + 1 ≤ limit →
      ∃ routine, (Routine.parse segment (.ofBits 32) base limit).result = .ok routine ∧
        Recovers lines base routine) ∧
    (limit < lines.length + 1 →
      (Routine.parse segment (.ofBits 32) base limit).result =
        .error (.tooManyInstructions limit)) := by
  have written : (write lines { base }).bytes = code lines base := by
    rw [write_eq]
    rfl
  rw [written] at shows
  rw [places_eq] at jumps
  have low : ∀ line ∈ lines, line.Low := by
    intro line among target aim
    cases line with
    | call other => exact Option.some.inj aim ▸ callees other among
    | jumpIfZero other =>
      have stands := lt_stop_of_mem shows (jumps other among)
      exact Option.some.inj aim ▸ Nat.lt_of_lt_of_le stands below
    | _ => cases aim
  have straight := straight_row reads below limit low shows
  have inward := inward_row reads below limit low shows jumps
  have parsed := straight.result_parse inward (Disassembler.located_ofBits 32)
  rw [length_row] at parsed
  exact ⟨fun enough => ⟨_, parsed.1 enough, routineOf_recovers reads below low shows⟩, parsed.2⟩

end Decoder

/-- A loop that is entered at its head and left over its middle. -/
def loop : List Line :=
  [.pushFrame, .jumpIfZero 0x401014, .call 0x402000, .popFrame, .jumpIfZero 0x401001]

def loopSegment : Segment where
  name := ".text"
  base := 0x401000
  data := Encode.int3 :: (write loop { base := 0x401001 }).bytes

theorem loop_recovers :
    (∃ routine, (Routine.parse loopSegment (X86.disassembler 32) 0x401001 6).result = .ok routine ∧
      Recovers loop 0x401001 routine) ∧
    (Routine.parse loopSegment (X86.disassembler 32) 0x401001 5).result =
      .error (.tooManyInstructions 5) := by
  have shows : loopSegment.Shows (write loop { base := 0x401001 }).bytes 0x401001 :=
    ⟨by decide, by decide +kernel, by decide +kernel⟩
  have below : loopSegment.stop ≤ 0x100000000 := by decide +kernel
  have callees : ∀ target, .call target ∈ loop → target < 0x100000000 := by simp [loop]
  have jumps : ∀ target, .jumpIfZero target ∈ loop →
      target ∈ places loop { base := 0x401001 } := by
    have places : places loop { base := 0x401001 } =
        [0x401001, 0x401002, 0x401008, 0x40100D, 0x40100E, 0x401014] := by decide +kernel
    rw [places]
    simp [loop]
  exact ⟨
    (parse_write readsLines loopSegment loop 0x401001 6 shows below callees jumps).1 (by decide),
    (parse_write readsLines loopSegment loop 0x401001 5 shows below callees jumps).2 (by decide)⟩

end X86.Line

end Landmark
