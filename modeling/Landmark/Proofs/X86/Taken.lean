import Landmark.Proofs.Decoder
import Landmark.X86.Decode

/-! # What a scan takes

A scan takes bytes off the front and looks at none behind them, so what it yields is yielded again
whatever follows. With that goes what it yields: of all operands only the targets of near branches
depend on where the instruction stands, and such a target is as far from the next instruction as
the bytes say.
-/

namespace Landmark.X86

/-- What is yielded is as asked for, and is yielded again when other bytes stand behind those that
are taken. -/
def Scan.Takes {α : Type} (scan : Scan α) (holds : α → Prop) : Prop :=
  ∀ bytes a rest, scan bytes = .ok (a, rest) → holds a ∧
    ∃ taken, bytes = taken ++ rest ∧ ∀ other, scan (taken ++ other) = .ok (a, other)

/-- An operand that is no target of a near branch. -/
def Form.Fixed (form : Form) : Prop := ∀ next width target, form next ≠ .nearTarget width target

/-- The widths of the targets of near branches: of most it is that of branches, of the start of a
transaction that of addresses. -/
def Setting.Aims (s : Setting) (width : Width) : Prop :=
  width = s.branchWidth ∨ width = if s.mode = .bits64 then .qword else .dword

/-- A target that is as far from the next instruction as asked for. -/
def Form.Aimed (s : Setting) (form : Form) : Prop :=
  ∃ width distance, s.Aims width ∧
    ∀ next, form next = .nearTarget width ((next + distance) % width.span)

/-- The first operand is no target of a near branch, or is aimed. -/
inductive Body.Steers (s : Setting) (body : Body) : Prop where
  | straight : (∀ next width target, .nearTarget width target ∉ (body.operands next).head?) →
      Steers s body
  | aimed {form : Form} : form.Aimed s → (∀ next, (body.operands next).head? = some (form next)) →
      Steers s body

namespace Scan.Takes

variable {α β : Type} {scan : Scan α} {next : α → Scan β} {holds : α → Prop} {wanted : β → Prop}

theorem pure {a : α} (held : holds a) : (Pure.pure a : Scan α).Takes holds := by
  intro bytes b rest yielded
  cases yielded
  exact ⟨held, [], rfl, fun other => rfl⟩

theorem bind (first : scan.Takes holds) (later : ∀ a, holds a → (next a).Takes wanted) :
    (scan >>= next).Takes wanted := by
  intro bytes b rest yielded
  obtain ⟨⟨a, middle⟩, scanned, then_⟩ := bind_eq_ok.mp yielded
  obtain ⟨held, front, rfl, again⟩ := first _ _ _ scanned
  obtain ⟨done, behind, rfl, repeated⟩ := later a held _ _ _ then_
  refine ⟨done, front ++ behind, (List.append_assoc _ _ _).symm, fun other => ?_⟩
  rw [List.append_assoc]
  exact bind_eq_ok.mpr ⟨(a, behind ++ other), again _, repeated other⟩

theorem byte : Scan.byte.Takes fun _ => True := by
  intro bytes a rest yielded
  cases bytes with
  | nil => cases yielded
  | cons first later =>
    cases yielded
    exact ⟨trivial, [first], rfl, fun other => rfl⟩

theorem undefined : (Scan.undefined : Scan α).Takes holds := by
  intro bytes a rest yielded
  cases yielded

theorem unassigned : (Scan.unassigned : Scan α).Takes holds := byte.bind fun _ _ => undefined

theorem number (count : Nat) : (Scan.number count).Takes fun _ => True := by
  induction count with
  | zero => exact pure trivial
  | succ count ih => exact byte.bind fun _ _ => ih.bind fun _ _ => pure trivial

theorem signed (encoded shown : Width) : (Scan.signed encoded shown).Takes fun _ => True :=
  (number _).bind fun _ _ => pure trivial

end Scan.Takes

namespace Setting

open Scan (Takes)

variable {s : Setting} {selector : Selector} {mnemonic : Mnemonic} {opcode : Nat}

/-! ## Operands -/

theorem selector_takes : Selector.scan.Takes fun _ => True :=
  Takes.byte.bind fun _ _ => .pure trivial

theorem displacement_takes (kind : Nat) : (s.displacement kind).Takes fun _ => True := by
  unfold displacement
  split
  · exact .signed _ _
  · split
    · exact .number _
    · exact .signed _ _
  · exact .pure trivial

theorem shortPlace_takes (width : Option Width) :
    (s.shortPlace selector width).Takes fun _ => True := by
  unfold shortPlace
  split
  · exact (Takes.number _).bind fun _ _ => .pure trivial
  · exact (displacement_takes _).bind fun _ _ => .pure trivial

theorem indexedPlace_takes (kind : Nat) (width : Option Width) :
    (s.indexedPlace kind width).Takes fun _ => True := by
  refine Takes.byte.bind fun value _ => ?_
  dsimp only
  split
  · exact (displacement_takes _).bind fun _ _ => .pure trivial
  · exact (displacement_takes _).bind fun _ _ => .pure trivial

theorem place_takes (width : Option Width) : (s.place selector width).Takes fun _ => True := by
  unfold place
  split
  · exact shortPlace_takes _
  · split
    · exact indexedPlace_takes _ _
    · split
      · refine (displacement_takes _).bind fun _ _ => ?_
        split
        · exact .pure trivial
        · exact .pure trivial
      · exact (displacement_takes _).bind fun _ _ => .pure trivial

theorem operand_takes (width : Width) : (s.operand selector width).Takes Form.Fixed := by
  unfold operand
  split
  · exact .pure nofun
  · exact (place_takes _).bind fun _ _ => .pure nofun

theorem unsizedOperand_takes (width : Width) :
    (s.unsizedOperand selector width).Takes Form.Fixed := by
  unfold unsizedOperand
  split
  · exact .pure nofun
  · exact (place_takes _).bind fun _ _ => .pure nofun

theorem addressOperand_takes : (s.addressOperand selector).Takes Form.Fixed :=
  (place_takes _).bind fun _ _ => .pure nofun

theorem immediate_takes (encoded shown : Width) : (immediate encoded shown).Takes Form.Fixed :=
  (Takes.signed _ _).bind fun _ _ => .pure nofun

theorem wideImmediate_takes (width : Width) : (wideImmediate width).Takes Form.Fixed := by
  unfold wideImmediate
  split
  · exact immediate_takes _ _
  · exact immediate_takes _ _

theorem nearTarget_takes (short : Bool) : (s.nearTarget short).Takes (Form.Aimed s) := by
  unfold nearTarget
  dsimp only
  have aims : s.Aims s.branchWidth := .inl rfl
  split
  · exact (Takes.signed _ _).bind fun distance _ => .pure ⟨_, distance, aims, fun _ => rfl⟩
  · split
    · exact (Takes.number _).bind fun distance _ => .pure ⟨_, distance, aims, fun _ => rfl⟩
    · exact (Takes.signed _ _).bind fun distance _ => .pure ⟨_, distance, aims, fun _ => rfl⟩

/-! ## Instructions -/

theorem steers_of_fixed {body : Body} {form : Form} (fixed : form.Fixed)
    (first : ∀ next, (body.operands next).head? = some (form next)) : body.Steers s := by
  refine .straight fun next width target member => ?_
  rw [first] at member
  exact fixed next width target (Option.some.inj member)

theorem withLocking_takes {scan : Scan Body} (takes : scan.Takes (Body.Steers s))
    (locking : Locking) : (do return (← scan).withLocking locking).Takes (Body.Steers s) := by
  refine takes.bind fun body steers => .pure ?_
  cases steers with
  | straight other => exact .straight other
  | aimed aimed first => exact .aimed aimed first

theorem scanPair_takes : (s.scanPair mnemonic opcode).Takes (Body.Steers s) := by
  refine selector_takes.bind fun selector _ => (operand_takes _).bind fun other fixed => ?_
  dsimp only
  split
  · exact .pure (steers_of_fixed fixed fun _ => rfl)
  · exact .pure (.straight nofun)

theorem scanArithmetic_takes : (s.scanArithmetic opcode).Takes (Body.Steers s) := by
  unfold scanArithmetic
  dsimp only
  split
  · exact (immediate_takes _ _).bind fun _ _ => .pure (.straight nofun)
  · exact (wideImmediate_takes _).bind fun _ _ => .pure (.straight nofun)
  · exact .unassigned
  · exact .unassigned
  · exact withLocking_takes scanPair_takes _

theorem scanArithmeticImmediate_takes :
    (s.scanArithmeticImmediate opcode).Takes (Body.Steers s) := by
  refine selector_takes.bind fun selector _ => (operand_takes _).bind fun operand fixed => ?_
  dsimp only
  split
  · exact (immediate_takes _ _).bind fun _ _ => .pure (steers_of_fixed fixed fun _ => rfl)
  · exact (wideImmediate_takes _).bind fun _ _ => .pure (steers_of_fixed fixed fun _ => rfl)

theorem scanShift_takes {amount : Scan Form} (takes : amount.Takes Form.Fixed) :
    (s.scanShift opcode amount).Takes (Body.Steers s) :=
  selector_takes.bind fun _ _ => (operand_takes _).bind fun _ fixed =>
    takes.bind fun _ _ => .pure (steers_of_fixed fixed fun _ => rfl)

theorem scanBranch_takes (short : Bool) :
    (s.scanBranch mnemonic short).Takes (Body.Steers s) :=
  (nearTarget_takes short).bind fun _ aimed => .pure (.aimed aimed fun _ => rfl)

theorem scanLoop_takes : (s.scanLoop opcode).Takes (Body.Steers s) :=
  (nearTarget_takes true).bind fun _ aimed => .pure (.aimed aimed fun _ => rfl)

theorem scanFar_takes : (s.scanFar mnemonic).Takes (Body.Steers s) := by
  unfold scanFar
  split
  · exact .unassigned
  · exact (Takes.number _).bind fun _ _ => (Takes.number _).bind fun _ _ =>
      .pure (.straight nofun)

theorem scanReturn_takes (far drops : Bool) : (s.scanReturn far drops).Takes (Body.Steers s) := by
  unfold scanReturn
  dsimp only
  split
  · exact (immediate_takes _ _).bind fun _ fixed => .pure (steers_of_fixed fixed fun _ => rfl)
  · cases far with
    | false => exact .pure (.straight nofun)
    | true => exact .pure (.straight nofun)

theorem scanPushImmediate_takes (short : Bool) :
    (s.scanPushImmediate short).Takes (Body.Steers s) := by
  unfold scanPushImmediate
  dsimp only
  split
  · exact (immediate_takes _ _).bind fun _ fixed => .pure (steers_of_fixed fixed fun _ => rfl)
  · exact (wideImmediate_takes _).bind fun _ fixed => .pure (steers_of_fixed fixed fun _ => rfl)

theorem scanMoveOutright_takes : (s.scanMoveOutright opcode).Takes (Body.Steers s) := by
  refine (Takes.number _).bind fun address _ => .pure ?_
  split
  · exact .straight nofun
  · exact .straight nofun

theorem scanMoveImmediate_takes : (s.scanMoveImmediate opcode).Takes (Body.Steers s) := by
  refine selector_takes.bind fun selector _ => ?_
  dsimp only
  split
  · exact (operand_takes _).bind fun _ fixed => (wideImmediate_takes _).bind fun _ _ =>
      .pure (steers_of_fixed fixed fun _ => rfl)
  · split
    · exact (Takes.signed _ _).bind fun distance _ =>
        .pure (.aimed ⟨_, distance, .inr rfl, fun _ => rfl⟩ fun _ => rfl)
    · exact .undefined

theorem scanUnary_takes : (s.scanUnary opcode).Takes (Body.Steers s) := by
  refine selector_takes.bind fun selector _ => (operand_takes _).bind fun operand fixed => ?_
  split
  · exact (wideImmediate_takes _).bind fun _ _ => .pure (steers_of_fixed fixed fun _ => rfl)
  · exact (wideImmediate_takes _).bind fun _ _ => .pure (steers_of_fixed fixed fun _ => rfl)
  all_goals exact .pure (steers_of_fixed fixed fun _ => rfl)

theorem scanStep_takes : (s.scanStep opcode).Takes (Body.Steers s) := by
  refine selector_takes.bind fun selector _ => ?_
  have alone : ∀ {instruction : Form → Body} (width : Width),
      (∀ form next, ((instruction form).operands next).head? = some (form next)) →
      (do return instruction (← s.operand selector width)).Takes (Body.Steers s) :=
    fun width first =>
      (operand_takes width).bind fun form fixed => .pure (steers_of_fixed fixed (first form))
  dsimp only
  split
  · exact alone _ fun _ _ => rfl
  · exact alone _ fun _ _ => rfl
  · exact alone _ fun _ _ => rfl
  · exact alone _ fun _ _ => rfl
  · exact alone _ fun _ _ => rfl
  · exact .undefined

theorem scanNop_steers : s.scanNop.Steers s := by
  unfold scanNop
  dsimp only
  split
  · exact .straight nofun
  · split
    · exact .straight nofun
    · split
      · exact .straight nofun
      · exact .straight nofun

theorem scanWiden_takes (source : Width) :
    (s.scanWiden mnemonic source).Takes (Body.Steers s) :=
  selector_takes.bind fun _ _ => (operand_takes _).bind fun _ _ => .pure (.straight nofun)

theorem scanExtended_takes : s.scanExtended.Takes (Body.Steers s) := by
  refine Takes.byte.bind fun opcode _ => ?_
  split
  · exact scanBranch_takes _
  · split
    · exact .pure (.straight nofun)
    · refine selector_takes.bind fun selector _ => ?_
      split
      · exact (unsizedOperand_takes _).bind fun _ fixed =>
          .pure (steers_of_fixed fixed fun _ => rfl)
      · exact .undefined
    · exact selector_takes.bind fun _ _ => (operand_takes _).bind fun _ _ =>
        .pure (.straight nofun)
    · exact scanWiden_takes _
    · exact scanWiden_takes _
    · exact scanWiden_takes _
    · exact scanWiden_takes _
    · exact .unassigned

theorem scanSingle_takes : (s.scanSingle opcode).Takes (Body.Steers s) := by
  unfold scanSingle
  split
  case h_1 =>
    split
    · exact scanWiden_takes _
    · exact .unassigned
  case h_2 | h_4 => exact scanPushImmediate_takes _
  case h_3 =>
    exact selector_takes.bind fun _ _ => (operand_takes _).bind fun _ _ =>
      (wideImmediate_takes _).bind fun _ _ => .pure (.straight nofun)
  case h_5 =>
    exact selector_takes.bind fun _ _ => (operand_takes _).bind fun _ _ =>
      (immediate_takes _ _).bind fun _ _ => .pure (.straight nofun)
  case h_6 | h_7 | h_8 => exact scanArithmeticImmediate_takes
  case h_9 | h_10 => exact scanPair_takes
  case h_11 | h_12 | h_13 | h_14 => exact withLocking_takes scanPair_takes _
  case h_15 =>
    refine selector_takes.bind fun selector _ => ?_
    split
    · exact .undefined
    · exact addressOperand_takes.bind fun _ _ => .pure (.straight nofun)
  case h_16 =>
    refine selector_takes.bind fun selector _ => ?_
    split
    · exact (operand_takes _).bind fun _ fixed => .pure (steers_of_fixed fixed fun _ => rfl)
    · exact .undefined
  case h_17 => exact .pure scanNop_steers
  case h_18 | h_36 =>
    split
    all_goals exact .pure (.straight nofun)
  case h_19 | h_47 => exact scanFar_takes
  case h_20 | h_21 | h_22 | h_23 => exact scanMoveOutright_takes
  case h_24 => exact (immediate_takes _ _).bind fun _ _ => .pure (.straight nofun)
  case h_25 => exact (wideImmediate_takes _).bind fun _ _ => .pure (.straight nofun)
  case h_26 | h_27 => exact scanShift_takes (immediate_takes _ _)
  case h_28 | h_29 | h_32 | h_33 => exact scanReturn_takes _ _
  case h_30 | h_31 => exact scanMoveImmediate_takes
  case h_34 | h_49 => exact .pure (.straight nofun)
  case h_35 =>
    exact (immediate_takes _ _).bind fun _ fixed => .pure (steers_of_fixed fixed fun _ => rfl)
  case h_37 | h_38 | h_39 | h_40 => exact scanShift_takes (.pure nofun)
  case h_41 | h_42 | h_43 | h_44 => exact scanLoop_takes
  case h_45 | h_46 | h_48 => exact scanBranch_takes _
  case h_50 | h_51 => exact scanUnary_takes
  case h_52 | h_53 => exact scanStep_takes
  case h_54 => exact .unassigned

theorem scanBody_takes : (s.scanBody opcode).Takes (Body.Steers s) := by
  unfold scanBody
  split
  · exact scanExtended_takes
  · split
    · exact scanArithmetic_takes
    · split
      · exact .pure (.straight nofun)
      · exact .pure (.straight nofun)
      · exact .pure (.straight nofun)
      · exact .pure (.straight nofun)
      · exact scanBranch_takes _
      · exact scanBranch_takes _
      · exact (immediate_takes _ _).bind fun _ _ => .pure (.straight nofun)
      · exact (immediate_takes _ _).bind fun _ _ => .pure (.straight nofun)
      · exact scanSingle_takes

end Setting

/-! ## Prefixes -/

/-- What the bytes of prefixes change: outside 64-bit mode no register is extended, and only one
byte changes the size of operands. -/
structure Prefixes.Follow (mode : Mode) (seen : Prefixes) (taken : Bytes) (found : Prefixes) :
    Prop where
  extension : mode ≠ .bits64 → seen.extension = none → found.extension = none
  operandSize : 0x66 ∉ taken → found.operandSize = seen.operandSize

theorem Prefixes.follow_of_note? {mode : Mode} {seen more : Prefixes} {byte : UInt8}
    (noted : seen.note? mode byte.toNat = some more) : Follow mode seen [byte] more := by
  unfold note? at noted
  split at noted
  case h_7 same =>
    cases noted
    refine ⟨fun _ _ => rfl, fun other => absurd ?_ other⟩
    rw [List.mem_singleton]
    exact UInt8.toNat_inj.mp same.symm
  case h_12 =>
    split at noted
    next extended =>
      cases noted
      exact ⟨fun other => absurd extended.1 other, fun _ => rfl⟩
    next => cases noted
  all_goals
    cases noted
    exact ⟨fun _ _ => rfl, fun _ => rfl⟩

theorem Prefixes.exists_taken {mode : Mode} {seen found : Prefixes} {bytes rest : Bytes}
    {opcode : Nat} (scanned : Prefixes.scan mode seen bytes = .ok ((found, opcode), rest)) :
    ∃ taken, taken ≠ [] ∧ bytes = taken ++ rest ∧ Follow mode seen taken found ∧
      ∀ other, Prefixes.scan mode seen (taken ++ other) = .ok ((found, opcode), other) := by
  induction bytes generalizing seen with
  | nil => cases scanned
  | cons byte later ih =>
    unfold Prefixes.scan at scanned
    split at scanned
    next more noted =>
      obtain ⟨taken, _, rfl, follow, again⟩ := ih scanned
      have first := follow_of_note? noted
      refine ⟨byte :: taken, List.cons_ne_nil _ _, rfl, ⟨?_, ?_⟩, fun other => ?_⟩
      · exact fun other none => follow.extension other (first.extension other none)
      · intro absent
        rw [List.mem_cons, not_or] at absent
        rw [follow.operandSize absent.2, first.operandSize (by simpa using absent.1)]
      · rw [List.cons_append, Prefixes.scan, noted]
        exact again other
    next noted =>
      cases scanned
      refine ⟨[byte], List.cons_ne_nil _ _, rfl, ⟨fun _ none => none, fun _ => rfl⟩, ?_⟩
      intro other
      rw [List.singleton_append, Prefixes.scan, noted]

/-! ## Whole instructions -/

/-- Bytes are taken as an instruction, whatever stands behind them. -/
structure Stands (mode : Mode) (taken : Bytes) (s : Setting) (body : Body) : Prop where
  filled : taken ≠ []
  takes : ∀ other, scanInstruction mode (taken ++ other) = .ok ((s, body), other)
  steers : body.Steers s
  mode_eq : s.mode = mode
  follow : ∃ front, front <+: taken ∧ Prefixes.Follow mode {} front s.prefixes

theorem exists_stands {mode : Mode} {bytes rest : Bytes} {s : Setting} {body : Body}
    (scanned : scanInstruction mode bytes = .ok ((s, body), rest)) :
    ∃ taken, bytes = taken ++ rest ∧ Stands mode taken s body := by
  obtain ⟨⟨⟨prefixes, opcode⟩, middle⟩, opened, onward⟩ := bind_eq_ok.mp scanned
  obtain ⟨⟨read, last⟩, closed, checked⟩ := bind_eq_ok.mp onward
  obtain ⟨front, filled, rfl, follow, again⟩ := Prefixes.exists_taken opened
  obtain ⟨steers, behind, rfl, repeated⟩ := Setting.scanBody_takes _ _ _ closed
  dsimp only at checked
  split at checked
  next => cases checked
  next unlocked =>
    cases checked
    refine ⟨front ++ behind, (List.append_assoc _ _ _).symm, ?_, fun other => ?_, steers, rfl,
      front, List.prefix_append _ _, follow⟩
    · exact List.append_ne_nil_of_left_ne_nil filled _
    · rw [List.append_assoc]
      refine bind_eq_ok.mpr ⟨_, again _, bind_eq_ok.mpr ⟨_, repeated other, ?_⟩⟩
      dsimp only
      rw [if_neg unlocked]
      rfl

/-! ## Decoding -/

section Decoding

variable {mode : Mode} {address : Nat} {bytes : Bytes} {s : Setting} {body : Body}
  {instruction : Instruction}

/-- Bytes that are taken as an instruction whatever stands behind them are decoded as it. -/
theorem decodeIn_of_takes {code : Bytes} (address : Nat) (rest : Bytes)
    (short : code.length ≤ maxLength)
    (takes : ∀ rest, scanInstruction mode (code ++ rest) = .ok ((s, body), rest)) :
    decodeIn mode address (code ++ rest) = .ok (assemble address code.length s body) := by
  have length : (code ++ rest.take (maxLength - code.length)).length -
      (rest.take (maxLength - code.length)).length = code.length := by
    rw [List.length_append]
    exact Nat.add_sub_cancel _ _
  unfold decodeIn
  dsimp only
  rw [take_window rest short, takes]
  dsimp only
  rw [length]

/-- What is decoded is decoded of the bytes it takes, wherever they stand. -/
theorem exists_stands_of_decodeIn (decoded : decodeIn mode address bytes = .ok instruction) :
    ∃ taken rest s body, bytes = taken ++ rest ∧ taken.length ≤ maxLength ∧
      Stands mode taken s body ∧ instruction = assemble address taken.length s body := by
  unfold decodeIn at decoded
  dsimp only at decoded
  split at decoded
  next s body rest scanned =>
    obtain rfl := Except.ok.inj decoded
    obtain ⟨taken, whole, stands⟩ := exists_stands scanned
    have few : taken.length ≤ maxLength := by
      have length := congrArg List.length whole
      have short : (bytes.take maxLength).length ≤ maxLength := List.length_take_le _ _
      rw [List.length_append] at length
      omega
    refine ⟨taken, rest ++ bytes.drop maxLength, s, body, ?_, few, stands, ?_⟩
    · rw [← List.append_assoc, ← whole, List.take_append_drop]
    · rw [whole, List.length_append, Nat.add_sub_cancel]
  next => cases decoded
  next => cases decoded

theorem Stands.decodeIn_eq {taken : Bytes} (stands : Stands mode taken s body)
    (few : taken.length ≤ maxLength) (address : Nat) (rest : Bytes) :
    decodeIn mode address (taken ++ rest) = .ok (assemble address taken.length s body) :=
  decodeIn_of_takes address rest few stands.takes

end Decoding

theorem steady_decodeIn (mode : Mode) : Steady (decodeIn mode) where
  length := by
    intro address bytes whole decoded
    obtain ⟨taken, rest, s, body, rfl, few, stands, rfl⟩ := exists_stands_of_decodeIn decoded
    refine ⟨List.length_pos_iff.mpr stands.filled, few, ?_⟩
    rw [List.length_append]
    exact Nat.le_add_right _ _
  alone := by
    intro address bytes other whole decoded same
    obtain ⟨taken, rest, s, body, rfl, few, stands, rfl⟩ := exists_stands_of_decodeIn decoded
    have front : other.take taken.length = taken := same.symm.trans List.take_left
    rw [← List.take_append_drop taken.length other, front]
    exact stands.decodeIn_eq few address _

/-- The decoder takes one byte to fifteen, and depends on these alone. -/
theorem steady_decoder (mode : Mode) : Steady (Decoder.decode mode) := steady_decodeIn mode

theorem short_decoder : Decoder.Short := Decoder.short_of_steady steady_decoder

end Landmark.X86
