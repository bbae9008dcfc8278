import Landmark.Fatal
import Landmark.Proofs.Checked.Header
import Landmark.Proofs.Image.Spill

/-! # Images that are mapped already

Of an image that is mapped already only the first page is sure to be there, so its size is found
there, by a reader of its own. The readers of the whole image say the same size wherever the
optional header ends on the first page, and only there is a size found.
-/

namespace Landmark

namespace Image

variable {area other : Bytes} {start count offset base size : Nat} {headers : Headers}

/-- A fault of an image that is mapped already, as one of the whole analysis. -/
def MappedFault.fatal (fault : MappedFault) : Fatal := .noHostImage fault.message

/-- The part of an image that is always mapped. -/
def firstPage (area : Bytes) : Bytes := area.take pageSize

/-- The size that a page tells of the image it is the first of. -/
def sizeByPage (page : Bytes) : Except MappedFault Nat := do
  let offset ← (readWord page 4 60).mapError .unreadable
  if page.slice? offset 4 ≠ some peSignature then throw (.noSignature offset)
  let size ← (readWord page 2 (offset + 20)).mapError .unreadable
  let optional ← (readOptionalHeader page (offset + 24) size).mapError .unreadable
  return max optional.imageSize pageSize

theorem mappedSize_eq (area : Bytes) : mappedSize area = sizeByPage (firstPage area) := rfl

/-- Where the real header stands, by the last number of the first one. -/
def nextHeaderAt (bytes : Bytes) : Nat := bytes.field 4 60

/-- The headers can be read as far as the optional one goes, and it ends on the first page. -/
structure Paged (area : Bytes) (start : Nat) : Prop where
  signed : (area.drop start).take 4 = peSignature
  optional : ∀ condition ∈ optionalGrammar area start, condition.holds = true
  room : tableAt area start ≤ pageSize

theorem window_firstPage (inside : offset + count ≤ pageSize) :
    ((firstPage area).drop offset).take count = (area.drop offset).take count := by
  rw [firstPage, List.drop_take, List.take_take, Nat.min_eq_left (by omega)]

theorem field_firstPage (inside : offset + count ≤ pageSize) :
    (firstPage area).field count offset = area.field count offset :=
  congrArg Bytes.toNat (window_firstPage inside)

theorem Headed.paged (headed : Headed area start) (room : tableAt area start ≤ pageSize) :
    Paged area start where
  signed := headed.signed
  optional := headed.optional
  room

/-- The size of the image is the same on the first page as in the whole. -/
theorem Paged.imageSize_eq (paged : Paged area start) :
    (optionalHeaderAt (firstPage area) start).imageSize =
      (optionalHeaderAt area start).imageSize := by
  have fixed := directoriesAt_le_tableAt paged.optional
  have least := (layoutAt area start).fixedSize_bounds.1
  have room := paged.room
  unfold directoriesAt at fixed
  exact field_firstPage (by omega)

section Long

variable (long : pageSize ≤ area.length)
include long

theorem length_firstPage : (firstPage area).length = pageSize := List.length_take_of_le long

/-- The grammar of the first page is that of the whole and that the optional header ends there. -/
theorem optionalGrammar_firstPage (inside : start + 22 ≤ pageSize) :
    (∀ condition ∈ optionalGrammar (firstPage area) start, condition.holds = true) ↔
      (∀ condition ∈ optionalGrammar area start, condition.holds = true) ∧
        tableAt area start ≤ pageSize := by
  have size : optionalSizeAt (firstPage area) start = optionalSizeAt area start :=
    field_firstPage (by omega)
  by_cases room : start + 24 + optionalSizeAt area start ≤ pageSize ∧ 2 ≤ optionalSizeAt area start
  case neg =>
    simp only [optionalGrammar, length_firstPage long, size, List.mem_cons, List.not_mem_nil,
      or_false, forall_eq_or_imp, forall_eq, decide_eq_true_eq, tableAt]
    constructor
    · rintro ⟨whole, large, _⟩
      exact absurd ⟨whole, large⟩ room
    · rintro ⟨⟨_, large, _⟩, whole⟩
      exact absurd ⟨whole, large⟩ room
  have magic : magicAt (firstPage area) start = magicAt area start := field_firstPage (by omega)
  have layout : layoutAt (firstPage area) start = layoutAt area start := by
    rw [layoutAt, magic, layoutAt]
  simp only [optionalGrammar, length_firstPage long, size, magic, layout, List.mem_cons,
    List.not_mem_nil, or_false, forall_eq_or_imp, forall_eq, decide_eq_true_eq, tableAt]
  omega

theorem readWord_nextHeader : readWord (firstPage area) 4 60 = .ok (nextHeaderAt area) := by
  have page := length_firstPage long
  rw [readWord_of_fits (by rw [page]; decide), field_firstPage (by decide), nextHeaderAt]

theorem Paged.mappedSize_eq (paged : Paged area (nextHeaderAt area)) :
    mappedSize area =
      .ok (max (optionalHeaderAt area (nextHeaderAt area)).imageSize pageSize) := by
  have page := length_firstPage long
  have next := readWord_nextHeader long
  have same := paged.imageSize_eq
  have room := paged.room
  generalize nextHeaderAt area = start at *
  unfold tableAt at room
  have sliced : (firstPage area).slice? start 4 = some peSignature :=
    Bytes.slice?_eq_some_iff.mpr
      ⟨by omega, ((window_firstPage (by omega)).trans paged.signed).symm⟩
  have sized : readWord (firstPage area) 2 (start + 20) =
      .ok (optionalSizeAt (firstPage area) start) := readWord_of_fits (by omega)
  have optional : readOptionalHeader (firstPage area) (start + 24)
      (optionalSizeAt (firstPage area) start) = .ok (optionalHeaderAt (firstPage area) start) := by
    rw [readOptionalHeader_eq, judged_eq_ok_iff]
    exact ⟨(optionalGrammar_firstPage long (by omega)).mpr ⟨paged.optional, paged.room⟩, rfl⟩
  rw [Image.mappedSize_eq, sizeByPage, next, mapError_ok, ok_bind, if_neg (not_not.mpr sliced),
    sized, mapError_ok]
  change (readOptionalHeader _ _ _).mapError _ >>= _ = _
  rw [optional, ← same]
  rfl

theorem paged_of_mappedSize (found : mappedSize area = .ok size) :
    Paged area (nextHeaderAt area) := by
  have page := length_firstPage long
  rw [mappedSize_eq, sizeByPage, readWord_nextHeader long, mapError_ok, ok_bind] at found
  generalize nextHeaderAt area = start at *
  split at found
  · cases found
  next sliced =>
    obtain ⟨_, signed⟩ := Bytes.slice?_eq_some_iff.mp (not_not.mp sliced)
    obtain ⟨_, sized, found⟩ := bind_eq_ok.mp found
    obtain ⟨inside, rfl⟩ := readWord_eq_ok_iff.mp (mapError_eq_ok.mp sized)
    obtain ⟨_, optional, _⟩ := bind_eq_ok.mp found
    have judgement := (readOptionalHeader_eq (firstPage area) start).symm.trans
      (mapError_eq_ok.mp optional)
    obtain ⟨held, room⟩ :=
      (optionalGrammar_firstPage long (by omega)).mp (judged_eq_ok_iff.mp judgement).1
    exact {
      signed := (window_firstPage (by omega)).symm.trans signed.symm
      optional := held
      room }

/-- A size is found just where the first page holds the headers up to the end of the optional
one. -/
theorem mappedSize_eq_ok_iff :
    mappedSize area = .ok size ↔ Paged area (nextHeaderAt area) ∧
      size = max (optionalHeaderAt area (nextHeaderAt area)).imageSize pageSize := by
  constructor
  · intro found
    have paged := paged_of_mappedSize long found
    exact ⟨paged, Except.ok.inj (found.symm.trans (paged.mappedSize_eq long))⟩
  · rintro ⟨paged, rfl⟩
    exact paged.mappedSize_eq long

end Long

end Image

open Image

namespace Comes

theorem adapt {ε δ α : Type} {machine : Guarded ε α} {result : Except ε α} (f : ε → δ)
    (comes : Comes machine result) : Comes (ExceptT.adapt f machine) (result.mapError f) := by
  unfold Comes at comes
  subst comes
  rfl

end Comes

namespace Checked

def sizeByPage (page : Bytes) : Guarded MappedFault Nat := do
  let offset ← .ofResult ((readWord page 4 60).mapError MappedFault.unreadable)
  let behind ← ExceptT.lift (add offset 4)
  if page.slice? offset (behind - offset) ≠ some peSignature then throw (.noSignature offset)
  let sizeAt ← ExceptT.lift (add behind 16)
  let size ← .ofResult ((readWord page 2 sizeAt).mapError .unreadable)
  let optionalAt ← ExceptT.lift (add behind 20)
  let optional ← ExceptT.adapt .unreadable (readOptionalHeader page optionalAt size)
  return max optional.imageSize pageSize

/-- Takes the first page as it is, and then as much as that page asks for. -/
def ofMapped (base : Nat) (area : Bytes) : Guarded Fatal View := do
  let page ← ExceptT.lift (front area pageSize)
  let size ← ExceptT.adapt MappedFault.fatal (sizeByPage page)
  return { base, bytes := ← ExceptT.lift (front area size) }

theorem sizeByPage_comes (page : Bytes) :
    Comes (sizeByPage page) (Image.sizeByPage page) := by
  refine .bind (.ofResult _) fun offset read => ?_
  have low := lt_of_readWord (mapError_eq_ok.mp read)
  have near : offset + 0x1000000 < word := by
    unfold word
    omega
  refine .checked (add_eq (by omega)) (.guard ?_ fun _ => ?_)
  · rw [Nat.add_sub_cancel_left]
  refine .checked (add_eq (by omega)) (.bind (.ofResult _) fun size sized => ?_)
  have small := lt_of_readWord (mapError_eq_ok.mp sized)
  refine .checked (add_eq (by omega)) (.bind (.adapt _ ?_) fun _ _ => .pure _)
  exact readOptionalHeader_comes (by omega) (by omega)

end Checked

namespace Image

/-- How the size of a mapped image is found, and what the readers of the whole say of it. -/
structure SizedByPage (base : Nat) (area : Bytes) : Prop where
  /-- Headers that are read from the whole and end on the first page give the size. -/
  found : ∀ dos headers, readDosHeader area = .ok dos →
    readHeaders area dos.nextHeader = .ok headers → headers.sectionTable ≤ pageSize →
    ∃ view, ofMapped base area = .ok view ∧ view.base = base ∧ view.bytes <+: area ∧
      view.bytes.length = max headers.optional.imageSize pageSize
  /-- No other size is ever found. -/
  agrees : ∀ view start headers, ofMapped base area = .ok view →
    readWord area 4 60 = .ok start → readHeaders area start = .ok headers →
    view.base = base ∧ view.bytes <+: area ∧
      view.bytes.length = max headers.optional.imageSize pageSize
  /-- The machine finds the size with nothing but the first page in hand. -/
  byPage : Checked.sizeByPage (firstPage area) = .ofResult (mappedSize area)
  /-- Nothing stops the machine, and whatever is wrong is a fault of the image. -/
  machine : Checked.ofMapped base area =
    .ofResult ((ofMapped base area).mapError MappedFault.fatal)
  /-- Where the first page is the same, so is the size or the fault. -/
  pageOnly : ∀ other : Bytes, firstPage other = firstPage area →
    mappedSize other = mappedSize area

variable {area : Bytes} {base : Nat}

theorem nextHeader_of_readDosHeader {dos : DosHeader} (read : readDosHeader area = .ok dos) :
    dos.nextHeader = nextHeaderAt area := by
  obtain ⟨_, _, read⟩ := bind_eq_ok.mp read
  obtain ⟨_, _, read⟩ := bind_eq_ok.mp read
  split at read
  · obtain ⟨_, next, read⟩ := bind_eq_ok.mp read
    obtain rfl := Except.ok.inj read
    exact (readWord_eq_ok_iff.mp next).2
  · cases read

section Whole

variable (page : pageSize ≤ area.length)
  (whole : ∀ size, mappedSize area = .ok size → size ≤ area.length)
include page whole

theorem Paged.exists_ofMapped (paged : Paged area (nextHeaderAt area)) (base : Nat) :
    ∃ view, ofMapped base area = .ok view ∧ view.base = base ∧ view.bytes <+: area ∧
      view.bytes.length =
        max (optionalHeaderAt area (nextHeaderAt area)).imageSize pageSize := by
  have sized := paged.mappedSize_eq page
  refine ⟨{ base, bytes := area.take (max _ pageSize) }, ?_, rfl, List.take_prefix _ _,
    List.length_take_of_le (whole _ sized)⟩
  rw [ofMapped, sized]
  rfl

theorem ofMapped_comes (base : Nat) :
    Comes (Checked.ofMapped base area) ((ofMapped base area).mapError MappedFault.fatal) := by
  have split : (ofMapped base area).mapError MappedFault.fatal =
      (mappedSize area).mapError MappedFault.fatal >>= fun size =>
        .ok { base, bytes := area.take size } := by
    rw [ofMapped]
    cases mappedSize area <;> rfl
  rw [split]
  refine .checked (Checked.front_eq page) (.bind ?_ fun size found => ?_)
  · exact .adapt _ (Checked.sizeByPage_comes _)
  exact .checked (Checked.front_eq (whole size (mapError_eq_ok.mp found))) (.pure _)

/-- **The size by the first page is the size by the whole.** The image is as long as the size that
is found, if one is found. A page in which none is found may be any page. -/
theorem sizedByPage (base : Nat) : SizedByPage base area := by
  constructor
  case found =>
    intro dos headers first read room
    rw [nextHeader_of_readDosHeader first] at read
    obtain ⟨headed, rfl⟩ := headed_of_readHeaders read
    exact (headed.paged room).exists_ofMapped page whole base
  case agrees =>
    intro view start headers mapped next read
    obtain ⟨_, rfl⟩ := readWord_eq_ok_iff.mp next
    obtain ⟨_, rfl⟩ := headed_of_readHeaders read
    obtain ⟨size, found, _⟩ := bind_eq_ok.mp mapped
    obtain ⟨paged, _⟩ := (mappedSize_eq_ok_iff page).mp found
    obtain ⟨_, again, view⟩ := paged.exists_ofMapped page whole base
    obtain rfl := Except.ok.inj (mapped.symm.trans again)
    exact view
  case byPage => exact Checked.sizeByPage_comes (firstPage area)
  case machine => exact ofMapped_comes page whole base
  case pageOnly =>
    intro other same
    rw [mappedSize_eq, mappedSize_eq, same]

end Whole

/-- An image of a page and 16 bytes more, whose optional header ends with the page. -/
def edge : Bytes :=
  [0x4D, 0x5A] ++ List.replicate 58 0 ++ Bytes.ofNat 4 3976 ++ List.replicate 3912 0 ++
    peSignature ++ List.replicate 16 0 ++ Bytes.ofNat 4 96 ++ Bytes.ofNat 4 0x10B ++
    List.replicate 52 0 ++ Bytes.ofNat 4 0x1010 ++ List.replicate 52 0

theorem edge_sizedByPage :
    pageSize ≤ edge.length ∧ (∀ size, mappedSize edge = .ok size → size ≤ edge.length) ∧
      ∃ dos headers, readDosHeader edge = .ok dos ∧
        readHeaders edge dos.nextHeader = .ok headers ∧ headers.sectionTable = pageSize ∧
        ∃ view, ofMapped 0x400000 edge = .ok view ∧ view.bytes.length = 0x1010 := by
  have computed : pageSize ≤ edge.length ∧
      (mappedSize edge).toOption.all (· ≤ edge.length) = true ∧
      ((readDosHeader edge).toOption.any fun dos =>
        (readHeaders edge dos.nextHeader).toOption.any fun headers =>
          headers.sectionTable = pageSize ∧
            max headers.optional.imageSize pageSize = 0x1010) = true := by
    decide +kernel
  obtain ⟨long, bounded, computed⟩ := computed
  have whole : ∀ size, mappedSize edge = .ok size → size ≤ edge.length := by
    intro size found
    rw [found] at bounded
    exact of_decide_eq_true bounded
  obtain ⟨dos, first, computed⟩ := (Option.any_eq_true _ _).mp computed
  obtain ⟨headers, read, held⟩ := (Option.any_eq_true _ _).mp computed
  have first := toOption_eq_some_iff.mp first
  have read := toOption_eq_some_iff.mp read
  obtain ⟨room, size⟩ := of_decide_eq_true held
  obtain ⟨view, mapped, _, _, length⟩ :=
    (sizedByPage long whole 0x400000).found _ headers first read (Nat.le_of_eq room)
  exact ⟨long, whole, dos, headers, first, read, room, view, mapped, length.trans size⟩

end Image

end Landmark
