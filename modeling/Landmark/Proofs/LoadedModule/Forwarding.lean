import Landmark.Proofs.Image.Listing
import Landmark.Proofs.LoadedModule.Functions
import Landmark.Proofs.LoadedModule.Specimen

/-! # Exports that stand for others

A forwarded export has no address. It counts as forwarded when its place lies in the export
directory and a text stands there. The place alone does not decide: where the directory holds no
text that can be read, the export is resolved to that place like any other.
-/

namespace Landmark

namespace Image

variable {bytes : Bytes} {place : Directory} {limit : Nat} {table : ExportTable} {entry : Export}

/-- What stands at an offset is the name of a function elsewhere. -/
def Forwards (bytes : Bytes) (place : Directory) (rva : Nat) : Prop :=
  place.contains rva = true ∧ ∃ text, TextAt bytes rva 256 text

theorem isSome_forwarder_iff (read : readExports bytes place limit = .ok table)
    (member : entry ∈ table.entries) :
    entry.forwarder.isSome = true ↔ Forwards bytes place entry.rva := by
  cases present : place.isPresent with
  | false =>
    rw [readExports, present] at read
    obtain rfl := Except.ok.inj read
    cases member
  | true =>
    obtain ⟨readable, rfl⟩ := (readExports_eq_ok_iff present).mp read
    obtain ⟨number, used, rfl⟩ := List.mem_map.mp member
    rw [Option.isSome_iff_exists, Forwards, ← exists_and_left]
    exact exists_congr (shows_exportAt readable used).forwarder

end Image

namespace LoadedModule

open Image

variable {name wanted : String} {view : View} {limits : OpeningLimits} {owner : LoadedModule}
  {place : Directory} {address : Nat}

/-- Names are resolved to the places of their exports, save those that are forwarded. -/
structure ResolvesExports (view : View) (place : Directory) (owner : LoadedModule) : Prop where
  resolved : ∀ wanted address, owner.export? wanted = some address ↔
    ∃ entry, owner.exports.find? wanted = some entry ∧ ¬Forwards view.bytes place entry.rva ∧
      address = view.base + entry.rva
  unresolved : ∀ wanted, owner.export? wanted = none ↔
    ∀ entry, owner.exports.find? wanted = some entry → Forwards view.bytes place entry.rva
  /-- An address in the directory is no text. -/
  exported : ∀ wanted address, owner.export? wanted = some address →
    ¬Forwards view.bytes place (address - view.base)
  function : ∀ wanted address, (owner.function? wanted).result = .ok (some address) →
    ¬Forwards view.bytes place (address - view.base)

theorem export?_eq_some_iff_of_forwarder
    (forwarder : ∀ entry ∈ owner.exports.entries,
      entry.forwarder.isSome = true ↔ Forwards view.bytes place entry.rva) :
    owner.export? wanted = some address ↔
      ∃ entry, owner.exports.find? wanted = some entry ∧ ¬Forwards view.bytes place entry.rva ∧
        address = owner.base + entry.rva := by
  rw [export?, Option.bind_eq_some_iff]
  refine exists_congr fun entry => and_congr_right fun found => ?_
  have member := List.mem_reverse.mp (List.mem_of_find?_eq_some found)
  rw [← forwarder entry member]
  split
  next elsewhere => simp [elsewhere]
  next here => simp [here, eq_comm]

/-- **What forwarding comes to.** In a module that opens, an export has no address just when it is
forwarded. -/
theorem resolvesExports_of_load (loaded : (load name view limits).result = .ok owner) :
    ∃ outline, Outlined view limits outline ∧
      ResolvesExports view (outline.headers.directory 0) owner := by
  obtain ⟨outline, outlined, represents⟩ := represents_of_load loaded
  have base : owner.base = view.base := congrArg View.base represents.shown
  have resolved : ∀ wanted address, owner.export? wanted = some address ↔
      ∃ entry, owner.exports.find? wanted = some entry ∧
        ¬Forwards view.bytes (outline.headers.directory 0) entry.rva ∧
        address = view.base + entry.rva := by
    intro wanted address
    rw [← base]
    exact export?_eq_some_iff_of_forwarder fun entry member =>
      isSome_forwarder_iff represents.exports member
  have exported : ∀ wanted address, owner.export? wanted = some address →
      ¬Forwards view.bytes (outline.headers.directory 0) (address - view.base) := by
    intro wanted address found
    obtain ⟨entry, _, here, rfl⟩ := (resolved wanted address).mp found
    rwa [Nat.add_sub_cancel_left]
  refine ⟨outline, outlined, { resolved, unresolved := fun wanted => ?_, exported, function := ?_ }⟩
  · rw [Option.eq_none_iff_forall_not_mem]
    constructor
    · intro none entry found
      by_contra here
      exact none _ ((resolved wanted _).mpr ⟨entry, found, here, rfl⟩)
    · rintro forwarded address found
      obtain ⟨entry, listed, here, _⟩ := (resolved wanted address).mp found
      exact here (forwarded entry listed)
  · intro wanted address ended
    exact exported wanted address
      ((result_function?_eq_some_iff represents.disjoint).mp ended).1

/-- The headers and the section table of an image, if they can be read. -/
def outlined? (view : View) : Option Outline := do
  let dos ← (readDosHeader view.bytes).toOption
  (readOutline view.bytes dos).toOption

theorem outlined?_of_outlined {outline : Outline} (outlined : Outlined view limits outline) :
    outlined? view = some outline := by
  obtain ⟨dos, read, _, follows⟩ := outlined
  exact Option.bind_eq_some_iff.mpr
    ⟨dos, toOption_eq_some_iff.mpr read, toOption_eq_some_iff.mpr follows⟩

end LoadedModule

namespace Specimen

/-- An image whose directory reaches into the code, where `text` says what its export stands
for. -/
def forwarding (text : Bytes) : Image.View :=
  let unforwarded := image "c" ([0] ++ text ++ [0]) [0, 0, 0, 0]
  { unforwarded with bytes := unforwarded.bytes.set 0xBC 0x60 }

/-- `K32.Größe` with one byte for each letter. -/
def oneByteName : Bytes := [0x4B, 0x33, 0x32, 0x2E, 0x47, 0x72, 0xF6, 0xDF, 0x65]

end Specimen

namespace LoadedModule

example : (openInOrder? "host.exe" (Specimen.forwarding (Text.Utf8.encode "K32.Größe")) {}).map
    (fun owner => owner.export? "c") = some none := by decide +kernel

theorem oneByteName_opens :
    ∃ owner, (load "host.exe" (Specimen.forwarding Specimen.oneByteName) {}).result = .ok owner ∧
      owner.export? "c" = some (owner.base + 0x161) ∧ owner.Inside (owner.base + 0x161) := by
  have computed : (openInOrder? "host.exe" (Specimen.forwarding Specimen.oneByteName) {}).any
      (fun owner => owner.export? "c" = some (owner.base + 0x161) ∧
        owner.Inside (owner.base + 0x161)) = true := by decide +kernel
  obtain ⟨owner, opened, holds⟩ := (Option.any_eq_true _ _).mp computed
  exact ⟨owner, load_of_openInOrder? opened, of_decide_eq_true holds⟩

theorem oneByteName_resolvesExports :
    ∃ owner outline,
      (load "host.exe" (Specimen.forwarding Specimen.oneByteName) {}).result = .ok owner ∧
      Outlined (Specimen.forwarding Specimen.oneByteName) {} outline ∧
      ResolvesExports (Specimen.forwarding Specimen.oneByteName) (outline.headers.directory 0)
        owner := by
  obtain ⟨owner, loaded, _⟩ := oneByteName_opens
  obtain ⟨outline, outlined, resolves⟩ := resolvesExports_of_load loaded
  exact ⟨owner, outline, loaded, outlined, resolves⟩

/-- A place in the directory becomes the address of a function. -/
theorem oneByteName_resolves :
    ∃ owner outline,
      (load "host.exe" (Specimen.forwarding Specimen.oneByteName) {}).result = .ok owner ∧
      Outlined (Specimen.forwarding Specimen.oneByteName) {} outline ∧
      (outline.headers.directory 0).contains 0x161 = true ∧
      owner.export? "c" = some (owner.base + 0x161) ∧
      (owner.function? "c").result = .ok (some (owner.base + 0x161)) := by
  obtain ⟨owner, loaded, resolved, inside⟩ := oneByteName_opens
  obtain ⟨outline, outlined, represents⟩ := represents_of_load loaded
  have contained : (outlined? (Specimen.forwarding Specimen.oneByteName)).any
      (fun outline => (outline.headers.directory 0).contains 0x161) = true := by decide +kernel
  rw [outlined?_of_outlined outlined] at contained
  exact ⟨owner, outline, loaded, outlined, contained, resolved,
    function?_of_inside represents.disjoint resolved inside⟩

end LoadedModule

end Landmark
