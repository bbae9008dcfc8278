import Landmark.Image.Export
import Landmark.Proofs.Bytes
import Landmark.Proofs.Log.Attempt

/-! # What a table of exports can hold

Every offset in a table of exports was read from four bytes, so it is below 2³², and
the address that it stands for lies less than that above the image.
-/

namespace Landmark

namespace Image

variable {bytes : Bytes}

theorem lt_of_readWord {count offset value : Nat} (read : readWord bytes count offset = .ok value) :
    value < 256 ^ count := by
  unfold readWord at read
  split at read
  next found =>
    obtain rfl := Except.ok.inj read
    obtain ⟨part, sliced, rfl⟩ := Option.map_eq_some_iff.mp found
    obtain ⟨inside, rfl⟩ := Bytes.slice?_eq_some_iff.mp sliced
    have size : ((bytes.drop offset).take count).length = count := by
      rw [List.length_take, List.length_drop]
      omega
    have low := Bytes.toNat_lt ((bytes.drop offset).take count)
    rwa [size] at low
  next => cases read

theorem exists_of_mem_readRow {α : Type} {read : Nat → Except Fault α} {count first : Nat}
    {row : List α} {entry : α} (whole : readRow read count first = .ok row)
    (member : entry ∈ row) : ∃ number, read number = .ok entry := by
  induction count generalizing first row with
  | zero =>
    obtain rfl := Except.ok.inj whole
    cases member
  | succ count ih =>
    rw [readRow] at whole
    obtain ⟨head, here, later⟩ := bind_eq_ok.mp whole
    obtain ⟨rest, behind, same⟩ := bind_eq_ok.mp later
    obtain rfl := Except.ok.inj same
    cases List.mem_cons.mp member with
    | inl same => exact ⟨first, same ▸ here⟩
    | inr inRest => exact ih behind inRest

theorem rva_lt_of_readExport {place : Directory} {directory : ExportDirectory}
    {names : List (Nat × String)} {number : Nat} {entry : Export}
    (read : readExport bytes place directory names number = .ok (some entry)) :
    entry.rva < 0x100000000 := by
  obtain ⟨rva, word, later⟩ := bind_eq_ok.mp read
  have low := lt_of_readWord word
  split at later
  next => cases later
  next =>
    dsimp only at later
    split at later
    next => cases later
    next =>
      obtain rfl := Option.some.inj (Except.ok.inj later)
      exact low

theorem rva_lt_of_readExports {place : Directory} {limit : Nat} {table : ExportTable}
    {entry : Export} (read : readExports bytes place limit = .ok table)
    (member : entry ∈ table.entries) : entry.rva < 0x100000000 := by
  unfold readExports at read
  split at read
  next =>
    obtain rfl := Except.ok.inj read
    cases member
  next =>
    split at read
    next => cases read
    next =>
      obtain ⟨directory, _, read⟩ := bind_eq_ok.mp read
      have tabled : ∀ library, (do
          let names ← readNames bytes directory
          let slots ← readRow (readExport bytes place directory names) directory.functionCount 0
          return { library, ordinalBase := directory.ordinalBase,
                   entries := slots.filterMap id }) = Except.ok table →
            entry.rva < 0x100000000 := by
        intro library rest
        obtain ⟨names, _, rest⟩ := bind_eq_ok.mp rest
        obtain ⟨slots, row, last⟩ := bind_eq_ok.mp rest
        obtain rfl := Except.ok.inj last
        obtain ⟨slot, inRow, same⟩ := List.mem_filterMap.mp member
        obtain ⟨number, found⟩ := exists_of_mem_readRow row inRow
        obtain rfl : slot = some entry := same
        exact rva_lt_of_readExport found
      dsimp only at read
      split at read
      next => exact tabled _ read
      next =>
        obtain ⟨library, _, rest⟩ := bind_eq_ok.mp read
        exact tabled _ rest

end Image

end Landmark
