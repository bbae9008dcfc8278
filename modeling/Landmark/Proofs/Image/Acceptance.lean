import Landmark.Proofs.Checked.Header
import Landmark.Proofs.LoadedModule.Specimen

/-! # Which headers are accepted

The reader of headers accepts exactly what keeps the grammar, says of everything else what
is wrong with it first, and is not stopped by any bytes at all.
-/

namespace Landmark.Image

variable {bytes : Bytes} {dos : DosHeader} {outline : Outline}

/-- How the reader of headers treats bytes whose first header leads to the real one. -/
structure KeepsGrammar (bytes : Bytes) (dos : DosHeader) : Prop where
  accepts : (∃ outline, readOutline bytes dos = .ok outline) ↔
    ∀ condition ∈ grammar bytes dos.nextHeader, condition.holds = true
  /-- Every field is the number at its place. -/
  reads : ∀ outline, readOutline bytes dos = .ok outline →
    outline = outlineAt bytes dos.nextHeader ∧
    outline.headers.optional.layout.magic = magicAt bytes dos.nextHeader ∧
    outline.headers.directories.length = 16 ∧
    (∀ slot, declaredAt bytes dos.nextHeader ≤ slot →
      outline.headers.directory slot = .absent) ∧
    outline.sections.length = sectionCountAt bytes dos.nextHeader
  /-- What is said is the first thing that is wrong. -/
  refuses : ∀ fault, readOutline bytes dos = .error fault ↔
    firstFailing (grammar bytes dos.nextHeader) = some fault
  /-- A read runs past the end only where the directories do. -/
  past : ∀ place, readOutline bytes dos = .error (.pastEnd place) →
    directoriesAt bytes dos.nextHeader ≤ place ∧
    place < directoriesAt bytes dos.nextHeader + 8 * declaredAt bytes dos.nextHeader ∧
    bytes.length < place + 4
  /-- No index, slice or sum is out of range. -/
  runs : (Checked.readOutline bytes dos).run = .ok (readOutline bytes dos)

theorem layout_magic_eq
    (held : ∀ condition ∈ grammar bytes dos.nextHeader, condition.holds = true) :
    (layoutAt bytes dos.nextHeader).magic = magicAt bytes dos.nextHeader := by
  have either := held _ (List.mem_append_left _ (List.mem_append_right _
    (.tail _ (.tail _ (.head _)))))
  have cases : magicAt bytes dos.nextHeader = 0x10B ∨ magicAt bytes dos.nextHeader = 0x20B :=
    of_decide_eq_true either
  unfold layoutAt
  cases cases with
  | inl narrow => rw [narrow]; rfl
  | inr wide => rw [wide]; rfl

theorem directory_of_undeclared {start slot : Nat} (undeclared : declaredAt bytes start ≤ slot) :
    (directoryRowAt bytes start).getD slot .absent = .absent := by
  unfold directoryRowAt
  by_cases inside : slot < maxDirectories
  · simp [inside, Nat.not_lt.mpr undeclared]
  · simp [inside]

theorem firstFailing_append_eq_some_iff {front behind : List Condition} {fault : Fault} :
    firstFailing (front ++ behind) = some fault ↔
      firstFailing front = some fault ∨
        (∀ condition ∈ front, condition.holds = true) ∧ firstFailing behind = some fault := by
  rw [← firstFailing_eq_none_iff]
  simp only [firstFailing, List.find?_append]
  cases front.find? fun condition => !condition.holds <;> simp

theorem exists_mem_of_firstFailing {conditions : List Condition} {fault : Fault}
    (failing : firstFailing conditions = some fault) :
    ∃ condition ∈ conditions, condition.holds = false ∧ condition.otherwise = fault := by
  obtain ⟨condition, found, fault_eq⟩ := Option.map_eq_some_iff.mp failing
  have fails := @List.find?_some _ (fun condition : Condition => !condition.holds) _ _ found
  exact ⟨condition, List.mem_of_find?_eq_some found, by simpa using fails, fault_eq⟩

/-- The conditions before those on the tables never speak of a read past the end. -/
theorem not_past_of_mem {condition : Condition} {start place : Nat}
    (among : condition ∈ signatureGrammar bytes start ++ optionalGrammar bytes start) :
    condition.otherwise ≠ .pastEnd place := by
  simp only [signatureGrammar, optionalGrammar, List.cons_append, List.nil_append,
    List.mem_cons, List.not_mem_nil, or_false] at among
  rcases among with rfl | rfl | rfl | rfl | rfl | rfl | rfl <;> exact Fault.noConfusion

/-- Only the condition on the directories speaks of the end of the bytes. -/
theorem past_of_firstFailing {start place : Nat}
    (failing : firstFailing (grammar bytes start) = some (.pastEnd place)) :
    directoriesAt bytes start ≤ place ∧
      place < directoriesAt bytes start + 8 * declaredAt bytes start ∧
      bytes.length < place + 4 := by
  cases firstFailing_append_eq_some_iff.mp failing with
  | inl before =>
    obtain ⟨condition, among, -, past⟩ := exists_mem_of_firstFailing before
    exact absurd past (not_past_of_mem among)
  | inr within =>
    obtain ⟨held, tables⟩ := within
    have inside : directoriesAt bytes start ≤ bytes.length :=
      directoriesAt_le fun condition among => held condition (List.mem_append_right _ among)
    obtain ⟨condition, among, fails, past⟩ := exists_mem_of_firstFailing tables
    simp only [tableGrammar, List.mem_cons, List.not_mem_nil, or_false] at among
    rcases among with rfl | rfl
    · have short : bytes.length < directoriesAt bytes start + 8 * declaredAt bytes start := by
        simpa using fails
      have place_eq : firstMissingWord bytes (directoriesAt bytes start) = place :=
        Fault.pastEnd.inj past
      unfold firstMissingWord at place_eq
      omega
    · exact Fault.noConfusion past

/-- **Headers are accepted by their grammar.** -/
theorem readOutline_keepsGrammar (bytes : Bytes) (dos : DosHeader)
    (low : dos.nextHeader < 0x100000000) : KeepsGrammar bytes dos where
  accepts := by simp [readOutline_eq_ok_iff]
  reads := by
    intro outline read
    obtain ⟨held, rfl⟩ := readOutline_eq_ok_iff.mp read
    refine ⟨rfl, layout_magic_eq held, ?_, fun slot => directory_of_undeclared, ?_⟩
    · exact (List.length_map _).trans List.length_range
    · exact (List.length_map _).trans List.length_range
  refuses := fun fault => by rw [readOutline_eq, judged_eq_error_iff]
  past := by
    intro place failed
    rw [readOutline_eq, judged_eq_error_iff] at failed
    exact past_of_firstFailing failed
  runs := Checked.readOutline_comes low

/-- The specimen is read, and cut off inside its optional header it is not. -/
theorem specimen_keepsGrammar :
    (∃ outline, readOutline Specimen.complete.bytes ⟨0x5A4D, 0x40⟩ = .ok outline) ∧
      readOutline (Specimen.complete.bytes.take 0xBE) ⟨0x5A4D, 0x40⟩ =
        .error (.truncatedHeader 0xC0 0xBE) ∧
      KeepsGrammar Specimen.complete.bytes ⟨0x5A4D, 0x40⟩ :=
  ⟨(readOutline_keepsGrammar _ ⟨0x5A4D, 0x40⟩ (by decide)).accepts.mpr (by decide +kernel),
    ((readOutline_keepsGrammar _ ⟨0x5A4D, 0x40⟩ (by decide)).refuses _).mpr (by decide +kernel),
    readOutline_keepsGrammar _ _ (by decide)⟩

end Landmark.Image
