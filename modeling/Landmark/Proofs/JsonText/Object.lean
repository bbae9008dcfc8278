import Landmark.Proofs.JsonFormat
import Landmark.Proofs.JsonText.Scalar

/-! # Objects read back

The members of an object are read one after another, each behind the names that were there before
it, and every one of them takes fuel. With fuel for them all and no name twice the record is read
from every spelling alike, so that this format of JSON text is a lawful one.
-/

namespace Landmark.JsonText

open JsonFormat (Blank Ends Lawful Member MemberText MembersText ObjectText Puts PutsAll Reads Slot
  blank_nil ends_append ends_nil isBlank)

theorem writeText_eq (s : String) : JsonFormat.writeText s = writeQuoted s.toList := rfl

/-! ## Blanks -/

section Blanks

variable {blanks text rest : List Char} {c : Char} {member : Member} {members : List Member}

theorem dropBlank_append (blank : Blank blanks) : dropBlank (blanks ++ rest) = dropBlank rest :=
  List.dropWhile_append_of_pos blank

theorem dropBlank_eq_nil (blank : Blank blanks) : dropBlank blanks = [] := by
  rw [← List.append_nil blanks, dropBlank_append blank]
  rfl

theorem dropBlank_cons (dark : isBlank c = false) : dropBlank (c :: rest) = c :: rest := by
  simp [dropBlank, dark]

theorem finish_of_blank (blank : Blank blanks) : finish blanks = .ok () := by
  rw [finish, dropBlank_eq_nil blank]

theorem ends_cons (other : isBlank c = true ∨ c = ',' ∨ c = '\x7d') : Ends (c :: rest) := by
  intro found here
  obtain rfl := Option.some.inj here
  exact other

theorem endsNumber_of_ends (ends : Ends rest) : EndsNumber rest := by
  intro c here
  have other := ends c here
  simp only [isBlank, Bool.or_eq_true, beq_iff_eq] at other
  obtain ((((rfl | rfl) | rfl) | rfl) | rfl | rfl) := other <;> decide

theorem isBlank_of_isDigit (isDigit : c.isDigit = true) : isBlank c = false := by
  cases blank : isBlank c with
  | false => rfl
  | true =>
    have ends : Ends [c] := ends_cons (.inl blank)
    simp [(endsNumber_of_ends ends c rfl).1] at isDigit

theorem exists_quote (spelled : MemberText member text) : ∃ later, text = '"' :: later := by
  cases spelled
  exact ⟨_, rfl⟩

theorem exists_quote_row (spelled : MembersText members text) :
    ∃ later, text = '"' :: later := by
  cases spelled with
  | last only => exact exists_quote only
  | more first =>
    obtain ⟨later, rfl⟩ := exists_quote first
    exact ⟨_, rfl⟩

theorem length_le (spelled : MembersText members text) : members.length ≤ text.length := by
  induction spelled with
  | last only =>
    obtain ⟨later, rfl⟩ := exists_quote only
    simp
  | more first blank others ih =>
    simp only [List.length_append, List.length_cons]
    omega

end Blanks

/-! ## Reading members -/

section Members

variable {σ : Type} {slots : List (Slot σ)} {member : Member} {put : σ → σ} {value : σ}
  {filled : List String} {fuel : Nat} {text blanks later rest : List Char}

/-- A member is read to its end: first its name, then its value. -/
theorem exists_read (spelled : MemberText member text) (puts : Puts slots member put)
    (fresh : member.name ∉ filled) :
    ∃ front back after, text = '"' :: front ∧ Blank after ∧ ∀ value rest, Ends rest →
      readQuoted (front ++ rest) = .ok (member.name.toList, back ++ rest) ∧
      readMember slots filled member.name value (back ++ rest) =
        .ok ((member.name :: filled, put value), after ++ rest) := by
  cases spelled with
  | @pair before behind text after blankBefore blankBehind spells blankAfter =>
    obtain ⟨slot, found, takes⟩ := puts
    let back := before ++ ':' :: (behind ++ (text ++ after))
    refine ⟨member.name.toList.flatMap escaped ++ '"' :: back, back, after, ?_, blankAfter, ?_⟩
    · simp [writeText_eq, writeQuoted, back]
    intro value rest ends
    constructor
    case left =>
      rw [List.append_assoc]
      exact readQuoted_flatMap _ _
    case right =>
      have colon : readColon (before ++ ':' :: (behind ++ (text ++ (after ++ rest)))) =
          .ok ((), behind ++ (text ++ (after ++ rest))) := by
        simp [readColon, dropBlank_append blankBefore, dropBlank_cons, isBlank]
      have taken : slot.read value (behind ++ (text ++ (after ++ rest))) =
          .ok (put value, after ++ rest) :=
        takes text spells value blankBehind (ends_append blankAfter ends)
      simp [back, readMember, found, fresh, colon, taken]

theorem readMembersWith_last (spelled : MemberText member text) (puts : Puts slots member put)
    (fresh : member.name ∉ filled) :
    readMembersWith slots (fuel + 1) filled value (text ++ '\x7d' :: rest) =
      .ok (put value, rest) := by
  obtain ⟨front, back, after, rfl, blank, reads⟩ := exists_read spelled puts fresh
  obtain ⟨named, taken⟩ := reads value ('\x7d' :: rest) (ends_cons (.inr (.inr rfl)))
  simp [readMembersWith, named, taken, dropBlank_append blank, dropBlank_cons, isBlank]
  rfl

theorem readMembersWith_more (spelled : MemberText member text) (puts : Puts slots member put)
    (fresh : member.name ∉ filled) (blank : Blank blanks) :
    readMembersWith slots (fuel + 1) filled value (text ++ ',' :: (blanks ++ '"' :: later)) =
      readMembersWith slots fuel (member.name :: filled) (put value) ('"' :: later) := by
  obtain ⟨front, back, after, rfl, blankAfter, reads⟩ := exists_read spelled puts fresh
  obtain ⟨named, taken⟩ :=
    reads value (',' :: (blanks ++ '"' :: later)) (ends_cons (.inr (.inl rfl)))
  simp [readMembersWith, named, taken, dropBlank_append blankAfter, dropBlank_append blank,
    dropBlank_cons, isBlank]

end Members

/-! ## Reading records -/

section Records

variable {σ ι : Type} {slots : List (Slot σ)} {member : ι → Member} {put : ι → σ → σ}
  {row : List ι} {value : σ} {filled : List String} {fuel : Nat} {text blanks rest : List Char}

/-- A row of members is read one after another. The fuel lasts, and no name comes twice. -/
theorem readMembersWith_row (all : PutsAll slots member put row)
    (fresh : ∀ i ∈ row, (member i).name ∉ filled) (enough : row.length ≤ fuel)
    (spelled : MembersText (row.map member) text) :
    readMembersWith slots fuel filled value (text ++ '\x7d' :: rest) =
      .ok (row.foldl (fun value i => put i value) value, rest) := by
  generalize same : row.map member = members at spelled
  induction spelled generalizing row fuel filled value with
  | last only =>
    obtain ⟨i, rfl, rfl⟩ := List.map_eq_singleton_iff.mp same
    obtain ⟨fuel, rfl⟩ : ∃ less, fuel = less + 1 := Nat.exists_eq_add_one.mpr enough
    exact readMembersWith_last only (all.puts i List.mem_cons_self) (fresh i List.mem_cons_self)
  | more first blank others ih =>
    obtain ⟨i, row, rfl, rfl, rfl⟩ := List.map_eq_cons_iff.mp same
    obtain ⟨fuel, rfl⟩ : ∃ less, fuel = less + 1 :=
      Nat.exists_eq_add_one.mpr (Nat.zero_lt_of_lt enough)
    obtain ⟨later, rfl⟩ := exists_quote_row others
    have alone := (List.nodup_cons.mp all.distinct).1
    have puts := all.puts i List.mem_cons_self
    rw [List.append_assoc, List.cons_append, List.append_assoc, List.cons_append,
      readMembersWith_more first puts (fresh i List.mem_cons_self) blank]
    -- Filled are this name now and those before it, and no later member has one of them.
    refine ih all.tail ?_ (Nat.le_of_succ_le_succ enough) rfl
    intro j here taken
    cases List.mem_cons.mp taken with
    | inl twice => exact alone (List.mem_map.mpr ⟨j, here, twice⟩)
    | inr taken => exact fresh j (List.mem_cons_of_mem _ here) taken

theorem readRecord_empty (blank : Blank blanks) (spelled : ObjectText [] text) :
    readRecord slots value (blanks ++ (text ++ rest)) = .ok (value, rest) := by
  cases spelled with
  | empty inside =>
    simp [readRecord, readObject, dropBlank_append blank, dropBlank_append inside,
      dropBlank_cons, isBlank]
  | filled _ row => cases row

theorem readRecord_eq (all : PutsAll slots member put row) (blank : Blank blanks)
    (spelled : ObjectText (row.map member) text) :
    readRecord slots value (blanks ++ (text ++ rest)) =
      .ok (row.foldl (fun value i => put i value) value, rest) := by
  generalize same : row.map member = members at spelled
  cases spelled with
  | empty inside =>
    obtain rfl := List.map_eq_nil_iff.mp same
    exact readRecord_empty blank (.empty inside)
  | @filled _ inside text blankInside spelled =>
    obtain ⟨later, rfl⟩ := exists_quote_row spelled
    have enough : row.length ≤ (('"' :: later) ++ '\x7d' :: rest).length + 1 := by
      have short := length_le spelled
      rw [← same, List.length_map] at short
      rw [List.length_append]
      omega
    have read : readMembersWith slots _ [] value (('"' :: later) ++ '\x7d' :: rest) = _ :=
      readMembersWith_row all (fun i _ none => nomatch none) enough (same ▸ spelled)
    simpa [readRecord, readObject, dropBlank_append blank, dropBlank_append blankInside,
      dropBlank_cons, isBlank] using read

end Records

/-! ## Numbers and texts -/

theorem reads_readNat {limit n : Nat} (fits : n ≤ limit) (whole : limit ≤ maxWhole) :
    Reads (readNat limit) (writeNumber n) n := by
  intro blanks rest blank ends
  have digits : ∀ c ∈ writeNumber n, c.isDigit = true :=
    fun c here => Nat.isDigit_of_mem_toDigits (by decide) (by decide) here
  have read := readNumber_writeNumber (Nat.le_trans fits whole) (endsNumber_of_ends ends)
  cases written : writeNumber n with
  | nil => exact absurd written Nat.toDigits_ne_nil
  | cons c later =>
    rw [written] at digits read
    have isDigit := digits c List.mem_cons_self
    simp only [readNat, dropBlank_append blank, List.cons_append,
      dropBlank_cons (isBlank_of_isDigit isDigit)]
    rw [if_pos (.inr isDigit), ← List.cons_append, read]
    simp [fits]

theorem reads_readText (s : String) : Reads readText (writeQuoted s.toList) s := by
  intro blanks rest blank ends
  simp [readText, writeQuoted, dropBlank_append blank, dropBlank_cons, isBlank,
    readQuoted_flatMap, Except.map]

/-! ## Writing -/

section Writing

variable {σ : Type}

theorem memberText_writeMember (value : σ) (slot : Slot σ) :
    MemberText (slot.written value) (writeMember slot value) := by
  have pair := @MemberText.pair _ (slot.written value) _ _ _ _ blank_nil blank_nil rfl blank_nil
  rw [List.append_nil] at pair
  exact pair

theorem membersText_writeMember (value : σ) (slot : Slot σ) (slots : List (Slot σ)) :
    MembersText ((slot :: slots).map (Slot.written value))
      ([','].intercalate ((slot :: slots).map fun slot => writeMember slot value)) := by
  induction slots generalizing slot with
  | nil => simpa using MembersText.last (memberText_writeMember value slot)
  | cons next slots ih =>
    have more := MembersText.more (memberText_writeMember value slot) blank_nil (ih next)
    simpa [List.intercalate_cons_cons] using more

theorem objectText_writeRecord (slots : List (Slot σ)) (value : σ) :
    ObjectText (slots.map (Slot.written value)) (writeRecord slots value) := by
  cases slots with
  | nil => exact .empty blank_nil
  | cons slot slots => exact .filled blank_nil (membersText_writeMember value slot slots)

end Writing

/-- **This format is lawful.** -/
theorem lawful : Lawful where
  number := reads_readNat
  text := reads_readText
  empty slots value text spelled := fun _ _ blank _ => readRecord_empty blank spelled
  given := by
    intro σ ι slots member put i row value text fewer result all spelled later read
    -- Both objects are read to their ends, and come to the same.
    have less := read blank_nil ends_nil
    have again := @readRecord_eq _ _ _ _ _ _ (put i value) _ _ [] all.tail blank_nil later
    obtain rfl := (Prod.mk.inj (Except.ok.inj (again.symm.trans less))).1
    exact fun _ _ blank _ => readRecord_eq all blank spelled
  finish := finish_of_blank
  written := objectText_writeRecord

end Landmark.JsonText
