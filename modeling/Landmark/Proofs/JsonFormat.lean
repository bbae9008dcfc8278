import Landmark.JsonFormat
import Landmark.Proofs.Log.Attempt
import Mathlib.Data.List.Nodup

/-! # What is relied on of JSON formats

An object may be spelled with its members in any order and with blanks wherever two tokens meet. A
lawful format reads what it writes for a number or a text as that, an object without members as the
record was, and a member more as that member's part put in beforehand. So it reads a record alike
from every spelling: each member changes the part of its name, and what no member names stays.
-/

namespace Landmark.JsonFormat

/-! ## Values and members -/

/-- A text of blank characters and nothing else. -/
def Blank (text : List Char) : Prop := ∀ c ∈ text, isBlank c = true

/-- What may stand behind a value: nothing, a blank, a comma or the end of an object. -/
def Ends (rest : List Char) : Prop :=
  ∀ c ∈ rest.head?, isBlank c = true ∨ c = ',' ∨ c = '\x7d'

/-- A text is read as a value, with blanks in front of it and behind it the rest of an object. -/
def Reads {α : Type} (reader : Reader α) (text : List Char) (a : α) : Prop :=
  ∀ ⦃blanks rest : List Char⦄, Blank blanks → Ends rest →
    reader (blanks ++ (text ++ rest)) = .ok (a, rest)

theorem blank_nil : Blank [] := fun _ none => nomatch none

theorem ends_nil : Ends [] := fun _ none => nomatch none

theorem ends_append {blanks rest : List Char} (blank : Blank blanks) (ends : Ends rest) :
    Ends (blanks ++ rest) := by
  cases blanks with
  | nil => exact ends
  | cons c blanks =>
    intro first same
    obtain rfl := Option.some.inj same
    exact .inl (blank _ List.mem_cons_self)

/-- A member of an object: its name and the texts that may stand for its value. -/
structure Member where
  name : String
  Spells : List Char → Prop

variable {σ ι : Type} {slots : List (Slot σ)} {member : ι → Member} {put : ι → σ → σ} {i : ι}
  {row : List ι} {value : σ} {text fewer : List Char}

/-- A slot takes this text as a value and changes the record by it. -/
def Slot.Takes (slot : Slot σ) (text : List Char) (put : σ → σ) : Prop :=
  ∀ value, Reads (slot.read value) text (put value)

/-- A slot as a member that is spelled as the slot is written. -/
def Slot.written (value : σ) (slot : Slot σ) : Member where
  name := slot.name
  Spells text := text = slot.write value

/-- The slots hold one of the member's name, and it takes every spelling of the member alike. -/
def Puts (slots : List (Slot σ)) (member : Member) (put : σ → σ) : Prop :=
  ∃ slot, (slots.find? fun slot => slot.name == member.name) = some slot ∧
    ∀ text, member.Spells text → slot.Takes text put

/-- The members of a row have names of their own, and the slots take each of them. -/
structure PutsAll (slots : List (Slot σ)) (member : ι → Member) (put : ι → σ → σ)
    (row : List ι) : Prop where
  puts : ∀ i ∈ row, Puts slots (member i) (put i)
  distinct : (row.map fun i => (member i).name).Nodup

theorem PutsAll.tail (all : PutsAll slots member put (i :: row)) :
    PutsAll slots member put row where
  puts j member := all.puts j (List.mem_cons_of_mem _ member)
  distinct := (List.nodup_cons.mp all.distinct).2

/-! ## Spellings -/

variable [JsonFormat]

/-- The spellings of a member, its name first. -/
inductive MemberText (member : Member) : List Char → Prop where
  | pair {before behind text after : List Char} (blankBefore : Blank before)
      (blankBehind : Blank behind) (spells : member.Spells text) (blankAfter : Blank after) :
      MemberText member
        (writeText member.name ++ (before ++ ':' :: (behind ++ (text ++ after))))

/-- The spellings of one member or more. -/
inductive MembersText : List Member → List Char → Prop where
  | last {member : Member} {text : List Char} (only : MemberText member text) :
      MembersText [member] text
  | more {member : Member} {members : List Member} {text blanks later : List Char}
      (first : MemberText member text) (blank : Blank blanks)
      (others : MembersText members later) :
      MembersText (member :: members) (text ++ ',' :: (blanks ++ later))

/-- The spellings of an object. -/
inductive ObjectText : List Member → List Char → Prop where
  | empty {blanks : List Char} (blank : Blank blanks) :
      ObjectText [] ('\x7b' :: (blanks ++ ['\x7d']))
  | filled {members : List Member} {blanks text : List Char} (blank : Blank blanks)
      (row : MembersText members text) :
      ObjectText members ('\x7b' :: (blanks ++ (text ++ ['\x7d'])))

/-- An object can be spelled without its first member. -/
theorem ObjectText.exists_fewer {first : Member} {members : List Member}
    (spelled : ObjectText (first :: members) text) : ∃ fewer, ObjectText members fewer := by
  cases spelled with
  | filled blank row =>
    cases row with
    | last only => exact ⟨_, .empty blank_nil⟩
    | more first blank others => exact ⟨_, .filled blank_nil others⟩

/-! ## Laws -/

/-- The format reads what it writes, and of an object the members that are given. -/
structure Lawful : Prop where
  /-- Numbers of up to 64 bits are read. -/
  number : ∀ {limit n}, n ≤ limit → limit ≤ 0xFFFFFFFFFFFFFFFF →
    Reads (readNat limit) (writeNat n) n
  text : ∀ s, Reads readText (writeText s) s
  /-- What is not given is as it was. -/
  empty : ∀ {σ : Type} (slots : List (Slot σ)) (value : σ) {text}, ObjectText [] text →
    Reads (readRecord slots value) text value
  /-- A member that is given might as well have been the default and not be given. -/
  given : ∀ {σ ι : Type} {slots : List (Slot σ)} {member : ι → Member} {put : ι → σ → σ}
    {i : ι} {row : List ι} {value : σ} {text fewer : List Char} {result : σ},
    PutsAll slots member put (i :: row) → ObjectText ((i :: row).map member) text →
    ObjectText (row.map member) fewer → Reads (readRecord slots (put i value)) fewer result →
    Reads (readRecord slots value) text result
  finish : ∀ {blanks}, Blank blanks → finish blanks = .ok ()
  /-- All slots of a record are written, in their order. -/
  written : ∀ {σ : Type} (slots : List (Slot σ)) (value : σ),
    ObjectText (slots.map (Slot.written value)) (writeRecord slots value)

/-! ## Reading records -/

section Records

variable {τ : Type} {blanks behind : List Char} (lawful : Lawful)
include lawful

/-- **A record reads from every spelling of its members.** They may come in any order, with any
blanks between them. -/
theorem reads_readRecord (all : PutsAll slots member put row)
    (spelled : ObjectText (row.map member) text) (value : σ) :
    Reads (readRecord slots value) text (row.foldl (fun value i => put i value) value) := by
  -- One member after another goes into the value, until there is none left to be read.
  induction row generalizing value text with
  | nil => exact lawful.empty slots value spelled
  | cons i row ih =>
    obtain ⟨fewer, later⟩ := spelled.exists_fewer
    exact lawful.given all spelled later (ih all.tail later (put i value))

theorem readWhole_eq (all : PutsAll slots member put row) (blank : Blank blanks)
    (blankBehind : Blank behind) (spelled : ObjectText (row.map member) text) :
    readWhole slots value (String.ofList (blanks ++ (text ++ behind))) =
      .ok (row.foldl (fun value i => put i value) value) := by
  have ends : Ends behind := List.append_nil behind ▸ ends_append blankBehind ends_nil
  have read := reads_readRecord lawful all spelled value blank ends
  rw [readWhole, String.toList_ofList, read, ok_bind]
  dsimp only
  rw [lawful.finish blankBehind]
  rfl

theorem takes_ofNat {name : String} {limit n : Nat} {get : σ → Nat} {set : σ → Nat → σ}
    (fits : n ≤ limit) (small : limit ≤ 0xFFFFFFFFFFFFFFFF) :
    (Slot.ofNat name limit get set).Takes (writeNat n) fun value => set value n := by
  intro value blanks rest blank ends
  simp only [Slot.ofNat, lawful.number fits small blank ends]
  rfl

theorem takes_ofText {name s : String} {get : σ → String} {set : σ → String → σ} :
    (Slot.ofText name get set).Takes (writeText s) fun value => set value s := by
  intro value blanks rest blank ends
  simp only [Slot.ofText, lawful.text s blank ends]
  rfl

theorem takes_ofRecord {name : String} {initial : σ} {get : τ → σ} {set : τ → σ → τ}
    (all : PutsAll slots member put row) (spelled : ObjectText (row.map member) text) :
    (Slot.ofRecord name slots initial get set).Takes text fun value =>
      set value (row.foldl (fun part i => put i part) initial) := by
  intro value blanks rest blank ends
  simp only [Slot.ofRecord, reads_readRecord lawful all spelled initial blank ends]
  rfl

end Records

/-! ## Writing records -/

section Writing

variable {one two : ι → Member}

theorem MemberText.imp {one two : Member} (named : one.name = two.name)
    (wider : ∀ text, one.Spells text → two.Spells text) (spelled : MemberText one text) :
    MemberText two text := by
  cases spelled with
  | pair blankBefore blankBehind spells blankAfter =>
    exact named ▸ .pair blankBefore blankBehind (wider _ spells) blankAfter

theorem MembersText.imp (wider : ∀ i ∈ row, ∀ text, MemberText (one i) text →
    MemberText (two i) text) (spelled : MembersText (row.map one) text) :
    MembersText (row.map two) text := by
  generalize same : row.map one = members at spelled
  induction spelled generalizing row with
  | last only =>
    obtain ⟨i, rfl, rfl⟩ := List.map_eq_singleton_iff.mp same
    exact .last (wider i List.mem_cons_self _ only)
  | more first blank others ih =>
    obtain ⟨i, row, rfl, rfl, rfl⟩ := List.map_eq_cons_iff.mp same
    exact .more (wider i List.mem_cons_self _ first) blank
      (ih (fun j here => wider j (List.mem_cons_of_mem _ here)) rfl)

theorem ObjectText.imp (wider : ∀ i ∈ row, ∀ text, MemberText (one i) text →
    MemberText (two i) text) (spelled : ObjectText (row.map one) text) :
    ObjectText (row.map two) text := by
  generalize same : row.map one = members at spelled
  cases spelled with
  | empty blank =>
    obtain rfl := List.map_eq_nil_iff.mp same
    exact .empty blank
  | filled blank members => exact .filled blank (.imp wider (same ▸ members))

/-- What is written for a record is a spelling of all its members. -/
theorem objectText_writeRecord (lawful : Lawful) {slot : ι → Slot σ}
    (named : ∀ i ∈ row, (slot i).name = (member i).name)
    (spells : ∀ i ∈ row, (member i).Spells ((slot i).write value)) :
    ObjectText (row.map member) (writeRecord (row.map slot) value) := by
  have plain := lawful.written (row.map slot) value
  rw [List.map_map] at plain
  refine plain.imp fun i here text => MemberText.imp (named i here) ?_
  rintro text rfl
  exact spells i here

end Writing

end Landmark.JsonFormat
