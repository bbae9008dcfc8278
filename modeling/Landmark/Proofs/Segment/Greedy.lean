import Landmark.Proofs.Checked.Segment
import Landmark.Proofs.Symbol.Outcome
import Mathlib.Data.List.Infix
import Mathlib.Order.Bounds.Basic

/-! # A greedy search

A search takes the first occurrence, and then the first behind each hit. A byte string that
overlaps itself can therefore occur at places that are not listed. One that does not is found
wherever it occurs.
-/

namespace Landmark

open Log

/-- No part of a byte string, short of the whole, stands both at its head and at its end. -/
def Bytes.Unbordered (needle : Bytes) : Prop :=
  ∀ border, border <+: needle → border ≠ [] → border <:+ needle → border = needle

instance (needle : Bytes) : Decidable needle.Unbordered :=
  decidable_of_iff (∀ border ∈ needle.inits, border ≠ [] → border <:+ needle → border = needle)
    (by simp only [Bytes.Unbordered, List.mem_inits])

namespace Segment

variable {segment : Segment} {needle : Bytes} {address : Nat} {row other : List Nat}

theorem occursAt_iff (filled : needle ≠ []) :
    segment.OccursAt needle address ↔ segment.base ≤ address ∧
      address + needle.length ≤ segment.base + segment.defined ∧
      (segment.data.drop (address - segment.base)).take needle.length = needle := by
  have positive := List.length_pos_iff.mpr filled
  have room := segment.defined_le
  simp only [OccursAt, definedData, List.drop_take, List.prefix_take_iff, ne_eq, filled,
    not_false_eq_true, true_and]
  constructor
  · rintro ⟨above, here, fits⟩
    exact ⟨above, by omega, (List.prefix_iff_eq_take.mp here).symm⟩
  · rintro ⟨above, fits, here⟩
    exact ⟨above, List.prefix_iff_eq_take.mpr here.symm, by omega⟩

theorem mem_range'_of_occursAt (here : segment.OccursAt needle address) :
    address ∈ List.range' segment.base segment.defined := by
  have positive := List.length_pos_iff.mpr here.1
  obtain ⟨above, fits, _⟩ := (occursAt_iff here.1).mp here
  rw [List.mem_range'_1]
  omega

/-! ## The first from a place on -/

/-- The row that a greedy search from `start` on comes to. -/
inductive Greedy (segment : Segment) (needle : Bytes) : (start : Nat) → List Nat → Prop where
  | ended {start : Nat} (absent : ∀ place, start ≤ place → ¬segment.OccursAt needle place) :
    Greedy segment needle start []
  | hit {start first : Nat} {rest : List Nat}
    (least : IsLeast {place | start ≤ place ∧ segment.OccursAt needle place} first)
    (later : Greedy segment needle (first + needle.length) rest) :
    Greedy segment needle start (first :: rest)

theorem greedy_of_covers {start : Nat} (above : ∀ hit ∈ row, start ≤ hit)
    (occurs : ∀ hit ∈ row, segment.OccursAt needle hit)
    (apart : row.Pairwise fun a b => a + needle.length ≤ b)
    (covers : ∀ place, start ≤ place → segment.OccursAt needle place →
      ∃ hit ∈ row, hit ≤ place ∧ place < hit + needle.length) :
    Greedy segment needle start row := by
  induction row generalizing start with
  | nil =>
    apply Greedy.ended
    intro place from_start here
    obtain ⟨hit, member, _⟩ := covers place from_start here
    cases member
  | cons first rest ih =>
    obtain ⟨behind, restApart⟩ := List.pairwise_cons.mp apart
    apply Greedy.hit
    · refine ⟨⟨above first List.mem_cons_self, occurs first List.mem_cons_self⟩, ?_⟩
      intro place member
      obtain ⟨hit, listed, below, _⟩ := covers place member.1 member.2
      cases List.mem_cons.mp listed with
      | inl same => exact same ▸ below
      | inr later =>
        have apart := behind hit later
        omega
    · apply ih behind (fun hit later => occurs hit (List.mem_cons_of_mem _ later)) restApart
      intro place further here
      have from_start : start ≤ place := by
        have le := above first List.mem_cons_self
        omega
      obtain ⟨hit, listed, below, within⟩ := covers place from_start here
      cases List.mem_cons.mp listed with
      | inl same =>
        subst same
        omega
      | inr later => exact ⟨hit, later, below, within⟩

theorem Hits.greedy (hits : segment.Hits needle row) : Greedy segment needle segment.base row :=
  greedy_of_covers (fun hit member => (hits.occurs hit member).2.1) hits.occurs hits.apart
    fun place _ => hits.covers place

theorem Greedy.unique {start : Nat} (greedy : Greedy segment needle start row)
    (again : Greedy segment needle start other) : row = other := by
  induction greedy generalizing other with
  | ended absent =>
    cases again with
    | ended => rfl
    | hit least => exact absurd least.1.2 (absent _ least.1.1)
  | hit least _ ih =>
    cases again with
    | ended absent => exact absurd least.1.2 (absent _ least.1.1)
    | hit other_least later =>
      obtain rfl := least.unique other_least
      rw [ih later]

theorem find_eq_iff_greedy :
    segment.find needle = row ↔ Greedy segment needle segment.base row := by
  constructor
  · rintro rfl
    exact (hits_find segment needle).greedy
  · exact fun greedy => (hits_find segment needle).greedy.unique greedy

/-! ## Just one -/

theorem value_findOnly (segment : Segment) (needle : Bytes) :
    (segment.findOnly needle).value = only? (segment.find needle) := by
  unfold findOnly
  dsimp only
  split <;> rfl

theorem only?_eq_some_iff {α : Type} {row : List α} {one : α} :
    only? row = some one ↔ row = [one] := by
  unfold only?
  split <;> simp_all

/-- There is a single hit where everything that occurs starts in the first occurrence. -/
theorem find_eq_singleton_iff :
    segment.find needle = [address] ↔
      IsLeast {place | segment.OccursAt needle place} address ∧
        ∀ place, segment.OccursAt needle place → place < address + needle.length := by
  rw [find_eq_iff]
  constructor
  · intro hits
    have within : ∀ place, segment.OccursAt needle place →
        address ≤ place ∧ place < address + needle.length := by
      intro place here
      obtain ⟨hit, member, around⟩ := hits.covers place here
      rw [List.mem_singleton.mp member] at around
      exact around
    exact ⟨⟨hits.occurs address List.mem_cons_self, fun place here => (within place here).1⟩,
      fun place here => (within place here).2⟩
  · rintro ⟨least, within⟩
    constructor
    · intro hit member
      rw [List.mem_singleton.mp member]
      exact least.1
    · exact List.pairwise_singleton _ _
    · intro place here
      exact ⟨address, List.mem_cons_self, least.2 here, within place here⟩

/-! ## Byte strings that do not overlap themselves -/

section Unbordered

variable (unbordered : needle.Unbordered)
include unbordered

theorem apart_of_unbordered {place further : Nat} (here : segment.OccursAt needle place)
    (there : segment.OccursAt needle further) (less : place < further) :
    place + needle.length ≤ further := by
  by_contra overlap
  obtain ⟨_, above, tail, head⟩ := here
  have beyond : segment.definedData.drop (further - segment.base) =
      needle.drop (further - place) ++ tail := by
    have count : further - segment.base = place - segment.base + (further - place) := by omega
    rw [count, ← List.drop_drop, ← head, List.drop_append_of_le_length (by omega)]
  have again : needle <+: needle.drop (further - place) ++ tail := beyond ▸ there.2.2
  have length : (needle.drop (further - place)).length = needle.length - (further - place) :=
    List.length_drop
  -- What the two share is the end of the one and the head of the other.
  have border : needle.drop (further - place) <+: needle :=
    List.prefix_of_prefix_length_le (List.prefix_append _ _) again (by omega)
  have whole : needle.drop (further - place) = needle := by
    apply unbordered _ border
    · apply List.ne_nil_of_length_pos
      omega
    · exact List.drop_suffix _ _
  rw [whole] at length
  omega

/-- Every place at which it occurs is listed. -/
theorem find_eq_filter_of_unbordered :
    segment.find needle =
      (List.range' segment.base segment.defined).filter fun place =>
        segment.OccursAt needle place := by
  rw [find_eq_iff]
  constructor
  · intro hit member
    exact of_decide_eq_true (List.mem_filter.mp member).2
  · have ascending : (List.range' segment.base segment.defined).Pairwise fun a b => a < b :=
      List.pairwise_lt_range'
    apply (ascending.filter _).imp_of_mem
    intro a b inRow further less
    exact apart_of_unbordered unbordered (of_decide_eq_true (List.mem_filter.mp inRow).2)
      (of_decide_eq_true (List.mem_filter.mp further).2) less
  · intro place here
    have positive := List.length_pos_iff.mpr here.1
    exact ⟨place, List.mem_filter.mpr ⟨mem_range'_of_occursAt here, decide_eq_true here⟩,
      Nat.le_refl _, by omega⟩

theorem mem_find_iff_of_unbordered :
    address ∈ segment.find needle ↔ segment.OccursAt needle address := by
  rw [find_eq_filter_of_unbordered unbordered, List.mem_filter, decide_eq_true_iff]
  exact and_iff_right_of_imp mem_range'_of_occursAt

theorem find_eq_singleton_iff_of_unbordered :
    segment.find needle = [address] ↔ segment.OccursOnce needle address := by
  constructor
  · intro single
    constructor
    · rw [← mem_find_iff_of_unbordered unbordered, single]
      exact List.mem_cons_self
    · intro place here
      rw [← mem_find_iff_of_unbordered unbordered, single] at here
      exact List.mem_singleton.mp here
  · exact find_of_once

end Unbordered

end Segment

/-! ## Whatever finds the first occurrence -/

/-- The offset of the first occurrence, for byte strings that are not empty. -/
def FindsFirst (finder : (needle haystack : Bytes) → Option Nat) : Prop :=
  ∀ needle haystack ahead, needle ≠ [] →
    (finder needle haystack = some ahead ↔
      IsLeast {place | needle <+: haystack.drop place} ahead)

namespace Checked

variable {finder : (needle haystack : Bytes) → Option Nat} {segment : Segment}
  {needle haystack : Bytes}

theorem findsFirst_firstHit : FindsFirst firstHit := by
  intro needle haystack ahead filled
  induction haystack generalizing ahead with
  | nil =>
    simp only [firstHit, List.drop_nil, List.prefix_nil, filled, Set.ofPred_false, reduceCtorEq,
      false_iff]
    exact fun least => least.1
  | cons byte rest ih =>
    rw [firstHit]
    split
    next here =>
      have zero : IsLeast {place | needle <+: (byte :: rest).drop place} 0 :=
        ⟨List.isPrefixOf_iff_prefix.mp here, fun place _ => Nat.zero_le place⟩
      constructor
      · intro same
        obtain rfl := Option.some.inj same
        exact zero
      · exact fun least => congrArg some (zero.unique least)
    next miss =>
      rw [Option.map_eq_some_iff]
      constructor
      · rintro ⟨further, found, rfl⟩
        have least := (ih further).mp found
        refine ⟨least.1, ?_⟩
        intro place here
        cases place with
        | zero => exact absurd (List.isPrefixOf_iff_prefix.mpr here) miss
        | succ place => exact Nat.succ_le_succ (least.2 here)
      · intro least
        cases ahead with
        | zero => exact absurd (List.isPrefixOf_iff_prefix.mpr least.1) miss
        | succ further =>
          refine ⟨further, (ih further).mpr ⟨least.1, ?_⟩, rfl⟩
          intro place here
          exact Nat.le_of_succ_le_succ (@least.2 (place + 1) here)

theorem eq_firstHit (first : FindsFirst finder) (filled : needle ≠ []) (haystack : Bytes) :
    finder needle haystack = firstHit needle haystack := by
  apply Option.ext
  intro ahead
  rw [first needle haystack ahead filled, findsFirst_firstHit needle haystack ahead filled]

/-- The loop of the search, with the search for the first occurrence left open. -/
def hitsBy (finder : (needle haystack : Bytes) → Option Nat) (base : Nat)
    (needle haystack : Bytes) : (fuel place : Nat) → Checked (List Nat)
  | 0, _ => .error .endless
  | fuel + 1, place => do
    match finder needle (← behind haystack place) with
    | none => return []
    | some ahead =>
      let hit ← add place ahead
      let address ← add base hit
      let next ← add hit needle.length
      return address :: (← hitsBy finder base needle haystack fuel next)

def findBy (finder : (needle haystack : Bytes) → Option Nat) (segment : Segment)
    (needle : Bytes) : Checked (List Nat) :=
  if needle.isEmpty then return []
  else do
    let haystack ← definedData segment
    hitsBy finder segment.base needle haystack (haystack.length + 1) 0

theorem hitsBy_eq (first : FindsFirst finder) (filled : needle ≠ []) (base fuel place : Nat) :
    hitsBy finder base needle haystack fuel place =
      hitsFrom base needle haystack fuel place := by
  induction fuel generalizing place with
  | zero => rfl
  | succ fuel ih =>
    rw [hitsBy, hitsFrom]
    cases behind haystack place with
    | error trap => rfl
    | ok rest =>
      rw [ok_bind, ok_bind, eq_firstHit first filled]
      cases firstHit needle rest with
      | none => rfl
      | some ahead => simp only [ih]

theorem findBy_eq (first : FindsFirst finder) (segment : Segment) (needle : Bytes) :
    findBy finder segment needle = find segment needle := by
  unfold findBy find
  split
  next => rfl
  next filled =>
    have nonempty : needle ≠ [] := by simpa using filled
    simp only [hitsBy_eq first nonempty]

/-- Each round starts behind the last, so there are no more of them than bytes, and one. -/
theorem hitsFrom_ne_endless (filled : needle ≠ []) (base : Nat) {fuel place : Nat}
    (within : place ≤ haystack.length) (enough : haystack.length < place + fuel) :
    hitsFrom base needle haystack fuel place ≠ .error .endless := by
  induction fuel generalizing place with
  | zero => omega
  | succ fuel ih =>
    rw [hitsFrom, behind_eq within, ok_bind]
    cases found : firstHit needle (haystack.drop place) with
    | none =>
      intro same
      cases same
    | some ahead =>
      have positive := List.length_pos_iff.mpr filled
      have fits := firstHit_fits found
      rw [List.length_drop] at fits
      apply bind_ne_endless (add_ne_endless _ _)
      intro hit added
      apply bind_ne_endless (add_ne_endless _ _)
      intro address _
      apply bind_ne_endless (add_ne_endless _ _)
      intro next onward
      apply bind_ne_endless
      · have hit_eq := eq_of_add added
        have next_eq := eq_of_add onward
        apply ih <;> omega
      · intro row _ same
        cases same

theorem find_ne_endless (segment : Segment) (needle : Bytes) :
    find segment needle ≠ .error .endless := by
  unfold find
  split
  next => nofun
  next filled =>
    have nonempty : needle ≠ [] := by simpa using filled
    rw [definedData_eq, ok_bind]
    exact hitsFrom_ne_endless nonempty _ (Nat.zero_le _) (by omega)

end Checked

namespace Segment

/-- A byte string is searched for from left to right, each time behind the last hit. -/
structure SearchesGreedily (finder : (needle haystack : Bytes) → Option Nat) (segment : Segment)
    (needle : Bytes) : Prop where
  occurs : ∀ place, segment.OccursAt needle place ↔ segment.base ≤ place ∧
    place + needle.length ≤ segment.base + segment.defined ∧
    (segment.data.drop (place - segment.base)).take needle.length = needle
  greedy : ∀ row, segment.find needle = row ↔ Greedy segment needle segment.base row
  hits : ∀ hit ∈ segment.find needle, segment.OccursAt needle hit
  ascending : (segment.find needle).Pairwise fun a b => a < b
  apart : (segment.find needle).Pairwise fun a b => a + needle.length ≤ b
  covers : ∀ place, segment.OccursAt needle place →
    ∃ hit ∈ segment.find needle, hit ≤ place ∧ place < hit + needle.length
  /-- There is just one hit where all that occurs starts in the first occurrence. -/
  only : ∀ address, (segment.findOnly needle).value = some address ↔
    IsLeast {place | segment.OccursAt needle place} address ∧
      ∀ place, segment.OccursAt needle place → place < address + needle.length
  anchored : ∀ symbol anchor address, Text.Utf8.encode anchor = needle →
    ((Search.uniqueAnchor symbol segment anchor).result = .ok address ↔
      (segment.findOnly needle).value = some address)
  all : needle.Unbordered → segment.find needle =
    (List.range' segment.base segment.defined).filter fun place => segment.OccursAt needle place
  once : needle.Unbordered → ∀ address,
    (segment.findOnly needle).value = some address ↔ segment.OccursOnce needle address
  /-- The loop comes to the same, where the last address can be written down. -/
  machine : segment.base + segment.definedData.length < Checked.word →
    Checked.findBy finder segment needle = .ok (segment.find needle)
  ends : Checked.findBy finder segment needle ≠ .error .endless

/-- **A search is greedy**, with anything that finds the first occurrence. -/
theorem searchesGreedily {finder : (needle haystack : Bytes) → Option Nat}
    (first : FindsFirst finder) (segment : Segment) :
    (segment.find [] = [] ∧ Checked.findBy finder segment [] = .ok []) ∧
      ∀ needle, needle ≠ [] → SearchesGreedily finder segment needle := by
  refine ⟨⟨rfl, rfl⟩, ?_⟩
  intro needle filled
  have hits := hits_find segment needle
  have value : ∀ address, (segment.findOnly needle).value = some address ↔
      segment.find needle = [address] := by
    intro address
    rw [value_findOnly, only?_eq_some_iff]
  exact {
    occurs := fun _ => occursAt_iff filled
    greedy := fun _ => find_eq_iff_greedy
    hits := hits.occurs
    ascending := hits.ascending
    apart := hits.apart
    covers := hits.covers
    only := fun address => (value address).trans find_eq_singleton_iff
    anchored := fun symbol anchor address written => by
      rw [Search.uniqueAnchor_eq_ok_iff, written, value]
    all := find_eq_filter_of_unbordered
    once := fun unbordered address =>
      (value address).trans (find_eq_singleton_iff_of_unbordered unbordered)
    machine := fun room =>
      (Checked.findBy_eq first segment needle).trans (Checked.find_eq_of_room room needle)
    ends := Checked.findBy_eq first segment needle ▸ Checked.find_ne_endless segment needle }

/-- Five times the letter a, of which the image defines three. -/
def aaaaa : Segment :=
  { name := ".rdata"
    base := 0x10
    data := [0x61, 0x61, 0x61, 0x61, 0x61]
    defined := 3
    defined_le := by decide }

/-- The pair occurs twice and is found once. -/
theorem aaaaa_searchesGreedily :
    FindsFirst Checked.firstHit ∧ SearchesGreedily Checked.firstHit aaaaa [0x61, 0x61] ∧
      aaaaa.OccursAt [0x61, 0x61] 0x10 ∧ aaaaa.OccursAt [0x61, 0x61] 0x11 ∧
      ¬aaaaa.OccursAt [0x61, 0x61] 0x12 ∧ (aaaaa.findOnly [0x61, 0x61]).value = some 0x10 := by
  have greedy := (searchesGreedily Checked.findsFirst_firstHit aaaaa).2 [0x61, 0x61] (by decide)
  have single : aaaaa.find [0x61, 0x61] = [0x10] :=
    Except.ok.inj ((greedy.machine (by decide)).symm.trans (by decide))
  refine ⟨Checked.findsFirst_firstHit, greedy, by decide, by decide, by decide, ?_⟩
  rw [value_findOnly, single]
  rfl

end Segment

end Landmark
