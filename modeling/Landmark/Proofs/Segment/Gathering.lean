import Landmark.Proofs.Segment.Hits
import Landmark.Proofs.Segment.Walk
import Landmark.Proofs.Selection
import Mathlib.Order.Bounds.Basic

/-! # Candidates around many sites

The walks back from the sites of a row overlap, so what a walk lists is kept only where no walk
before it listed it. What is kept of all of them are the candidates of the sites that lie strictly
inside, each once: those of the lower site first, and of one site the nearer first. A site at the
start of the segment adds nothing, and no walk is refused.
-/

namespace Landmark

namespace Segment

/-- The walk back from a site lists an entry. -/
def Lists (segment : Segment) (convention : EntryConvention) (window site entry : Nat) : Prop :=
  ∃ row, segment.entriesNear convention window site = .ok row ∧ entry ∈ row

/-- Of the sites whose walks list an entry this is the lowest. -/
def FirstListed (segment : Segment) (convention : EntryConvention) (window : Nat)
    (sites : List Nat) (entry site : Nat) : Prop :=
  IsLeast { place | place ∈ sites ∧ segment.Lists convention window place entry } site

/-- The candidates of many sites, each once and in the order in which they come up. -/
structure Gathers (segment : Segment) (convention : EntryConvention) (window : Nat)
    (sites entries : List Nat) : Prop where
  distinct : entries.Nodup
  exactly : ∀ entry, entry ∈ entries ↔ ∃ site ∈ sites,
    segment.base < site ∧ site < segment.stop ∧ segment.Lists convention window site entry
  order : entries.Pairwise fun former latter => ∀ site other,
    segment.FirstListed convention window sites former site →
    segment.FirstListed convention window sites latter other →
    site < other ∨ site = other ∧ latter < former

end Segment

namespace Checked

/-- Keeps an entry behind the others, unless it is one of them. -/
def keepNew (entries : List Nat) (entry : Nat) : List Nat :=
  if entry ∈ entries then entries else entries ++ [entry]

/-- Takes one site after the other, with the entries that are kept so far. -/
def gather (segment : Segment) (convention : EntryConvention) (window : Nat) :
    (sites entries : List Nat) → Guarded Fatal (List Nat)
  | [], entries => return entries
  | site :: rest, entries => do
    if ← ExceptT.lift (contains segment site) then
      let near ← entriesNear segment convention window site
      gather segment convention window rest (near.foldl keepNew entries)
    else gather segment convention window rest entries

def gatherAround (segment : Segment) (convention : EntryConvention) (window : Nat)
    (needle : Bytes) : Guarded Fatal (List Nat) := do
  gather segment convention window (← ExceptT.lift (find segment needle)) []

theorem foldl_keepNew_eq_eraseDups (row : List Nat) : row.foldl keepNew [] = row.eraseDups :=
  Survivor.foldl_keep_eq_eraseDups row

/-- Of a row without repetitions all that is not there yet is kept, in its order. -/
theorem foldl_keepNew_of_nodup {row : List Nat} (distinct : row.Nodup) (entries : List Nat) :
    row.foldl keepNew entries = entries ++ row.filter (· ∉ entries) :=
  Survivor.foldl_keep_of_nodup distinct entries

end Checked

namespace Segment

variable {segment : Segment} {convention : EntryConvention} {window site entry : Nat}
  {sites entries : List Nat}

section Valid

variable (power : EntryConvention.isPowerOfTwo convention.alignment = true)
  (whole : window % convention.alignment = 0)
include power whole

theorem lists_iff : segment.Lists convention window site entry ↔
    segment.contains site = true ∧ entry ∈ segment.walked convention window site := by
  constructor
  · rintro ⟨row, found, member⟩
    obtain ⟨starts, rfl⟩ := starts_of_entriesNear found
    exact ⟨starts.contains, member⟩
  · rintro ⟨inside, member⟩
    exact ⟨_, entriesNear_eq power whole inside, member⟩

omit whole in
theorem walked_descends (site : Nat) :
    (segment.walked convention window site).Pairwise (· > ·) :=
  (EntryConvention.boundaries_descend (EntryConvention.positive_of_isPowerOfTwo power) _ _).filter _

/-- A site behind all that were taken adds what its walk lists and is not there yet. -/
theorem Gathers.behind (gathers : Gathers segment convention window sites entries)
    (inside : segment.contains site = true) (last : ∀ other ∈ sites, other < site) :
    Gathers segment convention window (sites ++ [site])
      ((segment.walked convention window site).foldl Checked.keepNew entries) := by
  have descends := @walked_descends segment convention window power site
  have nodup : (segment.walked convention window site).Nodup := descends.imp Nat.ne_of_gt
  have listed : ∀ entry, segment.Lists convention window site entry ↔
      entry ∈ segment.walked convention window site := by
    intro entry
    rw [lists_iff power whole, inside]
    exact and_iff_right rfl
  have within := contains_iff.mp inside
  -- What was there already is first listed by a site that was there already.
  have known : ∀ entry ∈ entries, ∀ first,
      segment.FirstListed convention window (sites ++ [site]) entry first →
        first < site ∧ segment.FirstListed convention window sites entry first := by
    intro entry member first least
    obtain ⟨other, among, _, _, lists⟩ := (gathers.exactly entry).mp member
    have below := Nat.lt_of_le_of_lt (least.2 ⟨List.mem_append_left _ among, lists⟩)
      (last other among)
    refine ⟨below, ⟨?_, least.1.2⟩, fun place held => ?_⟩
    · cases List.mem_append.mp least.1.1 with
      | inl taken => exact taken
      | inr added => exact absurd (List.mem_singleton.mp added) (Nat.ne_of_lt below)
    · exact least.2 ⟨List.mem_append_left _ held.1, held.2⟩
  have added : ∀ entry ∉ entries, ∀ first,
      segment.FirstListed convention window (sites ++ [site]) entry first → first = site := by
    intro entry fresh first least
    cases List.mem_append.mp least.1.1 with
    | inl taken =>
      have around := contains_iff.mp ((lists_iff power whole).mp least.1.2).1
      exact absurd ((gathers.exactly entry).mpr
        ⟨first, taken, around.1, around.2, least.1.2⟩) fresh
    | inr added => exact List.mem_singleton.mp added
  rw [Checked.foldl_keepNew_of_nodup nodup]
  refine ⟨?_, ?_, ?_⟩
  · rw [List.nodup_append]
    refine ⟨gathers.distinct, nodup.filter _, ?_⟩
    rintro entry member _ fresh rfl
    exact absurd member (by simpa using (List.mem_filter.mp fresh).2)
  · intro entry
    simp only [List.mem_append, List.mem_filter, List.mem_singleton, decide_eq_true_eq]
    constructor
    · rintro (member | ⟨near, _⟩)
      · obtain ⟨other, among, around⟩ := (gathers.exactly entry).mp member
        exact ⟨other, .inl among, around⟩
      · exact ⟨site, .inr rfl, within.1, within.2, (listed entry).mpr near⟩
    · rintro ⟨other, among | rfl, around⟩
      · exact .inl ((gathers.exactly entry).mpr ⟨other, among, around⟩)
      · by_cases seen : entry ∈ entries
        · exact .inl seen
        · exact .inr ⟨(listed entry).mp around.2.2, seen⟩
  · rw [List.pairwise_append]
    refine ⟨?_, ?_, ?_⟩
    · refine gathers.order.imp_of_mem ?_
      intro former latter inFormer inLatter order first other least least'
      exact order first other (known former inFormer first least).2
        (known latter inLatter other least').2
    · refine (descends.filter _).imp_of_mem ?_
      intro former latter inFormer inLatter descends first other least least'
      have fresh : former ∉ entries := by simpa using (List.mem_filter.mp inFormer).2
      have fresh' : latter ∉ entries := by simpa using (List.mem_filter.mp inLatter).2
      rw [added former fresh first least, added latter fresh' other least']
      exact .inr ⟨rfl, descends⟩
    · intro former inFormer latter inLatter first other least least'
      have fresh : latter ∉ entries := by simpa using (List.mem_filter.mp inLatter).2
      rw [added latter fresh other least']
      exact .inl (known former inFormer first least).1

theorem gathers_of_ascending (inside : ∀ site ∈ sites, segment.contains site = true)
    (ascending : sites.Pairwise fun a b => a < b) :
    Gathers segment convention window sites
      (sites.flatMap (segment.walked convention window)).eraseDups := by
  rw [← Checked.foldl_keepNew_eq_eraseDups]
  induction sites using List.reverseRecOn with
  | nil =>
    refine ⟨List.nodup_nil, fun entry => ?_, .nil⟩
    simp
  | append_singleton front last ih =>
    obtain ⟨before, _, below⟩ := List.pairwise_append.mp ascending
    have gathers := ih (fun site member => inside site (List.mem_append_left _ member)) before
    rw [List.flatMap_append, List.foldl_append, List.flatMap_singleton]
    exact gathers.behind power whole (inside last (by simp))
      fun other member => below other member last (by simp)

/-- Sites that are passed over list nothing. -/
theorem Gathers.of_filter
    (gathers : Gathers segment convention window (sites.filter segment.contains) entries) :
    Gathers segment convention window sites entries := by
  have kept : ∀ place entry,
      place ∈ sites.filter segment.contains ∧ segment.Lists convention window place entry ↔
        place ∈ sites ∧ segment.Lists convention window place entry := by
    intro place entry
    rw [List.mem_filter, and_assoc]
    refine and_congr_right fun _ => and_iff_right_of_imp fun lists => ?_
    exact ((lists_iff power whole).mp lists).1
  have first : ∀ entry site,
      segment.FirstListed convention window (sites.filter segment.contains) entry site ↔
        segment.FirstListed convention window sites entry site := by
    intro entry site
    simp only [FirstListed, kept]
  refine ⟨gathers.distinct, fun entry => ?_, ?_⟩
  · rw [gathers.exactly]
    constructor
    · rintro ⟨site, member, around⟩
      exact ⟨site, (List.mem_filter.mp member).1, around⟩
    · rintro ⟨site, member, around⟩
      have inside := contains_iff.mpr ⟨around.1, around.2.1⟩
      exact ⟨site, List.mem_filter.mpr ⟨member, inside⟩, around⟩
  · simpa only [first] using gathers.order

end Valid

end Segment

namespace Checked

variable {segment : Segment} {convention : EntryConvention} {window : Nat}

theorem gather_eq (room : segment.stop < word)
    (power : EntryConvention.isPowerOfTwo convention.alignment = true)
    (whole : window % convention.alignment = 0) (sites entries : List Nat) :
    gather segment convention window sites entries =
      pure (((sites.filter segment.contains).flatMap
        (segment.walked convention window)).foldl keepNew entries) := by
  induction sites generalizing entries with
  | nil => rfl
  | cons site rest ih =>
    rw [gather, contains_eq, lift_ok_bind]
    by_cases inside : segment.contains site = true
    · rw [if_pos inside, entriesNear_eq room power whole inside, pure_bind, ih,
        List.filter_cons_of_pos inside, List.flatMap_cons, List.foldl_append]
    · rw [if_neg inside, ih, List.filter_cons_of_neg inside]

end Checked

namespace Segment

variable {segment : Segment} {convention : EntryConvention} {window : Nat} {needle : Bytes}
  {gathered : Except Fatal (List Nat)}

/-- What is gathered around the hits of a search. -/
structure GathersAround (segment : Segment) (convention : EntryConvention) (window : Nat)
    (needle : Bytes) (gathered : Except Fatal (List Nat)) : Prop where
  ascending : (segment.find needle).Pairwise fun a b => a < b
  gathers : ∃ entries, gathered = .ok entries ∧
    Gathers segment convention window (segment.find needle) entries
  /-- A hit at the start of the segment might as well not be there. -/
  aside : segment.entriesOf convention window
    ((segment.find needle).filter fun hit => hit ≠ segment.base) = gathered
  machine : segment.stop < Checked.word →
    (Checked.gatherAround segment convention window needle).run = .ok gathered

theorem filter_contains_aside (sites : List Nat) :
    (sites.filter fun site => site ≠ segment.base).filter segment.contains =
      sites.filter segment.contains := by
  rw [List.filter_filter]
  apply List.filter_congr
  intro site _
  cases inside : segment.contains site with
  | false => rfl
  | true =>
    have above := (contains_iff.mp inside).1
    simpa using Nat.ne_of_gt above

theorem gathersAround_of_eq (valid : convention.validate = .ok ())
    (whole : convention.alignment ∣ window)
    (same : gathered = segment.entriesOf convention window (segment.find needle)) :
    GathersAround segment convention window needle gathered := by
  have power := EntryConvention.isPowerOfTwo_of_validate valid
  have even := Nat.mod_eq_zero_of_dvd whole
  have ascending := (hits_find segment needle).ascending
  have found := @entriesOf_eq segment convention window power even
  rw [same]
  refine ⟨ascending, ⟨_, found _, ?_⟩, ?_, fun room => ?_⟩
  · apply Gathers.of_filter power even
    exact gathers_of_ascending power even (fun site member => (List.mem_filter.mp member).2)
      (ascending.filter _)
  · rw [found, found, filter_contains_aside]
  · have fits : segment.base + segment.definedData.length < Checked.word := by
      have short : segment.definedData.length ≤ segment.size := List.length_take_le' _ _
      unfold stop at room
      omega
    rw [Checked.gatherAround, Checked.find_eq_of_room fits, Checked.lift_ok_bind,
      Checked.gather_eq room power even, Checked.foldl_keepNew_eq_eraseDups, found]
    rfl

/-- **The candidates around references and byte strings are those of all hits strictly inside.** -/
theorem entries_gathered (segment : Segment) (valid : convention.validate = .ok ())
    (whole : convention.alignment ∣ window) :
    (∀ target, GathersAround segment convention window (Image.pointerBytes segment.bits target)
      (segment.entriesReferencing convention window target).result) ∧
    ∀ needle, GathersAround segment convention window needle
      (segment.entriesReferencingBytes convention window needle).result := by
  have around : ∀ sites, (segment.entriesAround convention window sites).result =
      segment.entriesOf convention window sites := by
    intro sites
    simp only [entriesAround, Log.Attempt.result_bind, Log.Attempt.result_ofExcept,
      Log.Attempt.result_emit, Log.Attempt.result_pure]
    cases segment.entriesOf convention window sites <;> rfl
  exact ⟨fun target => gathersAround_of_eq valid whole (around _),
    fun needle => gathersAround_of_eq valid whole (around _)⟩

/-- Functions that start at multiples of sixteen, with traps between them. -/
def sixteenfold : EntryConvention := { alignment := 16, padding := 0xCC }

/-- Code that holds a name three times, the first time at its start. -/
def labelled : Segment :=
  { name := ".text"
    base := 0x1000
    data := [0x41, 0x42, 0x43, 0x44] ++ List.replicate 27 0x90 ++ [0xCC] ++
      List.replicate 4 0x90 ++ [0x41, 0x42, 0x43, 0x44] ++
      List.replicate 12 0x90 ++ [0x41, 0x42, 0x43, 0x44] }

/-- The two hits behind the start share both of their candidates. -/
theorem labelled_gathered :
    sixteenfold.validate = .ok () ∧ sixteenfold.alignment ∣ 32 ∧
      labelled.find [0x41, 0x42, 0x43, 0x44] = [0x1000, 0x1024, 0x1034] ∧
      (labelled.entriesReferencingBytes sixteenfold 32 [0x41, 0x42, 0x43, 0x44]).result =
        .ok [0x1020, 0x1000] ∧
      GathersAround labelled sixteenfold 32 [0x41, 0x42, 0x43, 0x44]
        (labelled.entriesReferencingBytes sixteenfold 32 [0x41, 0x42, 0x43, 0x44]).result := by
  have valid : sixteenfold.validate = .ok () := by rfl
  have whole : sixteenfold.alignment ∣ 32 := by decide
  have around := (entries_gathered labelled valid whole).2 [0x41, 0x42, 0x43, 0x44]
  have found := @Checked.find_eq_of_room labelled (by decide) [0x41, 0x42, 0x43, 0x44]
  have gathered := around.machine (by decide)
  exact ⟨valid, whole, Except.ok.inj (found.symm.trans (by decide)),
    Except.ok.inj (gathered.symm.trans (by rfl)), around⟩

end Segment

end Landmark
