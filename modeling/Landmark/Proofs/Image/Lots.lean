import Landmark.Image.Blueprint
import Landmark.Proofs.Bytes
import Landmark.Proofs.Image.Reads

/-! # Pieces that keep apart

Where each piece has room of its own, it does not matter in what order pieces are written:
in the end each stands at the front of its room, and what it leaves of the room is still
zero. A lot is such a room with what is written there.
-/

namespace Landmark

namespace Image

/-- An image after pieces have been written over it one after another. -/
def written (image : Bytes) (pieces : List Piece) : Bytes :=
  pieces.foldl (fun image piece => image.overlay piece.1 piece.2) image

@[simp] theorem length_written (image : Bytes) (pieces : List Piece) :
    (written image pieces).length = image.length := by
  induction pieces generalizing image with
  | nil => rfl
  | cons piece rest ih => exact (ih _).trans (Bytes.length_overlay _ _ _)

/-- A byte that no piece reaches stays as it is. -/
theorem getElem?_written_of_clear {image : Bytes} {pieces : List Piece} {place : Nat}
    (inside : place < image.length)
    (clear : ∀ piece ∈ pieces, place < piece.1 ∨ piece.1 + piece.2.length ≤ place) :
    (written image pieces)[place]? = image[place]? := by
  induction pieces generalizing image with
  | nil => rfl
  | cons piece rest ih =>
    have here := clear piece List.mem_cons_self
    have first : (image.overlay piece.1 piece.2)[place]? = image[place]? := by
      rw [Bytes.getElem?_overlay _ _ inside, if_neg (by omega)]
    rw [← first]
    exact ih (by simpa using inside) fun other among => clear other (List.mem_cons_of_mem _ among)

/-- A byte is that of the last piece that reaches it. -/
theorem getElem?_written_of_reached {image : Bytes} {before behind : List Piece} {piece : Piece}
    {place : Nat} (inside : place < image.length)
    (reached : piece.1 ≤ place ∧ place < piece.1 + piece.2.length)
    (clear : ∀ other ∈ behind, place < other.1 ∨ other.1 + other.2.length ≤ place) :
    (written image (before ++ piece :: behind))[place]? = piece.2[place - piece.1]? := by
  have split : written image (before ++ piece :: behind) =
      written ((written image before).overlay piece.1 piece.2) behind := List.foldl_append
  rw [split, getElem?_written_of_clear (by simpa using inside) clear,
    Bytes.getElem?_overlay _ _ (by simpa using inside), if_pos reached]

/-- Room in an image, and the bytes that are written at its front. -/
structure Lot where
  place : Nat
  room : Nat
  bytes : Bytes
  enough : bytes.length ≤ room

namespace Lot

variable {a b lot : Lot} {lots : List Lot} {size : Nat}

def stop (lot : Lot) : Nat := lot.place + lot.room

def piece (lot : Lot) : Piece := (lot.place, lot.bytes)

/-- A piece that takes all of its room. -/
def exact (piece : Piece) : Lot :=
  { place := piece.1, room := piece.2.length, bytes := piece.2, enough := Nat.le_refl _ }

def free (place room : Nat) : Lot := { place, room, bytes := [], enough := Nat.zero_le _ }

/-- What stands there once it is written, where there were zeros before. -/
def content (lot : Lot) : Bytes :=
  lot.bytes ++ List.replicate (lot.room - lot.bytes.length) 0

/-- No byte belongs to the room of both. -/
def Apart (a b : Lot) : Prop := a.stop ≤ b.place ∨ b.stop ≤ a.place

/-- The content stands in its room. -/
def Sits (lot : Lot) (image : Bytes) : Prop :=
  (image.drop lot.place).take lot.room = lot.content

theorem apart_comm : a.Apart b ↔ b.Apart a := Or.comm

theorem free_apart_iff {place room : Nat} :
    (free place room).Apart b ↔ place + room ≤ b.place ∨ b.stop ≤ place := Iff.rfl

@[simp] theorem length_content (lot : Lot) : lot.content.length = lot.room := by
  rw [content, List.length_append, List.length_replicate]
  exact Nat.add_sub_cancel' lot.enough

/-- Behind its bytes a lot keeps the zeros that were there. -/
theorem getElem?_content_of_le {place : Nat} (behind : lot.bytes.length ≤ place)
    (inside : place < lot.room) : lot.content[place]? = some 0 := by
  rw [content, List.getElem?_append_right behind, List.getElem?_replicate, if_pos (by omega)]

/-- The bytes of another lot do not reach into the room of one that is apart from it. -/
theorem Apart.clear {place : Nat} (apart : a.Apart b) (inside : place < a.room) :
    a.place + place < b.piece.1 ∨ b.piece.1 + b.piece.2.length ≤ a.place + place := by
  have enough := b.enough
  unfold Apart stop at apart
  unfold piece
  dsimp only
  omega

/-- Where lots keep apart, each holds in the end what is written into it. -/
theorem sits_of_mem (apart : lots.Pairwise Apart) (fits : ∀ lot ∈ lots, lot.stop ≤ size)
    (member : lot ∈ lots) : lot.Sits (written (List.replicate size 0) (lots.map piece)) := by
  obtain ⟨before, behind, rfl⟩ := List.append_of_mem member
  obtain ⟨-, later, first⟩ := List.pairwise_append.mp apart
  have below : lot.place + lot.room ≤ size := fits lot member
  have front : ∀ other ∈ before, lot.Apart other := fun other among =>
    apart_comm.mp (first other among lot List.mem_cons_self)
  have back : ∀ other ∈ behind, lot.Apart other := (List.pairwise_cons.mp later).1
  refine List.ext_getElem? fun place => ?_
  by_cases inside : place < lot.room
  case neg =>
    rw [List.getElem?_eq_none (by rw [List.length_take]; omega),
      List.getElem?_eq_none (by rw [length_content]; omega)]
  have clear : ∀ other ∈ before ++ lot :: behind, lot.Apart other →
      lot.place + place < other.piece.1 ∨
        other.piece.1 + other.piece.2.length ≤ lot.place + place :=
    fun other _ aside => aside.clear inside
  have within : lot.place + place < (List.replicate size (0 : UInt8)).length := by
    rw [List.length_replicate]
    omega
  rw [List.getElem?_take_of_lt inside, List.getElem?_drop, List.map_append, List.map_cons]
  -- Of all pieces only the lot's own can reach a byte of its room, and it reaches the front.
  by_cases reached : place < lot.bytes.length
  · rw [getElem?_written_of_reached within ⟨Nat.le_add_right _ _, Nat.add_lt_add_left reached _⟩]
    · rw [content, List.getElem?_append_left reached]
      congr 1
      exact Nat.add_sub_cancel_left _ _
    · rw [List.forall_mem_map]
      exact fun other among => clear other (by simp [among]) (back other among)
  · rw [getElem?_written_of_clear within, List.getElem?_replicate, if_pos (by omega),
      getElem?_content_of_le (by omega) inside]
    rw [← List.map_cons, ← List.map_append, List.forall_mem_map]
    intro other among
    rcases List.mem_append.mp among with early | late
    · exact clear other among (front other early)
    rcases List.mem_cons.mp late with rfl | late
    · exact .inr (Nat.add_le_add_left (Nat.le_of_not_lt reached) _)
    · exact clear other among (back other late)

/-- Room that no lot takes a byte of is left as it was. -/
theorem sits_free {place room : Nat} (apart : lots.Pairwise Apart)
    (fits : ∀ lot ∈ lots, lot.stop ≤ size) (inside : place + room ≤ size)
    (untaken : ∀ other ∈ lots, (free place room).Apart other) :
    (free place room).Sits (written (List.replicate size 0) (lots.map piece)) := by
  have all : (free place room).Sits
      (written (List.replicate size 0) ((free place room :: lots).map piece)) :=
    sits_of_mem (List.pairwise_cons.mpr ⟨untaken, apart⟩)
      (List.forall_mem_cons.mpr ⟨inside, fits⟩) List.mem_cons_self
  have skipped : written (List.replicate size 0) ((free place room :: lots).map piece) =
      written (List.replicate size 0) (lots.map piece) :=
    congrArg (fun image => List.foldl _ image _) (Bytes.overlay_nil _ _)
  rwa [skipped] at all

/-- A number that takes all of its room is read back. -/
theorem Sits.field_eq {image : Bytes} {count value place : Nat}
    (sits : (exact (place, Bytes.ofNat count value)).Sits image) (small : value < 256 ^ count) :
    image.field count place = value := by
  unfold Sits content exact at sits
  simp only [Bytes.length_ofNat, Nat.sub_self, List.replicate_zero, List.append_nil] at sits
  rw [Bytes.field, sits, Bytes.toNat_ofNat, Nat.mod_eq_of_lt small]

theorem Sits.field_eq_zero {image : Bytes} {count place : Nat}
    (sits : (free place count).Sits image) : image.field count place = 0 := by
  unfold Sits content free at sits
  rw [Bytes.field, sits, List.nil_append, Bytes.toNat_zeros]

end Lot

end Image

end Landmark
