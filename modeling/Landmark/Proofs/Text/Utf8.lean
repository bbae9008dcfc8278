import Landmark.Text.Utf8
import Mathlib.Data.Char
import Mathlib.Data.List.TakeWhile

/-! # Reading back what was written

Every text is read back from its bytes, strictly and leniently alike: each character is
one part, however many bytes it takes. Strict reading gives nothing but what was written.
-/

namespace Landmark.Text.Utf8

section Numbers

variable {first second : Nat} {later : List Nat} (rest : Bytes)

/-- The second bytes that a first byte can have, its four exceptions one by one. -/
theorem followsFirst_of (tail : 0x80 ≤ second ∧ second < 0xC0)
    (shortest : first = 0xE0 → 0xA0 ≤ second) (noSurrogate : first = 0xED → second < 0xA0)
    (shortest' : first = 0xF0 → 0x90 ≤ second) (inRange : first = 0xF4 → second < 0x90) :
    followsFirst first second = true := by
  unfold followsFirst
  split <;> simp <;> omega

theorem bounds_of_followsFirst (follows : followsFirst first second = true) :
    (0x80 ≤ second ∧ second < 0xC0) ∧ (first = 0xE0 → 0xA0 ≤ second) ∧
      (first = 0xED → second < 0xA0) ∧ (first = 0xF0 → 0x90 ≤ second) ∧
      (first = 0xF4 → second < 0x90) := by
  unfold followsFirst at follows
  split at follows <;> simp only [Bool.and_eq_true, decide_eq_true_eq] at follows
  case h_5 notE0 notED notF0 notF4 =>
    exact ⟨follows, fun same => absurd same notE0, fun same => absurd same notED,
      fun same => absurd same notF0, fun same => absurd same notF4⟩
  all_goals omega

theorem bounds_of_followsLater {byte : Nat} (follows : followsLater byte = true) :
    0x80 ≤ byte ∧ byte < 0xC0 := by
  simpa only [followsLater, Bool.and_eq_true, decide_eq_true_eq] using follows

theorem lt_of_followsFirst (follows : followsFirst first second = true) : second < 0x100 := by
  have bounds := bounds_of_followsFirst follows
  omega

theorem lt_of_followsLater (follows : followsLater first = true) : first < 0x100 := by
  have bounds := bounds_of_followsLater follows
  omega

theorem lt_of_followers {count : Nat} (some_count : followers first = some count) :
    first < 0x100 := by
  unfold followers at some_count
  split_ifs at some_count <;> omega

theorem toNat_ofNat_of_lt (small : first < 0x100) : (UInt8.ofNat first).toNat = first :=
  UInt8.toNat_ofNat'.trans (Nat.mod_eq_of_lt small)

theorem parts_of_alone (count : followers first = some 0) :
    parts (UInt8.ofNat first :: rest) = some (Char.ofNat first) :: parts rest := by
  have found : part first rest = (some (Char.ofNat first), 0) := by
    unfold part
    rw [count]
    rfl
  rw [parts, toNat_ofNat_of_lt (lt_of_followers count), found]
  rfl

/-- A first byte with as many followers as it asks for is one part. -/
theorem parts_of_followed (count : followers first = some (later.length + 1))
    (follows : followsFirst first second = true)
    (further : ∀ byte ∈ later, followsLater byte = true) :
    parts (UInt8.ofNat first :: UInt8.ofNat second :: (later.map UInt8.ofNat ++ rest)) =
      some (Char.ofNat (codePoint first (second :: later))) :: parts rest := by
  have same : (later.map UInt8.ofNat).map UInt8.toNat = later := by
    rw [List.map_map]
    exact (List.map_congr_left fun byte among =>
      toNat_ofNat_of_lt (lt_of_followsLater (further byte among))).trans (List.map_id later)
  have all : later.takeWhile followsLater = later := List.takeWhile_eq_self_iff.mpr further
  have whole : accepted first (later.length + 1)
      (UInt8.ofNat second :: (later.map UInt8.ofNat ++ rest)) = second :: later := by
    unfold accepted
    rw [List.take_succ_cons, List.take_left' (List.length_map _), List.map_cons, same,
      toNat_ofNat_of_lt (lt_of_followsFirst follows)]
    simp [follows, all]
  have found : part first (UInt8.ofNat second :: (later.map UInt8.ofNat ++ rest)) =
      (some (Char.ofNat (codePoint first (second :: later))), later.length + 1) := by
    unfold part
    rw [count]
    dsimp only
    rw [whole, if_pos (List.length_cons ..)]
  rw [parts, toNat_ofNat_of_lt (lt_of_followers count), found, List.drop_succ_cons,
    List.drop_left' (List.length_map _)]

end Numbers

/-- A character is read from its first byte on, as the only part of its bytes. -/
theorem parts_char (char : Char) (rest : Bytes) :
    parts (String.utf8EncodeChar char ++ rest) = some char :: parts rest := by
  have valid : char.toNat < 0xD800 ∨ 0xDFFF < char.toNat ∧ char.toNat < 0x110000 := char.valid
  have value : char.val.toNat = char.toNat := rfl
  unfold String.utf8EncodeChar
  dsimp only
  rw [value]
  obtain ⟨code, here⟩ : ∃ code, char.toNat = code := ⟨_, rfl⟩
  have back : Char.ofNat code = char := by rw [← here, Char.ofNat_toNat]
  rw [here] at valid ⊢
  -- Characters differ in how many bytes they take; no two lengths share a first byte.
  split
  next one =>
    have count : followers code = some 0 := by rw [followers, if_pos (by omega)]
    rw [List.singleton_append, parts_of_alone _ count, back]
  split
  next two =>
    have count : followers (code / 64 % 32 + 192) = some 1 := by
      rw [followers, if_neg (by omega), if_pos (by omega)]
    have point : codePoint (code / 64 % 32 + 192) [code % 64 + 128] = code := by
      simp only [codePoint, List.length_singleton, List.foldl_cons, List.foldl_nil]
      omega
    have follows : followsFirst (code / 64 % 32 + 192) (code % 64 + 128) = true := by
      apply followsFirst_of <;> omega
    have read := @parts_of_followed _ _ [] rest count follows (by simp)
    rwa [point, back] at read
  split
  next three =>
    have count : followers (code / 4096 % 16 + 224) = some 2 := by
      rw [followers, if_neg (by omega), if_neg (by omega), if_pos (by omega)]
    have point : codePoint (code / 4096 % 16 + 224)
        [code / 64 % 64 + 128, code % 64 + 128] = code := by
      simp only [codePoint, List.length_cons, List.length_nil, List.foldl_cons, List.foldl_nil]
      omega
    have follows : followsFirst (code / 4096 % 16 + 224) (code / 64 % 64 + 128) = true := by
      apply followsFirst_of <;> omega
    have read := @parts_of_followed _ _ [code % 64 + 128] rest count follows
      (by simp [followsLater]; omega)
    rwa [point, back] at read
  next four =>
    have count : followers (code / 262144 % 8 + 240) = some 3 := by
      rw [followers, if_neg (by omega), if_neg (by omega), if_neg (by omega), if_pos (by omega)]
    have point : codePoint (code / 262144 % 8 + 240)
        [code / 4096 % 64 + 128, code / 64 % 64 + 128, code % 64 + 128] = code := by
      simp only [codePoint, List.length_cons, List.length_nil, List.foldl_cons, List.foldl_nil]
      omega
    have follows : followsFirst (code / 262144 % 8 + 240) (code / 4096 % 64 + 128) = true := by
      apply followsFirst_of <;> omega
    have read := @parts_of_followed _ _ [code / 64 % 64 + 128, code % 64 + 128] rest count follows
      (by simp [followsLater]; omega)
    rwa [point, back] at read

theorem toList_loop (bytes : ByteArray) (place : Nat) (found : Bytes) :
    ByteArray.toList.loop bytes place found = found.reverse ++ bytes.data.toList.drop place := by
  fun_induction ByteArray.toList.loop bytes place found with
  | case1 place found inside ih =>
    have within : place < bytes.data.toList.length := by simpa using inside
    rw [ih, List.drop_eq_getElem_cons within]
    simp [ByteArray.get!, inside]
  | case2 place found outside =>
    rw [List.drop_eq_nil_of_le (by simpa using outside), List.append_nil]

theorem encode_ofList (chars : List Char) :
    encode (String.ofList chars) = chars.flatMap String.utf8EncodeChar := by
  have loop := toList_loop (chars.flatMap String.utf8EncodeChar).toByteArray 0 []
  rw [List.toList_data_toByteArray] at loop
  exact loop

theorem parts_encode (text : String) : parts (encode text) = text.toList.map some := by
  obtain ⟨chars, rfl⟩ : ∃ chars, text = String.ofList chars :=
    ⟨text.toList, String.ofList_toList.symm⟩
  rw [encode_ofList, String.toList_ofList]
  induction chars with
  | nil => simp [parts]
  | cons char rest ih => rw [List.flatMap_cons, parts_char, ih, List.map_cons]

/-- Strict reading finds nothing wrong with what was written. -/
theorem decode?_encode (text : String) : decode? (encode text) = some text := by
  have whole : ((text.toList.map some).mapM id : Option (List Char)) = some text.toList := by
    rw [List.mapM_map]
    exact List.mapM_pure.trans (congrArg some (List.map_id _))
  rw [decode?, parts_encode, whole, Option.map_some, String.ofList_toList]

theorem decodeLenient_encode (text : String) : decodeLenient (encode text) = text := by
  rw [decodeLenient, parts_encode, List.map_map]
  simp [Function.comp_def]

/-! ## Nothing else is read -/

section Back

variable {first : Nat} {later : List Nat}

/-- The bytes of a character, by its code point. -/
theorem utf8EncodeChar_ofNat {code : Nat} (valid : code.isValidChar) :
    String.utf8EncodeChar (Char.ofNat code) = List.map UInt8.ofNat (
      if code ≤ 127 then [code]
      else if code ≤ 2047 then [code / 64 % 32 + 192, code % 64 + 128]
      else if code ≤ 65535 then
        [code / 4096 % 16 + 224, code / 64 % 64 + 128, code % 64 + 128]
      else [code / 262144 % 8 + 240, code / 4096 % 64 + 128, code / 64 % 64 + 128,
        code % 64 + 128]) := by
  have value : (Char.ofNat code).val.toNat = code := by
    rw [Char.ofNat, dif_pos valid]
    rfl
  unfold String.utf8EncodeChar
  dsimp only
  rw [value]
  split_ifs <;> rfl

/-- Followers that a first byte accepts, all it asks for, make a character with it. -/
theorem utf8EncodeChar_codePoint (asked : followers first = some later.length)
    (follows : ∀ second further, later = second :: further →
      followsFirst first second = true ∧ ∀ byte ∈ further, followsLater byte = true) :
    String.utf8EncodeChar (Char.ofNat (codePoint first later)) =
      (first :: later).map UInt8.ofNat := by
  unfold followers at asked
  match later with
  | [] =>
    have low : first < 0x80 := by
      split_ifs at asked <;> simp_all
    have valid : first.isValidChar := .inl (by omega)
    change String.utf8EncodeChar (Char.ofNat first) = _
    rw [utf8EncodeChar_ofNat valid, if_pos (by omega)]
  | [second] =>
    have bounds := bounds_of_followsFirst (follows second [] rfl).1
    have point : codePoint first [second] = first % 32 * 64 + second % 64 := rfl
    have range : 0xC2 ≤ first ∧ first < 0xE0 := by
      split_ifs at asked <;> simp_all
    have valid : (codePoint first [second]).isValidChar := .inl (by omega)
    rw [utf8EncodeChar_ofNat valid, point, if_neg (by omega), if_pos (by omega)]
    congr 1
    simp only [List.cons.injEq, and_true]
    omega
  | [second, third] =>
    have ⟨start, rest⟩ := follows second [third] rfl
    have bounds := bounds_of_followsFirst start
    have third_bounds := bounds_of_followsLater (rest third (by simp))
    have point : codePoint first [second, third] =
      (first % 16 * 64 + second % 64) * 64 + third % 64 := rfl
    have range : 0xE0 ≤ first ∧ first < 0xF0 := by
      split_ifs at asked <;> simp_all
    have valid : (codePoint first [second, third]).isValidChar := by
      unfold Nat.isValidChar
      omega
    rw [utf8EncodeChar_ofNat valid, point, if_neg (by omega), if_neg (by omega),
      if_pos (by omega)]
    congr 1
    simp only [List.cons.injEq, and_true]
    omega
  | [second, third, fourth] =>
    have ⟨start, rest⟩ := follows second [third, fourth] rfl
    have bounds := bounds_of_followsFirst start
    have third_bounds := bounds_of_followsLater (rest third (by simp))
    have fourth_bounds := bounds_of_followsLater (rest fourth (by simp))
    have point : codePoint first [second, third, fourth] =
      ((first % 8 * 64 + second % 64) * 64 + third % 64) * 64 + fourth % 64 := rfl
    have range : 0xF0 ≤ first ∧ first < 0xF5 := by
      split_ifs at asked <;> simp_all
    have valid : (codePoint first [second, third, fourth]).isValidChar := by
      unfold Nat.isValidChar
      omega
    rw [utf8EncodeChar_ofNat valid, point, if_neg (by omega), if_neg (by omega),
      if_neg (by omega)]
    congr 1
    simp only [List.cons.injEq, and_true]
    omega
  | _ :: _ :: _ :: _ :: _ =>
    split_ifs at asked <;> simp at asked

/-- When a first byte accepts as many bytes as it asks for, they are those behind it. -/
theorem accepted_of_length {count : Nat} {rest : Bytes}
    (whole : (accepted first count rest).length = count) :
    accepted first count rest = (rest.take count).map UInt8.toNat ∧
      ∀ second further, accepted first count rest = second :: further →
        followsFirst first second = true ∧ ∀ byte ∈ further, followsLater byte = true := by
  have room : ((rest.take count).map UInt8.toNat).length ≤ count := by
    rw [List.length_map, List.length_take]
    exact Nat.min_le_left _ _
  unfold accepted at whole ⊢
  cases behind : (rest.take count).map UInt8.toNat with
  | nil => exact ⟨rfl, fun _ _ same => nomatch same⟩
  | cons second later =>
    rw [behind] at whole room
    dsimp only at whole ⊢
    split at whole
    next follows =>
      -- Nothing was left out, so every byte further behind may stand there.
      have all : later.takeWhile followsLater = later :=
        (List.takeWhile_prefix followsLater).eq_of_length_le
          (Nat.le_of_succ_le_succ (room.trans_eq whole.symm))
      rw [if_pos follows, all]
      refine ⟨rfl, fun _ _ same => ?_⟩
      obtain ⟨rfl, rfl⟩ := List.cons.inj same
      exact ⟨follows, List.takeWhile_eq_self_iff.mp all⟩
    next stops =>
      rw [← whole] at room
      cases room

theorem utf8EncodeChar_of_part {byte : UInt8} {rest : Bytes} {char : Char} {count : Nat}
    (found : part byte.toNat rest = (some char, count)) :
    byte :: rest.take count = String.utf8EncodeChar char := by
  unfold part at found
  split at found
  next => cases found
  next asked asked_eq =>
    dsimp only at found
    split at found
    next whole =>
      cases found
      obtain ⟨same, follows⟩ := accepted_of_length whole
      rw [utf8EncodeChar_codePoint (by rw [asked_eq, whole]) follows, same, List.map_cons,
        List.map_map]
      simp [Function.comp_def]
    next => cases found

end Back

theorem encode_of_parts {bytes : Bytes} {chars : List Char}
    (whole : (parts bytes).mapM id = some chars) : bytes = chars.flatMap String.utf8EncodeChar := by
  fun_induction parts bytes generalizing chars with
  | case1 =>
    obtain rfl : [] = chars := Option.some.inj whole
    rfl
  | case2 first rest found =>
    rename_i ih
    rw [List.mapM_cons] at whole
    obtain ⟨char, here, later⟩ := Option.bind_eq_some_iff.mp whole
    obtain ⟨others, behind, same⟩ := Option.bind_eq_some_iff.mp later
    obtain rfl : char :: others = chars := Option.some.inj same
    have read : part first.toNat rest = (some char, found.2) := Prod.ext here rfl
    rw [List.flatMap_cons, ← ih behind, ← utf8EncodeChar_of_part read, List.cons_append,
      List.take_append_drop]

/-- Strict reading gives the one text that is written so, if there is one. -/
theorem decode?_eq_some_iff {bytes : Bytes} {text : String} :
    decode? bytes = some text ↔ bytes = encode text := by
  constructor
  · intro read
    obtain ⟨chars, whole, rfl⟩ := Option.map_eq_some_iff.mp read
    rw [encode_ofList]
    exact encode_of_parts whole
  · rintro rfl
    exact decode?_encode text

end Landmark.Text.Utf8
