import Mathlib.Algebra.GroupWithZero.Nat
import Mathlib.Data.String.Basic

/-!
# Byte strings

Fields of byte strings by their places, numbers in big-endian order, and the bytes of a text.
-/

namespace SignPulse.Foundation

abbrev Bytes := List UInt8

/-- `items[start:stop]`. -/
def slice {α : Type*} (items : List α) (start stop : ℕ) : List α :=
  (items.take stop).drop start

theorem slice_append {α : Type*} {start stop : ℕ} {before field after : List α}
    (hstart : before.length = start) (hstop : start + field.length = stop) :
    slice (before ++ (field ++ after)) start stop = field := by
  subst hstart
  subst hstop
  rw [slice, List.take_append, List.take_of_length_le (Nat.le_add_right _ _), Nat.add_sub_cancel_left,
    List.take_left, List.drop_left]

/-- The lowest bytes of a number, the most significant first. -/
def packBigEndian : ℕ → ℕ → Bytes
  | 0, _ => []
  | width + 1, value => UInt8.ofNat (value / 256 ^ width) :: packBigEndian width value

def unpackBigEndian : Bytes → ℕ
  | [] => 0
  | byte :: rest => byte.toNat * 256 ^ rest.length + unpackBigEndian rest

theorem length_packBigEndian (width value : ℕ) : (packBigEndian width value).length = width := by
  induction width with
  | zero => rfl
  | succ width ih => rw [packBigEndian, List.length_cons, ih]

theorem unpackBigEndian_packBigEndian (width value : ℕ) :
    unpackBigEndian (packBigEndian width value) = value % 256 ^ width := by
  induction width with
  | zero => rw [Nat.pow_zero, Nat.mod_one]; rfl
  | succ width ih =>
    have hsplit : value % 256 ^ (width + 1) =
        value % 256 ^ width + 256 ^ width * (value / 256 ^ width % 256) := Nat.mod_pow_succ
    have hbyte : (UInt8.ofNat (value / 256 ^ width)).toNat = value / 256 ^ width % 256 :=
      UInt8.toNat_ofNat'
    rw [packBigEndian, unpackBigEndian, ih, length_packBigEndian, hbyte, hsplit, Nat.add_comm,
      Nat.mul_comm]

/-- A text as its code points, among which Python allows surrogates. -/
abbrev CodePoints := List ℕ

def encodeCodePoint (point : ℕ) : Option Bytes :=
  if hvalid : point.isValidChar then some (String.utf8EncodeChar (Char.ofNatAux point hvalid))
  else none

/-- `text.encode("utf-8")`, where a surrogate raises an error. -/
def encodeUtf8 (text : CodePoints) : Option Bytes :=
  (text.mapM encodeCodePoint).map List.flatten

/-! ## How many bytes a text has -/

/-- The number of bytes of a code point. -/
def pointSize (point : ℕ) : ℕ :=
  if point ≤ 0x7F then 1
  else if point ≤ 0x7FF then 2
  else if point ≤ 0xFFFF then 3
  else 4

def utf8Size (text : CodePoints) : ℕ :=
  (text.map pointSize).sum

@[simp]
theorem utf8Size_nil : utf8Size [] = 0 := rfl

@[simp]
theorem utf8Size_cons (point : ℕ) (text : CodePoints) :
    utf8Size (point :: text) = pointSize point + utf8Size text := rfl

@[simp]
theorem utf8Size_append (left right : CodePoints) :
    utf8Size (left ++ right) = utf8Size left + utf8Size right := by
  unfold utf8Size
  rw [List.map_append, List.sum_append]

theorem length_encodeCodePoint {point : ℕ} {bytes : Bytes}
    (hencode : encodeCodePoint point = some bytes) : bytes.length = pointSize point := by
  obtain ⟨hvalid, hchar⟩ := Option.dite_none_right_eq_some.mp hencode
  cases hchar
  rw [String.length_utf8EncodeChar]
  rfl

theorem encodeUtf8_cons (point : ℕ) (text : CodePoints) : encodeUtf8 (point :: text) =
      (encodeCodePoint point).bind fun first => (encodeUtf8 text).map fun rest =>
        first ++ rest := by
  unfold encodeUtf8
  rw [List.mapM_cons]
  cases encodeCodePoint point with
  | none => rfl
  | some first =>
    cases text.mapM encodeCodePoint with
    | none => rfl
    | some rest => rfl

theorem length_encodeUtf8 {text : CodePoints} {bytes : Bytes}
    (hencode : encodeUtf8 text = some bytes) : bytes.length = utf8Size text := by
  induction text generalizing bytes with
  | nil =>
    cases hencode
    rfl
  | cons point text ih =>
    rw [encodeUtf8_cons] at hencode
    obtain ⟨first, hfirst, hencode⟩ := Option.bind_eq_some_iff.mp hencode
    obtain ⟨rest, hrest, rfl⟩ := Option.map_eq_some_iff.mp hencode
    rw [List.length_append, utf8Size_cons, length_encodeCodePoint hfirst, ih hrest]

theorem exists_encodeUtf8_iff (text : CodePoints) :
    (∃ bytes, encodeUtf8 text = some bytes) ↔ ∀ point ∈ text, point.isValidChar := by
  induction text with
  | nil => exact iff_of_true ⟨[], rfl⟩ fun _ hmem => absurd hmem List.not_mem_nil
  | cons point text ih =>
    rw [encodeUtf8_cons, List.forall_mem_cons, ← ih]
    constructor
    · rintro ⟨bytes, hencode⟩
      obtain ⟨first, hfirst, hencode⟩ := Option.bind_eq_some_iff.mp hencode
      obtain ⟨rest, hrest, rfl⟩ := Option.map_eq_some_iff.mp hencode
      obtain ⟨hvalid, -⟩ := Option.dite_none_right_eq_some.mp hfirst
      exact ⟨hvalid, rest, hrest⟩
    · rintro ⟨hvalid, rest, hrest⟩
      have hfirst : encodeCodePoint point = some _ := dif_pos hvalid
      rw [hfirst, hrest]
      exact ⟨_, rfl⟩

/-! ## Base64 -/

/-- The alphabet of `base64.b64encode`. -/
def base64Char (value : ℕ) : Char :=
  if value < 26 then Char.ofNat (65 + value)
  else if value < 52 then Char.ofNat (71 + value)
  else if value < 62 then Char.ofNat (value - 4)
  else if value = 62 then '+'
  else '/'

/-- `base64.b64encode`. -/
def base64Encode : Bytes → List Char
  | [] => []
  | [first] =>
    [base64Char (first.toNat / 4), base64Char (first.toNat % 4 * 16), '=', '=']
  | [first, second] =>
    [base64Char (first.toNat / 4), base64Char (first.toNat % 4 * 16 + second.toNat / 16),
      base64Char (second.toNat % 16 * 4), '=']
  | first :: second :: third :: rest =>
    base64Char (first.toNat / 4) :: base64Char (first.toNat % 4 * 16 + second.toNat / 16) ::
      base64Char (second.toNat % 16 * 4 + third.toNat / 64) ::
      base64Char (third.toNat % 64) :: base64Encode rest

/-- The number that a character stands for. -/
def base64Value (char : Char) : ℕ :=
  ((List.range 64).find? fun value => base64Char value = char).getD 64

/-- `base64.b64decode`, of what was encoded. -/
def base64Decode : List Char → Bytes
  | first :: second :: third :: fourth :: rest =>
    let high := UInt8.ofNat (base64Value first * 4 + base64Value second / 16)
    let middle := UInt8.ofNat (base64Value second % 16 * 16 + base64Value third / 4)
    let low := UInt8.ofNat (base64Value third % 4 * 64 + base64Value fourth)
    if third = '=' then [high]
    else if fourth = '=' then [high, middle]
    else high :: middle :: low :: base64Decode rest
  | _ => []

theorem base64Value_base64Char : ∀ value < 64,
    base64Char value ≠ '=' ∧ base64Value (base64Char value) = value := by
  decide

theorem ofNat_eq_self {byte : UInt8} {value : ℕ} (hvalue : value = byte.toNat) :
    UInt8.ofNat value = byte := by
  rw [hvalue, UInt8.ofNat_toNat]

theorem base64Decode_base64Encode (bytes : Bytes) : base64Decode (base64Encode bytes) = bytes := by
  induction bytes using base64Encode.induct with
  | case1 => rfl
  | case2 first =>
    have hfirst := first.toNat_lt
    have hone := (base64Value_base64Char (first.toNat / 4) (by omega)).2
    have htwo := (base64Value_base64Char (first.toNat % 4 * 16) (by omega)).2
    rw [base64Encode, base64Decode, if_pos rfl, hone, htwo, @ofNat_eq_self first _ (by omega)]
  | case3 first second =>
    have hfirst := first.toNat_lt
    have hsecond := second.toNat_lt
    have hone := (base64Value_base64Char (first.toNat / 4) (by omega)).2
    have htwo := (base64Value_base64Char (first.toNat % 4 * 16 + second.toNat / 16) (by omega)).2
    obtain ⟨hpad, hthree⟩ := base64Value_base64Char (second.toNat % 16 * 4) (by omega)
    rw [base64Encode, base64Decode, if_neg hpad, if_pos rfl, hone, htwo, hthree]
    rw [@ofNat_eq_self first _ (by omega), @ofNat_eq_self second _ (by omega)]
  | case4 first second third rest ih =>
    have hfirst := first.toNat_lt
    have hsecond := second.toNat_lt
    have hthird := third.toNat_lt
    have hone := (base64Value_base64Char (first.toNat / 4) (by omega)).2
    have htwo := (base64Value_base64Char (first.toNat % 4 * 16 + second.toNat / 16) (by omega)).2
    obtain ⟨hpad, hthree⟩ :=
      base64Value_base64Char (second.toNat % 16 * 4 + third.toNat / 64) (by omega)
    obtain ⟨hend, hfour⟩ := base64Value_base64Char (third.toNat % 64) (by omega)
    rw [base64Encode, base64Decode, if_neg hpad, if_neg hend, hone, htwo, hthree, hfour, ih]
    rw [@ofNat_eq_self first _ (by omega), @ofNat_eq_self second _ (by omega),
      @ofNat_eq_self third _ (by omega)]

theorem base64Encode_injective {left right : Bytes}
    (heq : base64Encode left = base64Encode right) : left = right := by
  rw [← base64Decode_base64Encode left, heq, base64Decode_base64Encode]

end SignPulse.Foundation
