import Mathlib.Data.List.Infix
import MarkupHarden.Charset.Decode
import MarkupHarden.Text.Ascii

/-!
# Text as bytes

The UTF-8 form of a text.  A byte below 128 is a character by itself, and no
byte of any other character is below 128, so a search for ASCII characters may
go byte by byte.  A text begins with another one when its bytes begin with the
bytes of that one, and decoding restores it.
-/

namespace MarkupHarden.Text

/-- The bytes of a text. -/
def utf8 (chars : List Char) : List UInt8 :=
  chars.flatMap String.utf8EncodeChar

@[simp]
theorem utf8_nil : utf8 [] = [] := rfl

@[simp]
theorem utf8_cons (c : Char) (chars : List Char) :
    utf8 (c :: chars) = String.utf8EncodeChar c ++ utf8 chars := rfl

@[simp]
theorem utf8_append (first second : List Char) :
    utf8 (first ++ second) = utf8 first ++ utf8 second :=
  List.flatMap_append

theorem toList_toUTF8 (chars : List Char) :
    (String.ofList chars).toUTF8.data.toList = utf8 chars := by
  rw [String.toUTF8_eq_toByteArray, String.toByteArray_ofList, List.utf8Encode,
    List.toList_data_toByteArray]
  rfl

/-! ### Single characters -/

@[simp]
theorem toNat_ofUInt8 (byte : UInt8) :
    (Char.ofUInt8 byte).toNat = byte.toNat := rfl

theorem ofUInt8_inj {first second : UInt8} :
    Char.ofUInt8 first = Char.ofUInt8 second ↔ first = second := by
  constructor
  · intro same
    exact UInt8.toNat_inj.mp (congrArg Char.toNat same)
  · exact congrArg Char.ofUInt8

theorem length_utf8EncodeChar_pos (c : Char) :
    0 < (String.utf8EncodeChar c).length :=
  List.length_pos_iff.mpr String.utf8EncodeChar_ne_nil

theorem utf8EncodeChar_of_lt {c : Char} (ascii : c.toNat < 128) :
    String.utf8EncodeChar c = [UInt8.ofNat c.toNat] := by
  have small : c.val.toNat ≤ 0x7f := Nat.le_of_lt_succ ascii
  simp only [String.utf8EncodeChar]
  exact if_pos small

theorem ofUInt8_ofNat {c : Char} (ascii : c.toNat < 128) :
    Char.ofUInt8 (UInt8.ofNat c.toNat) = c := by
  apply Char.toNat_inj.mp
  rw [toNat_ofUInt8, UInt8.toNat_ofNat']
  omega

theorem le_of_mem_utf8EncodeChar {c : Char} {byte : UInt8}
    (beyond : 128 ≤ c.toNat) (member : byte ∈ String.utf8EncodeChar c) :
    128 ≤ byte.toNat := by
  have large : ¬c.val.toNat ≤ 0x7f := Nat.not_le.mpr beyond
  have high (value : Nat) (least : 128 ≤ value) (small : value < 256) :
      128 ≤ (UInt8.ofNat value).toNat := by
    rw [UInt8.toNat_ofNat']
    omega
  unfold String.utf8EncodeChar at member
  simp only [if_neg large] at member
  -- The character takes two, three or four bytes.
  split at member
  next =>
    simp only [List.mem_cons, List.not_mem_nil, or_false] at member
    rcases member with rfl | rfl <;> exact high _ (by omega) (by omega)
  next =>
    split at member
    next =>
      simp only [List.mem_cons, List.not_mem_nil, or_false] at member
      rcases member with rfl | rfl | rfl <;> exact high _ (by omega) (by omega)
    next =>
      simp only [List.mem_cons, List.not_mem_nil, or_false] at member
      rcases member with rfl | rfl | rfl | rfl <;>
        exact high _ (by omega) (by omega)

/-- Where the bytes of a character are followed by more, the character and what
follows can be told. -/
theorem utf8EncodeChar_append_inj {first second : Char}
    {rest others : List UInt8}
    (same : String.utf8EncodeChar first ++ rest =
      String.utf8EncodeChar second ++ others) :
    first = second ∧ rest = others := by
  have bytes := congrArg List.toByteArray same
  rw [List.toByteArray_append, List.toByteArray_append] at bytes
  have read := congrArg (ByteArray.utf8DecodeChar? · 0) bytes
  simp only [ByteArray.utf8DecodeChar?_utf8EncodeChar_append,
    Option.some_inj] at read
  subst read
  exact ⟨rfl, List.append_cancel_left same⟩

/-! ### Prefixes -/

theorem utf8_prefix_iff {word chars : List Char} :
    utf8 word <+: utf8 chars ↔ word <+: chars := by
  induction word generalizing chars with
  | nil => simp
  | cons c word induction =>
      cases chars with
      | nil => simp
      | cons d chars =>
          constructor
          · rintro ⟨rest, same⟩
            rw [utf8_cons, utf8_cons, List.append_assoc] at same
            obtain ⟨rfl, sameRest⟩ := utf8EncodeChar_append_inj same
            have later := induction.mp ⟨rest, sameRest⟩
            exact List.cons_prefix_cons.mpr ⟨rfl, later⟩
          · intro isPrefix
            obtain ⟨rfl, later⟩ := List.cons_prefix_cons.mp isPrefix
            rw [utf8_cons, utf8_cons, List.prefix_append_right_inj]
            exact induction.mpr later

/-! ### Letters -/

private theorem toLower_cases (c : Char) :
    c.toLower = c ∨ c.toNat ≤ 90 ∧ c.toLower.toNat = c.toNat + 32 := by
  unfold Char.toLower
  split
  next upper =>
    have most : c.val.toNat ≤ 90 := UInt32.le_iff_toNat_le.mp upper.2
    refine .inr ⟨most, ?_⟩
    have shift : ('a'.val - 'A'.val).toNat = 32 := rfl
    change (c.val + ('a'.val - 'A'.val)).toNat = c.val.toNat + 32
    rw [UInt32.toNat_add, shift]
    omega
  next => exact .inl rfl

theorem toNat_toLower_lt {c : Char} (ascii : c.toNat < 128) :
    c.toLower.toNat < 128 := by
  rcases toLower_cases c with same | ⟨small, lower⟩
  · rw [same]
    exact ascii
  · omega

theorem toLower_of_le {c : Char} (beyond : 128 ≤ c.toNat) :
    c.toLower = c := by
  rcases toLower_cases c with same | ⟨small, lower⟩
  · exact same
  · omega

/-- A byte as the character with its number, in lower case. -/
def lowerByte (byte : UInt8) : Char :=
  (Char.ofUInt8 byte).toLower

/-- The bytes of a text in lower case are its bytes in lower case. -/
theorem map_lowerByte_utf8 (chars : List Char) :
    (utf8 chars).map lowerByte =
      (utf8 (chars.map Char.toLower)).map Char.ofUInt8 := by
  induction chars with
  | nil => rfl
  | cons c chars induction =>
      have first : (String.utf8EncodeChar c).map lowerByte =
          (String.utf8EncodeChar c.toLower).map Char.ofUInt8 := by
        rcases Nat.lt_or_ge c.toNat 128 with ascii | beyond
        · have lower := toNat_toLower_lt ascii
          rw [utf8EncodeChar_of_lt ascii, utf8EncodeChar_of_lt lower]
          simp only [List.map_cons, List.map_nil, lowerByte,
            ofUInt8_ofNat ascii, ofUInt8_ofNat lower]
        · rw [toLower_of_le beyond]
          refine List.map_congr_left fun byte member => toLower_of_le ?_
          exact le_of_mem_utf8EncodeChar beyond member
      rw [utf8_cons, List.map_append, first, induction, List.map_cons,
        utf8_cons, List.map_append]

theorem length_utf8_toLower (chars : List Char) :
    (utf8 (chars.map Char.toLower)).length = (utf8 chars).length := by
  have same := congrArg List.length (map_lowerByte_utf8 chars)
  rw [List.length_map, List.length_map] at same
  exact same.symm

/-- Up to case, a text begins with a word when its bytes begin with those of the
word. -/
theorem map_lowerByte_prefix_iff {word chars : List Char} :
    (utf8 word).map lowerByte <+: (utf8 chars).map lowerByte ↔
      word.map Char.toLower <+: chars.map Char.toLower := by
  have injective : Function.Injective Char.ofUInt8 := fun _ _ => ofUInt8_inj.mp
  rw [map_lowerByte_utf8, map_lowerByte_utf8,
    List.prefix_map_iff_of_injective injective, utf8_prefix_iff]

/-! ### Tests -/

/-- A test that only ASCII characters pass. -/
def AsciiOnly (test : Char → Bool) : Prop :=
  ∀ c, 128 ≤ c.toNat → test c = false

theorem asciiOnly_eq (c : Char) (ascii : c.toNat < 128) :
    AsciiOnly (· = c) := by
  intro d large
  refine decide_eq_false ?_
  rintro rfl
  omega

theorem AsciiOnly.or {first second : Char → Bool} (one : AsciiOnly first)
    (other : AsciiOnly second) : AsciiOnly fun c => first c || second c :=
  fun c large => Bool.or_eq_false_iff.mpr ⟨one c large, other c large⟩

/-- No test for ASCII characters tells the two characters apart. -/
def Alike (first second : Char) : Prop :=
  ∀ test, AsciiOnly test → test first = test second

theorem Alike.eq_iff {first second stop : Char} (alike : Alike first second)
    (ascii : stop.toNat < 128) : first = stop ↔ second = stop :=
  decide_eq_decide.mp (alike _ (asciiOnly_eq stop ascii))

theorem asciiOnly_isSpace : AsciiOnly isSpace :=
  ((((asciiOnly_eq ' ' (by decide)).or (asciiOnly_eq '\t' (by decide))).or
    (asciiOnly_eq '\n' (by decide))).or (asciiOnly_eq '\x0c' (by decide))).or
      (asciiOnly_eq '\r' (by decide))

theorem asciiOnly_isAlpha : AsciiOnly Char.isAlpha := by
  intro c large
  have large : 128 ≤ c.val.toNat := large
  have above (last : UInt32) (ascii : last.toNat < 128) : ¬c.val ≤ last := by
    rw [UInt32.le_iff_toNat_le]
    omega
  have notUpper : c.isUpper = false :=
    decide_eq_false fun upper => above 'Z'.val (by decide) upper.2
  have notLower : c.isLower = false :=
    Bool.and_eq_false_iff.mpr
      (.inr (decide_eq_false (above 'z'.val (by decide))))
  exact Bool.or_eq_false_iff.mpr ⟨notUpper, notLower⟩

/-! ### Decoding -/

section Decoding

open Charset

variable {first : UInt8} {bytes rest : List UInt8} {tails code value : Nat}

private theorem decodeUtf8_of_lead {low high : UInt8} (beyond : ¬first < 0x80)
    (lead : tailsOf? first = some (tails, low, high))
    (fits : bytes.head?.any (fun byte => low ≤ byte && byte ≤ high) = true)
    (read : readTails tails (leadBits first tails) bytes =
      (some code, rest)) :
    decodeUtf8 (first :: bytes) = Char.ofNat code :: decodeUtf8 rest := by
  rw [decodeUtf8, if_neg beyond, lead]
  dsimp only
  rw [if_pos fits, read]
  rfl

private theorem readTails_tail (small : value < 64) :
    readTails (tails + 1) code (UInt8.ofNat (value + 0x80) :: bytes) =
      readTails tails (code * 64 + value) bytes := by
  have number : (UInt8.ofNat (value + 0x80)).toNat = value + 128 := by
    rw [UInt8.toNat_ofNat']
    omega
  have tail : isTail (UInt8.ofNat (value + 0x80)) = true := by
    simp only [isTail, UInt8.le_iff_toNat_le, number, UInt8.reduceToNat,
      Bool.and_eq_true, decide_eq_true_eq]
    omega
  rw [readTails, if_pos tail, number]
  congr 2
  omega

private theorem lead_two : ∀ n < 32, 2 ≤ n →
    ¬UInt8.ofNat (n + 0xc0) < 0x80 ∧
      tailsOf? (UInt8.ofNat (n + 0xc0)) = some (1, 0x80, 0xBF) ∧
      leadBits (UInt8.ofNat (n + 0xc0)) 1 = n := by
  decide

private theorem lead_three : ∀ n < 16,
    ¬UInt8.ofNat (n + 0xe0) < 0x80 ∧
      tailsOf? (UInt8.ofNat (n + 0xe0)) =
        some (2, if n = 0 then 0xA0 else 0x80, if n = 13 then 0x9F else 0xBF) ∧
      leadBits (UInt8.ofNat (n + 0xe0)) 2 = n := by
  decide

private theorem lead_four : ∀ n < 5,
    ¬UInt8.ofNat (n + 0xf0) < 0x80 ∧
      tailsOf? (UInt8.ofNat (n + 0xf0)) =
        some (3, if n = 0 then 0x90 else 0x80, if n = 4 then 0x8F else 0xBF) ∧
      leadBits (UInt8.ofNat (n + 0xf0)) 3 = n := by
  decide

private theorem fits_tail {low high : UInt8} (small : value < 64)
    (least : low.toNat ≤ value + 128) (most : value + 128 ≤ high.toNat) :
    (UInt8.ofNat (value + 0x80) :: bytes).head?.any
      (fun byte => low ≤ byte && byte ≤ high) = true := by
  simp only [List.head?_cons, Option.any_some, UInt8.le_iff_toNat_le,
    UInt8.toNat_ofNat', Bool.and_eq_true, decide_eq_true_eq]
  omega

private theorem decodeUtf8_encodeChar (c : Char) :
    decodeUtf8 (String.utf8EncodeChar c ++ bytes) = c :: decodeUtf8 bytes := by
  have whole : Char.ofNat c.val.toNat = c := Char.ofNat_toNat c
  have valid : c.val.toNat < 0xD800 ∨
      0xDFFF < c.val.toNat ∧ c.val.toNat < 0x110000 := c.valid
  unfold String.utf8EncodeChar
  generalize c.val.toNat = code at whole valid
  dsimp only
  split
  next one =>
    have number : (UInt8.ofNat code).toNat = code := by
      rw [UInt8.toNat_ofNat']
      omega
    have ascii : UInt8.ofNat code < 0x80 := by
      rw [UInt8.lt_iff_toNat_lt, number]
      exact Nat.lt_succ_of_le one
    rw [List.singleton_append, decodeUtf8, if_pos ascii, number, whole]
  next beyondOne =>
    split
    next two =>
      obtain ⟨beyond, lead, bits⟩ :=
        lead_two (code / 64 % 0x20) (by omega) (by omega)
      have last : code % 0x40 < 64 := by omega
      simp only [List.cons_append, List.nil_append]
      refine (decodeUtf8_of_lead beyond lead
        (fits_tail last (by simp) (by simp; omega)) ?_).trans
          (congrArg (· :: decodeUtf8 bytes) whole)
      rw [bits, readTails_tail last, readTails]
      congr 2
      omega
    next beyondTwo =>
      split
      next three =>
        obtain ⟨beyond, lead, bits⟩ :=
          lead_three (code / 4096 % 0x10) (by omega)
        have middle : code / 64 % 0x40 < 64 := by omega
        have last : code % 0x40 < 64 := by omega
        simp only [List.cons_append, List.nil_append]
        refine (decodeUtf8_of_lead beyond lead
          (fits_tail middle ?_ ?_) ?_).trans
          (congrArg (· :: decodeUtf8 bytes) whole)
        · split <;> simp only [UInt8.reduceToNat] <;> omega
        · split <;> simp only [UInt8.reduceToNat] <;> omega
        · rw [bits, readTails_tail middle, readTails_tail last, readTails]
          congr 2
          omega
      next beyondThree =>
        obtain ⟨beyond, lead, bits⟩ :=
          lead_four (code / 262144 % 0x08) (by omega)
        have second : code / 4096 % 0x40 < 64 := by omega
        have third : code / 64 % 0x40 < 64 := by omega
        have last : code % 0x40 < 64 := by omega
        simp only [List.cons_append, List.nil_append]
        refine (decodeUtf8_of_lead beyond lead
          (fits_tail second ?_ ?_) ?_).trans
          (congrArg (· :: decodeUtf8 bytes) whole)
        · split <;> simp only [UInt8.reduceToNat] <;> omega
        · split <;> simp only [UInt8.reduceToNat] <;> omega
        · rw [bits, readTails_tail second, readTails_tail third,
            readTails_tail last, readTails]
          congr 2
          omega

/-- Decoding restores a text from its bytes. -/
theorem decodeUtf8_utf8 (chars : List Char) :
    decodeUtf8 (utf8 chars) = chars := by
  induction chars with
  | nil => rw [utf8_nil, decodeUtf8]
  | cons c chars induction =>
      rw [utf8_cons, decodeUtf8_encodeChar, induction]

end Decoding

end MarkupHarden.Text
