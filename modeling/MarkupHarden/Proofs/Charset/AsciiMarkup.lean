import MarkupHarden.Charset.Markup

/-!
# ASCII markup

ASCII bytes stand for the same characters in most character sets, but not in
all.  Markup of such bytes declares its character set by bytes that were read
as ASCII, and may so name a character set in which they are no declaration and
no ASCII at all.
-/

namespace MarkupHarden

namespace Charset

/-- Bytes as the characters with their numbers. -/
def asciiText (bytes : List UInt8) : List Char :=
  bytes.map fun byte => Char.ofNat byte.toNat

/-- Codings that read an ASCII byte as itself. -/
def Coding.KeepsAscii : Coding → Prop
  | .utf16 _ | .replacement => False
  | _ => True

instance : DecidablePred Coding.KeepsAscii
  | .utf16 _ | .replacement => isFalse not_false
  | .utf8 | .userDefined | .singleByte _ | .nameOnly => isTrue trivial

/-- Character sets in which ASCII bytes stand for themselves.  ISO-2022-JP is
none of them: some ASCII bytes are shifts and escapes there, which
`Coding.nameOnly` does not read. -/
def IsAsciiCompatible (charset : Charset) : Prop :=
  charset.coding.KeepsAscii ∧ charset.name ≠ "ISO-2022-JP"

variable {bytes : List UInt8} {charset : Charset}

theorem length_asciiText (bytes : List UInt8) :
    (asciiText bytes).length = bytes.length :=
  List.length_map _

/-- All character sets but four are compatible with ASCII. -/
theorem isAsciiCompatible_iff (member : charset ∈ all) :
    charset.IsAsciiCompatible ↔
      charset.name ∉
        ["ISO-2022-JP", "replacement", "UTF-16BE", "UTF-16LE"] := by
  revert charset
  simp only [all, List.forall_mem_cons, IsAsciiCompatible, Coding.KeepsAscii]
  simp

/-! ### Codings -/

theorem decodeUtf8_ascii (ascii : ∀ byte ∈ bytes, byte < 0x80) :
    decodeUtf8 bytes = asciiText bytes := by
  induction bytes with
  | nil => rw [decodeUtf8, asciiText, List.map_nil]
  | cons byte bytes induction =>
      obtain ⟨first, others⟩ := List.forall_mem_cons.mp ascii
      rw [decodeUtf8, if_pos first, induction others]
      rfl

theorem decodeBytes_ascii (ascii : ∀ byte ∈ bytes, byte < 0x80)
    (upper : UInt8 → Char) : decodeBytes upper bytes = asciiText bytes :=
  List.map_congr_left fun byte member => if_pos (ascii byte member)

theorem decode_ascii (ascii : ∀ byte ∈ bytes, byte < 0x80) {coding : Coding}
    (keeps : coding.KeepsAscii) : coding.decode bytes = asciiText bytes := by
  cases coding with
  | utf8 => exact decodeUtf8_ascii ascii
  | utf16 => exact keeps.elim
  | replacement => exact keeps.elim
  | userDefined => exact decodeBytes_ascii ascii _
  | singleByte => exact decodeBytes_ascii ascii _
  | nameOnly => exact decodeBytes_ascii ascii _

theorem length_unitsOf (order : ByteOrder) (bytes : List UInt8) :
    (unitsOf order bytes).1.length = bytes.length / 2 := by
  fun_induction unitsOf order bytes with
  | case1 => rfl
  | case2 =>
      have half : 1 / 2 = 0 := by decide
      exact half.symm
  | case3 first second rest units odd same induction =>
      rw [same] at induction
      change units.length = rest.length / 2 at induction
      change units.length + 1 = (rest.length + 2) / 2
      omega

theorem length_decodeUnits_le (odd : Bool) (units : List Nat) :
    (decodeUnits odd units).length ≤ units.length + 1 := by
  fun_induction decodeUnits odd units <;> grind

/-- The other codings make fewer characters of bytes. -/
theorem length_decode_lt (several : 2 < bytes.length) {coding : Coding}
    (changes : ¬coding.KeepsAscii) :
    (coding.decode bytes).length < bytes.length := by
  cases coding with
  | utf16 order =>
      have units := length_unitsOf order bytes
      have most := length_decodeUnits_le (unitsOf order bytes).2
        (unitsOf order bytes).1
      change (decodeUnits _ _).length < _
      omega
  | replacement =>
      have most : (Coding.replacement.decode bytes).length ≤ 1 := by
        change (if bytes.isEmpty then [] else [replacementChar]).length ≤ 1
        split
        · exact Nat.zero_le 1
        · exact Nat.le_refl 1
      omega
  | _ => exact absurd trivial changes

/-! ### Declarations -/

theorem length_of_findLabel? {chars label : List Char}
    (found : findLabel? chars = some label) :
    declarationKey.length ≤ chars.length := by
  induction chars with
  | nil => contradiction
  | cons c rest induction =>
      rw [findLabel?] at found
      cases starts :
          Text.startsWithIgnoringCase declarationKey (c :: rest) with
      | true =>
          rw [Text.startsWithIgnoringCase, beq_iff_eq] at starts
          have lengths := congrArg List.length starts
          rw [List.length_map, List.length_map, List.length_take] at lengths
          omega
      | false =>
          rw [starts, if_neg Bool.false_ne_true, Option.none_or] at found
          exact Nat.le_succ_of_le (induction found)

theorem byteOrderMark?_ascii (ascii : ∀ byte ∈ bytes, byte < 0x80) :
    byteOrderMark? bytes = none := by
  have first : ∀ byte ∈ bytes.head?, byte < 0x80 := fun byte head =>
    ascii byte (List.mem_of_mem_head? head)
  unfold byteOrderMark?
  split
  · exact absurd (first 0xEF rfl) (by decide)
  · exact absurd (first 0xFE rfl) (by decide)
  · exact absurd (first 0xFF rfl) (by decide)
  · rfl

/-- In ASCII markup a declaration is found in the bytes as they stand. -/
theorem declared?_ascii (ascii : ∀ byte ∈ bytes, byte < 0x80) :
    declared? bytes =
      (findLabel? (asciiText (bytes.take searchedBytes))).bind fun label =>
        ofLabel? (String.ofList label) := by
  have near : ∀ byte ∈ bytes.take searchedBytes, byte < 0x80 :=
    fun byte member => ascii byte (List.mem_of_mem_take member)
  rw [declared?, decodeUtf8_ascii near]

theorem length_of_declared? (ascii : ∀ byte ∈ bytes, byte < 0x80)
    (declared : declared? bytes = some charset) :
    declarationKey.length ≤ bytes.length := by
  rw [declared?_ascii ascii, Option.bind_eq_some_iff] at declared
  obtain ⟨label, found, -⟩ := declared
  have length := length_of_findLabel? found
  rw [length_asciiText, List.length_take] at length
  omega

theorem mem_all_of_declared? (declared : declared? bytes = some charset) :
    charset ∈ all := by
  rw [declared?, Option.bind_eq_some_iff] at declared
  obtain ⟨label, -, found⟩ := declared
  rw [ofLabel?] at found
  exact List.mem_of_find?_eq_some found

/-! ### Markup -/

/-- ASCII markup is read as it stands unless a character set that is not
compatible with ASCII is named or, without a name, declared. -/
theorem decodeMarkup_ascii (ascii : ∀ byte ∈ bytes, byte < 0x80)
    {named : Option Charset}
    (compatible : ∀ charset, named.or (declared? bytes) = some charset →
      charset.IsAsciiCompatible) :
    decodeMarkup bytes named = String.ofList (asciiText bytes) := by
  rw [decodeMarkup, byteOrderMark?_ascii ascii]
  cases chosen : named.or (declared? bytes) with
  | none => exact congrArg String.ofList (decodeUtf8_ascii ascii)
  | some charset =>
      have keeps := (compatible charset chosen).1
      exact congrArg String.ofList (decode_ascii ascii keeps)

/-- A declaration of UTF-16 or of content not to be read makes another, shorter
text of the markup in which it was found. -/
theorem length_decodeMarkup_lt (ascii : ∀ byte ∈ bytes, byte < 0x80)
    (declared : declared? bytes = some charset)
    (changes : ¬charset.coding.KeepsAscii) :
    (decodeMarkup bytes none).toList.length < bytes.length := by
  have several : 2 < bytes.length :=
    Nat.lt_of_lt_of_le (by decide) (length_of_declared? ascii declared)
  rw [decodeMarkup, byteOrderMark?_ascii ascii, declared, String.toList_ofList]
  exact length_decode_lt several changes

example : findLabel? "<meta charset=utf-16>".toList = some "utf-16".toList ∧
    (ofLabel? "utf-16").map name = some "UTF-16LE" := by decide

/-- ASCII markup that declares no ISO-2022-JP is read as it stands exactly when
it declares none of the other three character sets that do not keep ASCII. -/
theorem decodeMarkup_eq_asciiText_iff (ascii : ∀ byte ∈ bytes, byte < 0x80)
    (modelled : ∀ charset, declared? bytes = some charset →
      charset.name ≠ "ISO-2022-JP") :
    decodeMarkup bytes none = String.ofList (asciiText bytes) ↔
      ∀ charset, declared? bytes = some charset →
        charset.name ∉
          ["ISO-2022-JP", "replacement", "UTF-16BE", "UTF-16LE"] := by
  constructor
  · intro same charset declared
    have keeps : charset.coding.KeepsAscii := by
      refine Decidable.byContradiction fun changes => ?_
      have shorter := length_decodeMarkup_lt ascii declared changes
      rw [same, String.toList_ofList, length_asciiText] at shorter
      exact Nat.lt_irrefl _ shorter
    exact (isAsciiCompatible_iff (mem_all_of_declared? declared)).mp
      ⟨keeps, modelled charset declared⟩
  · intro compatible
    apply decodeMarkup_ascii ascii
    intro charset chosen
    rw [Option.none_or] at chosen
    exact (isAsciiCompatible_iff (mem_all_of_declared? chosen)).mpr
      (compatible charset chosen)

end Charset

end MarkupHarden
