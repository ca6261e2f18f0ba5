import MarkupHarden.Html.CharacterReference

/-!
# Escapes are undone

Decoding an escaped text gives the text back.  Escaped text holds no `<` and no
`>` and escaped attribute values hold no `"`, so neither ends too early, and
texts may be escaped piece by piece.
-/

namespace MarkupHarden.Html.CharacterReference

theorem decode_cons {c : Char} (plain : c ≠ '&') (rest : List Char) :
    decode (c :: rest) = c :: decode rest := by
  rw [decode]
  exact plain

theorem splitSemicolon?_append {name : List Char} (inside : ';' ∉ name)
    (rest : List Char) :
    splitSemicolon? (name ++ ';' :: rest) = some (name, rest) := by
  induction name with
  | nil => rfl
  | cons c name induction =>
      have different : c ≠ ';' := fun same => inside (same ▸ List.mem_cons_self)
      have later : ';' ∉ name := fun member =>
        inside (List.mem_cons_of_mem _ member)
      rw [List.cons_append, splitSemicolon?, induction later]
      · rfl
      · exact different

theorem decode_reference {name : List Char} {c : Char} (inside : ';' ∉ name)
    (resolved : resolve? name = some c) (rest : List Char) :
    decode ('&' :: name ++ ';' :: rest) = c :: decode rest := by
  have found : read? (name ++ ';' :: rest) = some (c, rest) := by
    simp [read?, splitSemicolon?_append inside, resolved]
  rw [List.cons_append, decode]
  split
  next other tail same =>
    rw [found] at same
    cases same
    rfl
  next absent =>
    rw [found] at absent
    contradiction

/-- What is written for a character: the character itself or a reference to
it. -/
def IsWritten (c : Char) (written : List Char) : Prop :=
  (written = [c] ∧ c ≠ '&') ∨
    ∃ name, written = '&' :: name ++ [';'] ∧ ';' ∉ name ∧
      resolve? name = some c

theorem decode_flatMap {write : Char → List Char}
    (isWritten : ∀ c, IsWritten c (write c)) (chars : List Char) :
    decode (chars.flatMap write) = chars := by
  induction chars with
  | nil => rw [List.flatMap_nil, decode]
  | cons c chars induction =>
      rw [List.flatMap_cons]
      rcases isWritten c with ⟨written, plain⟩ | ⟨name, written, inside, resolved⟩
      · rw [written, List.singleton_append, decode_cons plain, induction]
      · rw [written, List.append_assoc, List.singleton_append,
          decode_reference inside resolved, induction]

private theorem isWritten_escapeTextChar (c : Char) :
    IsWritten c (escapeTextChar c) := by
  unfold escapeTextChar
  split
  · exact Or.inr ⟨"amp".toList, by decide, by decide, by decide⟩
  · exact Or.inr ⟨"lt".toList, by decide, by decide, by decide⟩
  · exact Or.inr ⟨"gt".toList, by decide, by decide, by decide⟩
  · exact Or.inr ⟨"nbsp".toList, by decide, by decide, by decide⟩
  · exact Or.inl ⟨rfl, by assumption⟩

private theorem isWritten_escapeAttributeChar (c : Char) :
    IsWritten c (escapeAttributeChar c) := by
  unfold escapeAttributeChar
  split
  · exact Or.inr ⟨"amp".toList, by decide, by decide, by decide⟩
  · exact Or.inr ⟨"quot".toList, by decide, by decide, by decide⟩
  · exact Or.inr ⟨"nbsp".toList, by decide, by decide, by decide⟩
  · exact Or.inl ⟨rfl, by assumption⟩

private theorem not_mem_escapeTextChar {special : Char}
    (isSpecial : special ∈ ['<', '>']) (c : Char) :
    special ∉ escapeTextChar c := by
  rw [List.mem_cons, List.mem_singleton] at isSpecial
  unfold escapeTextChar
  split
  case h_5 notOpening notClosing _ =>
    rw [List.mem_singleton]
    rintro rfl
    exact isSpecial.elim notOpening notClosing
  all_goals rcases isSpecial with rfl | rfl <;> decide

private theorem not_mem_escapeAttributeChar {special : Char}
    (isSpecial : special ∈ ['"']) (c : Char) :
    special ∉ escapeAttributeChar c := by
  rw [List.mem_singleton.mp isSpecial]
  unfold escapeAttributeChar
  split
  case h_4 notQuote _ =>
    rw [List.mem_singleton]
    exact Ne.symm notQuote
  all_goals decide

/-- What a way of escaping promises when some characters are special. -/
structure IsEscape (special : List Char) (escape : List Char → List Char) :
    Prop where
  undone : ∀ chars, decode (escape chars) = chars
  absent : ∀ chars, ∀ c ∈ special, c ∉ escape chars
  append : ∀ first second,
    escape (first ++ second) = escape first ++ escape second

theorem isEscape_flatMap {special : List Char} {write : Char → List Char}
    (isWritten : ∀ c, IsWritten c (write c))
    (absent : ∀ s ∈ special, ∀ c, s ∉ write c) :
    IsEscape special (List.flatMap write) where
  undone := decode_flatMap isWritten
  absent := by
    intro chars s isSpecial member
    obtain ⟨c, _, written⟩ := List.mem_flatMap.mp member
    exact absent s isSpecial c written
  append := fun _ _ => List.flatMap_append

private theorem isEscape_escapeText : IsEscape ['<', '>'] escapeText :=
  isEscape_flatMap isWritten_escapeTextChar fun _ => not_mem_escapeTextChar

private theorem isEscape_escapeAttribute : IsEscape ['"'] escapeAttribute :=
  isEscape_flatMap isWritten_escapeAttributeChar fun _ =>
    not_mem_escapeAttributeChar

theorem decode_escapeText (chars : List Char) :
    decode (escapeText chars) = chars :=
  isEscape_escapeText.undone chars

theorem decode_escapeAttribute (chars : List Char) :
    decode (escapeAttribute chars) = chars :=
  isEscape_escapeAttribute.undone chars

theorem not_mem_escapeText (chars : List Char) : '<' ∉ escapeText chars :=
  isEscape_escapeText.absent chars '<' (by decide)

theorem not_mem_escapeAttribute (chars : List Char) :
    '"' ∉ escapeAttribute chars :=
  isEscape_escapeAttribute.absent chars '"' (by decide)

theorem escapeText_ne_nil {chars : List Char} (nonempty : chars ≠ []) :
    escapeText chars ≠ [] := by
  intro empty
  have decoded := decode_escapeText chars
  rw [empty, decode] at decoded
  exact nonempty decoded.symm

/-- Text and attribute values are escaped so that decoding undoes it. -/
theorem escapes_undone :
    IsEscape ['<', '>'] escapeText ∧ IsEscape ['"'] escapeAttribute :=
  ⟨isEscape_escapeText, isEscape_escapeAttribute⟩

end MarkupHarden.Html.CharacterReference
