import MarkupHarden.Html.Lexer
import MarkupHarden.Proofs.Text.Utf8

/-!
# Reading tokens byte by byte

A scanner reads tokens from the bytes of a markup.  It holds an index into them,
searches them one by one, also those inside a character, and cuts the texts of
its tokens out of the markup.  A slice whose ends are out of order, out of range
or inside a character makes it crash; nothing in its definition rules that out.
-/

namespace MarkupHarden.Html

/-- A markup, the index of the byte that is to be read next, and how text from
there on is to be read. -/
structure Scanner where
  input : String
  position : Nat := 0
  switch : Option TextSwitch := none

namespace Scanner

/-- Ends between which nothing can be cut out. -/
structure Crash where
  start : Nat
  stop : Nat

/-- A result, or the slice that made the scanner crash. -/
abbrev Checked := Except Crash

variable (input : String)

def bytes : List UInt8 :=
  input.toUTF8.data.toList

/-- The byte at an index, as the character with its number. -/
def charAt? (index : Nat) : Option Char :=
  (bytes input)[index]?.map Char.ofUInt8

/-- Whether there is a byte at an index and it passes a test. -/
def passes (test : Char → Bool) (index : Nat) : Bool :=
  (charAt? input index).any test

/-- The text between two indices, none of which may be inside a character. -/
def slice (start stop : Nat) : Checked (List Char) :=
  if valid : start ≤ stop ∧ (⟨start⟩ : String.Pos.Raw).IsValid input ∧
      (⟨stop⟩ : String.Pos.Raw).IsValid input then
    .ok (input.extract ⟨_, valid.2.1⟩ ⟨_, valid.2.2⟩).toList
  else .error { start, stop }

/-- The bytes between two indices. -/
def byteSlice (start stop : Nat) : Checked (List UInt8) :=
  if start ≤ stop ∧ stop ≤ input.utf8ByteSize then
    .ok (((bytes input).take stop).drop start)
  else .error { start, stop }

/-! ### Searching -/

/-- The first index from `index` on that passes a test, or the end. -/
def seek (test : Nat → Bool) (index : Nat) : Nat :=
  if index < input.utf8ByteSize then
    if test index then index else seek test (index + 1)
  else index
termination_by input.utf8ByteSize - index

/-- The first index from `index` on that passes a test. -/
def first? (test : Nat → Bool) (index : Nat) : Option Nat :=
  let stop := seek input test index
  if stop < input.utf8ByteSize then some stop else none

/-- The index of the first `c` from `index` on. -/
def find? (c : Char) (index : Nat) : Option Nat :=
  first? input (passes input (· = c)) index

def skipSpaces (index : Nat) : Nat :=
  seek input (fun index => !passes input Text.isSpace index) index

/-- Whether the bytes from an index on begin with those of a word, as `read`
shows them. -/
def startsBy {α : Type} [BEq α] (read : UInt8 → α) (word : String)
    (index : Nat) : Bool :=
  index + word.utf8ByteSize ≤ input.utf8ByteSize &&
    (((bytes input).drop index).take word.utf8ByteSize).map read ==
      (bytes word).map read

def startsWith (word : String) (index : Nat) : Bool :=
  startsBy input id word index

def startsWithIgnoringCase (word : String) (index : Nat) : Bool :=
  startsBy input Text.lowerByte word index

/-! ### Comments, doctypes and text -/

/-- Reads a comment whose `<!--` is at an index. -/
def readComment (index : Nat) : Checked (Token × Nat) :=
  let start := index + 4
  if startsWith input ">" start then .ok (.comment "", start + 1)
  else if startsWith input "->" start then .ok (.comment "", start + 2)
  else
    let ends index :=
      startsWith input "-->" index || startsWith input "--!>" index
    match first? input ends start with
    | some stop => do
        let text ← slice input start stop
        let close := if startsWith input "-->" stop then 3 else 4
        .ok (.comment (String.ofList text), stop + close)
    | none => do
        let text ← slice input (min start input.utf8ByteSize) input.utf8ByteSize
        .ok (.comment (String.ofList text), input.utf8ByteSize)

/-- Reads everything from an index up to the next `>` as a comment. -/
def readBogusComment (index : Nat) : Checked (Token × Nat) :=
  let start := min index input.utf8ByteSize
  match find? input '>' start with
  | some stop => do
      let text ← slice input start stop
      .ok (.comment (String.ofList text), stop + 1)
  | none => do
      let text ← slice input start input.utf8ByteSize
      .ok (.comment (String.ofList text), input.utf8ByteSize)

/-- Reads a doctype whose `<!doctype` is at an index. -/
def readDoctype (index : Nat) : Checked (Token × Nat) := do
  let stop := (find? input '>' index).getD input.utf8ByteSize
  let text ← slice input (min (index + 9) stop) stop
  .ok (.doctype (folded (Text.firstWord text)),
    min (stop + 1) input.utf8ByteSize)

/-- Reads a declaration whose `<!` is at an index. -/
def readDeclaration (index : Nat) : Checked (Token × Nat) :=
  if startsWith input "<!--" index then readComment input index
  else if startsWithIgnoringCase input "doctype" (index + 2) then
    readDoctype input index
  else readBogusComment input (index + 2)

/-- Reads text from an index up to the next `<`, which comes behind `lead`. -/
def readText (lead : String) (index : Nat) : Checked (Token × Nat) := do
  let stop := (find? input '<' index).getD input.utf8ByteSize
  let text ← slice input index stop
  .ok (.text (lead ++ decoded text), stop)

/-! ### Tags -/

theorem lt_of_charAt? {index : Nat} {c : Char}
    (found : charAt? input index = some c) : index < input.utf8ByteSize := by
  obtain ⟨byte, inside, -⟩ := Option.map_eq_some_iff.mp found
  obtain ⟨bound, -⟩ := List.getElem?_eq_some_iff.mp inside
  exact bound

/-- The index behind the `>` of an end tag; a quoted `>` does not count. -/
def skipToTagEnd? (quote : Option Char) (index : Nat) : Option Nat :=
  match found : charAt? input index with
  | none => none
  | some c =>
      have := lt_of_charAt? input found
      match quote with
      | some mark =>
          skipToTagEnd? (if c = mark then none else some mark) (index + 1)
      | none =>
          if c = '"' || c = '\x27' then skipToTagEnd? (some c) (index + 1)
          else if c = '>' then some (index + 1)
          else skipToTagEnd? none (index + 1)
termination_by input.utf8ByteSize - index

/-- Reads an end tag whose `</` is at an index; nothing when the markup ends
inside it.  Its name is decoded leniently. -/
def readEndTag? (index : Nat) : Checked (Option (Token × Nat)) := do
  let start := index + 2
  let stop := seek input (passes input endsTagName) start
  let name ← byteSlice input start stop
  .ok ((skipToTagEnd? input none stop).map fun next =>
    (.endTag (folded (Charset.decodeUtf8 name)), next))

/-- Reads an attribute value at an index. -/
def readValue? (index : Nat) : Checked (Option (String × Nat)) :=
  match charAt? input index with
  | none => .ok none
  | some c =>
      if c = '"' || c = '\x27' then
        match find? input c (index + 1) with
        | none => .ok none
        | some stop => do
            let value ← slice input (index + 1) stop
            .ok (some (decoded value, stop + 1))
      else do
        let stop := seek input (passes input endsBareValue) index
        let value ← slice input index stop
        .ok (some (decoded value, stop))

/-- Reads an attribute at an index. -/
def readAttribute? (index : Nat) :
    Checked (Option ((String × String) × Nat)) := do
  let stop := seek input (passes input endsAttributeName) (index + 1)
  let name ← slice input index stop
  let next := skipSpaces input stop
  if charAt? input next = some '=' then
    let read ← readValue? input (skipSpaces input (next + 1))
    .ok (read.map fun (value, next) => ((folded name, value), next))
  else .ok (some ((folded name, ""), next))

variable {input} {index : Nat}

theorem bind_eq_ok {α β : Type} {first : Checked α} {later : α → Checked β}
    {result : β} :
    first >>= later = .ok result ↔
      ∃ value, first = .ok value ∧ later value = .ok result := by
  cases first with
  | error crash => simp [bind, Except.bind]
  | ok value => simp [bind, Except.bind]

theorem le_seek (test : Nat → Bool) (index : Nat) :
    index ≤ seek input test index := by
  fun_induction seek input test index with
  | case1 => exact Nat.le_refl _
  | case2 index _ _ induction => exact Nat.le_of_succ_le induction
  | case3 => exact Nat.le_refl _

theorem le_skipSpaces (index : Nat) : index ≤ skipSpaces input index :=
  le_seek _ index

theorem le_of_first? {test : Nat → Bool} {stop : Nat}
    (found : first? input test index = some stop) : index ≤ stop := by
  dsimp only [first?] at found
  split at found
  · cases found
    exact le_seek test index
  · contradiction

theorem le_of_readValue? {value : String} {next : Nat}
    (read : readValue? input index = .ok (some (value, next))) :
    index ≤ next := by
  unfold readValue? at read
  split at read
  · simp at read
  · split at read
    · split at read
      · simp at read
      next stop found =>
        obtain ⟨_, _, equal⟩ := bind_eq_ok.mp read
        cases equal
        have := le_of_first? found
        omega
    · obtain ⟨_, _, equal⟩ := bind_eq_ok.mp read
      cases equal
      exact le_seek _ _

theorem lt_of_readAttribute? {pair : String × String} {next : Nat}
    (read : readAttribute? input index = .ok (some (pair, next))) :
    index < next := by
  obtain ⟨_, _, read⟩ := bind_eq_ok.mp read
  dsimp only at read
  generalize reached : seek input (passes input endsAttributeName) (index + 1) =
    stop at read
  have name : index + 1 ≤ stop := reached ▸ le_seek _ _
  have spaces : stop ≤ skipSpaces input stop := le_skipSpaces stop
  split at read
  · obtain ⟨value, readValue, equal⟩ := bind_eq_ok.mp read
    obtain ⟨⟨_, _⟩, found, equal⟩ :=
      Option.map_eq_some_iff.mp (Except.ok.inj equal)
    subst found
    cases equal
    have behind := (le_skipSpaces _).trans (le_of_readValue? readValue)
    omega
  · cases read
    omega

variable (input)

/-- Reads attributes from an index up to the end of the tag, keeping the first
of each name.  The flag tells whether the tag closes itself with `/>`. -/
def readAttributes? (attributes : TagAttributes) (index : Nat) :
    Checked (Option ((TagAttributes × Bool) × Nat)) :=
  let start := skipSpaces input index
  match found : charAt? input start with
  | none => .ok none
  | some c =>
      have := lt_of_charAt? input found
      have : index ≤ start := le_skipSpaces index
      if c = '>' then .ok (some ((attributes, false), start + 1))
      else if c = '/' then
        if charAt? input (start + 1) = some '>' then
          .ok (some ((attributes, true), start + 2))
        else readAttributes? attributes (start + 1)
      else
        match read : readAttribute? input start with
        | .error crash => .error crash
        | .ok none => .ok none
        | .ok (some (pair, next)) =>
            have := lt_of_readAttribute? read
            if attributes.any (·.1 = pair.1) then
              readAttributes? attributes next
            else readAttributes? (attributes ++ [pair]) next
termination_by input.utf8ByteSize - index

/-- Reads a start tag whose `<` is at an index; nothing when the markup ends
inside it. -/
def readStartTag? (index : Nat) : Checked (Option (Token × Nat)) := do
  let start := index + 1
  let stop := seek input (passes input endsTagName) start
  let name ← slice input start stop
  let read ← readAttributes? input [] stop
  .ok (read.map fun ((attributes, selfClosing), next) =>
    (.startTag (folded name) attributes selfClosing, next))

/-! ### Tokens -/

/-- A token that is there in any case. -/
def always (read : Checked (Token × Nat)) : Checked (Option Token × Nat) := do
  let (token, next) ← read
  .ok (some token, next)

/-- A token that is dropped when the markup ends inside it; nothing is left
then. -/
def whole (read : Checked (Option (Token × Nat))) :
    Checked (Option Token × Nat) := do
  match ← read with
  | some (token, next) => .ok (some token, next)
  | none => .ok (none, input.utf8ByteSize)

/-- The next token of ordinary content and the index behind it. -/
def content (index : Nat) : Checked (Option Token × Nat) :=
  match found : charAt? input index with
  | none => .ok (none, index)
  | some c =>
      have := lt_of_charAt? input found
      if c ≠ '<' then always (readText input "" index)
      else if startsWith input "<!" index then
        always (readDeclaration input index)
      else if startsWith input "<?" index then
        always (readBogusComment input (index + 1))
      else if startsWith input "</" index then
        match charAt? input (index + 2) with
        | none => .ok (some (.text "</"), input.utf8ByteSize)
        | some c =>
            if c.isAlpha then whole input (readEndTag? input index)
            else if c = '>' then content (index + 3)
            else always (readBogusComment input (index + 2))
      else if passes input Char.isAlpha (index + 1) then
        whole input (readStartTag? input index)
      else always (readText input "<" (index + 1))
termination_by input.utf8ByteSize - index

/-- Whether the end tag of `tag` is at an index. -/
def startsEndTag (tag : String) (index : Nat) : Bool :=
  charAt? input index = some '<' && charAt? input (index + 1) = some '/' &&
    startsWithIgnoringCase input tag (index + 2) &&
    (charAt? input (index + 2 + tag.utf8ByteSize)).all endsTagName

/-- Where the text ends that a switch governs from an index on. -/
def endOf (switch : TextSwitch) (index : Nat) : Nat :=
  match switch.mode with
  | .endless => input.utf8ByteSize
  | .verbatim | .escapable =>
      (first? input (startsEndTag input switch.tag) index).getD
        input.utf8ByteSize

/-- The scanner at the start of a markup. -/
def ofMarkup (markup : String) : Scanner where
  input := markup

/-- The next token and the scanner behind it.  Text governed by a switch comes
as one token; when it is empty, ordinary content follows at once. -/
def next (scanner : Scanner) : Checked (Option Token × Scanner) := do
  let input := scanner.input
  match scanner.switch with
  | none =>
      let (token, position) ← content input scanner.position
      .ok (token, { input, position })
  | some switch =>
      let stop := endOf input switch scanner.position
      if stop = scanner.position then
        let (token, position) ← content input stop
        .ok (token, { input, position })
      else
        let text ← slice input scanner.position stop
        .ok (some (.text (switch.read text)), { input, position := stop })

/-- What a user asks of a scanner. -/
inductive Call where
  | next
  /-- The text that follows is to be read in another way. -/
  | enter (switch : TextSwitch)

/-- The answers to the calls for a token, and the scanner behind all calls. -/
def run (scanner : Scanner) :
    List Call → Checked (List (Option Token) × Scanner)
  | [] => .ok ([], scanner)
  | .enter switch :: calls => run { scanner with switch } calls
  | .next :: calls => do
      let (answer, after) ← scanner.next
      let (answers, last) ← run after calls
      .ok (answer :: answers, last)

end Scanner

/-- The answers of a lexer to the same calls, and the lexer behind them. -/
def Lexer.run (lexer : Lexer) :
    List Scanner.Call → List (Option Token) × Lexer
  | [] => ([], lexer)
  | .enter switch :: calls => run { lexer with switch } calls
  | .next :: calls =>
      let (answer, after) := lexer.next
      let (answers, last) := run after calls
      (answer :: answers, last)

end MarkupHarden.Html
