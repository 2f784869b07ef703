import SchemaForge.Json.Numeral

/-!
# Reading JSON texts

`Reading.ofText` reads a text from left to right, and `isFollowed` tells whether something other
than blanks comes after the value.  Neither can fail: a text that is not JSON has a reading that
breaks off (`SchemaForge.Json.Reading`).

Every function of the reader takes a text and gives what it read and the rest of the text, which
is shorter; the reader ends because the text does.
-/

namespace SchemaForge

-- the zero of a sum stays the literal where another instance is in scope
attribute [local instance(2000)] Zero.ofOfNat0

namespace Reader

/-- What is left of a text after something of it was read. -/
abbrev Rest (s : List Char) := { r : List Char // r.length < s.length }

/-- The rest of a rest. -/
def Rest.within {s t : List Char} (r : Rest t) (h : t.length ≤ s.length) : Rest s :=
  ⟨r.val, Nat.lt_of_lt_of_le r.property h⟩

/-! ## Blanks and keywords -/

/-- A space, a tab or the end of a line. -/
def isSpacing (c : Char) : Bool := c == ' ' || c == '\n' || c == '\t' || c == '\r'

/-- A text without the blanks it starts with. -/
def skipBlanks (s : List Char) : List Char := s.dropWhile isSpacing

theorem length_skipBlanks_le (s : List Char) : (skipBlanks s).length ≤ s.length :=
  (List.dropWhile_sublist _).length_le

/-- The text behind the remaining letters of a keyword. -/
def keyword :
    List Char → (s : List Char) → Except TextFault { r : List Char // r.length ≤ s.length }
  | [], s => .ok ⟨s, Nat.le_refl _⟩
  | _ :: _, [] => .error .endInValue
  | k :: ks, c :: s =>
    if k = c then (keyword ks s).map fun r => ⟨r.val, Nat.le_succ_of_le r.property⟩
    else .error .expectedKeyword

/-! ## String literals -/

/-- The value of a hexadecimal digit. -/
def hexValue? (c : Char) : Option Nat :=
  if '0' ≤ c ∧ c ≤ '9' then some (c.toNat - '0'.toNat)
  else if 'a' ≤ c ∧ c ≤ 'f' then some (c.toNat - 'a'.toNat + 10)
  else if 'A' ≤ c ∧ c ≤ 'F' then some (c.toNat - 'A'.toNat + 10)
  else none

/-- The four hexadecimal digits of an escape.  A text that has fewer than four bytes left ends
inside the string. -/
def hexQuad (s : List Char) : Except TextFault (Nat × Rest s) :=
  match s with
  | a :: b :: c :: d :: rest =>
    match hexValue? a, hexValue? b, hexValue? c, hexValue? d with
    | some a, some b, some c, some d =>
      .ok (((a * 16 + b) * 16 + c) * 16 + d, ⟨rest, by simp; omega⟩)
    | _, _, _, _ => .error .invalidEscape
  | s => .error (if (s.map Char.utf8Size).sum < 4 then .endInString else .invalidEscape)

/-- The character that a one-letter escape stands for. -/
def shortEscape? (c : Char) : Option Char :=
  match c with
  | '"' => some '"'
  | '\\' => some '\\'
  | '/' => some '/'
  | 'b' => some '\x08'
  | 'f' => some '\x0c'
  | 'n' => some '\n'
  | 'r' => some '\r'
  | 't' => some '\t'
  | _ => none

/-- The code unit opens a pair of surrogates. -/
def isHighSurrogate (n : Nat) : Bool := 0xD800 ≤ n && n ≤ 0xDBFF

/-- The code unit closes a pair of surrogates. -/
def isLowSurrogate (n : Nat) : Bool := 0xDC00 ≤ n && n ≤ 0xDFFF

/-- The character of a pair of surrogates. -/
def pairChar (high low : Nat) : Char :=
  Char.ofNat (0x10000 + (high - 0xD800) * 0x400 + (low - 0xDC00))

/-- The second half of a surrogate pair, behind the first. -/
def readPair (high : Nat) (s : List Char) : Except TextFault (Char × Rest s) :=
  match s with
  | [] => .error .endInString
  | ['\\'] => .error .endInString
  | '\\' :: 'u' :: rest =>
    match hexQuad rest with
    | .error fault => .error fault
    | .ok (low, r) =>
      if isLowSurrogate low then .ok (pairChar high low, r.within (by simp; omega))
      else .error .loneSurrogate
  | _ => .error .unpairedSurrogate

/-- The character that an escape stands for, behind the backslash. -/
def readEscape (s : List Char) : Except TextFault (Char × Rest s) :=
  match s with
  | [] => .error .endInString
  | 'u' :: rest =>
    match hexQuad rest with
    | .error fault => .error fault
    | .ok (n, r) =>
      if isLowSurrogate n then .error .loneSurrogate
      else if isHighSurrogate n then
        match readPair n r.val with
        | .error fault => .error fault
        | .ok (c, r') =>
          .ok (c, r'.within (Nat.le_of_lt (Nat.lt_trans r.property (by simp))))
      else .ok (Char.ofNat n, r.within (by simp))
  | c :: rest =>
    match shortEscape? c with
    | some d => .ok (d, ⟨rest, by simp⟩)
    | none => .error .invalidEscape

/-- What follows an escape that is skipped. -/
def skipEscape (s : List Char) : Except TextFault (Rest s) :=
  match s with
  | [] => .error .endInString
  | 'u' :: rest => (hexQuad rest).map fun q => q.2.within (by simp)
  | c :: rest => if (shortEscape? c).isSome then .ok ⟨rest, by simp⟩ else .error .invalidEscape

/-- The characters of a string literal behind its opening quote, and what follows the closing
one. -/
def readString (s : List Char) : Except TextFault (List Char × Rest s) :=
  match s with
  | [] => .error .endInString
  | '"' :: rest => .ok ([], ⟨rest, by simp⟩)
  | '\\' :: rest =>
    match readEscape rest with
    | .error fault => .error fault
    | .ok (c, r) =>
      match readString r.val with
      | .error fault => .error fault
      | .ok (cs, r') =>
        .ok (c :: cs, r'.within (Nat.le_of_lt (Nat.lt_trans r.property (by simp))))
  | c :: rest =>
    if c.toNat < 0x20 then .error .controlCharacter
    else
      match readString rest with
      | .error fault => .error fault
      | .ok (cs, r) => .ok (c :: cs, r.within (by simp))
termination_by s.length
decreasing_by
  · exact Nat.lt_trans r.property (by simp)
  · simp

/-- What follows a string literal that is skipped, from behind its opening quote. -/
def skipString (s : List Char) : Except TextFault (Rest s) :=
  match s with
  | [] => .error .endInString
  | '"' :: rest => .ok ⟨rest, by simp⟩
  | '\\' :: rest =>
    match skipEscape rest with
    | .error fault => .error fault
    | .ok r =>
      (skipString r.val).map fun r' =>
        r'.within (Nat.le_of_lt (Nat.lt_trans r.property (by simp)))
  | c :: rest =>
    if c.toNat < 0x20 then .error .controlCharacter
    else (skipString rest).map fun r => r.within (by simp)
termination_by s.length
decreasing_by
  · exact Nat.lt_trans r.property (by simp)
  · simp

/-- A string literal behind its opening quote, read as a key: a literal that can only be skipped
is misencoded, and one that cannot even be skipped breaks the text off. -/
def readKey (s : List Char) : Except Break (ReadKey × Rest s) :=
  match readString s with
  | .ok (cs, r) => .ok (.text (String.ofList cs), r)
  | .error fault =>
    match skipString s with
    | .ok r => .ok (.misencoded fault, r)
    | .error skipping => .error ⟨fault, skipping, .other⟩

/-- A literal read as a key, as a value. -/
def keyReading : ReadKey → Reading
  | .text s => .string s
  | .misencoded fault => .misencoded fault
  | .missing => .null

/-! ## Values -/

/-- A value whose remaining letters are those of a keyword. -/
def readKeyword (opening : Opening) (letters : List Char) (v : Reading) (s : List Char) :
    Reading × Option { r : List Char // r.length ≤ s.length } :=
  match keyword letters s with
  | .ok r => (v, some r)
  | .error fault => (.broken ⟨fault, fault, opening⟩, none)

/-- The reading of a numeral; one beyond all binary64 numbers can only be skipped. -/
def numeralReading (n : Numeral) : Reading :=
  match n.value? with
  | some x => .number x
  | none => .outOfRange

mutual

/-- The value at the start of a text, and the rest unless the text breaks off in it. -/
def readValue (s : List Char) : Reading × Option (Rest s) :=
  match h : skipBlanks s with
  | [] => (.broken (.between .endInValue), none)
  | c :: t =>
    have ht : t.length < s.length := by
      have := length_skipBlanks_le s
      rw [h, List.length_cons] at this
      omega
    if c = '"' then
      match readKey t with
      | .ok (key, r) => (keyReading key, some (r.within (Nat.le_of_lt ht)))
      | .error b => (.broken b, none)
    else if c = '[' then
      let (items, r) := readItems true t
      (.array items, r.map (·.within (Nat.le_of_lt ht)))
    else if c = '\x7b' then
      let (members, r) := readMembers true t
      (.object members, r.map (·.within (Nat.le_of_lt ht)))
    else if c = 'n' then
      let (v, r) := readKeyword .null ['u', 'l', 'l'] .null t
      (v, r.map fun r => ⟨r.val, Nat.lt_of_le_of_lt r.property ht⟩)
    else if c = 't' then
      let (v, r) := readKeyword .bare ['r', 'u', 'e'] (.boolean true) t
      (v, r.map fun r => ⟨r.val, Nat.lt_of_le_of_lt r.property ht⟩)
    else if c = 'f' then
      let (v, r) := readKeyword .bare ['a', 'l', 's', 'e'] (.boolean false) t
      (v, r.map fun r => ⟨r.val, Nat.lt_of_le_of_lt r.property ht⟩)
    else if c = '-' ∨ c.isDigit then
      match hn : Numeral.scan (c :: t) with
      | .ok (n, r) =>
        (numeralReading n, some ⟨r, Nat.lt_of_lt_of_le (Numeral.length_of_scan hn)
          (h ▸ length_skipBlanks_le s)⟩)
      | .error b => (.broken b, none)
    else (.broken ⟨.expectedValue, .expectedValue, .bare⟩, none)
termination_by (s.length, 0)

/-- The items of an array behind its bracket or behind an item; a break stands as the last item. -/
def readItems (first : Bool) (s : List Char) : List Reading × Option (Rest s) :=
  match h : skipBlanks s with
  | [] => ([.broken (.between .endInList)], none)
  | c :: t =>
    have ht : t.length < s.length := by
      have := length_skipBlanks_le s
      rw [h, List.length_cons] at this
      omega
    if c = ']' then ([], some ⟨t, ht⟩)
    else if first then
      match readValue s with
      | (v, none) => ([v], none)
      | (v, some r) =>
        let (rest, r') := readItems false r.val
        (v :: rest, r'.map (·.within (Nat.le_of_lt r.property)))
    else if c = ',' then
      if (skipBlanks t).head? = some ']' then
        ([.broken ⟨.trailingComma, .expectedValue, .other⟩], none)
      else
        match readValue t with
        | (v, none) => ([v], none)
        | (v, some r) =>
          let (rest, r') := readItems false r.val
          (v :: rest, r'.map (·.within (Nat.le_of_lt (Nat.lt_trans r.property ht))))
    else ([.broken (.between .expectedListEnd)], none)
termination_by (s.length, 1)

/-- The members of an object behind its brace or behind a member; a break stands as the last
member. -/
def readMembers (first : Bool) (s : List Char) : List (ReadKey × Reading) × Option (Rest s) :=
  match h : skipBlanks s with
  | [] => ([(.missing, .broken (.between .endInObject))], none)
  | c :: t =>
    have ht : t.length < s.length := by
      have := length_skipBlanks_le s
      rw [h, List.length_cons] at this
      omega
    if c = '\x7d' then ([], some ⟨t, ht⟩)
    else if first then
      if c = '"' then
        let (members, r) := readMember t
        (members, r.map (·.within (Nat.le_of_lt ht)))
      else ([(.missing, .broken (.between .keyNotString))], none)
    else if c = ',' then
      match h' : skipBlanks t with
      | [] => ([(.missing, .broken ⟨.endInValue, .endInObject, .other⟩)], none)
      | d :: u =>
        have hu : u.length < s.length := by
          have := length_skipBlanks_le t
          rw [h', List.length_cons] at this
          omega
        if d = '"' then
          let (members, r) := readMember u
          (members, r.map (·.within (Nat.le_of_lt hu)))
        else if d = '\x7d' then
          ([(.missing, .broken ⟨.trailingComma, .keyNotString, .other⟩)], none)
        else ([(.missing, .broken (.between .keyNotString))], none)
    else ([(.missing, .broken (.between .expectedObjectEnd))], none)
termination_by (s.length, 1)

/-- The members of an object from behind the opening quote of a key. -/
def readMember (s : List Char) : List (ReadKey × Reading) × Option (Rest s) :=
  match readKey s with
  | .error b => ([(.missing, .broken b)], none)
  | .ok (key, r) =>
    match h : skipBlanks r.val with
    | [] => ([(key, .broken (.between .endInObject))], none)
    | c :: t =>
      have ht : t.length < s.length := by
        have := length_skipBlanks_le r.val
        rw [h, List.length_cons] at this
        have := r.property
        omega
      if c = ':' then
        match readValue t with
        | (v, none) => ([(key, v)], none)
        | (v, some r) =>
          let (rest, r') := readMembers false r.val
          ((key, v) :: rest, r'.map (·.within (Nat.le_of_lt (Nat.lt_trans r.property ht))))
      else ([(key, .broken (.between .expectedColon))], none)
termination_by (s.length, 1)

end

end Reader

namespace Reading

/-- The reading of a text. -/
def ofText (text : String) : Reading := (Reader.readValue text.toList).1

/-- Something other than blanks follows the value. -/
def isFollowed (text : String) : Bool :=
  match (Reader.readValue text.toList).2 with
  | some r => !(Reader.skipBlanks r.val).isEmpty
  | none => false

end Reading

end SchemaForge
