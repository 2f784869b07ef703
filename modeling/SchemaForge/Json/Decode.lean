import SchemaForge.Json.Reader

/-!
# Decoding JSON

A `Decoder α` takes a reading apart from left to right and gives an `α` or the first fault.  The
reading is that of a text (`Decoder.decodeText`) or of a value (`Decoder.decode`); the two differ
in a few faults only, so a decoder is told where its reading comes from.

Records are described by `Slot`s: a slot is a member by name that fills its part of a draft.  A
record is also read from an array, its slots in order; `record` knows both forms.
-/

namespace SchemaForge

-- powers stay those of the core library where another instance is in scope
attribute [local instance(2000)] instPowNat

/-- Where a reading comes from, and how many levels of nesting may still be entered. -/
structure DecodeContext where
  fromText : Bool
  depth : Nat

/-- Takes a reading apart. -/
abbrev Decoder (α : Type) := DecodeContext → Reading → Except DecodeFault α

namespace Decoder

variable {α β σ : Type}

/-! ## Mismatches -/

/-- What a reading shows to someone who wants something else. -/
def found : Reading → Except TextFault Found
  | .null => .ok .null
  | .boolean b => .ok (.boolean b)
  | .number (.integer n) => .ok (.integer n)
  | .number (.real x) => .ok (.real x)
  | .outOfRange => .error .numberOutOfRange
  | .string s => .ok (.string s)
  | .misencoded fault => .error fault
  | .array _ => .ok .sequence
  | .object _ => .ok .map
  | .broken b => .error b.reading

/-- The fault of a reading that is not what was expected: its own, if it has one. -/
def mismatch (expected : Expectation) (r : Reading) : DecodeFault :=
  match found r with
  | .ok f => .invalidType f expected
  | .error fault => .malformed fault

/-- The context inside an array or an object; a text has a limit to its nesting. -/
def enter (c : DecodeContext) : Except DecodeFault DecodeContext :=
  if !c.fromText then .ok c
  else if c.depth = 0 then .error (.malformed .tooDeep)
  else .ok { c with depth := c.depth - 1 }

/-! ## Scalars -/

/-- A string. -/
def string : Decoder String := fun _ r =>
  match r with
  | .string s => .ok s
  | r => .error (mismatch .text r)

/-- A boolean. -/
def boolean : Decoder Bool := fun _ r =>
  match r with
  | .boolean b => .ok b
  | r => .error (mismatch .boolean r)

/-- A natural number of 32 bits. -/
def word32 : Decoder UInt32 := fun _ r =>
  match r with
  | .number (.integer n) =>
    if 0 ≤ n ∧ n < 2 ^ (32 : Nat) then .ok (UInt32.ofNat n.toNat)
    else .error (.invalidValue (.integer n) .word32)
  | r => .error (mismatch .word32 r)

/-! ## Structures -/

/-- Null, or what the decoder reads.  What starts like null must be null. -/
def optional (d : Decoder α) : Decoder (Option α) := fun c r =>
  match r with
  | .null => .ok none
  | .broken b => if b.opening = .null then .error (.malformed b.reading) else (d c r).map some
  | r => (d c r).map some

/-- What a decoder reads, transformed. -/
def map (f : α → β) (d : Decoder α) : Decoder β := fun c r => (d c r).map f

/-- The items of a list, from left to right. -/
def items (d : Decoder α) (c : DecodeContext) : List Reading → Except DecodeFault (List α)
  | [] => .ok []
  | r :: rest => do
    let a ← d c r
    let as ← items d c rest
    return a :: as

/-- An array. -/
def list (d : Decoder α) : Decoder (List α) := fun c r =>
  match r with
  | .array rs => do items d (← enter c) rs
  | r => .error (mismatch .sequence r)

/-! ## Choices -/

/-- The value with the given name. -/
def named (known : List (String × α)) (name : String) : Except DecodeFault α :=
  match known.lookup name with
  | some a => .ok a
  | none => .error (.unknownVariant name (known.map Prod.fst))

/-- The content of a choice that has none. -/
def unit : Decoder Unit := fun _ r =>
  match r with
  | .null => .ok ()
  | r => .error (mismatch .unit r)

/-- The end of an object that should have had one member. -/
def closeSingle : List (ReadKey × Reading) → Except DecodeFault Unit
  | [] => .ok ()
  | (.missing, .broken b) :: _ =>
    .error (.malformed (if b.reading = .endInObject then .endInObject else .expectedValue))
  | _ => .error (.malformed .expectedValue)

/-- The value named by the only key of an object in a text. -/
def choiceObject (known : List (String × α)) (c : DecodeContext) :
    List (ReadKey × Reading) → Except DecodeFault α
  | (.text key, r) :: rest => do
    let a ← named known key
    let _ ← unit c r
    let _ ← closeSingle rest
    return a
  | (.misencoded fault, _) :: _ => .error (.malformed fault)
  | (.missing, .broken b) :: _ => .error (.malformed b.reading)
  | _ => .error (.malformed .expectedValue)

/-- A choice in a text: a name, or an object with the name as its only key and null beside it. -/
def choiceText (known : List (String × α)) (c : DecodeContext) (r : Reading) :
    Except DecodeFault α :=
  match r with
  | .string name => named known name
  | .misencoded fault => .error (.malformed fault)
  | .object members => do choiceObject known (← enter c) members
  | .broken b => .error (.malformed (if b.opening = .other then b.reading else .expectedValue))
  | _ => .error (.malformed .expectedValue)

/-- A choice in a value. -/
def choiceValue (known : List (String × α)) (c : DecodeContext) (r : Reading) :
    Except DecodeFault α :=
  match r with
  | .string name => named known name
  | .object [(.text name, content)] => do
    let a ← named known name
    let _ ← unit c content
    return a
  | .object _ => .error (.invalidValue .map .singleMember)
  | r => .error (mismatch .choice r)

/-- One of several named values. -/
def choice (known : List (String × α)) : Decoder α := fun c r =>
  if c.fromText then choiceText known c r else choiceValue known c r

/-! ## Records -/

/-- A member of a record that fills a part of a draft. -/
structure Slot (σ : Type) where
  name : String
  required : Bool
  isFilled : σ → Bool
  fill : Decoder (σ → σ)

/-- A record: its name in diagnostics, its members, and whether it allows others. -/
structure Record (σ : Type) where
  name : String
  slots : List (Slot σ)
  closed : Bool

/-- The draft with a member's part filled in. -/
def fillSlot (slot : Slot σ) (c : DecodeContext) (draft : σ) (r : Reading) :
    Except DecodeFault σ :=
  (slot.fill c r).map (· draft)

/-- The members of an object, filled into a draft from left to right. -/
def fillMembers (shape : Record σ) (c : DecodeContext) (draft : σ) :
    List (ReadKey × Reading) → Except DecodeFault σ
  | [] => .ok draft
  | (.text key, r) :: rest =>
    match shape.slots.find? (·.name == key) with
    | some slot =>
      if slot.isFilled draft then .error (.duplicateField key)
      else do fillMembers shape c (← fillSlot slot c draft r) rest
    | none =>
      if shape.closed then .error (.unknownField key (shape.slots.map (·.name)))
      else match r.skipFault? with
        | some fault => .error (.malformed fault)
        | none => fillMembers shape c draft rest
  | (.misencoded fault, _) :: _ => .error (.malformed fault)
  | (.missing, r) :: _ => .error (mismatch .text r)

/-- The items of an array beyond the last slot. -/
def closeItems (fromText : Bool) (length : Nat) : List Reading → Except DecodeFault Unit
  | [] => .ok ()
  | r :: _ =>
    if !fromText then .error (.tooMany length)
    else match r with
      | .broken b =>
        if b.reading = .trailingComma ∨ b.reading = .endInList then
          .error (.malformed b.reading)
        else .error (.malformed .trailingCharacters)
      | _ => .error (.malformed .trailingCharacters)

/-- The items of an array, filled into the slots of a draft in order. -/
def fillItems (shape : Record σ) (c : DecodeContext) (length : Nat) (draft : σ) :
    Nat → List (Slot σ) → List Reading → Except DecodeFault σ
  | _, [], rest => (closeItems c.fromText length rest).map fun _ => draft
  | i, slot :: slots, [] =>
    if slot.required then .error (.tooFew i shape.name shape.slots.length)
    else fillItems shape c length draft (i + 1) slots []
  | i, slot :: slots, r :: rest => do
    fillItems shape c length (← fillSlot slot c draft r) (i + 1) slots rest

/-- The draft of a record, from an object by name or from an array by position. -/
def draft (shape : Record σ) (empty : σ) : Decoder σ := fun c r =>
  match r with
  | .object members => do fillMembers shape (← enter c) empty members
  | .array rs => do fillItems shape (← enter c) rs.length empty 0 shape.slots rs
  | r => .error (mismatch (.record shape.name) r)

/-- A record: its draft, completed. -/
def record (shape : Record σ) (empty : σ) (complete : σ → Except DecodeFault α) : Decoder α :=
  fun c r => draft shape empty c r >>= complete

/-- A part of a draft that has to be there. -/
def need (name : String) (part : Option α) : Except DecodeFault α :=
  match part with
  | some a => .ok a
  | none => .error (.missingField name)

/-! ## Running a decoder -/

/-- The deepest nesting of arrays and objects that a text may have. -/
def deepest : Nat := 127

/-- Decodes a value. -/
def decode (d : Decoder α) (v : Json) : Except DecodeFault α := d ⟨false, 0⟩ (.ofJson v)

/-- Decodes a text. -/
def decodeText (d : Decoder α) (text : String) : Except DecodeFault α := do
  let a ← d ⟨true, deepest⟩ (.ofText text)
  if Reading.isFollowed text then .error (.malformed .trailingCharacters) else .ok a

end Decoder

end SchemaForge
