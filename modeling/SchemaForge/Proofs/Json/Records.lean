import Mathlib.Tactic.SplitIfs
import SchemaForge.Json.Decode
import SchemaForge.Proofs.Results

/-!
# Decoding values

What the decoders make of a JSON value, as opposed to a text: nothing is broken off, nothing is too
deep, so each decoder comes down to the values it accepts.  For a record this is `Decoder.fill`, and
`Decoder.Takes` says what a single member does to the draft.

Main results:

* a draft is filled member by member (`Decoder.fill_cons_eq_ok_iff`, `Decoder.fill_append`);
* a list of written items is read back when each item is (`Decoder.decode_list`), and so is an
  optional member (`Decoder.fill_optional`);
* what every slot of a record keeps, the whole record keeps (`Decoder.exists_draft_of_record`).
-/

namespace SchemaForge

/-- A value has no fault to be skipped over. -/
theorem Reading.skipFault?_ofJson (v : Json) : (Reading.ofJson v).skipFault? = none := by
  refine Json.rec
    (motive_1 := fun v => (Reading.ofJson v).skipFault? = none)
    (motive_2 := fun items => Reading.itemsSkipFault? (Reading.ofItems items) = none)
    (motive_3 := fun members => Reading.membersSkipFault? (Reading.ofMembers members) = none)
    (motive_4 := fun member => (Reading.ofJson member.2).skipFault? = none)
    ?null ?boolean ?number ?string ?array ?object ?nil ?cons ?noMember ?moreMembers ?member v
  case null => rfl
  case boolean => exact fun _ => rfl
  case number => exact fun _ => rfl
  case string => exact fun _ => rfl
  case array => exact fun _ ih => ih
  case object => exact fun _ ih => ih
  case nil => rfl
  case cons =>
    intro v rest ih ihRest
    rw [Reading.ofItems, Reading.itemsSkipFault?, ih, ihRest]
    rfl
  case noMember => rfl
  case moreMembers =>
    intro member rest ih ihRest
    rw [Reading.ofMembers, Reading.membersSkipFault?, ih, ihRest]
    rfl
  case member => exact fun _ _ ih => ih

theorem Reading.length_ofItems (items : List Json) :
    (Reading.ofItems items).length = items.length := by
  induction items with
  | nil => rfl
  | cons v rest ih => rw [Reading.ofItems, List.length_cons, ih, List.length_cons]

namespace Decoder

variable {α β γ σ : Type} {d : Decoder α} {v : Json} {a : α} {shape : Record σ}
  {slot : Slot σ} {draft₀ draft₁ draft₂ : σ} {key : String} {members rest : List (String × Json)}
  {complete : σ → Except DecodeFault α}

/-! ## Scalars, lists and choices -/

/-- The context of a value, which neither counts levels nor changes on the way inside. -/
abbrev ofValue : DecodeContext := ⟨false, 0⟩

@[simp] theorem decode_string (s : String) : string.decode (.string s) = .ok s := rfl

@[simp] theorem decode_word32 (n : UInt32) : word32.decode (.nat n.toNat) = .ok n := by
  have bounded : (0 : Int) ≤ n.toNat ∧ (n.toNat : Int) < 2 ^ (32 : Nat) := by
    have := n.toNat_lt
    omega
  rw [decode, Json.nat, Reading.ofJson, word32]
  rw [if_pos bounded, Int.toNat_natCast, UInt32.ofNat_toNat]

theorem decode_map (f : α → β) (d : Decoder α) (v : Json) :
    (d.map f).decode v = (d.decode v).map f := rfl

/-- Whatever is not null is read by the decoder itself. -/
theorem decode_optional (h : v.isNull = false) : (optional d).decode v = (d.decode v).map some := by
  cases v with
  | null => cases h
  | _ => rfl

theorem decode_array (d : Decoder α) (vs : List Json) :
    (list d).decode (.array vs) = items d ofValue (Reading.ofItems vs) := rfl

/-- A list is read back when each of its items is. -/
theorem decode_list {d : Decoder β} {write : α → Json} {settle : α → β} {as : List α}
    (read : ∀ a ∈ as, d.decode (write a) = .ok (settle a)) :
    (list d).decode (.array (as.map write)) = .ok (as.map settle) := by
  rw [decode_array]
  induction as with
  | nil => rfl
  | cons a rest ih =>
    obtain ⟨first, others⟩ := List.forall_mem_cons.1 read
    rw [List.map_cons, Reading.ofItems, items, show d ofValue (.ofJson (write a)) = _ from first,
      ih others]
    rfl

/-! ## Records -/

/-- The members of an object filled into a draft. -/
def fill (shape : Record σ) (draft : σ) (members : List (String × Json)) :
    Except DecodeFault σ :=
  fillMembers shape ofValue draft (Reading.ofMembers members)

/-- An object is read as what its members make of the empty draft. -/
theorem decode_record (empty : σ) :
    (record shape empty complete).decode (.object members) =
      (fill shape empty members).bind complete := rfl

/-- An object is read when its members fill a draft that can be completed. -/
theorem decode_of_fill {empty draft : σ} (filled : fill shape empty members = .ok draft)
    (completed : complete draft = .ok a) :
    (record shape empty complete).decode (.object members) = .ok a := by
  rw [decode_record, filled]
  exact completed

@[simp] theorem fill_nil : fill shape draft₀ [] = .ok draft₀ := rfl

/-- What a member does to a draft: it is filled in where its slot is empty, and ignored where it has
none and other members are allowed. -/
inductive Takes (shape : Record σ) (draft : σ) (key : String) (v : Json) : σ → Prop
  | filled {slot : Slot σ} {f : σ → σ} : shape.slots.find? (·.name == key) = some slot →
    slot.isFilled draft = false → slot.fill.decode v = .ok f → Takes shape draft key v (f draft)
  | ignored : shape.slots.find? (·.name == key) = none → shape.closed = false →
    Takes shape draft key v draft

/-- A draft is filled by one member after the other. -/
theorem fill_cons_eq_ok_iff :
    fill shape draft₀ ((key, v) :: rest) = .ok draft₂ ↔
      ∃ draft₁, Takes shape draft₀ key v draft₁ ∧ fill shape draft₁ rest = .ok draft₂ := by
  rw [fill, Reading.ofMembers, fillMembers, Reading.skipFault?_ofJson]
  cases known : shape.slots.find? (·.name == key) with
  | some slot =>
    dsimp only
    cases taken : slot.isFilled draft₀ with
    | true =>
      rw [if_pos rfl]
      refine iff_of_false (by simp) ?_
      rintro ⟨_, ⟨known', free, -⟩ | ⟨unknown, -⟩, -⟩
      · obtain rfl := Option.some.inj (known.symm.trans known')
        exact absurd (taken.symm.trans free) (by simp)
      · exact absurd (known.symm.trans unknown) (by simp)
    | false =>
      rw [if_neg (by decide)]
      refine Except.bind_eq_ok_iff.trans (exists_congr fun draft₁ => and_congr_left fun _ => ?_)
      rw [fillSlot, Except.map_eq_ok_iff]
      constructor
      · rintro ⟨f, read, rfl⟩
        exact .filled known taken read
      · rintro (⟨known', -, read⟩ | ⟨unknown, -⟩)
        · obtain rfl := Option.some.inj (known.symm.trans known')
          exact ⟨_, read, rfl⟩
        · exact absurd (known.symm.trans unknown) (by simp)
  | none =>
    dsimp only
    constructor
    · intro h
      split_ifs at h with closed
      exact ⟨_, .ignored known (by simpa using closed), h⟩
    · rintro ⟨_, ⟨known', -⟩ | ⟨-, opened⟩, h⟩
      · exact absurd (known.symm.trans known') (by simp)
      · rw [if_neg (by simp [opened])]
        exact h

/-- Members are filled in piece by piece. -/
theorem fill_append_eq_ok_iff :
    fill shape draft₀ (members ++ rest) = .ok draft₂ ↔
      ∃ draft₁, fill shape draft₀ members = .ok draft₁ ∧ fill shape draft₁ rest = .ok draft₂ := by
  induction members generalizing draft₀ with
  | nil => simp
  | cons member members ih =>
    rw [List.cons_append, fill_cons_eq_ok_iff]
    constructor
    · rintro ⟨draft, takes, h⟩
      obtain ⟨draft₁, filled, h⟩ := ih.1 h
      exact ⟨draft₁, fill_cons_eq_ok_iff.2 ⟨draft, takes, filled⟩, h⟩
    · rintro ⟨draft₁, filled, h⟩
      obtain ⟨draft, takes, filled⟩ := fill_cons_eq_ok_iff.1 filled
      exact ⟨draft, takes, ih.2 ⟨draft₁, filled, h⟩⟩

/-- A member with an empty slot is filled in. -/
theorem fill_cons {f : σ → σ} (known : shape.slots.find? (·.name == key) = some slot)
    (free : slot.isFilled draft₀ = false) (read : slot.fill.decode v = .ok f) :
    fill shape draft₀ ((key, v) :: rest) = fill shape (f draft₀) rest := by
  rw [fill, Reading.ofMembers, fillMembers, known]
  simp only [free, Bool.false_eq_true, if_false]
  rw [fillSlot, show slot.fill ofValue (.ofJson v) = _ from read]
  rfl

/-- A member that is written for a value only is filled in for a value only.  The drafts are given
by their part for the member. -/
theorem fill_optional {d : Decoder β} {write : α → Json} {settle : α → β} {o : Option α}
    {set : Option β → σ → σ} {required : Bool} {isFilled : σ → Bool} {p : Option (Option β) → σ}
    (known : shape.slots.find? (·.name == key) =
      some ⟨key, required, isFilled, (optional d).map set⟩)
    (free : isFilled (p none) = false) (sets : ∀ b, set b (p none) = p (some b))
    (notNull : ∀ a, (write a).isNull = false) (read : ∀ a, d.decode (write a) = .ok (settle a)) :
    fill shape (p none) (Json.optionalMember key (o.map write)) =
      .ok (p (o.map fun a => some (settle a))) := by
  cases o with
  | none => rfl
  | some a =>
    have filled : ((optional d).map set).decode (write a) = .ok (set (some (settle a))) := by
      rw [decode_map, decode_optional (notNull a), read a, Except.ok_map, Except.ok_map]
    refine (fill_cons (f := set (some (settle a))) known free filled).trans ?_
    rw [sets]
    rfl

/-- A part that was filled in for a value only is completed to the optional value. -/
theorem getD_map_some (o : Option α) : (o.map some).getD none = o := by cases o <;> rfl

theorem getD_map_some_comp (f : α → β) (o : Option α) :
    (o.map fun a => some (f a)).getD none = o.map f := by cases o <;> rfl

theorem part_of_need {name : String} {part : Option α} (h : need name part = .ok a) :
    part = some a := by
  cases part <;> cases h
  rfl

/-! ## What records keep -/

/-- What setting a part of a draft keeps, a slot for the part keeps. -/
theorem keeps_of_map {P : σ → Prop} {set : α → σ → σ}
    (keeps : ∀ c r a, d c r = .ok a → ∀ draft, P draft → P (set a draft)) :
    ∀ c r f, (d.map set) c r = .ok f → ∀ draft, P draft → P (f draft) := by
  intro c r f h
  obtain ⟨a, read, rfl⟩ := Except.map_eq_ok_iff.1 h
  exact keeps c r a read

section Keeps

variable {P : σ → Prop} {c : DecodeContext} {draft draft' : σ}
  (step : ∀ slot ∈ shape.slots, ∀ c r f, slot.fill c r = .ok f → ∀ draft, P draft → P (f draft))
include step

theorem keeps_of_fillSlot {r : Reading} (known : slot ∈ shape.slots)
    (filled : fillSlot slot c draft r = .ok draft') (holds : P draft) : P draft' := by
  obtain ⟨f, read, rfl⟩ := Except.map_eq_ok_iff.1 filled
  exact step slot known c r f read draft holds

/-- What every slot keeps, the members of an object keep. -/
theorem keeps_of_fillMembers {ms : List (ReadKey × Reading)}
    (filled : fillMembers shape c draft ms = .ok draft') : P draft → P draft' := by
  fun_induction fillMembers shape c draft ms with
  | case1 => cases filled; exact id
  | case3 draft key r rest slot known free ih =>
    intro holds
    obtain ⟨draft₁, first, others⟩ := Except.bind_eq_ok_iff.1 filled
    exact ih draft₁ others (keeps_of_fillSlot step (List.mem_of_find?_eq_some known) first holds)
  | case6 draft key r rest unknown opened fine ih => exact ih filled
  -- the other members stop the reading
  | case2 => cases filled
  | case4 => cases filled
  | case5 => cases filled
  | case7 => cases filled
  | case8 => cases filled

/-- What every slot keeps, the items of an array keep, which fill the slots in their order. -/
theorem keeps_of_fillItems {n i : Nat} {slots : List (Slot σ)} {rs : List Reading}
    (known : slots ⊆ shape.slots) (filled : fillItems shape c n draft i slots rs = .ok draft') :
    P draft → P draft' := by
  fun_induction fillItems shape c n draft i slots rs with
  | case1 =>
    obtain ⟨-, -, rfl⟩ := Except.map_eq_ok_iff.1 filled
    exact id
  | case2 => cases filled
  | case3 _ _ _ _ _ ih => exact ih (List.subset_of_cons_subset known) filled
  | case4 draft i slot slots r rest ih =>
    intro holds
    obtain ⟨draft₁, first, others⟩ := Except.bind_eq_ok_iff.1 filled
    exact ih draft₁ (List.subset_of_cons_subset known) others
      (keeps_of_fillSlot step (known List.mem_cons_self) first holds)

/-- What every slot keeps, and the empty draft has, the draft has that a record is completed
from. -/
theorem exists_draft_of_record {empty : σ} {r : Reading} (start : P empty)
    (h : record shape empty complete c r = .ok a) : ∃ draft, P draft ∧ complete draft = .ok a := by
  obtain ⟨draft, drafted, completed⟩ := Except.bind_eq_ok_iff.1 h
  refine ⟨draft, ?_, completed⟩
  cases r with
  | object ms =>
    obtain ⟨c', -, filled⟩ := Except.bind_eq_ok_iff.1 drafted
    exact keeps_of_fillMembers step filled start
  | array rs =>
    obtain ⟨c', -, filled⟩ := Except.bind_eq_ok_iff.1 drafted
    exact keeps_of_fillItems step (List.Subset.refl _) filled start
  | _ => cases drafted

end Keeps

theorem exists_of_mem_items {c : DecodeContext} {rs : List Reading} {as : List α}
    (h : items d c rs = .ok as) : ∀ a ∈ as, ∃ r, d c r = .ok a := by
  induction rs generalizing as with
  | nil =>
    cases h
    simp
  | cons r rest ih =>
    obtain ⟨a, first, h⟩ := Except.bind_eq_ok_iff.1 h
    obtain ⟨as, others, h⟩ := Except.bind_eq_ok_iff.1 h
    cases h
    exact List.forall_mem_cons.2 ⟨⟨r, first⟩, ih others⟩

/-- The items of a list have been read by the decoder of the items. -/
theorem exists_item_of_list {c : DecodeContext} {r : Reading} {as : List α}
    (h : list d c r = .ok as) : ∀ a ∈ as, ∃ c r, d c r = .ok a := by
  cases r with
  | array rs =>
    obtain ⟨c', -, read⟩ := Except.bind_eq_ok_iff.1 h
    exact fun a ha => ⟨c', exists_of_mem_items read a ha⟩
  | _ => cases h

/-- What is there of an optional value has been read by the decoder of the value. -/
theorem exists_some_of_optional {c : DecodeContext} {r : Reading}
    (h : optional d c r = .ok (some a)) : d c r = .ok a := by
  have plain (h : (d c r).map some = .ok (some a)) : d c r = .ok a := by
    obtain ⟨a', read, same⟩ := Except.map_eq_ok_iff.1 h
    exact Option.some.inj same ▸ read
  cases r with
  | null => cases h
  | broken b =>
    rw [optional] at h
    split_ifs at h
    exact plain h
  | _ => exact plain h

end Decoder

end SchemaForge
