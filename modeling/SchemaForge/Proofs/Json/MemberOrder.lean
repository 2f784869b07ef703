import Mathlib.Data.List.Nodup
import Mathlib.Data.List.Pairwise
import SchemaForge.Proofs.Json.Records

/-!
# The order of members

Two values are the same (`Json.Same`) when they differ in nothing but the order in which objects
have their members.  Putting members into the order of their keys is one way to get to such a value,
as long as no object has a key twice.

Main results:

* a value without repeated keys is the same as its sorted form (`Json.Same.sorted`);
* decoders do not see the order of members, if the decoders they are made of do not
  (`Decoder.OrderFree.record`, `Decoder.OrderFree.list`, `Decoder.OrderFree.optional`,
  `Decoder.OrderFree.choice`).
-/

namespace SchemaForge

/-! ## The same value -/

namespace Json

/-- The values differ only in the order of members, in objects at any depth. -/
inductive Same : Json → Json → Prop
  | refl (v : Json) : Same v v
  | trans {u v w : Json} : Same u v → Same v w → Same u w
  | swap (front : List (String × Json)) (x y : String × Json) (back : List (String × Json)) :
    Same (.object (front ++ x :: y :: back)) (.object (front ++ y :: x :: back))
  | member (front : List (String × Json)) (key : String) {v w : Json}
    (back : List (String × Json)) : Same v w →
    Same (.object (front ++ (key, v) :: back)) (.object (front ++ (key, w) :: back))
  | item (front : List Json) {v w : Json} (back : List Json) : Same v w →
    Same (.array (front ++ v :: back)) (.array (front ++ w :: back))

variable {v w : Json} {items : List Json} {members members' : List (String × Json)}

/-- What has no parts is the same as itself only. -/
theorem Same.eq_of_isPrimitive (same : Same v w) :
    (v.isPrimitive = true ∨ w.isPrimitive = true) → v = w := by
  induction same with
  | refl => exact fun _ => rfl
  | trans _ _ ih ih' =>
    rintro (primitive | primitive)
    · obtain rfl := ih (.inl primitive)
      exact ih' (.inl primitive)
    · obtain rfl := ih' (.inr primitive)
      exact ih (.inr primitive)
  | swap | member | item => exact fun h => absurd h (by simp [isPrimitive])

theorem Same.of_perm (perm : members.Perm members') :
    Same (.object members) (.object members') := by
  have behind (front : List (String × Json)) :
      Same (.object (front ++ members)) (.object (front ++ members')) := by
    induction perm generalizing front with
    | nil => exact .refl _
    | cons x _ ih => simpa using ih (front ++ [x])
    | swap x y back => exact .swap front y x back
    | trans _ _ ih ih' => exact (ih front).trans (ih' front)
  exact behind []

/-- Each member may be replaced by one with the same value. -/
theorem Same.map_members {f : Json → Json} (same : ∀ m ∈ members, Same m.2 (f m.2)) :
    Same (.object members) (.object (members.map fun m => (m.1, f m.2))) := by
  have behind (front : List (String × Json)) :
      Same (.object (front ++ members))
        (.object (front ++ members.map fun m => (m.1, f m.2))) := by
    induction members generalizing front with
    | nil => exact .refl _
    | cons m rest ih =>
      obtain ⟨first, others⟩ := List.forall_mem_cons.1 same
      refine .trans (.member front m.1 rest first) ?_
      simpa using ih others (front ++ [(m.1, f m.2)])
  exact behind []

/-- Each item may be replaced by the same value. -/
theorem Same.map_items {f : Json → Json} (same : ∀ v ∈ items, Same v (f v)) :
    Same (.array items) (.array (items.map f)) := by
  have behind (front : List Json) :
      Same (.array (front ++ items)) (.array (front ++ items.map f)) := by
    induction items generalizing front with
    | nil => exact .refl _
    | cons v rest ih =>
      obtain ⟨first, others⟩ := List.forall_mem_cons.1 same
      refine .trans (.item front rest first) ?_
      simpa using ih others (front ++ [f v])
  exact behind []

/-! ## Sorting -/

/-- No object has a key twice, at any depth. -/
inductive KeysOnce : Json → Prop
  | primitive {v : Json} : v.isPrimitive = true → KeysOnce v
  | array {items : List Json} : (∀ v ∈ items, KeysOnce v) → KeysOnce (.array items)
  | object {members : List (String × Json)} : (members.map Prod.fst).Nodup →
    (∀ m ∈ members, KeysOnce m.2) → KeysOnce (.object members)

theorem sortedItems_eq_map : sortedItems items = items.map sorted := by
  induction items with
  | nil => rfl
  | cons v rest ih => rw [sortedItems, ih, List.map_cons]

theorem insertMember_perm {key : String} (new : key ∉ members.map Prod.fst) :
    (insertMember key v members).Perm ((key, v) :: members) := by
  induction members with
  | nil => exact .refl _
  | cons m rest ih =>
    obtain ⟨k, u⟩ := m
    rw [List.map_cons, List.mem_cons, not_or] at new
    rw [insertMember]
    split_ifs with before same
    · exact .refl _
    · exact absurd same new.1
    · exact ((ih new.2).cons _).trans (.swap _ _ _)

theorem sortedMembers_perm (once : ((members' ++ members).map Prod.fst).Nodup) :
    (sortedMembers members members').Perm
      (members' ++ members.map fun m => (m.1, m.2.sorted)) := by
  induction members generalizing members' with
  | nil => simp [sortedMembers]
  | cons m rest ih =>
    obtain ⟨key, v⟩ := m
    rw [List.map_append, List.map_cons] at once
    have new : key ∉ members'.map Prod.fst := fun h =>
      (List.nodup_append.1 once).2.2 key h key List.mem_cons_self rfl
    have inserted := insertMember_perm (v := v.sorted) new
    have once' : ((insertMember key v.sorted members' ++ rest).map Prod.fst).Nodup := by
      refine (List.Perm.nodup_iff ?_).2 once
      rw [List.map_append]
      exact ((inserted.map Prod.fst).append_right _).trans List.perm_middle.symm
    rw [sortedMembers]
    refine (ih once').trans ((inserted.append_right _).trans ?_)
    exact List.perm_middle.symm

/-- Without repeated keys, sorting only changes the order of members. -/
theorem Same.sorted (once : KeysOnce v) : Same v v.sorted := by
  induction once with
  | @primitive v h => cases v <;> first | exact .refl _ | cases h
  | array _ ih =>
    rw [Json.sorted, sortedItems_eq_map]
    exact .map_items ih
  | @object members nodup _ ih =>
    have perm : (sortedMembers members []).Perm ([] ++ members.map fun m => (m.1, m.2.sorted)) :=
      sortedMembers_perm nodup
    rw [Json.sorted]
    exact (Same.map_members ih).trans (.of_perm perm.symm)

end Json

/-! ## Decoders that do not see the order -/

namespace Decoder

open Json (Same)

variable {α β σ : Type} {d : Decoder α} {v w : Json} {shape : Record σ}
  {draft₀ draft₁ draft₂ : σ} {key : String} {complete : σ → Except DecodeFault α}

/-- A value is read as what a value with another order of members is read as. -/
def OrderFree (d : Decoder α) : Prop :=
  ∀ ⦃v w a⦄, Same v w → d.decode v = .ok a → d.decode w = .ok a

/-- A decoder that takes nothing apart. -/
theorem OrderFree.of_primitive (h : ∀ v a, d.decode v = .ok a → v.isPrimitive = true) :
    OrderFree d := by
  intro v w a same read
  exact same.eq_of_isPrimitive (.inl (h v a read)) ▸ read

theorem OrderFree.string : OrderFree string :=
  .of_primitive fun v a h => by cases v <;> first | rfl | cases h

theorem OrderFree.boolean : OrderFree boolean :=
  .of_primitive fun v a h => by cases v <;> first | rfl | cases h

theorem OrderFree.word32 : OrderFree word32 :=
  .of_primitive fun v a h => by cases v <;> first | rfl | cases h

theorem OrderFree.map (f : α → β) (free : OrderFree d) : OrderFree (d.map f) := by
  intro v w b same h
  obtain ⟨a, read, rfl⟩ := Except.map_eq_ok_iff.1 h
  exact Except.map_eq_ok_iff.2 ⟨a, free same read, rfl⟩

theorem OrderFree.optional (free : OrderFree d) : OrderFree (optional d) := by
  intro v w o same h
  cases null : v.isNull with
  | true =>
    have primitive : v.isPrimitive = true := by cases v <;> first | rfl | cases null
    exact same.eq_of_isPrimitive (.inl primitive) ▸ h
  | false =>
    have null' : w.isNull = false := by
      rw [← Bool.not_eq_true]
      intro null'
      have primitive : w.isPrimitive = true := by cases w <;> first | rfl | cases null'
      rw [← same.eq_of_isPrimitive (.inr primitive), null] at null'
      cases null'
    rw [decode_optional null] at h
    rw [decode_optional null']
    obtain ⟨a, read, rfl⟩ := Except.map_eq_ok_iff.1 h
    exact Except.map_eq_ok_iff.2 ⟨a, free same read, rfl⟩

/-- The name of a choice may be the only key of an object, with null for its value. -/
theorem OrderFree.choice (known : List (String × α)) : OrderFree (choice known) := by
  intro v w a same
  induction same with
  | refl => exact id
  | trans _ _ ih ih' => exact fun h => ih' (ih h)
  | swap front x y back =>
    intro h
    match front with
    | [] | [_] | _ :: _ :: _ => cases h
  | item => exact fun h => by cases h
  | @member front key v w back same _ =>
    intro h
    match front, back with
    | [], [] =>
      have null : v = .null := by
        obtain ⟨_, -, h⟩ := Except.bind_eq_ok_iff.1 h
        obtain ⟨_, h, -⟩ := Except.bind_eq_ok_iff.1 h
        cases v <;> first | rfl | cases h
      exact same.eq_of_isPrimitive (.inl (null ▸ rfl)) ▸ h
    | [], _ :: _ => cases h
    | [_], _ => cases h
    | _ :: _ :: _, _ => cases h

theorem OrderFree.list (free : OrderFree d) : OrderFree (list d) := by
  intro v w as same
  induction same generalizing as with
  | refl => exact id
  | trans _ _ ih ih' => exact fun h => ih' (ih h)
  | swap => exact fun h => by cases h
  | member => exact fun h => by cases h
  | @item front v w back same _ =>
    rw [decode_array, decode_array]
    intro h
    induction front generalizing as with
    | nil =>
      obtain ⟨a, first, h⟩ := Except.bind_eq_ok_iff.1 h
      exact Except.bind_eq_ok_iff.2 ⟨a, free same first, h⟩
    | cons u rest ih =>
      obtain ⟨a, first, h⟩ := Except.bind_eq_ok_iff.1 h
      obtain ⟨as', others, h⟩ := Except.bind_eq_ok_iff.1 h
      exact Except.bind_eq_ok_iff.2 ⟨a, first, Except.bind_eq_ok_iff.2 ⟨as', ih others, h⟩⟩

/-! ## Records -/

/-- Filling two slots comes to the same either way round, and neither fills the other. -/
structure Slot.Apart (slot slot' : Slot σ) : Prop where
  commute : ∀ {v w f g}, slot.fill.decode v = .ok f → slot'.fill.decode w = .ok g →
    ∀ draft, f (g draft) = g (f draft)
  keeps : ∀ {w g}, slot'.fill.decode w = .ok g →
    ∀ draft, slot.isFilled (g draft) = slot.isFilled draft
  kept : ∀ {v f}, slot.fill.decode v = .ok f →
    ∀ draft, slot'.isFilled (f draft) = slot'.isFilled draft

theorem Slot.Apart.symm {slot slot' : Slot σ} (apart : slot.Apart slot') : slot'.Apart slot :=
  ⟨fun h h' draft => (apart.commute h' h draft).symm, apart.kept, apart.keeps⟩

/-- Slots that set different parts of a draft. -/
theorem Slot.Apart.of_map {name name' : String} {required required' : Bool}
    {isFilled isFilled' : σ → Bool} {d : Decoder α} {d' : Decoder β} {set : α → σ → σ}
    {set' : β → σ → σ} (commute : ∀ a b draft, set a (set' b draft) = set' b (set a draft))
    (keeps : ∀ b draft, isFilled (set' b draft) = isFilled draft)
    (kept : ∀ a draft, isFilled' (set a draft) = isFilled' draft) :
    Slot.Apart ⟨name, required, isFilled, d.map set⟩
      ⟨name', required', isFilled', d'.map set'⟩ where
  commute h h' draft := by
    obtain ⟨a, -, rfl⟩ := Except.map_eq_ok_iff.1 h
    obtain ⟨b, -, rfl⟩ := Except.map_eq_ok_iff.1 h'
    exact commute a b draft
  keeps h draft := by
    obtain ⟨b, -, rfl⟩ := Except.map_eq_ok_iff.1 h
    exact keeps b draft
  kept h draft := by
    obtain ⟨a, -, rfl⟩ := Except.map_eq_ok_iff.1 h
    exact kept a draft

/-- A slot that does not see the order of members and is filled once only. -/
structure Slot.OrderFree (slot : Slot σ) : Prop where
  fill : Decoder.OrderFree slot.fill
  once : ∀ {v f}, slot.fill.decode v = .ok f → ∀ draft, slot.isFilled (f draft) = true

/-- A slot that sets its part of a draft. -/
theorem Slot.OrderFree.of_map {name : String} {required : Bool} {isFilled : σ → Bool}
    {d : Decoder α} {set : α → σ → σ} (free : Decoder.OrderFree d)
    (sets : ∀ a draft, isFilled (set a draft) = true) :
    Slot.OrderFree ⟨name, required, isFilled, d.map set⟩ where
  fill := .map set free
  once h draft := by
    obtain ⟨a, -, rfl⟩ := Except.map_eq_ok_iff.1 h
    exact sets a draft

/-- The slots of a record do not see the order of members, and do not get in each other's way. -/
structure Record.OrderFree (shape : Record σ) : Prop where
  slots : ∀ slot ∈ shape.slots, slot.OrderFree
  apart : shape.slots.Pairwise Slot.Apart

namespace Record.OrderFree

variable (free : shape.OrderFree)
include free

theorem apart_of_ne {slot slot' : Slot σ} (known : slot ∈ shape.slots)
    (known' : slot' ∈ shape.slots) (ne : slot ≠ slot') : slot.Apart slot' :=
  have : Std.Symm (Slot.Apart (σ := σ)) := ⟨fun _ _ h => h.symm⟩
  free.apart.forall known known' ne

/-- Two members in a row may change places. -/
theorem takes_swap {key key' : String} (first : Takes shape draft₀ key v draft₁)
    (second : Takes shape draft₁ key' w draft₂) :
    ∃ draft, Takes shape draft₀ key' w draft ∧ Takes shape draft key v draft₂ := by
  cases second with
  | ignored unknown' opened => exact ⟨draft₀, .ignored unknown' opened, first⟩
  | @filled slot' g known' empty' read' =>
    cases first with
    | ignored unknown opened => exact ⟨_, .filled known' empty' read', .ignored unknown opened⟩
    | @filled slot f known empty read =>
      have ne : slot ≠ slot' := by
        rintro rfl
        rw [(free.slots slot (List.mem_of_find?_eq_some known)).once read] at empty'
        cases empty'
      have apart := free.apart_of_ne (List.mem_of_find?_eq_some known)
        (List.mem_of_find?_eq_some known') ne
      rw [apart.kept read] at empty'
      refine ⟨_, .filled known' empty' read', ?_⟩
      rw [← apart.commute read read']
      exact .filled known ((apart.keeps read' draft₀).trans empty) read

/-- A member may be replaced by one with the same value. -/
theorem takes_same (same : Same v w) (takes : Takes shape draft₀ key v draft₁) :
    Takes shape draft₀ key w draft₁ := by
  cases takes with
  | filled known empty read =>
    exact .filled known empty ((free.slots _ (List.mem_of_find?_eq_some known)).fill same read)
  | ignored unknown opened => exact .ignored unknown opened

/-- An item of a record by position may be replaced by the same value. -/
theorem fillItems_same (same : Same v w) {slots : List (Slot σ)} (known : slots ⊆ shape.slots)
    {n i : Nat} {front back : List Json}
    (h : fillItems shape ofValue n draft₀ i slots (Reading.ofItems (front ++ v :: back))
      = .ok draft₂) :
    fillItems shape ofValue n draft₀ i slots (Reading.ofItems (front ++ w :: back))
      = .ok draft₂ := by
  induction slots generalizing draft₀ i front with
  | nil =>
    -- there is no slot left for the item, which is one too many in either form
    obtain ⟨_, h, -⟩ := Except.map_eq_ok_iff.1 h
    cases front <;> cases h
  | cons slot slots ih =>
    have known' := List.subset_of_cons_subset known
    cases front with
    | nil =>
      obtain ⟨draft₁, filled, h⟩ := Except.bind_eq_ok_iff.1 h
      obtain ⟨f, read, rfl⟩ := Except.map_eq_ok_iff.1 filled
      have read' := (free.slots slot (known List.mem_cons_self)).fill same read
      exact Except.bind_eq_ok_iff.2 ⟨f draft₀, Except.map_eq_ok_iff.2 ⟨f, read', rfl⟩, h⟩
    | cons u front =>
      obtain ⟨draft₁, filled, h⟩ := Except.bind_eq_ok_iff.1 h
      exact Except.bind_eq_ok_iff.2 ⟨draft₁, filled, ih known' h⟩

end Record.OrderFree

theorem OrderFree.record (free : shape.OrderFree) (empty : σ) :
    OrderFree (record shape empty complete) := by
  intro v w a same
  induction same with
  | refl => exact id
  | trans _ _ ih ih' => exact fun h => ih' (ih h)
  | swap front x y back =>
    rw [decode_record, decode_record]
    intro h
    obtain ⟨draft, filled, completed⟩ := Except.bind_eq_ok_iff.1 h
    refine Except.bind_eq_ok_iff.2 ⟨draft, ?_, completed⟩
    obtain ⟨draft₀, before, filled⟩ := fill_append_eq_ok_iff.1 filled
    obtain ⟨draft₁, first, filled⟩ := fill_cons_eq_ok_iff.1 filled
    obtain ⟨draft₂, second, after⟩ := fill_cons_eq_ok_iff.1 filled
    obtain ⟨draft₁', second, first⟩ := free.takes_swap first second
    exact fill_append_eq_ok_iff.2 ⟨draft₀, before, fill_cons_eq_ok_iff.2
      ⟨draft₁', second, fill_cons_eq_ok_iff.2 ⟨draft₂, first, after⟩⟩⟩
  | member front key back same _ =>
    rw [decode_record, decode_record]
    intro h
    obtain ⟨draft, filled, completed⟩ := Except.bind_eq_ok_iff.1 h
    refine Except.bind_eq_ok_iff.2 ⟨draft, ?_, completed⟩
    obtain ⟨draft₀, before, filled⟩ := fill_append_eq_ok_iff.1 filled
    obtain ⟨draft₁, takes, after⟩ := fill_cons_eq_ok_iff.1 filled
    exact fill_append_eq_ok_iff.2 ⟨draft₀, before, fill_cons_eq_ok_iff.2
      ⟨draft₁, free.takes_same same takes, after⟩⟩
  | @item front v w back same _ =>
    intro h
    obtain ⟨draft, filled, completed⟩ := Except.bind_eq_ok_iff.1 h
    refine Except.bind_eq_ok_iff.2 ⟨draft, ?_, completed⟩
    have length_eq : (Reading.ofItems (front ++ w :: back)).length
        = (Reading.ofItems (front ++ v :: back)).length := by
      simp [Reading.length_ofItems]
    have filled' := free.fillItems_same same (List.Subset.refl _) filled
    rw [← length_eq] at filled'
    exact filled'

end Decoder

end SchemaForge
