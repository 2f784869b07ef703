import SchemaForge.Config
import SchemaForge.Proofs.Json.MemberOrder

/-!
# Definitions survive being written and read

What is written as JSON is read back as it was, whatever order the members of objects come in.  One
default value is the exception: the text `now` stands for the time of the insert, so it is read as
that (`DefaultValue.settle`).  A value that has been read never contains it.

Main results:

* a decoder that does not see the order of members reads back what it reads back in the order in
  which it is written (`ReadBack.of_decode`);
* tables and configurations are read back as they were written, up to that one default value
  (`roundTrip`).
-/

namespace SchemaForge

open Decoder Json

/-! ## Reading back -/

/-- What is written is read back, settled. -/
structure ReadBack {α : Type} (toJson : α → Json) (decoder : Decoder α) (settle : α → α) :
    Prop where
  /-- What is written is read back whatever the order of the members of objects is. -/
  back : ∀ a v, (toJson a).Same v → decoder.decode v = .ok (settle a)
  /-- What is written is read back with the members in the order of their keys. -/
  sorted : ∀ a, decoder.decode (toJson a).sorted = .ok (settle a)
  /-- What has been read is settled already, and is read again as it is. -/
  again : ∀ c r a, decoder c r = .ok a → ∀ v, (toJson a).Same v → decoder.decode v = .ok a

namespace ReadBack

variable {α : Type} {toJson : α → Json} {decoder : Decoder α} {settle : α → α}

/-- It is enough to read what is written in the order in which it is written. -/
theorem of_decode (decode_toJson : ∀ a, decoder.decode (toJson a) = .ok (settle a))
    (free : OrderFree decoder) (once : ∀ a, (toJson a).KeysOnce)
    (settled : ∀ c r a, decoder c r = .ok a → settle a = a) : ReadBack toJson decoder settle where
  back a v same := free same (decode_toJson a)
  sorted a := free (.sorted (once a)) (decode_toJson a)
  again c r a read v same := by
    rw [free same (decode_toJson a), settled c r a read]

end ReadBack

/-! ## Members that may be missing -/

section

variable {α : Type} {key : String} {write : α → Json} {o : Option α}

theorem keys_optionalMember_sublist (key : String) (o : Option Json) :
    ((optionalMember key o).map Prod.fst).Sublist [key] := by
  cases o with
  | none => exact List.nil_sublist _
  | some v => exact .refl _

theorem keysOnce_of_mem_optionalMember (once : ∀ a, (write a).KeysOnce) :
    ∀ m ∈ optionalMember key (o.map write), m.2.KeysOnce := by
  cases o with
  | none => simp [optionalMember]
  | some a => simpa [optionalMember] using once a

theorem keysOnce_array (once : ∀ a, (write a).KeysOnce) (as : List α) :
    (Json.array (as.map write)).KeysOnce :=
  .array (List.forall_mem_map.2 fun a _ => once a)

end

/-! ## Default values -/

namespace DefaultValue

/-- The text `now` stands for the time of the insert. -/
def settle : DefaultValue → DefaultValue
  | .text s => if s = nowText then .now else .text s
  | v => v

theorem settle_eq_self_iff {v : DefaultValue} : v.settle = v ↔ v ≠ .text nowText := by
  cases v with
  | text s =>
    rw [settle]
    split_ifs with reserved <;> simp [reserved]
  | _ => simp [settle]

/-- Only the reserved text is read as something else than it is. -/
theorem settle_eq_or (v : DefaultValue) : v.settle = v ∨ v = .text nowText ∧ v.settle = .now := by
  by_cases reserved : v = .text nowText
  · exact .inr ⟨reserved, by rw [reserved]; rfl⟩
  · exact .inl (settle_eq_self_iff.2 reserved)

/-- An integer of 64 bits is read as the integer, not as a number with a fraction. -/
theorem ofInteger?_toInt (n : Int64) : ofInteger? n.toInt = some (.integer n) := by
  have fits : fitsInt64 n.toInt = true := by
    have least := n.le_toInt
    have most := n.toInt_lt
    simp only [fitsInt64, Bool.and_eq_true, decide_eq_true_eq]
    omega
  rw [ofInteger?, if_pos fits, Int64.ofInt_toInt]

/-- A default value is read back as it was written, settled. -/
theorem decode_toJson (v : DefaultValue) : decoder.decode v.toJson = .ok v.settle := by
  cases v with
  | integer n =>
    rw [decode, toJson, Reading.ofJson, decoder]
    simp only [Bool.false_eq_true, if_false, ofReading?, ofInteger?_toInt]
    rfl
  | _ => rfl

example : decoder.decode (text "now").toJson = .ok .now := rfl

/-- Reading gives a settled default value. -/
theorem settle_of_decoder {c : DecodeContext} {r : Reading} {v : DefaultValue}
    (h : decoder c r = .ok v) : v.settle = v := by
  rw [settle_eq_self_iff]
  rintro rfl
  rw [decoder] at h
  split at h
  · cases h
  · split at h <;> cases h
    rename_i shown
    cases r with
    | string s =>
      rw [ofReading?] at shown
      split_ifs at shown with reserved
      · cases shown
      · exact reserved (by injection (Option.some.inj shown))
    | number n =>
      cases n with
      | integer n =>
        rw [ofReading?, ofInteger?] at shown
        split_ifs at shown
        · cases shown
        · obtain ⟨x, -, h⟩ := Option.map_eq_some_iff.1 shown
          cases h
      | real x => cases shown
    | _ => cases shown

theorem isNull_toJson (v : DefaultValue) : v.toJson.isNull = false := by cases v <;> rfl

theorem isPrimitive_toJson (v : DefaultValue) : v.toJson.isPrimitive = true := by cases v <;> rfl

theorem orderFree : OrderFree decoder :=
  .of_primitive fun v a h => by cases v <;> first | rfl | cases h

end DefaultValue

/-! ## Foreign keys -/

namespace ForeignKey

theorem decode_toJson (key : ForeignKey) : decoder.decode key.toJson = .ok key := by
  obtain ⟨table, field, onDelete⟩ := key
  cases onDelete with
  | none => rfl
  | some action => cases action <;> rfl

theorem orderFree : OrderFree decoder := by
  refine .record ⟨?slots, ?apart⟩ _
  case slots =>
    simp only [shape, List.forall_mem_cons, List.not_mem_nil, false_implies, implies_true, and_true]
    exact ⟨.of_map .string fun _ _ => rfl, .of_map .string fun _ _ => rfl,
      .of_map (.optional (.choice _)) fun _ _ => rfl⟩
  case apart =>
    simp only [shape, List.pairwise_cons, List.forall_mem_cons, List.not_mem_nil, false_implies,
      implies_true, and_true, List.Pairwise.nil]
    and_intros
    all_goals exact .of_map (fun _ _ _ => rfl) (fun _ _ => rfl) (fun _ _ => rfl)

/-- A foreign key is written without a member twice, whether it has an action or not. -/
theorem keysOnce_toJson (key : ForeignKey) : key.toJson.KeysOnce := by
  refine .object ?_ (List.forall_mem_append.2 ⟨?_, ?_⟩)
  · have keys : ["target_table", "target_field", "on_delete"].Nodup := by decide
    rw [List.map_append]
    exact ((List.Sublist.refl _).append (keys_optionalMember_sublist _ _)).nodup keys
  · simp only [List.forall_mem_cons, List.not_mem_nil, false_implies, implies_true, and_true]
    exact ⟨.primitive rfl, .primitive rfl⟩
  · exact keysOnce_of_mem_optionalMember fun _ => .primitive rfl

end ForeignKey

/-! ## Fields -/

theorem FieldType.decode_name (t : FieldType) : decoder.decode (.string t.name) = .ok t := by
  cases t <;> rfl

namespace Field

/-- The field with its default value settled. -/
def settle (f : Field) : Field := { f with defaultValue := f.defaultValue.map DefaultValue.settle }

/-- A field is settled unless its default value is the reserved text. -/
theorem settle_eq_self_iff {f : Field} :
    f.settle = f ↔ f.defaultValue ≠ some (.text DefaultValue.nowText) := by
  have part : f.settle = f ↔ f.defaultValue.map DefaultValue.settle = f.defaultValue := by
    obtain ⟨⟩ := f
    simp [settle]
  rw [part]
  cases f.defaultValue with
  | none => simp
  | some v => simp [DefaultValue.settle_eq_self_iff]

/-- A field is read back as it was written, settled. -/
theorem decode_toJson (f : Field) : decoder.decode f.toJson = .ok f.settle := by
  let flags : Draft := {
    name := some f.name, type := some f.type, required := some f.required, unique := some f.unique
    isPrimaryKey := some f.isPrimaryKey, isAutoIncrement := some f.isAutoIncrement }
  let bounded : Draft := { flags with length := f.length.map some }
  let defaulting : Draft :=
    { bounded with defaultValue := f.defaultValue.map fun v => some v.settle }
  let keyed : Draft := { defaulting with foreignKey := f.foreignKey.map some }
  have flagsFilled : fill shape {}
      [("name", .string f.name), ("type", .string f.type.name), ("required", .boolean f.required),
        ("unique", .boolean f.unique), ("is_primary_key", .boolean f.isPrimaryKey),
        ("is_auto_increment", .boolean f.isAutoIncrement)] = .ok flags := by
    have typed : (FieldType.decoder.map fun v (d : Draft) => { d with type := some v }).decode
        (.string f.type.name) = .ok fun d => { d with type := some f.type } := by
      rw [decode_map, FieldType.decode_name]
      rfl
    rw [fill_cons rfl rfl rfl, fill_cons rfl rfl typed]
    rfl
  have lengthFilled : fill shape flags
      (optionalMember "length" (f.length.map fun n => Json.nat n.toNat)) = .ok bounded :=
    fill_optional (p := fun part => { flags with length := part }) rfl rfl (fun _ => rfl)
      (fun _ => rfl) decode_word32
  have defaultFilled : fill shape bounded
      (optionalMember "default_value" (f.defaultValue.map DefaultValue.toJson)) = .ok defaulting :=
    fill_optional (p := fun part => { bounded with defaultValue := part }) rfl rfl (fun _ => rfl)
      DefaultValue.isNull_toJson DefaultValue.decode_toJson
  have keyFilled : fill shape defaulting
      (optionalMember "foreign_key" (f.foreignKey.map ForeignKey.toJson)) = .ok keyed :=
    fill_optional (p := fun part => { defaulting with foreignKey := part }) rfl rfl (fun _ => rfl)
      (fun _ => rfl) ForeignKey.decode_toJson
  have filled := fill_append_eq_ok_iff.2 ⟨_, fill_append_eq_ok_iff.2 ⟨_, fill_append_eq_ok_iff.2
    ⟨_, flagsFilled, lengthFilled⟩, defaultFilled⟩, keyFilled⟩
  refine decode_of_fill filled (congrArg Except.ok ?_)
  simp only [keyed, defaulting, bounded, flags, getD_map_some, getD_map_some_comp, settle,
    Option.getD_some]

theorem orderFree : OrderFree decoder := by
  refine .record ⟨?slots, ?apart⟩ _
  case slots =>
    simp only [shape, List.forall_mem_cons, List.not_mem_nil, false_implies, implies_true, and_true]
    exact ⟨.of_map .string fun _ _ => rfl, .of_map (.choice _) fun _ _ => rfl,
      .of_map .boolean fun _ _ => rfl, .of_map .boolean fun _ _ => rfl,
      .of_map .boolean fun _ _ => rfl, .of_map .boolean fun _ _ => rfl,
      .of_map (.optional .word32) fun _ _ => rfl,
      .of_map (.optional DefaultValue.orderFree) fun _ _ => rfl,
      .of_map (.optional ForeignKey.orderFree) fun _ _ => rfl⟩
  case apart =>
    simp only [shape, List.pairwise_cons, List.forall_mem_cons, List.not_mem_nil, false_implies,
      implies_true, and_true, List.Pairwise.nil]
    and_intros
    all_goals exact .of_map (fun _ _ _ => rfl) (fun _ _ => rfl) (fun _ _ => rfl)

/-- A field is written without a member twice, whichever of its members are left out. -/
theorem keysOnce_toJson (f : Field) : f.toJson.KeysOnce := by
  refine .object ?_ ?_
  · have keys : ["name", "type", "required", "unique", "is_primary_key", "is_auto_increment",
        "length", "default_value", "foreign_key"].Nodup := by decide
    rw [List.map_append, List.map_append, List.map_append]
    exact (((List.Sublist.refl _).append (keys_optionalMember_sublist _ _)).append
      (keys_optionalMember_sublist _ _)).append (keys_optionalMember_sublist _ _) |>.nodup keys
  · simp only [List.forall_mem_append, List.forall_mem_cons, List.not_mem_nil, false_implies,
      implies_true, and_true]
    exact ⟨⟨⟨⟨.primitive rfl, .primitive rfl, .primitive rfl, .primitive rfl, .primitive rfl,
      .primitive rfl⟩, keysOnce_of_mem_optionalMember fun _ => .primitive rfl⟩,
      keysOnce_of_mem_optionalMember fun v => .primitive v.isPrimitive_toJson⟩,
      keysOnce_of_mem_optionalMember ForeignKey.keysOnce_toJson⟩

/-- A default value that has been read is settled. -/
def Draft.Settled (draft : Draft) : Prop :=
  ∀ v, draft.defaultValue = some (some v) → v.settle = v

/-- Reading gives a settled field, since it fills a draft that stays settled. -/
theorem settle_of_decoder {c : DecodeContext} {r : Reading} {f : Field}
    (h : decoder c r = .ok f) : f.settle = f := by
  have step : ∀ slot ∈ shape.slots, ∀ c r g, slot.fill c r = .ok g →
      ∀ draft : Draft, draft.Settled → (g draft).Settled := by
    simp only [shape, List.forall_mem_cons, List.not_mem_nil, false_implies, implies_true, and_true]
    refine ⟨keeps_of_map ?_, keeps_of_map ?_, keeps_of_map ?_, keeps_of_map ?_, keeps_of_map ?_,
      keeps_of_map ?_, keeps_of_map ?_, keeps_of_map ?default, keeps_of_map ?_⟩
    case default =>
      intro c r o read draft _ v set
      obtain rfl : o = some v := by simpa using set
      exact DefaultValue.settle_of_decoder (exists_some_of_optional read)
    all_goals exact fun _ _ _ _ _ holds => holds
  obtain ⟨draft, holds, completed⟩ :=
    exists_draft_of_record (P := Draft.Settled) step (by simp [Draft.Settled]) h
  obtain ⟨name, -, completed⟩ := Except.bind_eq_ok_iff.1 completed
  obtain ⟨type, -, completed⟩ := Except.bind_eq_ok_iff.1 completed
  cases completed
  match set : draft.defaultValue with
  | none | some none => simp [settle]
  | some (some v) => simp [settle, holds v set]

end Field

/-! ## Tables -/

namespace Relation

theorem decode_toJson (r : Relation) : decoder.decode r.toJson = .ok r := by
  obtain ⟨kind, table, field⟩ := r
  cases kind <;> rfl

theorem orderFree : OrderFree decoder := by
  refine .record ⟨?slots, ?apart⟩ _
  case slots =>
    simp only [shape, List.forall_mem_cons, List.not_mem_nil, false_implies, implies_true, and_true]
    exact ⟨.of_map (.choice _) fun _ _ => rfl, .of_map .string fun _ _ => rfl,
      .of_map .string fun _ _ => rfl⟩
  case apart =>
    simp only [shape, List.pairwise_cons, List.forall_mem_cons, List.not_mem_nil, false_implies,
      implies_true, and_true, List.Pairwise.nil]
    and_intros
    all_goals exact .of_map (fun _ _ _ => rfl) (fun _ _ => rfl) (fun _ _ => rfl)

theorem keysOnce_toJson (r : Relation) : r.toJson.KeysOnce := by
  have keys : ["kind", "target_table", "field_name"].Nodup := by decide
  refine .object keys ?_
  simp only [List.forall_mem_cons, List.not_mem_nil, false_implies, implies_true, and_true]
  exact ⟨.primitive rfl, .primitive rfl, .primitive rfl⟩

end Relation

namespace Table

/-- The table with the default values of its fields settled. -/
def settle (t : Table) : Table := { t with fields := t.fields.map Field.settle }

theorem settle_eq_self_iff {t : Table} :
    t.settle = t ↔ ∀ f ∈ t.fields, f.defaultValue ≠ some (.text DefaultValue.nowText) := by
  have part : t.settle = t ↔ t.fields.map Field.settle = t.fields.map id := by
    obtain ⟨⟩ := t
    simp [settle]
  simp only [part, List.map_inj_left, id, Field.settle_eq_self_iff]

/-- A table is read back as it was written, settled, with its associations or without any. -/
theorem decode_toJson (t : Table) : decoder.decode t.toJson = .ok t.settle := by
  have fields : ((list Field.decoder).map fun v (d : Draft) => { d with fields := some v }).decode
      (.array (t.fields.map Field.toJson)) =
        .ok fun d => { d with fields := some (t.fields.map Field.settle) } := by
    rw [decode_map, decode_list fun f _ => Field.decode_toJson f]
    rfl
  rw [toJson]
  split_ifs with none
  · have filled : fill shape {} [("name", .string t.name), ("display_name", .string t.displayName),
        ("fields", .array (t.fields.map Field.toJson))] =
          .ok ⟨some t.name, some t.displayName, some (t.fields.map Field.settle), .none⟩ := by
      rw [fill_cons rfl rfl rfl, fill_cons rfl rfl rfl, fill_cons rfl rfl fields]
      rfl
    have noRelations : t.relations = [] := List.isEmpty_iff.1 none
    refine decode_of_fill filled (congrArg Except.ok ?_)
    rw [settle, noRelations]
    rfl
  · have relations : ((list Relation.decoder).map fun v (d : Draft) =>
        { d with relations := some v }).decode (.array (t.relations.map Relation.toJson)) =
          .ok fun d => { d with relations := some (t.relations.map id) } := by
      rw [decode_map, decode_list fun r _ => Relation.decode_toJson r]
      rfl
    have filled : fill shape {} [("name", .string t.name), ("display_name", .string t.displayName),
        ("fields", .array (t.fields.map Field.toJson)),
        ("relations", .array (t.relations.map Relation.toJson))] =
          .ok ⟨some t.name, some t.displayName, some (t.fields.map Field.settle),
            some (t.relations.map id)⟩ := by
      rw [fill_cons rfl rfl rfl, fill_cons rfl rfl rfl, fill_cons rfl rfl fields,
        fill_cons rfl rfl relations]
      rfl
    refine decode_of_fill filled (congrArg Except.ok ?_)
    rw [settle, List.map_id]
    rfl

theorem orderFree : OrderFree decoder := by
  refine .record ⟨?slots, ?apart⟩ _
  case slots =>
    simp only [shape, List.forall_mem_cons, List.not_mem_nil, false_implies, implies_true, and_true]
    exact ⟨.of_map .string fun _ _ => rfl, .of_map .string fun _ _ => rfl,
      .of_map (.list Field.orderFree) fun _ _ => rfl,
      .of_map (.list Relation.orderFree) fun _ _ => rfl⟩
  case apart =>
    simp only [shape, List.pairwise_cons, List.forall_mem_cons, List.not_mem_nil, false_implies,
      implies_true, and_true, List.Pairwise.nil]
    and_intros
    all_goals exact .of_map (fun _ _ _ => rfl) (fun _ _ => rfl) (fun _ _ => rfl)

theorem keysOnce_toJson (t : Table) : t.toJson.KeysOnce := by
  have keys : ["name", "display_name", "fields", "relations"].Nodup := by decide
  have parts : ∀ m ∈ [("name", Json.string t.name), ("display_name", .string t.displayName),
      ("fields", .array (t.fields.map Field.toJson))], m.2.KeysOnce := by
    simp only [List.forall_mem_cons, List.not_mem_nil, false_implies, implies_true, and_true]
    exact ⟨.primitive rfl, .primitive rfl, keysOnce_array Field.keysOnce_toJson _⟩
  rw [toJson]
  split_ifs
  · exact .object (keys.sublist (List.sublist_append_left _ ["relations"])) parts
  · refine .object keys (List.forall_mem_append.2 ⟨parts, ?_⟩)
    exact List.forall_mem_singleton.2 (keysOnce_array Relation.keysOnce_toJson _)

/-- The fields that have been read are settled. -/
def Draft.Settled (draft : Draft) : Prop :=
  ∀ fs, draft.fields = some fs → ∀ f ∈ fs, f.settle = f

/-- Reading gives a settled table. -/
theorem settle_of_decoder {c : DecodeContext} {r : Reading} {t : Table}
    (h : decoder c r = .ok t) : t.settle = t := by
  have step : ∀ slot ∈ shape.slots, ∀ c r g, slot.fill c r = .ok g →
      ∀ draft : Draft, draft.Settled → (g draft).Settled := by
    simp only [shape, List.forall_mem_cons, List.not_mem_nil, false_implies, implies_true, and_true]
    refine ⟨keeps_of_map ?_, keeps_of_map ?_, keeps_of_map ?fields, keeps_of_map ?_⟩
    case fields =>
      intro c r fs read draft _ fs' set f hf
      obtain rfl : fs = fs' := Option.some.inj set
      obtain ⟨c', r', read⟩ := exists_item_of_list read f hf
      exact Field.settle_of_decoder read
    all_goals exact fun _ _ _ _ _ holds => holds
  obtain ⟨draft, holds, completed⟩ :=
    exists_draft_of_record (P := Draft.Settled) step (by simp [Draft.Settled]) h
  obtain ⟨name, -, completed⟩ := Except.bind_eq_ok_iff.1 completed
  obtain ⟨displayName, -, completed⟩ := Except.bind_eq_ok_iff.1 completed
  obtain ⟨fields, needed, completed⟩ := Except.bind_eq_ok_iff.1 completed
  cases completed
  have settled : fields.map Field.settle = fields := by
    rw [List.map_congr_left (holds fields (part_of_need needed)), List.map_id']
  rw [settle, settled]

end Table

/-! ## Configurations -/

namespace Config

/-- The configuration with the default values in its tables settled. -/
def settle (c : Config) : Config := { c with customTables := c.customTables.map Table.settle }

theorem settle_eq_self_iff {c : Config} :
    c.settle = c ↔ ∀ t ∈ c.customTables, t.settle = t := by
  have part : c.settle = c ↔ c.customTables.map Table.settle = c.customTables.map id := by
    obtain ⟨⟩ := c
    simp [settle]
  simp only [part, List.map_inj_left, id]

theorem decode_backend (b : Backend) :
    (choice Backend.readable).decode (.string b.name) = .ok b := by
  cases b <;> rfl

theorem decode_dialect (d : Dialect) :
    (choice Dialect.readable).decode (.string d.name) = .ok d := by
  cases d <;> rfl

theorem decode_strings (names : List String) :
    (list string).decode (Json.strings names) = .ok names := by
  rw [Json.strings, decode_list fun name _ => decode_string name, List.map_id']

/-- A configuration is read back as it was written, settled. -/
theorem decode_toJson (c : Config) : decoder.decode c.toJson = .ok c.settle := by
  let backed : Draft := { backend := c.backend.map some }
  let spoken : Draft := { backed with dialect := c.dialect.map some }
  let preselected : Draft := { spoken with preset := c.preset.map some }
  let selected : Draft := { preselected with tables := c.tables.map some }
  have backendFilled : fill shape {}
      (optionalMember "backend" (c.backend.map fun b => .string b.name)) = .ok backed :=
    fill_optional (p := fun part => ({ backend := part } : Draft)) rfl rfl (fun _ => rfl)
      (fun _ => rfl) decode_backend
  have dialectFilled : fill shape backed
      (optionalMember "dialect" (c.dialect.map fun d => .string d.name)) = .ok spoken :=
    fill_optional (p := fun part => { backed with dialect := part }) rfl rfl (fun _ => rfl)
      (fun _ => rfl) decode_dialect
  have presetFilled : fill shape spoken
      (optionalMember "preset" (c.preset.map .string)) = .ok preselected :=
    fill_optional (p := fun part => { spoken with preset := part }) rfl rfl (fun _ => rfl)
      (fun _ => rfl) decode_string
  have tablesFilled : fill shape preselected
      (optionalMember "tables" (c.tables.map Json.strings)) = .ok selected :=
    fill_optional (p := fun part => { preselected with tables := part }) rfl rfl (fun _ => rfl)
      (fun _ => rfl) decode_strings
  have filled := fill_append_eq_ok_iff.2 ⟨_, fill_append_eq_ok_iff.2
    ⟨_, fill_append_eq_ok_iff.2 ⟨_, backendFilled, dialectFilled⟩, presetFilled⟩, tablesFilled⟩
  rw [toJson]
  split_ifs with none
  · have noTables : c.customTables = [] := List.isEmpty_iff.1 none
    refine decode_of_fill (fill_append_eq_ok_iff.2 ⟨_, filled, rfl⟩) (congrArg Except.ok ?_)
    simp only [selected, preselected, spoken, backed, getD_map_some, settle, noTables]
    rfl
  · have tables : ((list Table.decoder).map fun v (d : Draft) =>
        { d with customTables := some v }).decode (.array (c.customTables.map Table.toJson)) =
          .ok fun d => { d with customTables := some (c.customTables.map Table.settle) } := by
      rw [decode_map, decode_list fun t _ => Table.decode_toJson t]
      rfl
    have customFilled : fill shape selected
        [("custom_tables", .array (c.customTables.map Table.toJson))] =
          .ok { selected with customTables := some (c.customTables.map Table.settle) } := by
      rw [fill_cons rfl rfl tables, fill_nil]
    refine decode_of_fill (fill_append_eq_ok_iff.2 ⟨_, filled, customFilled⟩)
      (congrArg Except.ok ?_)
    simp only [selected, preselected, spoken, backed, getD_map_some, settle, Option.getD_some]

theorem orderFree : OrderFree decoder := by
  refine .record ⟨?slots, ?apart⟩ _
  case slots =>
    simp only [shape, List.forall_mem_cons, List.not_mem_nil, false_implies, implies_true, and_true]
    exact ⟨.of_map (.optional (.choice _)) fun _ _ => rfl,
      .of_map (.optional (.choice _)) fun _ _ => rfl, .of_map (.optional .string) fun _ _ => rfl,
      .of_map (.optional (.list .string)) fun _ _ => rfl,
      .of_map (.list Table.orderFree) fun _ _ => rfl⟩
  case apart =>
    simp only [shape, List.pairwise_cons, List.forall_mem_cons, List.not_mem_nil, false_implies,
      implies_true, and_true, List.Pairwise.nil]
    and_intros
    all_goals exact .of_map (fun _ _ _ => rfl) (fun _ _ => rfl) (fun _ _ => rfl)

theorem keysOnce_toJson (c : Config) : c.toJson.KeysOnce := by
  have keys : (["backend"] ++ ["dialect"] ++ ["preset"] ++ ["tables"]
      ++ ["custom_tables"]).Nodup := by decide
  have options : ((optionalMember "backend" (c.backend.map fun b => .string b.name)
      ++ optionalMember "dialect" (c.dialect.map fun d => .string d.name)
      ++ optionalMember "preset" (c.preset.map .string)
      ++ optionalMember "tables" (c.tables.map Json.strings)).map Prod.fst).Sublist
        (["backend"] ++ ["dialect"] ++ ["preset"] ++ ["tables"]) := by
    rw [List.map_append, List.map_append, List.map_append]
    exact (((keys_optionalMember_sublist _ _).append (keys_optionalMember_sublist _ _)).append
      (keys_optionalMember_sublist _ _)).append (keys_optionalMember_sublist _ _)
  refine .object ?_ ?_
  · rw [List.map_append]
    refine (options.append ?_).nodup keys
    split_ifs
    · exact List.nil_sublist _
    · exact .refl _
  · simp only [List.forall_mem_append]
    refine ⟨⟨⟨⟨keysOnce_of_mem_optionalMember fun _ => .primitive rfl,
      keysOnce_of_mem_optionalMember fun _ => .primitive rfl⟩,
      keysOnce_of_mem_optionalMember fun _ => .primitive rfl⟩,
      keysOnce_of_mem_optionalMember (keysOnce_array fun _ => .primitive rfl)⟩, ?_⟩
    split_ifs
    · simp
    · exact List.forall_mem_singleton.2 (keysOnce_array Table.keysOnce_toJson _)

/-- The tables that have been read are settled. -/
def Draft.Settled (draft : Draft) : Prop :=
  ∀ ts, draft.customTables = some ts → ∀ t ∈ ts, t.settle = t

/-- Reading gives a settled configuration. -/
theorem settle_of_decoder {context : DecodeContext} {r : Reading} {c : Config}
    (h : decoder context r = .ok c) : c.settle = c := by
  have step : ∀ slot ∈ shape.slots, ∀ c r g, slot.fill c r = .ok g →
      ∀ draft : Draft, draft.Settled → (g draft).Settled := by
    simp only [shape, List.forall_mem_cons, List.not_mem_nil, false_implies, implies_true, and_true]
    refine ⟨keeps_of_map ?_, keeps_of_map ?_, keeps_of_map ?_, keeps_of_map ?_,
      keeps_of_map ?tables⟩
    case tables =>
      intro c r ts read draft _ ts' set t ht
      obtain rfl : ts = ts' := Option.some.inj set
      obtain ⟨c', r', read⟩ := exists_item_of_list read t ht
      exact Table.settle_of_decoder read
    all_goals exact fun _ _ _ _ _ holds => holds
  obtain ⟨draft, holds, completed⟩ :=
    exists_draft_of_record (P := Draft.Settled) step (by simp [Draft.Settled]) h
  cases completed
  rw [settle_eq_self_iff]
  cases set : draft.customTables with
  | none => simp
  | some ts => exact holds ts set

end Config

/-! ## The round trip -/

/-- Tables and configurations are read back as they were written, whatever the order of members,
except for default values that are the reserved text, which are read as the time of the insert.
What has been read, from a value or a text, contains none, so it is read back as it is. -/
theorem roundTrip :
    ReadBack Table.toJson Table.decoder Table.settle ∧
      (∀ t : Table, t.settle = t ↔
        ∀ f ∈ t.fields, f.defaultValue ≠ some (.text DefaultValue.nowText)) ∧
      (∀ v : DefaultValue, v.settle = v ∨ v = .text DefaultValue.nowText ∧ v.settle = .now) ∧
      ReadBack Config.toJson Config.decoder Config.settle ∧
      (∀ c : Config, c.settle = c ↔ ∀ t ∈ c.customTables, t.settle = t) :=
  ⟨.of_decode Table.decode_toJson Table.orderFree Table.keysOnce_toJson
      fun _ _ _ => Table.settle_of_decoder,
    fun _ => Table.settle_eq_self_iff, DefaultValue.settle_eq_or,
    .of_decode Config.decode_toJson Config.orderFree Config.keysOnce_toJson
      fun _ _ _ => Config.settle_of_decoder,
    fun _ => Config.settle_eq_self_iff⟩

end SchemaForge
