import SchemaForge.Proofs.Schema.Calls

/-!
# Every visit ends

`Catalog.Visits` and `Catalog.Follows` say how a visit goes, step by step, without saying that it
ends.  It does: a call that gets past the mark of its table leaves fewer tables of the catalog
without a mark for every call that it makes (`Catalog.Descends.fewer`), whatever the calls before
that one have marked, since no mark is ever lost.  So calls are nested well-foundedly, no deeper
than there are tables (`Catalog.Made.depth_le`), and every visit goes to its end in one way only,
whatever circles the foreign keys of the catalog form (`Catalog.visits_total`).
-/

namespace SchemaForge.Catalog

variable {c : Catalog} {requested path : List String} {call outer inner : Call} {t : Table}
  {keys : List (Field × ForeignKey)} {s : Traversal} {r : Except SchemaError Traversal}

/-! ## Calls inside calls -/

theorem Descends.within (h : c.Descends outer inner) : outer.state.Within inner.state := by
  obtain ⟨-, -, -, followed⟩ := h
  exact (outer.state.within_enter _).trans (within_of_followEnd followed)

/-- A call leaves fewer tables without a mark for every call that it makes. -/
theorem Descends.fewer (h : c.Descends outer inner) :
    (c.unmarked inner.state).length < (c.unmarked outer.state).length := by
  obtain ⟨found, unmarked, -, followed⟩ := h
  calc (c.unmarked _).length ≤ (c.unmarked (outer.state.enter _)).length :=
        unmarked_le (within_of_followEnd followed)
    _ < (c.unmarked outer.state).length := unmarked_enter_lt (mem_of_get? found) unmarked

/-- Calls are not nested without end. -/
theorem wellFounded_descends (c : Catalog) :
    WellFounded fun inner outer => c.Descends outer inner :=
  Subrelation.wf Descends.fewer (measure fun call : Call => (c.unmarked call.state).length).wf

/-- The tables under way and those without a mark are not more than the catalog has. -/
theorem Made.depth_le (h : c.Made requested path call) :
    path.length + (c.unmarked call.state).length ≤ c.size := by
  induction h with
  | request =>
    rw [List.length_nil, Nat.zero_add]
    exact List.length_filter_le _ _
  | descend _ descends ih =>
    have fewer := descends.fewer
    rw [List.length_cons]
    omega

/-! ## How a visit goes -/

mutual

/-- A visit goes to this end. -/
inductive Visits (c : Catalog) : Call → Except SchemaError Traversal → Prop
  /-- There is no table of the name. -/
  | missing {call : Call} (missing : c.get? call.name = none) :
      Visits c call (.error (.unknownTable call.name call.referrer))
  /-- The table has a mark. -/
  | marked {call : Call} {t : Table} (found : c.get? call.name = some t)
      (marked : call.state.isMarked t.name = true) : Visits c call (.ok call.state)
  /-- A table without a mark is left behind its keys unless one of them fails. -/
  | unmarked {call : Call} {t : Table} {r : Except SchemaError Traversal}
      (found : c.get? call.name = some t) (unmarked : call.state.isMarked t.name = false)
      (follows : Follows c t t.foreignKeys (call.state.enter t.name) r) :
      Visits c call (r.map (·.leave t))

/-- Following keys of a table goes to this end. -/
inductive Follows (c : Catalog) : Table → List (Field × ForeignKey) → Traversal →
    Except SchemaError Traversal → Prop
  /-- There are no more keys. -/
  | nil {t : Table} {s : Traversal} : Follows c t [] s (.ok s)
  /-- The first key fails. -/
  | stop {t : Table} {f : Field} {key : ForeignKey} {rest : List (Field × ForeignKey)}
      {s : Traversal} {e : SchemaError}
      (visits : Visits c ⟨key.targetTable, some ⟨t.name, f.name⟩, s⟩ (.error e)) :
      Follows c t ((f, key) :: rest) s (.error e)
  /-- The first key does not fail, and the others are followed. -/
  | cons {t : Table} {f : Field} {key : ForeignKey} {rest : List (Field × ForeignKey)}
      {s s' : Traversal} {r : Except SchemaError Traversal}
      (visits : Visits c ⟨key.targetTable, some ⟨t.name, f.name⟩, s⟩ (.ok s'))
      (follows : Follows c t rest s' r) : Follows c t ((f, key) :: rest) s r

end

theorem visits_ending (c : Catalog) (call : Call) : c.Visits call (c.ending call) := by
  refine (traversal_induction
    (P := fun name referrer s r => c.Visits ⟨name, referrer, s⟩ r)
    (Q := c.Follows)
    ?missing ?marked ?unmarked ?nil ?stop ?cons).1 call.name call.referrer call.state
  case missing => exact fun _ _ _ missing => .missing missing
  case marked => exact fun _ _ _ _ found marked => .marked found marked
  case unmarked => exact fun _ _ _ _ _ found unmarked _ follows => .unmarked found unmarked follows
  case nil => exact fun _ _ => .nil
  case stop => exact fun _ _ _ _ _ _ _ visits => .stop visits
  case cons => exact fun _ _ _ _ _ _ _ _ _ visits follows => .cons visits follows

mutual

/-- Visits go to no other end than the one that the traversal computes. -/
theorem Visits.ending_eq {c : Catalog} {call : Call} {r : Except SchemaError Traversal} :
    c.Visits call r → c.ending call = r
  | .missing missing => visitEnd_missing missing
  | .marked found marked => visitEnd_marked found marked
  | .unmarked found unmarked follows => by
    rw [ending, visitEnd_unmarked found unmarked, follows.followEnd_eq]

theorem Follows.followEnd_eq {c : Catalog} {t : Table} {keys : List (Field × ForeignKey)}
    {s : Traversal} {r : Except SchemaError Traversal} :
    c.Follows t keys s r → c.followEnd t keys s = r
  | .nil => followEnd_nil
  | .stop visits => by
    have first := visits.ending_eq
    rw [ending] at first
    rw [followEnd_cons, first, Except.error_bind]
  | .cons visits follows => by
    have first := visits.ending_eq
    rw [ending] at first
    rw [followEnd_cons, first, Except.ok_bind, follows.followEnd_eq]

end

/-! ## Totality -/

/-- A visit always ends.  Every call that it makes finds the marks that it has itself, and fewer
tables without one, so that calls are not nested without end and never deeper than there are tables.
Hence each visit goes to its end, to no other, and with no mark lost. -/
theorem visits_total (c : Catalog) :
    (∀ outer inner, c.Descends outer inner → outer.state.Within inner.state ∧
      (c.unmarked inner.state).length < (c.unmarked outer.state).length) ∧
    (WellFounded fun inner outer => c.Descends outer inner) ∧
    (∀ requested path call, c.Made requested path call →
      path.length + (c.unmarked call.state).length ≤ c.size) ∧
    ∀ call, (∀ r, c.Visits call r ↔ c.ending call = r) ∧
      ∀ s, c.ending call = .ok s → call.state.Within s := by
  refine ⟨fun _ _ h => ⟨h.within, h.fewer⟩, wellFounded_descends c, fun _ _ _ h => h.depth_le, ?_⟩
  intro call
  refine ⟨fun r => ⟨Visits.ending_eq, ?_⟩, fun s h => within_of_visitEnd h⟩
  rintro rfl
  exact visits_ending c call

/-- Teams and players refer to each other: a team is visited with three tables to go, its captain
with two, and the visit ends with both of them done. -/
theorem visits_total_league :
    ∃ outer inner, league.Descends outer inner ∧
      outer = ⟨"teams", none, .start⟩ ∧ inner.name = "players" ∧
      (league.unmarked outer.state).length = 3 ∧ (league.unmarked inner.state).length = 2 ∧
      (league.unmarked inner.state).length < (league.unmarked outer.state).length ∧
      ∃ s, league.Visits outer (.ok s) ∧ s.names = ["players", "teams"] ∧
        outer.state.Within s := by
  have descends : league.Descends ⟨"teams", none, .start⟩
      ⟨"players", some ⟨"teams", "captain_id"⟩, Traversal.start.enter "teams"⟩ :=
    .key (t := league.tables[2]) rfl rfl (show _ = [] ++ (_, _) :: [] from rfl) followEnd_nil
  obtain ⟨fewer, -, -, ends⟩ := visits_total league
  obtain ⟨visits, within⟩ := ends ⟨"teams", none, .start⟩
  have resolves : league.resolve ["teams"] = .ok [league.tables[1], league.tables[2]] := by cbv
  obtain ⟨s, hs, ordered⟩ := Except.map_eq_ok_iff.1 resolves
  rw [visitAll_cons] at hs
  obtain ⟨s', visited, hs⟩ := Except.bind_eq_ok_iff.1 hs
  cases hs
  refine ⟨_, _, descends, rfl, rfl, by decide, by decide, (fewer _ _ descends).2, s,
    (visits _).2 visited, ?_, within s visited⟩
  rw [Traversal.names, ordered]
  rfl

end SchemaForge.Catalog
