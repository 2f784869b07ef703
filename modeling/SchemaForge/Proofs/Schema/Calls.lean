import SchemaForge.Proofs.Schema.Resolution

/-!
# The calls of a run

A run on a request visits the names requested, one after the other, and a visit makes further ones
for the keys of its table.  `Catalog.Made` gives the calls of a run, each with the tables that are
under way when it is made, the innermost first, and with the traversal that it is made in.  It does
not matter whether the run succeeds: a call of a run that fails later on is a call of it as well.

Main results:

* no call is left out: what a run marks is marked by a call, and the error that it fails with is
  that of a call (`Catalog.accounted_run`);
* whenever a call is made, and whenever one succeeds, the marks and the tables so far fit the calls
  under way (`Catalog.run_coherent`), so nothing is in progress at the end of a run.
-/

namespace SchemaForge

/-- A call of the traversal: the name to be visited, what refers to it and the traversal so far. -/
structure Call where
  name : String
  referrer : Option Referrer
  state : Traversal
  deriving DecidableEq, Repr

namespace Catalog

variable {c : Catalog} {requested path : List String} {call outer inner : Call} {n : String}
  {t : Table} {s : Traversal} {e : SchemaError}

/-- What a call ends with. -/
def ending (c : Catalog) (call : Call) : Except SchemaError Traversal :=
  c.visitEnd call.name call.referrer call.state

/-! ## Calls from calls -/

/-- A call gets past the mark of its table and makes another one, for a key of the table, when the
keys before this one have been followed. -/
inductive Descends (c : Catalog) (outer : Call) : Call → Prop
  | key {t : Table} {front back : List (Field × ForeignKey)} {f : Field} {key : ForeignKey}
      {s : Traversal} (found : c.get? outer.name = some t)
      (unmarked : outer.state.isMarked t.name = false)
      (split : t.foreignKeys = front ++ (f, key) :: back)
      (followed : c.followEnd t front (outer.state.enter t.name) = .ok s) :
      Descends c outer ⟨key.targetTable, some ⟨t.name, f.name⟩, s⟩

/-- The call is made in the run on a request while the tables of the path are under way. -/
inductive Made (c : Catalog) (requested : List String) : List String → Call → Prop
  /-- A call is made for a name requested when those before it have been visited. -/
  | request {front back : List String} {name : String} {s : Traversal}
      (split : requested = front ++ name :: back) (visited : c.visitAll front .start = .ok s) :
      Made c requested [] ⟨name, none, s⟩
  /-- A call is made by another one, the table of which is under way then. -/
  | descend {path : List String} {outer inner : Call} (made : Made c requested path outer)
      (descends : c.Descends outer inner) : Made c requested (outer.name :: path) inner

theorem Descends.refers (h : c.Descends outer inner) : c.Refers outer.name inner.name := by
  obtain ⟨found, -, split, -⟩ := h
  exact refers_of_mem found (k := (_, _)) (split ▸ List.mem_append_right _ List.mem_cons_self)

/-- A call goes on in a coherent traversal, with its own table under way as well. -/
theorem Descends.coherent (h : c.Descends outer inner)
    (coherent : outer.state.Coherent c requested path)
    (caller : ∀ name ∈ path.head?, c.Refers name outer.name)
    (wanted : c.Reachable requested outer.name) :
    inner.state.Coherent c requested (outer.name :: path) := by
  obtain ⟨found, unmarked, split, followed⟩ := h
  have name_eq := name_of_get? found
  rw [← name_eq] at found caller wanted ⊢
  exact ((coherent_calls c requested).2 _ _ _ path _ (coherent.enter unmarked caller wanted) found
    (by simp [split]) followed).1

/-! ## No call is left out -/

/-- What happens from a traversal on until an end is the work of calls: an error is that of a call
for a name without a table, and what gets a mark gets it by a call for it. -/
structure Accounted (c : Catalog) (requested : List String) (s : Traversal)
    (r : Except SchemaError Traversal) : Prop where
  failed : ∀ e, r = .error e → ∃ path call, c.Made requested path call ∧
    c.get? call.name = none ∧ e = .unknownTable call.name call.referrer
  marked : ∀ s', r = .ok s' → ∀ n, s'.isMarked n = true → s.isMarked n = true ∨
    ∃ path call, c.Made requested path call ∧ call.name = n ∧ call.state.isMarked n = false

namespace Accounted

theorem refl (c : Catalog) (requested : List String) (s : Traversal) :
    c.Accounted requested s (.ok s) where
  failed e h := absurd h (by simp)
  marked s' h n hn := by
    cases h
    exact .inl hn

theorem trans {s s' : Traversal} {r : Except SchemaError Traversal}
    (first : c.Accounted requested s (.ok s')) (second : c.Accounted requested s' r) :
    c.Accounted requested s r where
  failed := second.failed
  marked s'' h n hn := (second.marked s'' h n hn).elim (first.marked s' rfl n) .inr

theorem of_error {s s' : Traversal} (h : c.Accounted requested s (.error e)) :
    c.Accounted requested s' (.error e) where
  failed := h.failed
  marked s'' h := absurd h (by simp)

end Accounted

/-- What a call does is the work of the calls made from it on. -/
theorem accounted_calls (c : Catalog) (requested : List String) :
    (∀ name referrer s, ∀ path, c.Made requested path ⟨name, referrer, s⟩ →
      c.Accounted requested s (c.visitEnd name referrer s)) ∧
    ∀ t keys s, ∀ path outer front, c.Made requested path outer → c.get? outer.name = some t →
      outer.state.isMarked t.name = false → t.foreignKeys = front ++ keys →
      c.followEnd t front (outer.state.enter t.name) = .ok s →
      c.Accounted requested s (c.followEnd t keys s) := by
  refine traversal_induction
    (P := fun name referrer s r => ∀ path, c.Made requested path ⟨name, referrer, s⟩ →
      c.Accounted requested s r)
    (Q := fun t keys s r => ∀ path outer front, c.Made requested path outer →
      c.get? outer.name = some t → outer.state.isMarked t.name = false →
      t.foreignKeys = front ++ keys →
      c.followEnd t front (outer.state.enter t.name) = .ok s → c.Accounted requested s r)
    ?missing ?marked ?unmarked ?nil ?stop ?cons
  case missing =>
    intro name referrer s missing path made
    refine ⟨fun e h => ?_, fun s' h => absurd h (by simp)⟩
    cases h
    exact ⟨path, _, made, missing, rfl⟩
  case marked =>
    intro name referrer s t _ _ path _
    exact .refl c requested s
  case unmarked =>
    intro name referrer s t r found unmarked _ ih path made
    have inside := ih path _ [] made found unmarked rfl followEnd_nil
    refine ⟨fun e h => inside.failed e (Except.map_eq_error_iff.1 h), fun s' h n hn => ?_⟩
    obtain ⟨s₁, rfl, rfl⟩ := Except.map_eq_ok_iff.1 h
    have own : n = t.name → ∃ path call, c.Made requested path call ∧ call.name = n ∧
        call.state.isMarked n = false := by
      rintro rfl
      exact ⟨path, _, made, (name_of_get? found).symm, unmarked⟩
    rw [Traversal.isMarked_leave, Bool.or_eq_true, beq_iff_eq] at hn
    rcases hn with rfl | hn
    · exact .inr (own rfl)
    · rcases inside.marked s₁ rfl n hn with hn | called
      · rw [Traversal.isMarked_enter, Bool.or_eq_true, beq_iff_eq] at hn
        exact hn.elim (fun same => .inr (own same)) .inl
      · exact .inr called
  case nil =>
    intro t s path outer front _ _ _ _ _
    exact .refl c requested s
  case stop =>
    intro t f key rest s e _ ih path outer front made found unmarked split followed
    exact ih _ (.descend made (.key found unmarked split followed))
  case cons =>
    intro t f key rest s s₁ r visited _ ihVisit ihRest path outer front made found unmarked split
      followed
    have further : c.followEnd t (front ++ [(f, key)]) (outer.state.enter t.name) = .ok s₁ := by
      rw [followEnd_append, followed, Except.ok_bind, followEnd_cons, visited, Except.ok_bind,
        followEnd_nil]
    exact (ihVisit _ (.descend made (.key found unmarked split followed))).trans
      (ihRest path outer (front ++ [(f, key)]) made found unmarked (by simp [split]) further)

/-- A run is the work of its calls: the error that it fails with is that of a call for a name
without a table, and what is marked at its end got the mark by a call for it. -/
theorem accounted_run (c : Catalog) (requested : List String) :
    c.Accounted requested .start (c.visitAll requested .start) := by
  have front_on : ∀ back front s, requested = front ++ back → c.visitAll front .start = .ok s →
      c.Accounted requested s (c.visitAll back s) := by
    intro back
    induction back with
    | nil =>
      intro front s _ _
      exact .refl c requested s
    | cons name rest ih =>
      intro front s split visited
      have first := (accounted_calls c requested).1 name none s [] (.request split visited)
      rw [visitAll_cons]
      cases h : c.visitEnd name none s with
      | error e => exact .of_error (h ▸ first)
      | ok s₁ =>
        rw [h] at first
        have further : c.visitAll (front ++ [name]) .start = .ok s₁ := by
          rw [visitAll_append, visited, Except.ok_bind, visitAll_cons, h, Except.ok_bind, visitAll]
        exact first.trans (ih (front ++ [name]) s₁ (by simp [split]) further)
  exact front_on requested [] .start rfl rfl

/-! ## What holds at every call -/

/-- A call is made in a coherent traversal, for a name that the request leads to, by the innermost
table under way. -/
theorem Made.coherent (h : c.Made requested path call) :
    call.state.Coherent c requested path ∧ (∀ name ∈ path.head?, c.Refers name call.name) ∧
      c.Reachable requested call.name := by
  induction h with
  | request split visited =>
    refine ⟨(coherent_visitAll (.start c requested) (by simp [split]) visited).1, by simp, ?_⟩
    exact reachable_of_mem (by simp [split])
  | descend _ descends ih =>
    obtain ⟨coherent, caller, wanted⟩ := ih
    exact ⟨descends.coherent coherent caller wanted, by simpa using descends.refers,
      wanted.step descends.refers⟩

/-- In every run, the traversal is coherent with the tables under way whenever a call is made, and
again whenever one succeeds.  So at the end of a run that succeeds every mark is that of a table
that is done, and the names with a mark are those of the answer. -/
theorem run_coherent (c : Catalog) (requested : List String) :
    (∀ path call, c.Made requested path call →
      call.state.Coherent c requested path ∧ (∀ name ∈ path.head?, c.Refers name call.name) ∧
        ∀ s, c.ending call = .ok s → s.Coherent c requested path ∧ s.isMarked call.name = true) ∧
    ∀ s, c.visitAll requested .start = .ok s →
      c.resolve requested = .ok s.ordered ∧ (∀ n m, s.mark? n = some m → m = .done) ∧
        ∀ n, s.isMarked n = true ↔ n ∈ s.ordered.map (·.name) := by
  constructor
  · intro path call made
    obtain ⟨coherent, caller, wanted⟩ := made.coherent
    exact ⟨coherent, caller, fun s h => coherent_visitEnd coherent caller wanted h⟩
  · intro s h
    obtain ⟨coherent, -⟩ := coherent_visitAll (.start c requested) (List.Subset.refl _) h
    refine ⟨by rw [resolve, h, Except.ok_map], ?_, fun n => ⟨coherent.mem_names, ?_⟩⟩
    · intro n m hm
      cases m with
      | done => rfl
      | inProgress => exact absurd ((coherent.inProgress_iff n).1 hm) List.not_mem_nil
    · exact coherent.isMarked_of_mem

/-- Teams lead to players and these back to teams: both are in progress when teams are met again,
and nothing is at the end. -/
theorem run_coherent_league :
    (∃ call, league.Made ["teams"] ["players", "teams"] call ∧ call.name = "teams" ∧
      (∀ n, call.state.mark? n = some .inProgress ↔ n ∈ ["players", "teams"]) ∧
      call.state.names = []) ∧
    ∃ s, league.visitAll ["teams"] .start = .ok s ∧ s.names = ["players", "teams"] ∧
      ∀ n m, s.mark? n = some m → m = .done := by
  have teams : league.Made ["teams"] [] ⟨"teams", none, .start⟩ :=
    .request (show ["teams"] = [] ++ "teams" :: [] from rfl) rfl
  have players : league.Made ["teams"] ["teams"]
      ⟨"players", some ⟨"teams", "captain_id"⟩, Traversal.start.enter "teams"⟩ :=
    .descend teams (.key (t := league.tables[2]) rfl rfl
      (show _ = [] ++ (_, _) :: [] from rfl) followEnd_nil)
  have again : league.Made ["teams"] ["players", "teams"]
      ⟨"teams", some ⟨"players", "team_id"⟩, (Traversal.start.enter "teams").enter "players"⟩ :=
    .descend players (.key (t := league.tables[1]) rfl rfl
      (show _ = [] ++ (_, _) :: [] from rfl) followEnd_nil)
  have resolves : league.resolve ["teams"] = .ok [league.tables[1], league.tables[2]] := by cbv
  obtain ⟨s, hs, ordered⟩ := Except.map_eq_ok_iff.1 resolves
  obtain ⟨calls, run⟩ := run_coherent league ["teams"]
  refine ⟨⟨_, again, rfl, (calls _ _ again).1.inProgress_iff, rfl⟩, s, hs, ?_, (run s hs).2.1⟩
  rw [Traversal.names, ordered]
  rfl

end Catalog

end SchemaForge
