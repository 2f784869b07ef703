import Mathlib.Order.Interval.Finset.Nat
import SchemaForge.Proofs.Text.FreeNames

/-!
# The search for a free name

A name is reserved by trying: the base first, then the base with 2, 3 and so on behind it, until a
candidate is not in use.  `Reserves` is the run of such a search, with the number of candidates that
it takes; nothing in it says that it ends.

Main results:

* the base and the numbers tried in vain make different names, all of them in use, so there are not
  more of them than of these (`le_card_of_isLeast`);
* every search ends, and in one way only: with `freeName`, which has the least number that is free,
  after one more candidate than there are used names at most (`reserves_least`);
* names reserved one after the other are the `freeNames` (`reservesAll_freeNames`).
-/

namespace SchemaForge.Text

variable {base name name' : String} {used after after' : List String}
  {start m n count count' : Nat}

/-! ## Trying candidates -/

/-- Trying the numbers from `n` on, one after the other, ends with a name after so many of them.
The numbers are natural ones, which no run of a counter leaves; a signed counter of 32 bits holds
all that are tried while fewer than 2 ^ 31 - 1 names are in use, by the bound in `reserves_least`.
-/
inductive Tries (base : String) (used : List String) : Nat → Nat → String → Prop
  /-- The name with this number is free. -/
  | free {n : Nat} (free : numbered base n ∉ used) : Tries base used n 1 (numbered base n)
  /-- The name with this number is in use, and the next number is tried. -/
  | taken {n count : Nat} {name : String} (taken : numbered base n ∈ used)
      (rest : Tries base used (n + 1) count name) : Tries base used n (count + 1) name

/-- Reserving a name ends with the name after so many candidates, and with what is in use then. -/
inductive Reserves (base : String) (used : List String) : Nat → String → List String → Prop
  /-- The base is free. -/
  | free (free : base ∉ used) : Reserves base used 1 base (base :: used)
  /-- The base is in use, and numbers are tried from 2 on. -/
  | taken {count : Nat} {name : String} (taken : base ∈ used)
      (rest : Tries base used 2 count name) : Reserves base used (count + 1) name (name :: used)

theorem Tries.unique (h : Tries base used n count name) (h' : Tries base used n count' name') :
    count = count' ∧ name = name' := by
  induction h generalizing count' with
  | free free =>
    cases h' with
    | free => exact ⟨rfl, rfl⟩
    | taken taken => exact absurd taken free
  | taken taken _ ih =>
    cases h' with
    | free free => exact absurd taken free
    | taken _ rest =>
      obtain ⟨rfl, rfl⟩ := ih rest
      exact ⟨rfl, rfl⟩

/-- A name is reserved in one way only. -/
theorem Reserves.unique (h : Reserves base used count name after)
    (h' : Reserves base used count' name' after') :
    count = count' ∧ name = name' ∧ after = after' := by
  cases h with
  | free free =>
    cases h' with
    | free => exact ⟨rfl, rfl, rfl⟩
    | taken taken => exact absurd taken free
  | taken taken rest =>
    cases h' with
    | free free => exact absurd taken free
    | taken _ rest' =>
      obtain ⟨rfl, rfl⟩ := rest.unique rest'
      exact ⟨rfl, rfl, rfl⟩

theorem Reserves.mem_after_iff (h : Reserves base used count name after) (s : String) :
    s ∈ after ↔ s = name ∨ s ∈ used := by
  cases h with
  | free => exact List.mem_cons
  | taken => exact List.mem_cons

/-! ## The least number -/

/-- The numbers from `start` on that make a free name. -/
def freeNumbers (base : String) (used : List String) (start : Nat) : Set Nat :=
  {n | start ≤ n ∧ numbered base n ∉ used}

theorem taken_of_isLeast (h : IsLeast (freeNumbers base used start) n) (hm : start ≤ m)
    (hlt : m < n) : numbered base m ∈ used := by
  by_contra free
  exact Nat.not_le_of_gt hlt (h.2 ⟨hm, free⟩)

/-- The number found among the first ones is the least of all. -/
theorem isLeast_of_freeNumber? (h : freeNumber? base used = some n) :
    IsLeast (freeNumbers base used 2) n := by
  rw [freeNumber?, List.find?_map, Option.map_eq_some_iff] at h
  obtain ⟨i, found, rfl⟩ := h
  obtain ⟨free, -, before⟩ := List.find?_range_eq_some.1 found
  refine ⟨⟨Nat.le_add_left 2 i, by simpa using free⟩, ?_⟩
  rintro m ⟨hm, hfree⟩
  by_contra hlt
  obtain ⟨j, rfl⟩ := Nat.exists_eq_add_of_le' hm
  have taken : numbered base (j + 2) ∈ used := by simpa using before j (by omega)
  exact hfree taken

/-- Numbers are tried up to the least that makes the name free. -/
theorem tries_of_isLeast (h : IsLeast (freeNumbers base used start) n) :
    Tries base used start (n - start + 1) (numbered base n) := by
  obtain ⟨gap, rfl⟩ := Nat.exists_eq_add_of_le h.1.1
  rw [Nat.add_sub_cancel_left]
  induction gap generalizing start with
  | zero => exact .free h.1.2
  | succ gap ih =>
    have next : start + (gap + 1) = start + 1 + gap := by omega
    have rest : IsLeast (freeNumbers base used (start + 1)) (start + 1 + gap) := by
      rw [← next]
      refine ⟨⟨by omega, h.1.2⟩, fun m hm => h.2 ⟨?_, hm.2⟩⟩
      exact Nat.le_of_succ_le hm.1
    rw [next]
    exact .taken (taken_of_isLeast h (Nat.le_refl _) (by omega)) (ih rest)

theorem numbered_ne_base (base : String) (n : Nat) : numbered base n ≠ base := by
  intro same
  have length := congrArg String.length same
  have digits : 0 < (toString n).length := Nat.length_repr_pos
  rw [numbered, String.length_append] at length
  omega

/-- The base and the numbers tried in vain make different names in use, so there are not more of
them than of these. -/
theorem le_card_of_isLeast (h : IsLeast (freeNumbers base used 2) n) (taken : base ∈ used) :
    n ≤ used.toFinset.card + 1 := by
  have sub : insert base ((Finset.Ico 2 n).image (numbered base)) ⊆ used.toFinset := by
    intro name hname
    rw [List.mem_toFinset]
    rcases Finset.mem_insert.1 hname with rfl | hname
    · exact taken
    · obtain ⟨m, hm, rfl⟩ := Finset.mem_image.1 hname
      obtain ⟨hm, hlt⟩ := Finset.mem_Ico.1 hm
      exact taken_of_isLeast h hm hlt
  have new : base ∉ (Finset.Ico 2 n).image (numbered base) := by
    intro again
    obtain ⟨m, -, same⟩ := Finset.mem_image.1 again
    exact numbered_ne_base base m same
  have few := Finset.card_le_card sub
  rw [Finset.card_insert_of_notMem new, Finset.card_image_of_injective _ (numbered_injective base),
    Nat.card_Ico] at few
  omega

theorem exists_isLeast (taken : base ∈ used) :
    ∃ n, IsLeast (freeNumbers base used 2) n ∧ freeName base used = numbered base n := by
  obtain ⟨n, hn⟩ := exists_freeNumber? base used
  exact ⟨n, isLeast_of_freeNumber? hn, by simp [freeName, taken, hn]⟩

/-! ## Every search ends -/

/-- Reserving a name ends with the free name, after one more candidate than there are used names at
most. -/
theorem exists_reserves (base : String) (used : List String) :
    ∃ count ≤ used.toFinset.card + 1,
      Reserves base used count (freeName base used) (freeName base used :: used) := by
  by_cases taken : base ∈ used
  · obtain ⟨n, least, name_eq⟩ := exists_isLeast taken
    have count_le : n - 2 + 1 + 1 ≤ used.toFinset.card + 1 := by
      have two_le : 2 ≤ n := least.1.1
      have few := le_card_of_isLeast least taken
      omega
    rw [name_eq]
    exact ⟨_, count_le, .taken taken (tries_of_isLeast least)⟩
  · rw [freeName_of_notMem taken]
    exact ⟨1, Nat.le_add_left 1 _, .free taken⟩

/-- Reserving a name always ends, and in one way only, after one more candidate than there are used
names at most.  It gives a name that was not in use, which is added to those in use, and nothing
else is: the base if it was free, else the base with the least number from 2 on that made it free,
which is one more than the number of used names at most.  That number is the largest one tried, so
with fewer than 2 ^ 31 - 1 used names a signed counter of 32 bits does not overflow. -/
theorem reserves_least (base : String) (used : List String) :
    ∃ count after, Reserves base used count (freeName base used) after ∧
      (∀ count' name after', Reserves base used count' name after' →
        count' = count ∧ name = freeName base used ∧ after' = after) ∧
      count ≤ used.toFinset.card + 1 ∧
      freeName base used ∉ used ∧ (∀ s, s ∈ after ↔ s = freeName base used ∨ s ∈ used) ∧
      (base ∉ used → freeName base used = base) ∧
      (base ∈ used → ∃ n ≤ used.toFinset.card + 1,
        IsLeast (freeNumbers base used 2) n ∧ freeName base used = numbered base n) := by
  obtain ⟨count, count_le, reserves⟩ := exists_reserves base used
  refine ⟨count, _, reserves, fun _ _ _ h => h.unique reserves, count_le, freeName_notMem base used,
    reserves.mem_after_iff, freeName_of_notMem, ?_⟩
  intro taken
  obtain ⟨n, least, name_eq⟩ := exists_isLeast taken
  exact ⟨n, le_card_of_isLeast least taken, least, name_eq⟩

/-- Used names that look like candidates are passed over. -/
example : freeName "user" ["user2", "user", "user4"] = "user3" := by decide

/-! ## One name after the other -/

/-- Reserving names for the given bases, each with what is in use after the one before it. -/
inductive ReservesAll : List String → List String → List String → List String → Prop
  | nil {used : List String} : ReservesAll [] used [] used
  | cons {base name : String} {count : Nat} {bases used after names last : List String}
      (first : Reserves base used count name after)
      (others : ReservesAll bases after names last) :
      ReservesAll (base :: bases) used (name :: names) last

/-- Names reserved one after the other are the free names for their bases. -/
theorem reservesAll_freeNames (bases used : List String) :
    ReservesAll bases used (freeNames bases used) ((freeNames bases used).reverse ++ used) := by
  induction bases generalizing used with
  | nil => exact .nil
  | cons base bases ih =>
    obtain ⟨_, -, first⟩ := exists_reserves base used
    rw [freeNames, List.reverse_cons, List.append_assoc]
    exact .cons first (ih _)

end SchemaForge.Text
