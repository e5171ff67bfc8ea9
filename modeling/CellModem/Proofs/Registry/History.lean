import Mathlib.Data.List.Induction
import Mathlib.Data.List.Nodup
import CellModem.Registry

/-!
# What a registry holds

Drivers come into a registry and are taken out of it by name. Whatever has been done so far, the
names are distinct, and the drivers stand in the order in which they came to stay.
-/

namespace CellModem.Registry

variable {β : Type}

/-! ## One change -/

inductive Change (β : Type) where
  | register (d : Descriptor β)
  | unregister (name : String)
  deriving DecidableEq, Repr

/-- What is left of the registry. One that refuses a driver stays as it is. -/
def Change.apply : Change β → Registry β → Registry β
  | .register d, r => (r.register d).toOption.getD r
  | .unregister name, r => (r.unregister name).2

/-- This very driver is there under its name. -/
def Holds (r : Registry β) (d : Descriptor β) : Prop :=
  ∃ known ∈ r.drivers, known.name = d.name ∧ known.id = d.id

section

variable {r : Registry β} {d : Descriptor β}

theorem mem_names {name : String} : name ∈ r.names ↔ ∃ d ∈ r.drivers, d.name = name :=
  List.mem_map

theorem register_free (free : d.name ∉ r.names) :
    r.register d = .ok { r with drivers := r.drivers ++ [d] } := by
  have hnone : r.drivers.find? (·.name = d.name) = none :=
    List.find?_eq_none.mpr fun known hknown hname =>
      free (mem_names.mpr ⟨known, hknown, of_decide_eq_true hname⟩)
  rw [register, hnone]

theorem register_known (nodup : r.names.Nodup) {known : Descriptor β} (mem : known ∈ r.drivers)
    (name : known.name = d.name) :
    r.register d = if known.id = d.id then .ok r else .error (.duplicateDriver d.name) := by
  have hsome : (r.drivers.find? (·.name = d.name)).isSome :=
    List.find?_isSome.mpr ⟨known, mem, decide_eq_true name⟩
  obtain ⟨found, hfound⟩ := Option.isSome_iff_exists.mp hsome
  have hname := List.find?_some hfound
  obtain rfl := List.inj_on_of_nodup_map nodup (List.mem_of_find?_eq_some hfound) mem
    ((of_decide_eq_true hname).trans name.symm)
  rw [register, hfound]

theorem register_holds (nodup : r.names.Nodup) (holds : r.Holds d) : r.register d = .ok r := by
  obtain ⟨known, hknown, hname, hid⟩ := holds
  rw [register_known nodup hknown hname, if_pos hid]

/-- The name is that of another driver. -/
theorem register_taken (nodup : r.names.Nodup) (taken : d.name ∈ r.names) (other : ¬r.Holds d) :
    r.register d = .error (.duplicateDriver d.name) := by
  obtain ⟨known, hknown, hname⟩ := mem_names.mp taken
  rw [register_known nodup hknown hname, if_neg fun hid => other ⟨known, hknown, hname, hid⟩]

theorem apply_register_free (free : d.name ∉ r.names) :
    (Change.register d).apply r = { r with drivers := r.drivers ++ [d] } := by
  rw [Change.apply, register_free free]
  rfl

theorem apply_register_known (nodup : r.names.Nodup) (known : d.name ∈ r.names) :
    (Change.register d).apply r = r := by
  by_cases hholds : r.Holds d
  · rw [Change.apply, register_holds nodup hholds]
    rfl
  · rw [Change.apply, register_taken nodup known hholds]
    rfl

theorem nodup_apply (nodup : r.names.Nodup) (c : Change β) : (c.apply r).names.Nodup := by
  cases c with
  | register d =>
    by_cases hfree : d.name ∈ r.names
    · rw [apply_register_known nodup hfree]
      exact nodup
    · rw [apply_register_free hfree, names, List.map_append]
      exact List.concat_eq_append ▸ nodup.concat hfree
  | unregister name => exact nodup.sublist (List.filter_sublist.map Descriptor.name)

end

/-! ## Many changes -/

/-- What the changes leave of an empty registry. -/
def after (facility : String) (changes : List (Change β)) : Registry β :=
  changes.foldl (fun r c => c.apply r) (empty facility)

/-- The registration at this place brought the driver in, whose name was free. -/
def Effective (facility : String) (changes : List (Change β)) (k : Nat) (d : Descriptor β) : Prop :=
  changes[k]? = some (.register d) ∧ d.name ∉ (after facility (changes.take k)).names

/-- The driver was brought in at this place, and its name has not been taken out since. -/
def Staying (facility : String) (changes : List (Change β)) (k : Nat) (d : Descriptor β) : Prop :=
  Effective facility changes k d ∧ ∀ j, k < j → changes[j]? ≠ some (.unregister d.name)

variable {facility : String} {changes : List (Change β)}

theorem after_concat (c : Change β) :
    after facility (changes ++ [c]) = c.apply (after facility changes) :=
  List.foldl_concat ..

theorem nodup_after (facility : String) (changes : List (Change β)) :
    (after facility changes).names.Nodup := by
  induction changes using List.reverseRecOn with
  | nil => exact List.nodup_nil
  | append_singleton changes c ih =>
    rw [after_concat]
    exact nodup_apply ih c

theorem Effective.lt {k : Nat} {d : Descriptor β} (h : Effective facility changes k d) :
    k < changes.length := (List.getElem?_eq_some_iff.mp h.1).1

theorem getElem?_concat {c c' : Change β} {j : Nat} :
    (changes ++ [c])[j]? = some c' ↔ changes[j]? = some c' ∨ j = changes.length ∧ c = c' := by
  rcases Nat.lt_trichotomy j changes.length with hlt | rfl | hgt
  · rw [List.getElem?_append_left hlt]
    exact ⟨.inl, fun h => h.resolve_right fun h => absurd h.1 (Nat.ne_of_lt hlt)⟩
  · rw [List.getElem?_concat_length, List.getElem?_eq_none (Nat.le_refl _)]
    simp
  · have hend : (changes ++ [c])[j]? = none := List.getElem?_eq_none (by simp; omega)
    rw [hend, List.getElem?_eq_none (Nat.le_of_lt hgt)]
    simp
    omega

theorem effective_concat {c : Change β} {k : Nat} {d : Descriptor β} :
    Effective facility (changes ++ [c]) k d ↔ Effective facility changes k d ∨
      k = changes.length ∧ c = .register d ∧ d.name ∉ (after facility changes).names := by
  unfold Effective
  rw [getElem?_concat]
  constructor
  · rintro ⟨hold | ⟨rfl, rfl⟩, hfree⟩
    · rw [List.take_append_of_le_length
        (Nat.le_of_lt (List.getElem?_eq_some_iff.mp hold).1)] at hfree
      exact .inl ⟨hold, hfree⟩
    · rw [List.take_left] at hfree
      exact .inr ⟨rfl, rfl, hfree⟩
  · rintro (⟨hold, hfree⟩ | ⟨rfl, rfl, hfree⟩)
    · rw [List.take_append_of_le_length (Nat.le_of_lt (List.getElem?_eq_some_iff.mp hold).1)]
      exact ⟨.inl hold, hfree⟩
    · rw [List.take_left]
      exact ⟨.inr ⟨rfl, rfl⟩, hfree⟩

theorem staying_concat {c : Change β} {k : Nat} {d : Descriptor β} :
    Staying facility (changes ++ [c]) k d ↔
      Staying facility changes k d ∧ c ≠ .unregister d.name ∨
        k = changes.length ∧ c = .register d ∧ d.name ∉ (after facility changes).names := by
  unfold Staying
  simp only [effective_concat, Ne, getElem?_concat]
  constructor
  · rintro ⟨heffective | hlast, hstays⟩
    · exact .inl ⟨⟨heffective, fun j hj h => hstays j hj (.inl h)⟩,
        fun h => hstays _ heffective.lt (.inr ⟨rfl, h⟩)⟩
    · exact .inr hlast
  · rintro (⟨⟨heffective, hstays⟩, hkept⟩ | ⟨rfl, rfl, hfree⟩)
    · refine ⟨.inl heffective, fun j hj h => ?_⟩
      rcases h with h | ⟨-, h⟩
      · exact hstays j hj h
      · exact hkept h
    · refine ⟨.inr ⟨rfl, rfl, hfree⟩, fun j hj h => ?_⟩
      rcases h with h | ⟨rfl, -⟩
      · exact absurd (List.getElem?_eq_some_iff.mp h).1 (Nat.lt_asymm hj)
      · exact absurd hj (Nat.lt_irrefl _)

/-- The drivers that stay, one for each place where one came in, in the order of these. -/
theorem after_entries (facility : String) (changes : List (Change β)) :
    ∃ entries : List (Nat × Descriptor β),
      entries.map Prod.snd = (after facility changes).drivers ∧
      entries.Pairwise (fun e e' => e.1 < e'.1) ∧
      ∀ k d, (k, d) ∈ entries ↔ Staying facility changes k d := by
  induction changes using List.reverseRecOn with
  | nil => exact ⟨[], rfl, .nil, fun k d => by simp [Staying, Effective]⟩
  | append_singleton changes c ih =>
    obtain ⟨entries, hdrivers, hordered, hmem⟩ := ih
    have hname {e : Nat × Descriptor β} (he : e ∈ entries) :
        e.2.name ∈ (after facility changes).names :=
      mem_names.mpr ⟨e.2, hdrivers ▸ List.mem_map_of_mem he, rfl⟩
    rw [after_concat]
    simp only [staying_concat]
    cases c with
    | register d =>
      by_cases hfree : d.name ∈ (after facility changes).names
      · rw [apply_register_known (nodup_after facility changes) hfree]
        refine ⟨entries, hdrivers, hordered, fun k d' => ?_⟩
        rw [hmem]
        refine ⟨fun h => .inl ⟨h, nofun⟩, ?_⟩
        rintro (h | ⟨-, hsame, hnew⟩)
        · exact h.1
        · exact absurd hfree (Change.register.inj hsame ▸ hnew)
      · rw [apply_register_free hfree]
        refine ⟨entries ++ [(changes.length, d)], ?_, ?_, fun k d' => ?_⟩
        · rw [List.map_append, hdrivers]
          rfl
        · refine List.pairwise_append.mpr ⟨hordered, List.pairwise_singleton _ _, ?_⟩
          rintro e he e' he'
          rw [List.mem_singleton.mp he']
          exact ((hmem e.1 e.2).mp he).1.lt
        · rw [List.mem_append, hmem, List.mem_singleton, Prod.mk.injEq]
          constructor
          · rintro (h | ⟨rfl, rfl⟩)
            · exact .inl ⟨h, nofun⟩
            · exact .inr ⟨rfl, rfl, hfree⟩
          · rintro (h | ⟨rfl, hsame, -⟩)
            · exact .inl h.1
            · exact .inr ⟨rfl, (Change.register.inj hsame).symm⟩
    | unregister name =>
      refine ⟨entries.filter (·.2.name ≠ name), ?_, hordered.sublist List.filter_sublist,
        fun k d' => ?_⟩
      · rw [Change.apply, unregister, ← hdrivers, List.filter_map]
        rfl
      · rw [List.mem_filter, hmem, decide_eq_true_eq]
        constructor
        · rintro ⟨h, hne⟩
          exact .inl ⟨h, fun hsame => hne (Change.unregister.inj hsame).symm⟩
        · rintro (⟨h, hne⟩ | ⟨-, hsame, -⟩)
          · exact ⟨h, fun hsame => hne (congrArg Change.unregister hsame.symm)⟩
          · cases hsame

theorem Staying.mem_drivers {k : Nat} {d : Descriptor β} (h : Staying facility changes k d) :
    d ∈ (after facility changes).drivers := by
  obtain ⟨entries, hdrivers, -, hmem⟩ := after_entries facility changes
  exact hdrivers ▸ List.mem_map_of_mem ((hmem k d).mpr h)

/-- A name that has come to stay does not come in again: its registration is the latest. -/
theorem Staying.latest {k k' : Nat} {d d' : Descriptor β} (h : Staying facility changes k d)
    (h' : Effective facility changes k' d') (name : d'.name = d.name) : k' ≤ k := by
  by_contra hlt
  have hk : k < k' := Nat.lt_of_not_le hlt
  have hbefore : Staying facility (changes.take k') k d := by
    refine ⟨⟨?_, ?_⟩, fun j hj hjth => h.2 j hj ?_⟩
    · rw [List.getElem?_take_of_lt hk]
      exact h.1.1
    · rw [List.take_take, Nat.min_eq_left (Nat.le_of_lt hk)]
      exact h.1.2
    · rw [List.getElem?_take] at hjth
      split at hjth
      · exact hjth
      · cases hjth
  exact h'.2 (mem_names.mpr ⟨d, hbefore.mem_drivers, name.symm⟩)

/-! ## The registry as it is known -/

/-- The names are distinct, and the drivers stand in the order in which they came in, each at the
latest place where its name did. -/
structure InOrder (facility : String) (changes : List (Change β)) (r : Registry β) : Prop where
  distinct : r.names.Nodup
  ordered : ∃ entries : List (Nat × Descriptor β), entries.map Prod.snd = r.drivers ∧
    entries.Pairwise (fun e e' => e.1 < e'.1) ∧
    (∀ k d, (k, d) ∈ entries ↔ Staying facility changes k d) ∧
    ∀ e ∈ entries, ∀ k d, Effective facility changes k d → d.name = e.2.name → k ≤ e.1

/-- What comes of further changes: a driver is taken in when its name is free, and nothing changes
when it is there already; another driver of a name is refused and changes nothing. -/
structure Admits (r : Registry β) : Prop where
  succeeds : ∀ d, (∃ r', r.register d = .ok r') ↔ d.name ∉ r.names ∨ r.Holds d
  added : ∀ d, d.name ∉ r.names → r.register d = .ok { r with drivers := r.drivers ++ [d] }
  held : ∀ d, r.Holds d → r.register d = .ok r
  refused : ∀ d, (¬∃ r', r.register d = .ok r') →
    r.register d = .error (.duplicateDriver d.name) ∧ (Change.register d).apply r = r
  removed : ∀ name, (r.unregister name).1 = true ↔ name ∈ r.names

theorem inOrder_after (facility : String) (changes : List (Change β)) :
    InOrder facility changes (after facility changes) where
  distinct := nodup_after facility changes
  ordered := by
    obtain ⟨entries, hdrivers, hordered, hmem⟩ := after_entries facility changes
    exact ⟨entries, hdrivers, hordered, hmem, fun e he k d heffective hname =>
      ((hmem e.1 e.2).mp he).latest heffective hname⟩

theorem admits_of_nodup {r : Registry β} (nodup : r.names.Nodup) : r.Admits where
  succeeds d := by
    constructor
    · rintro ⟨r', hr'⟩
      by_contra hneither
      obtain ⟨htaken, hother⟩ := not_or.mp hneither
      rw [register_taken nodup (not_not.mp htaken) hother] at hr'
      cases hr'
    · rintro (hfree | hholds)
      · exact ⟨_, register_free hfree⟩
      · exact ⟨r, register_holds nodup hholds⟩
  added d hfree := register_free hfree
  held d hholds := register_holds nodup hholds
  refused d hfails := by
    have htaken : d.name ∈ r.names := by
      by_contra hfree
      exact hfails ⟨_, register_free hfree⟩
    exact ⟨register_taken nodup htaken fun hholds => hfails ⟨r, register_holds nodup hholds⟩,
      apply_register_known nodup htaken⟩
  removed name := by rw [unregister, List.contains_iff_mem]

theorem facility_after (facility : String) (changes : List (Change β)) :
    (after facility changes).facility = facility := by
  induction changes using List.reverseRecOn with
  | nil => rfl
  | append_singleton changes c ih =>
    rw [after_concat]
    cases c with
    | register d =>
      by_cases hfree : d.name ∈ (after facility changes).names
      · rw [apply_register_known (nodup_after facility changes) hfree, ih]
      · rw [apply_register_free hfree, ih]
    | unregister name => exact ih

end CellModem.Registry
