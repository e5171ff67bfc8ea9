import CellModem.Proofs.Lifetime.Standing

/-!
# Putting facilities in their places, and removing them

A modem that comes up gets its facilities once. All that a driver accepts then is put in the places
of the modem, and so nothing is left once what is in the places has been removed.
-/

namespace CellModem

open scoped List

variable {υ : Type} {f : Facility} {n : Nat}

namespace Host

/-! ## Creating instances -/

section

variable {h₀ h : Host υ} {i : Nat} {held : Facility → Nat → Prop} {places : Places}
  {kept post : Host υ → Prop}

/-- The instance that has been created is held from then on. -/
theorem create_keeps (hkept : Stable Ordinary kept) (vendor : Vendor)
    (standing : Standing h₀ i held places h) {next : Except Error Nat → Routine (Host υ)}
    (hnext : ∀ created h',
      Standing h₀ i (fun g k => held g k ∨ g = f ∧ created = .ok k) places h' →
      (next created).Keeps kept Anything post h') :
    ((create f vendor (some driverName)).run next).Keeps kept Anything post h := by
  let probed (n : Nat) (h : Host υ) : Prop := Standing h₀ i held places h ∧ Offered h₀ f n h
  have hprobed (n : Nat) : Stable Ordinary (probed n) := fun h h' deed hs =>
    ⟨Standing.stable h h' deed hs.1, stable_offered h h' deed hs.2⟩
  refine Registry.create_keeps (Q := probed) hkept
    (fun d n => (prompt_probe f vendor d n).mono fun _ _ => Use.ordinary) hprobed
    (fun h hs => hs.added f vendor) (fun n h hs => hs.1) (h.registries.get f)
    (fun e h hs => ?_) (fun d n h hd hs => ?_) standing
  · exact hnext (.error e) h (hs.weaken fun _ _ => .inl)
  · have hnamed : d.name = driverName := of_decide_eq_true (List.mem_filter.mp hd).2
    refine hnext (.ok n) _ ((hs.1.bound hs.2 hnamed).weaken fun g k => Or.imp_right ?_)
    rintro ⟨hg, rfl⟩
    exact ⟨hg, rfl⟩

end

end Host

namespace Modem

open Host

section

variable {h₀ h : Host υ} {i : Nat} {held : Facility → Nat → Prop} {places : Places}
  {kept post : Host υ → Prop}

theorem createEach_keeps (hkept : Stable Ordinary kept) (wanted : List (Facility × Vendor))
    (standing : Standing h₀ i held places h) {next : List (Facility × Nat) → Routine (Host υ)}
    (hnext : ∀ more h', more.map Prod.fst <+ wanted.map Prod.fst →
      Standing h₀ i (fun g k => held g k ∨ (g, k) ∈ more) places h' →
      (next more).Keeps kept Anything post h') :
    (createEach wanted next).Keeps kept Anything post h := by
  induction wanted generalizing held h next with
  | nil => exact hnext [] h (List.Sublist.refl _) (standing.weaken fun _ _ => .inl)
  | cons first rest ih =>
    refine create_keeps hkept first.2 standing fun created h' hcreated => ?_
    refine ih hcreated fun more h'' hmore hstanding => ?_
    cases created with
    | ok number =>
      refine hnext ((first.1, number) :: more) h'' (hmore.cons_cons first.1) (hstanding.weaken ?_)
      rintro g k ((hheld | ⟨rfl, hk⟩) | hmem)
      · exact .inl hheld
      · exact .inr (Except.ok.inj hk ▸ List.mem_cons_self)
      · exact .inr (List.mem_cons_of_mem _ hmem)
    | error e =>
      refine hnext more h'' (hmore.cons first.1) (hstanding.weaken ?_)
      rintro g k ((hheld | ⟨-, hk⟩) | hmem)
      · exact .inl hheld
      · cases hk
      · exact .inr hmem

end

/-! ## Places -/

theorem get_install (fs : List Facility) (created : List (Facility × Nat)) (p : Places)
    (g : Facility) : (fs.foldl (fun p f => p.set f (created.lookup f)) p).get g =
      if g ∈ fs then created.lookup g else p.get g := by
  induction fs generalizing p with
  | nil => rfl
  | cons f rest ih =>
    rw [List.foldl_cons, ih]
    by_cases hrest : g ∈ rest
    · rw [if_pos hrest, if_pos (List.mem_cons_of_mem f hrest)]
    · rw [if_neg hrest]
      by_cases hg : g = f
      · rw [hg, PerFacility.get_set_self, if_pos List.mem_cons_self]
      · rw [PerFacility.get_set_of_ne _ _ hg, if_neg]
        rw [List.mem_cons]
        exact not_or.mpr ⟨hg, hrest⟩

theorem lookup_of_mem {created : List (Facility × Nat)} (distinct : (created.map Prod.fst).Nodup)
    (mem : (f, n) ∈ created) : created.lookup f = some n := by
  induction created with
  | nil => cases mem
  | cons first rest ih =>
    obtain ⟨hfirst, hrest⟩ := List.nodup_cons.mp distinct
    rw [List.lookup_cons]
    rcases List.mem_cons.mp mem with rfl | hmem
    · simp
    · have hne : (f == first.1) = false :=
        beq_false_of_ne fun heq => hfirst (heq ▸ List.mem_map_of_mem hmem)
      rw [hne]
      exact ih hrest hmem

/-- What has been created for these places is found there afterwards; other places are left alone. -/
theorem placed_install {h₀ h : Host υ} {i : Nat} {held : Facility → Nat → Prop} {places : Places}
    {fs : List Facility} {created : List (Facility × Nat)} (distinct : fs.Nodup)
    (wanted : created.map Prod.fst <+ fs)
    (standing : Standing h₀ i (fun g k => held g k ∨ (g, k) ∈ created) places h)
    (apart : ∀ g k, held g k → g ∉ fs ∧ places.get g = some k) :
    ∃ places', Standing h₀ i (fun g k => (held g k ∨ g ∈ fs) ∧ places'.get g = some k) places'
      (h.modifyModem i (install fs created)) := by
  let fill (p : Places) : Places := fs.foldl (fun p f => p.set f (created.lookup f)) p
  have hfilled : ∀ m, (install fs created m).facilities = fill m.facilities := fun _ => rfl
  -- What was held before is in other places, and what is new is found under its own facility.
  refine ⟨fill places, (standing.placed fill hfilled).weaken ?_⟩
  rintro g k (hheld | hmem)
  · obtain ⟨hg, hplace⟩ := apart g k hheld
    exact ⟨.inl hheld, by rw [get_install, if_neg hg, hplace]⟩
  · have hg : g ∈ fs := wanted.subset (List.mem_map_of_mem hmem)
    refine ⟨.inr hg, ?_⟩
    rw [get_install, if_pos hg]
    exact lookup_of_mem (distinct.sublist wanted) hmem

/-! ## The whole way up and down -/

/-- There is nothing to take down. -/
def Idle (h₀ : Host υ) (i : Nat) (h : Host υ) : Prop :=
  ∃ places, Standing h₀ i (fun _ _ => False) places h

/-- All there is to take down is in the places of the modem. -/
def Furnished (h₀ : Host υ) (i : Nat) (h : Host υ) : Prop :=
  ∃ places : Places, Standing h₀ i (fun f n => places.get f = some n) places h

theorem stable_idle {h₀ : Host υ} {i : Nat} {ok : Event → Prop} : Stable (Deed ok) (Idle h₀ i) :=
  fun h h' deed ⟨places, standing⟩ => ⟨places, Standing.stable h h' deed standing⟩

theorem stable_furnished {h₀ : Host υ} {i : Nat} {ok : Event → Prop} :
    Stable (Deed ok) (Furnished h₀ i) :=
  fun h h' deed ⟨places, standing⟩ => ⟨places, Standing.stable h h' deed standing⟩

theorem Idle.furnished {h₀ h : Host υ} {i : Nat} (idle : Idle h₀ i h) : Furnished h₀ i h := by
  obtain ⟨places, standing⟩ := idle
  exact ⟨places, standing.weaken fun _ _ => False.elim⟩

theorem Idle.dead {h₀ h : Host υ} {i : Nat} (idle : Idle h₀ i h) {a : Account}
    (found : h.account? f n = some a) : a.Dead := by
  obtain ⟨places, standing⟩ := idle
  by_cases hnew : h₀.account? f n = none
  · rcases standing.new f n a hnew found with hspare | ⟨-, hremoved | hheld⟩
    · exact hspare.dead
    · exact .inl hremoved
    · exact hheld.elim
  · exact standing.old f n a hnew found

section

variable {h₀ h : Host υ} {i : Nat} {places : Places} {kept post : Host υ → Prop}

theorem wanted_basic (model : Model) : model.basicFacilities.map Prod.fst <+ basic := by
  cases model <;> decide

theorem wanted_online (model : Model) : model.onlineFacilities.map Prod.fst <+ online := by
  cases model <;> decide

theorem preSim_keeps (hkept : Stable Ordinary kept) (model : Model)
    (standing : Standing h₀ i (fun _ _ => False) places h) {next : Unit → Routine (Host υ)}
    (hnext : ∀ places' h',
      Standing h₀ i (fun f n => f ∈ basic ∧ places'.get f = some n) places' h' →
      (next ()).Keeps kept Anything post h') :
    (preSim i model next).Keeps kept Anything post h := by
  refine createEach_keeps hkept model.basicFacilities standing fun created h' hwanted hcreated => ?_
  obtain ⟨places', hstanding⟩ := placed_install (by decide)
    (hwanted.trans (wanted_basic model)) hcreated fun _ _ => False.elim
  have hbasic : Standing h₀ i (fun f n => f ∈ basic ∧ places'.get f = some n) places' _ :=
    hstanding.weaken fun f n ⟨hf, hplace⟩ => ⟨hf.resolve_left id, hplace⟩
  cases model with
  | le910v2 =>
    have hboard := (made_settleMultitech (υ := υ) i).mono fun _ _ => Work.ordinary
    exact Act.prompt_fork hboard.tame kept _ post hkept Standing.stable _ _ hbasic
      fun _ h'' => hnext places' h''
  | telitSerial | ge910 => exact hnext places' _ hbasic

theorem postOnline_keeps (hkept : Stable Ordinary kept) (model : Model)
    (standing : Standing h₀ i (fun f n => f ∈ basic ∧ places.get f = some n) places h)
    {next : Unit → Routine (Host υ)}
    (hnext : ∀ h', Furnished h₀ i h' → (next ()).Keeps kept Anything post h') :
    (postOnline i model next).Keeps kept Anything post h := by
  refine createEach_keeps hkept model.onlineFacilities standing fun created h' hwanted hcreated => ?_
  obtain ⟨places', hstanding⟩ := placed_install (by decide)
    (hwanted.trans (wanted_online model)) hcreated fun f n ⟨hf, hplace⟩ =>
      ⟨(by decide : ∀ f ∈ basic, f ∉ online) f hf, hplace⟩
  have hattach : (do
      let _ ← (attempt "AT#AUTOATT=1").run : Act (Host υ) Unit).Tame Ordinary Anything :=
    Act.Made.tame ((made_attempt _).bind fun _ => Act.made_pure _)
  exact Act.prompt_fork hattach kept _ post hkept stable_furnished _ _
    ⟨places', hstanding.weaken fun _ _ => And.right⟩ fun _ h'' => hnext h''

/-- The facilities are created in one go. -/
theorem furnish_keeps (model : Model) (idle : Idle h₀ i h) {next : Unit → Routine (Host υ)}
    (hnext : ∀ h', Furnished h₀ i h' → (next ()).Keeps (Furnished h₀ i) Anything (Furnished h₀ i) h') :
    (preSim i model fun _ => postOnline i model next).Keeps (Furnished h₀ i) Anything
      (Furnished h₀ i) h := by
  obtain ⟨places, standing⟩ := idle
  exact preSim_keeps stable_furnished model standing fun places' h' hstanding =>
    postOnline_keeps stable_furnished model hstanding hnext

end

theorem dismissAll_standing {h₀ h : Host υ} {i : Nat} {held : Facility → Nat → Prop}
    {places : Places} (removed : Places) (fs : List Facility)
    (standing : Standing h₀ i held places h) :
    Standing h₀ i (fun f n => held f n ∧ ¬ (f ∈ fs ∧ removed.get f = some n)) places
      (dismissAll removed fs h) := by
  induction fs generalizing held h with
  | nil => exact standing.weaken fun f n hheld => ⟨hheld, fun hmem => List.not_mem_nil hmem.1⟩
  | cons f rest ih =>
    unfold dismissAll
    cases hplace : removed.get f with
    | none =>
      refine (ih standing).weaken ?_
      rintro g k ⟨hheld, hkept⟩
      refine ⟨hheld, ?_⟩
      rintro ⟨hg, hremoved⟩
      rcases List.mem_cons.mp hg with rfl | hg
      · rw [hplace] at hremoved
        cases hremoved
      · exact hkept ⟨hg, hremoved⟩
    | some n =>
      refine (ih (standing.dismissed f n)).weaken ?_
      rintro g k ⟨⟨hheld, hne⟩, hkept⟩
      refine ⟨hheld, ?_⟩
      rintro ⟨hg, hremoved⟩
      rcases List.mem_cons.mp hg with rfl | hg
      · rw [hplace] at hremoved
        exact hne ⟨rfl, (Option.some.inj hremoved).symm⟩
      · exact hkept ⟨hg, hremoved⟩

/-- Once the facilities have been removed there is nothing left to take down. -/
theorem removeFacilities_idle {h₀ h : Host υ} {i : Nat} (furnished : Furnished h₀ i h) :
    Idle h₀ i (removeFacilities i h) := by
  obtain ⟨places, standing⟩ := furnished
  obtain ⟨m, hm, rfl⟩ := Option.map_eq_some_iff.mp standing.places
  let emptied (m : Modem) : Modem := { m with facilities := .ofFn fun _ => none }
  have hemptied := standing.placed (fun _ => .ofFn fun _ => none) fun m =>
    (rfl : (emptied m).facilities = _)
  rw [removeFacilities_of_modem hm]
  refine ⟨_, (dismissAll_standing m.facilities (basic ++ online) hemptied).weaken ?_⟩
  exact fun f n ⟨hplace, hleft⟩ => hleft ⟨(by cases f <;> decide), hplace⟩

end Modem

end CellModem
