import ListeningCharts.Proofs.Shown
import Mathlib.Data.List.Forall2
import Mathlib.Logic.Relation

/-! # Runs of an update

    An update is a run: it acts on a state and ends with a value or with an error. This module says
    what a run of each part consists of, so that no other proof has to open the parts.

    * **Success**: a run succeeds if and only if its steps do, one after the other, and then it
      returns what they returned, put together (`updateFamily_eq_ok_iff`,
      `updateFamilies_cons_eq_ok_iff`, `computeUpdate_eq_ok_iff`).
    * **Failure**: a pass over one family fails at its scan or at a fetch
      (`updateFamily_eq_error`).
    * **State**: whether it succeeds or fails, an update changes the state by its requests only
      (`takes_computeUpdate`).
-/

namespace ListeningCharts

variable {σ α β : Type}

namespace Run

/-! ## Steps -/

@[simp] theorem pure_apply (a : α) (s : σ) : (pure a : Run σ α) s = (.ok a, s) := rfl

@[simp] theorem ofExcept_apply (outcome : Except Error α) (s : σ) :
    Run.ofExcept outcome s = (outcome, s) := rfl

theorem ofExcept_eq_ok_iff {outcome : Except Error α} {s s' : σ} {a : α} :
    Run.ofExcept outcome s = (.ok a, s') ↔ outcome = .ok a ∧ s' = s := by
  constructor
  · intro h
    exact ⟨congrArg Prod.fst h, (congrArg Prod.snd h).symm⟩
  · rintro ⟨rfl, rfl⟩
    rfl

theorem bind_apply (x : Run σ α) (k : α → Run σ β) (s : σ) :
    (x >>= k) s = match x s with
      | (.ok a, t) => k a t
      | (.error e, t) => (.error e, t) := by
  show ExceptT.bindCont k (x s).1 (x s).2 = _
  rcases x s with ⟨e | a, t⟩ <;> rfl

theorem bind_eq_ok_iff {x : Run σ α} {k : α → Run σ β} {s s' : σ} {b : β} :
    (x >>= k) s = (.ok b, s') ↔ ∃ a t, x s = (.ok a, t) ∧ k a t = (.ok b, s') := by
  rw [bind_apply]
  rcases x s with ⟨e | a, t⟩
  · constructor
    · intro h
      cases h
    · rintro ⟨a, t', h, -⟩
      cases h
  · constructor
    · exact fun h => ⟨a, t, rfl, h⟩
    · rintro ⟨a', t', h, hk⟩
      cases h
      exact hk

theorem bind_eq_error_iff {x : Run σ α} {k : α → Run σ β} {s s' : σ} {e : Error} :
    (x >>= k) s = (.error e, s') ↔
      x s = (.error e, s') ∨ ∃ a t, x s = (.ok a, t) ∧ k a t = (.error e, s') := by
  rw [bind_apply]
  rcases x s with ⟨e' | a, t⟩
  · constructor
    · intro h
      cases h
      exact .inl rfl
    · rintro (h | ⟨a, t', h, -⟩)
      · cases h
        rfl
      · cases h
  · constructor
    · exact fun h => .inr ⟨a, t, rfl, h⟩
    · rintro (h | ⟨a', t', h, hk⟩)
      · cases h
      · cases h
        exact hk

/-! ## One step for each element -/

theorem mapM_cons_eq_ok_iff {k : α → Run σ β} {a : α} {as : List α} {s s' : σ} {bs : List β} :
    (a :: as).mapM k s = (.ok bs, s') ↔
      ∃ b t others, k a s = (.ok b, t) ∧ as.mapM k t = (.ok others, s') ∧ bs = b :: others := by
  rw [List.mapM_cons, bind_eq_ok_iff]
  constructor
  · rintro ⟨b, t, hb, hrest⟩
    obtain ⟨others, t', hothers, hpure⟩ := bind_eq_ok_iff.1 hrest
    cases hpure
    exact ⟨b, t, others, hb, hothers, rfl⟩
  · rintro ⟨b, t, others, hb, hothers, rfl⟩
    exact ⟨b, t, hb, bind_eq_ok_iff.2 ⟨others, s', hothers, rfl⟩⟩

theorem mapM_nil_eq_ok_iff {k : α → Run σ β} {s s' : σ} {bs : List β} :
    ([] : List α).mapM k s = (.ok bs, s') ↔ bs = [] ∧ s' = s := by
  rw [List.mapM_nil, pure_apply]
  constructor
  · intro h
    cases h
    exact ⟨rfl, rfl⟩
  · rintro ⟨rfl, rfl⟩
    rfl

/-- Elements that are handled in two parts are handled one part after the other. -/
theorem mapM_append_eq_ok_iff {k : α → Run σ β} {as as' : List α} {s s' : σ} {bs : List β} :
    (as ++ as').mapM k s = (.ok bs, s') ↔
      ∃ front back t, as.mapM k s = (.ok front, t) ∧ as'.mapM k t = (.ok back, s') ∧
        bs = front ++ back := by
  induction as generalizing s bs with
  | nil =>
    constructor
    · exact fun h => ⟨[], bs, s, mapM_nil_eq_ok_iff.2 ⟨rfl, rfl⟩, h, rfl⟩
    · rintro ⟨front, back, t, hfront, hback, rfl⟩
      obtain ⟨rfl, rfl⟩ := mapM_nil_eq_ok_iff.1 hfront
      exact hback
  | cons a as ih =>
    rw [List.cons_append, mapM_cons_eq_ok_iff]
    constructor
    · rintro ⟨b, t, others, hb, hothers, rfl⟩
      obtain ⟨front, back, t', hfront, hback, rfl⟩ := ih.1 hothers
      exact ⟨b :: front, back, t', mapM_cons_eq_ok_iff.2 ⟨b, t, front, hb, hfront, rfl⟩, hback, rfl⟩
    · rintro ⟨front, back, t', hfront, hback, rfl⟩
      obtain ⟨b, t, others, hb, hothers, rfl⟩ := mapM_cons_eq_ok_iff.1 hfront
      exact ⟨b, t, others ++ back, hb, ih.2 ⟨others, back, t', hothers, hback, rfl⟩, rfl⟩

/-- What is returned for each element was returned by a step for it. -/
theorem forall₂_of_mapM {k : α → Run σ β} {as : List α} {s s' : σ} {bs : List β}
    (h : as.mapM k s = (.ok bs, s')) :
    List.Forall₂ (fun a b => ∃ t t', k a t = (.ok b, t')) as bs := by
  induction as generalizing s bs with
  | nil =>
    rw [(mapM_nil_eq_ok_iff.1 h).1]
    exact .nil
  | cons a as ih =>
    obtain ⟨b, t, others, hb, hothers, rfl⟩ := mapM_cons_eq_ok_iff.1 h
    exact .cons ⟨s, t, hb⟩ (ih hothers)

/-- Steps that can return one result only. -/
theorem eq_map_of_mapM {k : α → Run σ β} {result : α → β}
    (hk : ∀ a t b t', k a t = (.ok b, t') → b = result a) {as : List α} {s s' : σ} {bs : List β}
    (h : as.mapM k s = (.ok bs, s')) : bs = as.map result := by
  induction as generalizing s bs with
  | nil => exact (mapM_nil_eq_ok_iff.1 h).1
  | cons a as ih =>
    obtain ⟨b, t, others, hb, hothers, rfl⟩ := mapM_cons_eq_ok_iff.1 h
    rw [List.map_cons, hk a s b t hb, ih hothers]

/-- If handling all elements fails, the step for one of them failed so. -/
theorem exists_of_mapM_eq_error {k : α → Run σ β} {as : List α} {s s' : σ} {e : Error}
    (h : as.mapM k s = (.error e, s')) : ∃ a ∈ as, ∃ t, k a t = (.error e, s') := by
  induction as generalizing s with
  | nil => cases h
  | cons a as ih =>
    rw [List.mapM_cons, bind_eq_error_iff] at h
    rcases h with h | ⟨b, t, -, h⟩
    · exact ⟨a, List.mem_cons_self, s, h⟩
    · rcases bind_eq_error_iff.1 h with h | ⟨others, t', -, h⟩
      · obtain ⟨a', ha', hstep⟩ := ih h
        exact ⟨a', List.mem_cons_of_mem _ ha', hstep⟩
      · cases h

/-- Steps that succeed from every state, with a result that does not depend on it. -/
theorem exists_mapM_eq_ok {k : α → Run σ β} {result : α → β} {as : List α}
    (h : ∀ a ∈ as, ∀ s, ∃ s', k a s = (.ok (result a), s')) (s : σ) :
    ∃ s', as.mapM k s = (.ok (as.map result), s') := by
  induction as generalizing s with
  | nil => exact ⟨s, mapM_nil_eq_ok_iff.2 ⟨rfl, rfl⟩⟩
  | cons a as ih =>
    obtain ⟨ha, has⟩ := List.forall_mem_cons.1 h
    obtain ⟨t, ht⟩ := ha s
    obtain ⟨s', hs'⟩ := ih has t
    exact ⟨s', mapM_cons_eq_ok_iff.2 ⟨_, t, _, ht, hs', rfl⟩⟩

/-- A run is told from its outcome and the state after it. -/
theorem exists_eq_ok {x : Run σ α} {s s' : σ} {p : α → Bool}
    (houtcome : (x s).1.toOption.any p = true) (hstate : (x s).2 = s') :
    ∃ a, x s = (.ok a, s') ∧ p a = true := by
  obtain ⟨a, ha, hp⟩ := exists_ok_of_any houtcome
  exact ⟨a, Prod.ext ha hstate, hp⟩

/-! ## What a run does to the state -/

section Steps

variable {step : σ → σ → Prop}

/-- The run changes the state in some steps, one after the other, and not otherwise, however it
    ends. -/
def Takes (step : σ → σ → Prop) (x : Run σ α) : Prop := ∀ s, Relation.ReflTransGen step s (x s).2

theorem Takes.pure (a : α) : Takes step (Pure.pure a : Run σ α) := fun _ => .refl

theorem Takes.ofExcept (outcome : Except Error α) :
    Takes step (Run.ofExcept outcome : Run σ α) := fun _ => .refl

/-- A run that goes on in steps takes steps, too; it only goes on with what it may return. -/
theorem Takes.bind_of_ok {x : Run σ α} {k : α → Run σ β} (hx : Takes step x)
    (hk : ∀ a s t, x s = (.ok a, t) → Takes step (k a)) : Takes step (x >>= k) := by
  intro s
  have hs := hx s
  rw [bind_apply]
  generalize hout : x s = outcome at hs ⊢
  rcases outcome with ⟨e | a, t⟩
  · exact hs
  · exact hs.trans (hk a s t hout t)

theorem Takes.bind {x : Run σ α} {k : α → Run σ β} (hx : Takes step x)
    (hk : ∀ a, Takes step (k a)) : Takes step (x >>= k) :=
  hx.bind_of_ok fun a _ _ _ => hk a

theorem Takes.mapM {k : α → Run σ β} {as : List α} (hk : ∀ a ∈ as, Takes step (k a)) :
    Takes step (as.mapM k) := by
  induction as with
  | nil => exact Takes.pure _
  | cons a as ih =>
    obtain ⟨ha, has⟩ := List.forall_mem_cons.1 hk
    rw [List.mapM_cons]
    exact ha.bind fun _ => (ih has).bind fun _ => Takes.pure _

end Steps

/-- The run does not change what can be seen of the state, however it ends. -/
def Keeps {ρ : Type} (view : σ → ρ) (x : Run σ α) : Prop := ∀ s, view (x s).2 = view s

end Run

/-! ## Regions -/

/-- The report on a region that was rendered from a listing. -/
def Region.report (r : Region) (working : Text) (options : UpdateOptions) (listing : Listing) :
    RegionUpdate where
  family := r.family
  startMarker := r.startMarker
  line := r.lineIn working
  records := listing.length
  changed := r.render listing options != r.fullText

variable {source : Source σ} {options : UpdateOptions} {working updated : Text} {s s' : σ}
  {e : Error}

/-- Rendering a region is a fetch, and then no step can fail. -/
theorem renderRegion_eq (source : Source σ) (options : UpdateOptions) (working : Text) (r : Region) :
    renderRegion source options working r = do
      let listing ← fetch source options r
      return (r.report working options listing, r, r.render listing options) := rfl

/-- Rendering some regions is one fetch for each of them. -/
theorem mapM_renderRegion_eq_ok_iff {regions : List Region}
    {rendered : List (RegionUpdate × Region × Text)} :
    regions.mapM (renderRegion source options working) s = (.ok rendered, s') ↔
      ∃ listings, regions.mapM (fetch source options) s = (.ok listings, s') ∧
        rendered = List.zipWith
          (fun r listing => (r.report working options listing, r, r.render listing options))
          regions listings := by
  induction regions generalizing s rendered with
  | nil =>
    rw [Run.mapM_nil_eq_ok_iff]
    constructor
    · rintro ⟨rfl, rfl⟩
      exact ⟨[], Run.mapM_nil_eq_ok_iff.2 ⟨rfl, rfl⟩, rfl⟩
    · rintro ⟨listings, hlistings, rfl⟩
      exact ⟨List.zipWith_nil_left, (Run.mapM_nil_eq_ok_iff.1 hlistings).2⟩
  | cons r regions ih =>
    rw [Run.mapM_cons_eq_ok_iff]
    constructor
    · rintro ⟨b, t, others, hb, hothers, rfl⟩
      obtain ⟨listing, t', hlisting, hpure⟩ := Run.bind_eq_ok_iff.1 hb
      cases hpure
      obtain ⟨listings, hlistings, rfl⟩ := ih.1 hothers
      exact ⟨listing :: listings, Run.mapM_cons_eq_ok_iff.2 ⟨_, _, _, hlisting, hlistings, rfl⟩, rfl⟩
    · rintro ⟨listings, hlistings, rfl⟩
      obtain ⟨listing, t, others, hlisting, hothers, rfl⟩ := Run.mapM_cons_eq_ok_iff.1 hlistings
      exact ⟨_, t, _, Run.bind_eq_ok_iff.2 ⟨listing, t, hlisting, rfl⟩, ih.2 ⟨others, hothers, rfl⟩,
        rfl⟩

/-! ## Families -/

/-- The regions with the texts that replace them. -/
def replacements (options : UpdateOptions) (regions : List Region) (listings : List Listing) :
    List (Region × Text) :=
  List.zipWith (fun r listing => (r, r.render listing options)) regions listings

theorem updateFamily_eq_ok_iff {f : Family} {updates : List RegionUpdate} :
    updateFamily source options working f s = (.ok (updated, updates), s') ↔
      ∃ regions listings, scan f working = .ok regions ∧
        regions.mapM (fetch source options) s = (.ok listings, s') ∧
        updated = spliceAll working (replacements options regions listings) ∧
        updates = List.zipWith (fun r listing => r.report working options listing) regions
          listings := by
  rw [updateFamily, Run.bind_eq_ok_iff]
  constructor
  · rintro ⟨regions, t, hscan, hrest⟩
    obtain ⟨rendered, t', hrendered, hpure⟩ := Run.bind_eq_ok_iff.1 hrest
    obtain ⟨hok, rfl⟩ := Run.ofExcept_eq_ok_iff.1 hscan
    obtain ⟨listings, hlistings, rfl⟩ := mapM_renderRegion_eq_ok_iff.1 hrendered
    cases hpure
    exact ⟨regions, listings, hok, hlistings, by rw [List.map_zipWith]; rfl,
      by rw [List.map_zipWith]⟩
  · rintro ⟨regions, listings, hscan, hlistings, rfl, rfl⟩
    refine ⟨regions, s, Run.ofExcept_eq_ok_iff.2 ⟨hscan, rfl⟩, Run.bind_eq_ok_iff.2
      ⟨_, s', mapM_renderRegion_eq_ok_iff.2 ⟨listings, hlistings, rfl⟩, ?_⟩⟩
    rw [Run.pure_apply, List.map_zipWith, List.map_zipWith]
    rfl

/-- A pass over one family fails at its scan or at a fetch. -/
theorem updateFamily_eq_error {f : Family}
    (h : updateFamily source options working f s = (.error e, s')) :
    scan f working = .error e ∨ ∃ r t, fetch source options r t = (.error e, s') := by
  rw [updateFamily, Run.bind_eq_error_iff] at h
  rcases h with h | ⟨regions, t, -, h⟩
  · exact .inl (congrArg Prod.fst h)
  · rcases Run.bind_eq_error_iff.1 h with h | ⟨rendered, t', -, h⟩
    · obtain ⟨r, -, t', hr⟩ := Run.exists_of_mapM_eq_error h
      -- a region that was fetched is rendered without a failure
      rw [renderRegion_eq, Run.bind_eq_error_iff] at hr
      rcases hr with hr | ⟨listing, t'', -, hr⟩
      · exact .inr ⟨r, t', hr⟩
      · cases hr
    · cases h

theorem updateFamilies_nil_eq_ok_iff {updates : List RegionUpdate} :
    updateFamilies source options [] working s = (.ok (updated, updates), s') ↔
      updated = working ∧ updates = [] ∧ s' = s := by
  rw [updateFamilies, Run.pure_apply]
  constructor
  · intro h
    cases h
    exact ⟨rfl, rfl, rfl⟩
  · rintro ⟨rfl, rfl, rfl⟩
    rfl

theorem updateFamilies_cons_eq_ok_iff {f : Family} {families : List Family}
    {updates : List RegionUpdate} :
    updateFamilies source options (f :: families) working s = (.ok (updated, updates), s') ↔
      ∃ next first t more, updateFamily source options working f s = (.ok (next, first), t) ∧
        updateFamilies source options families next t = (.ok (updated, more), s') ∧
        updates = first ++ more := by
  rw [updateFamilies, Run.bind_eq_ok_iff]
  constructor
  · rintro ⟨⟨next, first⟩, t, hfirst, hrest⟩
    obtain ⟨⟨result, more⟩, t', hmore, hpure⟩ := Run.bind_eq_ok_iff.1 hrest
    cases hpure
    exact ⟨next, first, t, more, hfirst, hmore, rfl⟩
  · rintro ⟨next, first, t, more, hfirst, hmore, rfl⟩
    exact ⟨(next, first), t, hfirst, Run.bind_eq_ok_iff.2 ⟨(updated, more), s', hmore, rfl⟩⟩

theorem updateFamilies_cons_eq_error {f : Family} {families : List Family}
    (h : updateFamilies source options (f :: families) working s = (.error e, s')) :
    updateFamily source options working f s = (.error e, s') ∨
      ∃ next first t, updateFamily source options working f s = (.ok (next, first), t) ∧
        updateFamilies source options families next t = (.error e, s') := by
  rw [updateFamilies, Run.bind_eq_error_iff] at h
  rcases h with h | ⟨⟨next, first⟩, t, hfirst, h⟩
  · exact .inl h
  · rcases Run.bind_eq_error_iff.1 h with h | ⟨_, _, -, h⟩
    · exact .inr ⟨next, first, t, hfirst, h⟩
    · cases h

/-! ## Documents -/

theorem computeUpdate_eq_ok_iff {document : Text} {u : DocumentUpdate} :
    computeUpdate source options document s = (.ok u, s') ↔
      ∃ regions updated updates, scanAll document = .ok regions ∧
        updateFamilies source options Family.all document s = (.ok (updated, updates), s') ∧
        u = { previous := document, updated, regions := updates } := by
  rw [computeUpdate, Run.bind_eq_ok_iff]
  constructor
  · rintro ⟨regions, t, hscan, hrest⟩
    obtain ⟨⟨updated, updates⟩, t', hupdated, hpure⟩ := Run.bind_eq_ok_iff.1 hrest
    obtain ⟨hok, rfl⟩ := Run.ofExcept_eq_ok_iff.1 hscan
    cases hpure
    exact ⟨regions, updated, updates, hok, hupdated, rfl⟩
  · rintro ⟨regions, updated, updates, hscan, hupdated, rfl⟩
    exact ⟨regions, s, Run.ofExcept_eq_ok_iff.2 ⟨hscan, rfl⟩,
      Run.bind_eq_ok_iff.2 ⟨(updated, updates), s', hupdated, rfl⟩⟩

theorem computeUpdate_eq_error {document : Text} {regions : List Region}
    (hscan : scanAll document = .ok regions)
    (h : computeUpdate source options document s = (.error e, s')) :
    updateFamilies source options Family.all document s = (.error e, s') := by
  rw [computeUpdate, Run.bind_eq_error_iff] at h
  rcases h with h | ⟨_, t, ht, h⟩
  · rw [Run.ofExcept_apply, hscan] at h
    cases h
  · obtain ⟨-, rfl⟩ := Run.ofExcept_eq_ok_iff.1 ht
    rcases Run.bind_eq_error_iff.1 h with h | ⟨_, _, -, h⟩
    · exact h
    · cases h

/-! ## The source of an update -/

/-- What a source does to the state while it replies to a request. -/
def Source.Step (source : Source σ) (s s' : σ) : Prop := ∃ q, s' = (source q s).2

section Fetches

variable {step : σ → σ → Prop} (hfetch : ∀ f working regions, scan f working = .ok regions →
  ∀ r ∈ regions, Run.Takes step (fetch source options r))

include hfetch

/-- The passes of an update take the steps that it takes to fetch the regions which a scan may
    find. -/
theorem takes_updateFamilies_of_fetch (families : List Family) (working : Text) :
    Run.Takes step (updateFamilies source options families working) := by
  have hfamily : ∀ working f, Run.Takes step (updateFamily source options working f) := by
    intro working f
    refine (Run.Takes.ofExcept _).bind_of_ok fun regions s t hscan => ?_
    have hregions := hfetch f working regions (Run.ofExcept_eq_ok_iff.1 hscan).1
    exact (Run.Takes.mapM fun r hr => (hregions r hr).bind fun _ => Run.Takes.pure _).bind fun _ =>
      Run.Takes.pure _
  induction families generalizing working with
  | nil => exact Run.Takes.pure _
  | cons f families ih =>
    exact (hfamily working f).bind fun first => (ih first.1).bind fun _ => Run.Takes.pure _

/-- An update takes the steps that it takes to fetch the regions which a scan may find. -/
theorem takes_computeUpdate_of_fetch (document : Text) :
    Run.Takes step (computeUpdate source options document) :=
  (Run.Takes.ofExcept _).bind fun _ =>
    (takes_updateFamilies_of_fetch hfetch _ _).bind fun _ => Run.Takes.pure _

end Fetches

/-- **An update changes the state by its requests only**, whether it succeeds or not. -/
theorem takes_computeUpdate (source : Source σ) (options : UpdateOptions) (document : Text) :
    Run.Takes source.Step (computeUpdate source options document) :=
  takes_computeUpdate_of_fetch (fun _ _ _ _ _ _ _ => .single ⟨_, rfl⟩) document

/-- What a source keeps in every reply is kept by all its steps. -/
theorem Source.invariant_of_steps {p : σ → Prop} (hsource : ∀ q s, p s → p (source q s).2)
    (h : Relation.ReflTransGen source.Step s s') (hs : p s) : p s' := by
  induction h with
  | refl => exact hs
  | tail _ hstep ih =>
    obtain ⟨q, rfl⟩ := hstep
    exact hsource q _ ih

/-- An update leaves alone what its source leaves alone. -/
theorem keeps_computeUpdate {ρ : Type} {view : σ → ρ} (hsource : ∀ q, Run.Keeps view (source q))
    (document : Text) : Run.Keeps view (computeUpdate source options document) := by
  intro s
  have hsteps := takes_computeUpdate source options document s
  exact Source.invariant_of_steps (p := fun t => view t = view s)
    (fun q t ht => (hsource q t).trans ht) hsteps rfl

end ListeningCharts
