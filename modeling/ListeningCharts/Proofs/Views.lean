import ListeningCharts.Proofs.Runs

/-! # Views of a run

    What is left of a run when part of it is not looked at.

    * The **ending** of a run is whether it succeeds, with which error if it does not, and in which
      state. What it returns is left out, so runs that return different things can end alike
      (`Run.ending_bind_congr`).
    * A run **mirrors** another one if a view of its states turns it into the other. A source may
      do more to the state than another one, such as keeping a log of its requests, or have a store
      at its side; if it replies alike, then updates with it mirror the updates with the other
      (`mirrors_computeUpdate`).
-/

namespace ListeningCharts

variable {ρ σ τ α β γ δ : Type}

namespace Run

/-! ## Endings -/

/-- How a run ends, whatever it returns. -/
def ending (x : Run σ α) (s : σ) : Except Error Unit × σ := ((x s).1.map fun _ => (), (x s).2)

variable {x : Run σ α} {y : Run σ β} {s s' : σ} {e : Error}

theorem ending_of_ok {a : α} (h : x s = (.ok a, s')) : x.ending s = (.ok (), s') := by
  unfold ending
  rw [h]
  rfl

theorem ending_of_error (h : x s = (.error e, s')) : x.ending s = (.error e, s') := by
  unfold ending
  rw [h]
  rfl

/-- A run that ends in success has returned something. -/
theorem exists_of_ending (h : x.ending s = (.ok (), s')) : ∃ a, x s = (.ok a, s') := by
  unfold ending at h
  generalize x s = outcome at h
  rcases outcome with ⟨e | a, t⟩ <;> cases h
  exact ⟨a, rfl⟩

theorem eq_error_of_ending (h : x.ending s = (.error e, s')) : x s = (.error e, s') := by
  unfold ending at h
  generalize x s = outcome at h
  rcases outcome with ⟨e | a, t⟩ <;> cases h
  rfl

/-- Runs end alike if their first parts do, and what follows these does. -/
theorem ending_bind_congr {k : α → Run σ γ} {l : β → Run σ δ} (hfirst : x.ending s = y.ending s)
    (hrest : ∀ a b t, x s = (.ok a, t) → y s = (.ok b, t) → (k a).ending t = (l b).ending t) :
    (x >>= k).ending s = (y >>= l).ending s := by
  unfold ending at hfirst hrest ⊢
  rw [bind_apply, bind_apply]
  generalize x s = outcome at hfirst hrest ⊢
  generalize y s = outcome' at hfirst hrest ⊢
  -- both first parts fail with one error, or both go on from one state
  rcases outcome with ⟨e | a, t⟩
  · rcases outcome' with ⟨e' | b, t'⟩ <;> cases hfirst
    rfl
  · rcases outcome' with ⟨e' | b, t'⟩ <;> cases hfirst
    exact hrest a b t rfl rfl

/-- What is made of the value in the end does not matter. -/
theorem ending_bind_pure (x : Run σ α) (g : α → β) (s : σ) :
    (x >>= fun a => pure (g a)).ending s = x.ending s := by
  unfold ending
  rw [bind_apply]
  rcases x s with ⟨e | a, t⟩ <;> rfl

theorem ending_mapM_congr {k : α → Run σ β} {l : α → Run σ γ}
    (h : ∀ a s, (k a).ending s = (l a).ending s) (as : List α) (s : σ) :
    (as.mapM k).ending s = (as.mapM l).ending s := by
  induction as generalizing s with
  | nil => rfl
  | cons a as ih =>
    rw [List.mapM_cons, List.mapM_cons]
    apply ending_bind_congr (h a s)
    intro b c t _ _
    rw [ending_bind_pure, ending_bind_pure]
    exact ih t

/-! ## Mirrors -/

/-- The runs have the same outcome, and the states of the second are views of those of the first. -/
def Mirrors (view : ρ → σ) (x : Run ρ α) (y : Run σ α) : Prop :=
  ∀ s, y (view s) = ((x s).1, view (x s).2)

variable {view : ρ → σ}

theorem Mirrors.pure (a : α) : Mirrors view (Pure.pure a) (Pure.pure a) := fun _ => rfl

theorem Mirrors.ofExcept (outcome : Except Error α) :
    Mirrors view (Run.ofExcept outcome) (Run.ofExcept outcome) := fun _ => rfl

theorem Mirrors.bind {x : Run ρ α} {y : Run σ α} {k : α → Run ρ β} {l : α → Run σ β}
    (hx : Mirrors view x y) (hk : ∀ a, Mirrors view (k a) (l a)) :
    Mirrors view (x >>= k) (y >>= l) := by
  intro s
  rw [bind_apply, bind_apply, hx s]
  rcases x s with ⟨e | a, t⟩
  · rfl
  · exact hk a t

theorem Mirrors.mapM {k : α → Run ρ β} {l : α → Run σ β} (hk : ∀ a, Mirrors view (k a) (l a))
    (as : List α) : Mirrors view (as.mapM k) (as.mapM l) := by
  induction as with
  | nil => exact Mirrors.pure _
  | cons a as ih =>
    rw [List.mapM_cons, List.mapM_cons]
    exact (hk a).bind fun _ => ih.bind fun _ => Mirrors.pure _

end Run

/-! ## Updates -/

/-- **Updates mirror each other if their sources do**. -/
theorem mirrors_computeUpdate (view : ρ → σ) {wide : Source ρ} {source : Source σ}
    (hsource : ∀ q, Run.Mirrors view (wide q) (source q)) (options : UpdateOptions)
    (document : Text) :
    Run.Mirrors view (computeUpdate wide options document)
      (computeUpdate source options document) := by
  have hfamily : ∀ working f, Run.Mirrors view (updateFamily wide options working f)
      (updateFamily source options working f) := by
    intro working f
    apply (Run.Mirrors.ofExcept _).bind
    intro regions
    exact (Run.Mirrors.mapM (fun r => (hsource _).bind fun _ => Run.Mirrors.pure _) regions).bind
      fun _ => Run.Mirrors.pure _
  have hfamilies : ∀ families working,
      Run.Mirrors view (updateFamilies wide options families working)
        (updateFamilies source options families working) := by
    -- the text that a family leaves is the same for both, so the next family starts alike
    intro families
    induction families with
    | nil => exact fun working => Run.Mirrors.pure _
    | cons f families ih =>
      exact fun working => (hfamily working f).bind fun first => (ih first.1).bind fun _ =>
        Run.Mirrors.pure _
  exact (Run.Mirrors.ofExcept _).bind fun _ => (hfamilies _ _).bind fun _ => Run.Mirrors.pure _

namespace Source

/-! ## A log of the requests -/

/-- A source that writes down every request in front of its reply. -/
def logged (source : Source σ) : Source (σ × List Request) := fun q (s, log) =>
  ((source q s).1, ((source q s).2, log ++ [q]))

/-- Keeping a log changes nothing else. -/
theorem computeUpdate_logged (source : Source σ) (options : UpdateOptions) (document : Text) (s : σ)
    (log : List Request) :
    computeUpdate source options document s =
      ((computeUpdate source.logged options document (s, log)).1,
        (computeUpdate source.logged options document (s, log)).2.1) :=
  mirrors_computeUpdate Prod.fst (fun _ _ => rfl) options document (s, log)

/-! ## A store at the side -/

/-- A source beside a store, which it leaves alone. -/
def beside (source : Source σ) : Source (τ × σ) := fun q (t, s) =>
  ((source q s).1, (t, (source q s).2))

/-- The store at the side of a source has no part in an update. -/
theorem computeUpdate_beside (source : Source σ) (options : UpdateOptions) (document : Text) (t : τ)
    (s : σ) :
    computeUpdate source.beside options document (t, s) =
      ((computeUpdate source options document s).1,
        (t, (computeUpdate source options document s).2)) := by
  -- seen from the source nothing is beside it, and the store is what every request keeps
  have hmirror : computeUpdate source options document s =
      ((computeUpdate source.beside options document (t, s)).1,
        (computeUpdate source.beside options document (t, s)).2.2) :=
    mirrors_computeUpdate Prod.snd (fun _ _ => rfl) options document (t, s)
  have hsource : ∀ q, Run.Keeps Prod.fst ((source.beside : Source (τ × σ)) q) := fun _ _ => rfl
  have hkeeps : (computeUpdate source.beside options document (t, s)).2.1 = t :=
    keeps_computeUpdate hsource document (t, s)
  rw [hmirror]
  exact Prod.ext rfl (Prod.ext hkeeps rfl)

end Source

end ListeningCharts
