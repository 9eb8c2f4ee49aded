import SqlBuilder.Proofs.Related.Outcome
import SqlBuilder.Session

/-!
# Actions in a session

`runIn` runs an action in a session: what it comes to, and the session after it.

* `Keeps I Q x`: the action keeps the invariant `I`, also where it fails, and what it returns meets
  `Q`.
* `Follows P x y Q`: from a session with `P`, the action fails with the fault of the plain
  computation `y`, or both succeed and `Q` relates what they return and the session.

Both are closed under sequencing and loops.
-/

set_option autoImplicit false

namespace SqlBuilder.Session

/-- What an action comes to in a session, and the session after it. -/
def runIn {α : Type} (r : Reaction) (x : Action α) (s : Session) : Result α × Session :=
  (x.run r).run.run s

variable {α β γ δ : Type} {r : Reaction}

/-! ## Running -/

@[simp] theorem runIn_pure (a : α) (s : Session) : runIn r (pure a) s = (.ok a, s) := rfl

theorem runIn_bind (x : Action α) (k : α → Action β) (s : Session) :
    runIn r (x >>= k) s = match runIn r x s with
      | (.ok a, s') => runIn r (k a) s'
      | (.error f, s') => (.error f, s') := by
  simp only [runIn, ReaderT.run_bind, ExceptT.run_bind, StateT.run_bind]
  generalize StateT.run (ExceptT.run (ReaderT.run x r)) s = p
  obtain ⟨_ | _, _⟩ := p <;> rfl

@[simp] theorem runIn_throw (f : Fault) (s : Session) :
    runIn r (throw f : Action α) s = (.error f, s) := rfl

@[simp] theorem runIn_get (s : Session) : runIn r get s = (.ok s, s) := rfl

@[simp] theorem runIn_set (s s' : Session) : runIn r (set s') s = (.ok (), s') := rfl

@[simp] theorem runIn_modify (f : Session → Session) (s : Session) :
    runIn r (modify f) s = (.ok (), f s) := rfl

@[simp] theorem runIn_ofResult (y : Result α) (s : Session) :
    runIn r (ofResult y) s = (y, s) := by
  cases y <;> rfl

theorem runIn_tryCatch (x : Action α) (handler : Fault → Action α) (s : Session) :
    runIn r (tryCatch x handler) s = match runIn r x s with
      | (.ok a, s') => (.ok a, s')
      | (.error f, s') => runIn r (handler f) s' := by
  show (ExceptT.tryCatch (x r) (fun f => handler f r) :
    ExceptT Fault (StateM Session) α).run.run s = _
  unfold ExceptT.tryCatch
  simp only [runIn, ExceptT.run_mk, StateT.run_bind]
  have hrun : StateT.run (x r) s = StateT.run (ExceptT.run (ReaderT.run x r)) s := rfl
  rw [hrun]
  generalize StateT.run (ExceptT.run (ReaderT.run x r)) s = p
  obtain ⟨_ | _, _⟩ := p <;> rfl

theorem runIn_outcomeOf (x : Action α) (s : Session) :
    runIn r (outcomeOf x) s = (.ok (runIn r x s).1, (runIn r x s).2) := by
  unfold outcomeOf
  rw [runIn_tryCatch, runIn_bind]
  obtain ⟨_ | _, _⟩ := runIn r x s <;> rfl

/-- The rest of a sequence, after an action whose end is known. -/
theorem runIn_bind_ok {x : Action α} {k : α → Action β} {s s' : Session} {a : α}
    (h : runIn r x s = (.ok a, s')) : runIn r (x >>= k) s = runIn r (k a) s' := by
  rw [runIn_bind, h]

theorem runIn_bind_result {x : Action α} {k : α → Action β} {s s' : Session} {y : Result α}
    (h : runIn r x s = (y, s')) :
    runIn r (x >>= k) s = runIn r (ofResult y >>= k) s' := by
  rw [runIn_bind, runIn_bind, h, runIn_ofResult]

/-! ## Keeping an invariant -/

/-- The action keeps the invariant, and what it returns meets `Q`. -/
def Keeps (I : Session → Prop) (Q : α → Prop) (x : Action α) : Prop :=
  ∀ r s, I s → I (runIn r x s).2 ∧ ∀ a, (runIn r x s).1 = .ok a → Q a

namespace Keeps

variable {I : Session → Prop} {Q : α → Prop} {Q' : β → Prop}

theorem pure {a : α} (h : Q a) : Keeps I Q (Pure.pure a) := by
  intro r s hs
  refine ⟨hs, fun b hb => ?_⟩
  cases hb
  exact h

theorem bind {x : Action α} {k : α → Action β} (hx : Keeps I Q x)
    (hk : ∀ a, Q a → Keeps I Q' (k a)) : Keeps I Q' (x >>= k) := by
  intro r s hs
  have hxs := hx r s hs
  rw [runIn_bind]
  generalize runIn r x s = p at hxs
  obtain ⟨_ | a, s'⟩ := p
  · exact ⟨hxs.1, fun b hb => by cases hb⟩
  · exact hk a (hxs.2 a rfl) r s' hxs.1

theorem mono {R : α → Prop} {x : Action α} (hx : Keeps I Q x) (h : ∀ a, Q a → R a) :
    Keeps I R x :=
  fun r s hs => ⟨(hx r s hs).1, fun a ha => h a ((hx r s hs).2 a ha)⟩

theorem throw (f : Fault) : Keeps I Q (MonadExcept.throw f : Action α) :=
  fun _ _ hs => ⟨hs, fun _ ha => by cases ha⟩

theorem ofResult {y : Result α} (h : ∀ a, y = .ok a → Q a) : Keeps I Q (Session.ofResult y) := by
  intro r s hs
  rw [runIn_ofResult]
  exact ⟨hs, h⟩

/-- A check that fails with a fault, and what comes after it. -/
theorem checked {p : Prop} [Decidable p] {f : Fault} {k : PUnit → Action α}
    (h : ∀ u, Keeps I Q (k u)) :
    Keeps I Q (if p then MonadExcept.throw f >>= k else k ()) := by
  split
  · exact bind (Q := fun _ => True) (throw f) fun u _ => h u
  · exact h ()

/-- An action that only reads: what it returns is found in a session with the invariant. -/
theorem get : Keeps I I (MonadState.get : Action Session) :=
  fun _ s hs => ⟨hs, fun a ha => by cases ha; exact hs⟩

theorem modified {f : Session → Session} (h : ∀ s, I s → I (f s)) :
    Keeps I (fun _ => True) (modify f : Action Unit) :=
  fun _ s hs => ⟨h s hs, fun _ _ => trivial⟩

theorem outcomeOf {x : Action α} (hx : Keeps I Q x) :
    Keeps I (fun ended => ∀ a, ended = .ok a → Q a) (Session.outcomeOf x) := by
  intro r s hs
  rw [runIn_outcomeOf]
  refine ⟨(hx r s hs).1, ?_⟩
  rintro _ ⟨⟩
  exact (hx r s hs).2

theorem forM {xs : List γ} {f : γ → Action PUnit} (h : ∀ x ∈ xs, Keeps I (fun _ => True) (f x)) :
    Keeps I (fun _ => True) (xs.forM f) := by
  induction xs with
  | nil => exact .pure trivial
  | cons x xs ih =>
    exact (h x List.mem_cons_self).bind fun _ _ =>
      ih fun y hy => h y (List.mem_cons_of_mem _ hy)

theorem mapM {xs : List γ} {f : γ → Action α} (h : ∀ x ∈ xs, Keeps I Q (f x)) :
    Keeps I (fun ys => ∀ y ∈ ys, Q y) (xs.mapM f) := by
  induction xs with
  | nil => exact .pure (by simp)
  | cons x xs ih =>
    rw [List.mapM_cons]
    refine (h x List.mem_cons_self).bind fun y hy =>
      (ih fun z hz => h z (List.mem_cons_of_mem _ hz)).bind fun ys hys => .pure ?_
    intro z hz
    rcases List.mem_cons.1 hz with rfl | hz
    · exact hy
    · exact hys z hz

end Keeps

/-! ## Following a plain computation -/

/-- From a session with `P` the action fails with the fault of the computation, or both succeed and
`Q` holds of their results and the session after. -/
def Follows (P : Session → Prop) (x : Action α) (y : Result β) (Q : α → β → Session → Prop) :
    Prop :=
  ∀ r s, P s → Agree (fun a b => Q a b (runIn r x s).2) (runIn r x s).1 y

namespace Follows

variable {P : Session → Prop} {Q : α → β → Session → Prop} {R : γ → δ → Session → Prop}

theorem pure {a : α} {b : β} (h : ∀ s, P s → Q a b s) :
    Follows P (Pure.pure a) (Pure.pure b) Q :=
  fun _ s hs => .ok (h s hs)

theorem bind {x : Action α} {y : Result β} {k : α → Action γ} {l : β → Result δ}
    (hx : Follows P x y Q) (hk : ∀ a b, Follows (Q a b) (k a) (l b) R) :
    Follows P (x >>= k) (y >>= l) R := by
  intro r s hs
  have hxs := hx r s hs
  rw [runIn_bind]
  generalize runIn r x s = p at hxs
  obtain ⟨z, s'⟩ := p
  dsimp only at hxs
  cases hxs with
  | ok h => exact hk _ _ r s' h
  | error f => exact .error f

/-- What comes after the computation is done always succeeds. -/
theorem andThen {x : Action α} {y : Result β} {k : α → Action γ} {Q' : γ → β → Session → Prop}
    (hx : Follows P x y Q) (hk : ∀ a b, Follows (Q a b) (k a) (.ok b) Q') :
    Follows P (x >>= k) y Q' := by
  intro r s hs
  have h := hx.bind (l := Except.ok) hk r s hs
  cases y <;> exact h

/-- What the computation comes to, put in another form. -/
theorem map {x : Action α} {y : Result β} {g : β → δ} {Q' : α → δ → Session → Prop}
    (hx : Follows P x y Q) (hQ : ∀ a b s, Q a b s → Q' a (g b) s) :
    Follows P x (y >>= fun b => Pure.pure (g b)) Q' := by
  intro r s hs
  have h := hx r s hs
  generalize runIn r x s = p at h ⊢
  obtain ⟨z, s'⟩ := p
  dsimp only at h
  cases h with
  | ok h => exact .ok (hQ _ _ _ h)
  | error f => exact .error f

/-- An action before which something known is read. -/
theorem after {a : α} {x : Action α} {k : α → Action γ} {y : Result δ}
    (hx : ∀ r s, P s → runIn r x s = (.ok a, s)) (hk : Follows P (k a) y R) :
    Follows P (x >>= k) y R := by
  intro r s hs
  rw [runIn_bind_ok (hx r s hs)]
  exact hk r s hs

/-- What is known whatever the session is. -/
theorem given {p : Prop} {x : Action α} {y : Result β} (h : p → Follows P x y Q) :
    Follows (fun s => p ∧ P s) x y Q :=
  fun r s hs => h hs.1 r s hs.2

/-- An action that only reads what the invariant determines. -/
theorem read {x : Action α} {y : Result α} (h : ∀ r s, P s → runIn r x s = (y, s)) :
    Follows P x y fun a b s => a = b ∧ P s := by
  intro r s hs
  rw [h r s hs]
  exact .refl fun _ _ => ⟨rfl, hs⟩

theorem ofResult (y : Result α) : Follows P (Session.ofResult y) y fun a b s => a = b ∧ P s :=
  read fun _ s _ => runIn_ofResult y s

end Follows

end SqlBuilder.Session
