import Mathlib.Order.Basic

/-!
# Programs that raise

A program that raises keeps the state that it has reached, so what it owes its caller is a
condition for either end.  A specification names both: the states in which the program returns,
and the states in which it raises.
-/

namespace SignPulse.Foundation

universe u

variable {ε σ α β : Type u}

/-- A computation that succeeds does so step by step. -/
theorem bind_eq_ok {first : Except ε α} {next : α → Except ε β} {result : β} :
    (first >>= next) = .ok result ↔ ∃ value, first = .ok value ∧ next value = .ok result := by
  constructor
  · intro hbind
    cases first with
    | error error => cases hbind
    | ok value => exact ⟨value, rfl, hbind⟩
  · rintro ⟨value, rfl, hnext⟩
    exact hnext

variable {f : α → Except ε β} {items : List α} {results : List β}

theorem mem_of_mapM_eq_ok (hrun : items.mapM f = .ok results) :
    ∀ result ∈ results, ∃ item ∈ items, f item = .ok result := by
  induction items generalizing results with
  | nil =>
    rw [List.mapM_nil] at hrun
    cases hrun
    exact fun _ hmem => absurd hmem List.not_mem_nil
  | cons item rest ih =>
    rw [List.mapM_cons] at hrun
    obtain ⟨first, hfirst, hrun⟩ := bind_eq_ok.mp hrun
    obtain ⟨others, hothers, hrun⟩ := bind_eq_ok.mp hrun
    cases hrun
    intro result hmem
    obtain rfl | hlater := List.mem_cons.mp hmem
    · exact ⟨item, List.mem_cons_self, hfirst⟩
    · obtain ⟨found, hfound, hresult⟩ := ih hothers result hlater
      exact ⟨found, List.mem_cons_of_mem _ hfound, hresult⟩

theorem exists_mem_of_mapM_eq_ok (hrun : items.mapM f = .ok results) :
    ∀ item ∈ items, ∃ result ∈ results, f item = .ok result := by
  induction items generalizing results with
  | nil => exact fun _ hmem => absurd hmem List.not_mem_nil
  | cons item rest ih =>
    rw [List.mapM_cons] at hrun
    obtain ⟨first, hfirst, hrun⟩ := bind_eq_ok.mp hrun
    obtain ⟨others, hothers, hrun⟩ := bind_eq_ok.mp hrun
    cases hrun
    refine List.forall_mem_cons.mpr ⟨⟨first, List.mem_cons_self, hfirst⟩, fun other hother => ?_⟩
    obtain ⟨result, hresult, hrun⟩ := ih hothers other hother
    exact ⟨result, List.mem_cons_of_mem _ hresult, hrun⟩

theorem mapM_congr {g : α → Except ε β} (hsame : ∀ item ∈ items, f item = g item) :
    items.mapM f = items.mapM g := by
  induction items with
  | nil => rfl
  | cons item rest ih =>
    obtain ⟨hitem, hrest⟩ := List.forall_mem_cons.mp hsame
    rw [List.mapM_cons, List.mapM_cons, hitem, ih hrest]

theorem mapM_eq_ok_iff {g : α → Except ε β} (hrun : items.mapM f = .ok results) :
    items.mapM g = .ok results ↔ ∀ item ∈ items, g item = f item := by
  constructor
  · intro hsame
    induction items generalizing results with
    | nil => exact fun _ hmem => absurd hmem List.not_mem_nil
    | cons item rest ih =>
      rw [List.mapM_cons] at hrun hsame
      obtain ⟨first, hfirst, hrun⟩ := bind_eq_ok.mp hrun
      obtain ⟨others, hothers, hrun⟩ := bind_eq_ok.mp hrun
      obtain ⟨first', hfirst', hsame⟩ := bind_eq_ok.mp hsame
      obtain ⟨others', hothers', hsame⟩ := bind_eq_ok.mp hsame
      cases hrun
      obtain ⟨rfl, rfl⟩ := List.cons.inj (Except.ok.inj hsame)
      exact List.forall_mem_cons.mpr ⟨hfirst'.trans hfirst.symm, ih hothers hothers'⟩
  · intro hsame
    rw [mapM_congr hsame, hrun]

/-- Started where `Pre` holds, the program returns where `Post` holds, or it raises where
`Raised` holds. -/
def Ends (Pre : σ → Prop) (program : EStateM ε σ α) (Post : α → σ → Prop)
    (Raised : σ → Prop) : Prop :=
  ∀ state, Pre state → match program state with
    | .ok value next => Post value next
    | .error _ next => Raised next

namespace Ends

variable {Pre : σ → Prop} {Post : α → σ → Prop} {Raised : σ → Prop}
variable {program : EStateM ε σ α} {state next : σ}

theorem of_error (hends : Ends Pre program Post Raised) (hpre : Pre state) {error : ε}
    (hrun : program state = .error error next) : Raised next := by
  have hend := hends state hpre
  rw [hrun] at hend
  exact hend

theorem strengthen {Before : σ → Prop} (hends : Ends Pre program Post Raised)
    (hpre : ∀ state, Before state → Pre state) : Ends Before program Post Raised :=
  fun state hbefore => hends state (hpre state hbefore)

/-- What the state tells about other things may be used. -/
theorem known {fact : Prop} (hfact : ∀ state, Pre state → fact)
    (hends : fact → Ends Pre program Post Raised) : Ends Pre program Post Raised :=
  fun state hpre => hends (hfact state hpre) state hpre

theorem weaken {After : α → σ → Prop} (hends : Ends Pre program Post Raised)
    (hpost : ∀ value state, Post value state → After value state) :
    Ends Pre program After Raised := by
  intro state hpre
  have hend := hends state hpre
  split
  · next value next hrun =>
    rw [hrun] at hend
    exact hpost value next hend
  · next error next hrun =>
    rw [hrun] at hend
    exact hend

theorem relax {Failed : σ → Prop} (hends : Ends Pre program Post Raised)
    (hraised : ∀ state, Raised state → Failed state) : Ends Pre program Post Failed := by
  intro state hpre
  have hend := hends state hpre
  split
  · next value next hrun =>
    rw [hrun] at hend
    exact hend
  · next error next hrun =>
    rw [hrun] at hend
    exact hraised next hend

theorem pure {value : α} (hpost : ∀ state, Pre state → Post value state) :
    Ends Pre (Pure.pure value : EStateM ε σ α) Post Raised :=
  hpost

theorem throw {error : ε} (hraised : ∀ state, Pre state → Raised state) :
    Ends Pre (MonadExcept.throw error : EStateM ε σ α) Post Raised :=
  hraised

theorem get {Post : σ → σ → Prop} (hpost : ∀ state, Pre state → Post state state) :
    Ends Pre (MonadState.get : EStateM ε σ σ) Post Raised :=
  hpost

theorem update {change : σ → σ} {Post : PUnit → σ → Prop}
    (hpost : ∀ state, Pre state → Post ⟨⟩ (change state)) :
    Ends Pre (modify change : EStateM ε σ PUnit) Post Raised :=
  hpost

theorem bind (Mid : α → σ → Prop) {Last : β → σ → Prop} {rest : α → EStateM ε σ β}
    (hfirst : Ends Pre program Mid Raised)
    (hrest : ∀ value, Ends (Mid value) (rest value) Last Raised) :
    Ends Pre (program >>= rest) Last Raised := by
  intro state hpre
  have hend := hfirst state hpre
  change match EStateM.bind program rest state with
    | .ok value next => Last value next
    | .error _ next => Raised next
  unfold EStateM.bind
  cases hrun : program state with
  | ok value next =>
    rw [hrun] at hend
    exact hrest value next hend
  | error error next =>
    rw [hrun] at hend
    exact hend

theorem tryCatch (Failed : σ → Prop) {handler : ε → EStateM ε σ α}
    (hprogram : Ends Pre program Post Failed)
    (hhandler : ∀ error, Ends Failed (handler error) Post Raised) :
    Ends Pre (MonadExcept.tryCatch program handler) Post Raised := by
  intro state hpre
  have hend := hprogram state hpre
  change match EStateM.tryCatch program handler state with
    | .ok value next => Post value next
    | .error _ next => Raised next
  unfold EStateM.tryCatch
  cases hrun : program state with
  | ok value next =>
    rw [hrun] at hend
    exact hend
  | error error next =>
    rw [hrun] at hend
    exact hhandler error next hend

theorem adaptExcept {ε' : Type u} {convert : ε → ε'} (hends : Ends Pre program Post Raised) :
    Ends Pre (EStateM.adaptExcept convert program) Post Raised := by
  intro state hpre
  have hend := hends state hpre
  unfold EStateM.adaptExcept
  cases hrun : program state with
  | ok value next =>
    rw [hrun] at hend
    exact hend
  | error error next =>
    rw [hrun] at hend
    exact hend

theorem ite {condition : Prop} [Decidable condition] {other : EStateM ε σ α}
    (hthen : condition → Ends Pre program Post Raised)
    (helse : ¬condition → Ends Pre other Post Raised) :
    Ends Pre (if condition then program else other) Post Raised := by
  split
  · next htrue => exact hthen htrue
  · next hfalse => exact helse hfalse

/-- A fold keeps what holds of what it has made so far. -/
theorem foldlM {items : List α} {body : β → α → EStateM ε σ β} (Inv : β → σ → Prop)
    (hbody : ∀ made, ∀ item ∈ items, Ends (Inv made) (body made item) Inv Raised) (made : β) :
    Ends (Inv made) (items.foldlM body made) Inv Raised := by
  induction items generalizing made with
  | nil => exact Ends.pure fun _ hinv => hinv
  | cons item rest ih =>
    rw [List.foldlM_cons]
    refine Ends.bind Inv (hbody made item List.mem_cons_self) fun next => ?_
    exact ih (fun made item hmem => hbody made item (List.mem_cons_of_mem _ hmem)) next

end Ends

end SignPulse.Foundation
