/-! The kinds of faults in which a computation can end, put together from those of its steps. -/

namespace ProjectSurvey

/-- Whether a computation, if it fails, does so with a fault of a kind. -/
def FailsOnly {ε α : Type} (kind : ε → Prop) (result : Except ε α) : Prop :=
  ∀ fault, result = .error fault → kind fault

section Computations

variable {ε α β : Type} {kind : ε → Prop}

@[simp] theorem failsOnly_ok (a : α) : FailsOnly kind (.ok a : Except ε α) :=
  fun _ failed => by cases failed

@[simp] theorem failsOnly_error {fault : ε} :
    FailsOnly kind (.error fault : Except ε α) ↔ kind fault := by
  constructor
  · intro only
    exact only fault rfl
  · rintro allowed _ ⟨⟩
    exact allowed

@[simp] theorem failsOnly_bind {result : Except ε α} {next : α → Except ε β} :
    FailsOnly kind (result >>= next) ↔
      FailsOnly kind result ∧ ∀ a, result = .ok a → FailsOnly kind (next a) := by
  cases result with
  | error fault => simp [bind, Except.bind]
  | ok a => simp [bind, Except.bind]

@[simp] theorem failsOnly_ite {condition : Prop} [Decidable condition] {first second : Except ε α} :
    FailsOnly kind (if condition then first else second) ↔
      (condition → FailsOnly kind first) ∧ (¬ condition → FailsOnly kind second) := by
  by_cases holds : condition <;> simp [holds]

@[simp] theorem failsOnly_mapError {δ : Type} {kind : δ → Prop} {result : Except ε α} {change : ε → δ} :
    FailsOnly kind (result.mapError change) ↔ FailsOnly (kind ∘ change) result := by
  cases result with
  | error fault =>
    show FailsOnly kind (.error (change fault) : Except δ α) ↔ _
    rw [failsOnly_error, failsOnly_error, Function.comp_apply]
  | ok a => exact iff_of_true (failsOnly_ok a) (failsOnly_ok a)

theorem FailsOnly.given {result : Except ε α} (never : FailsOnly (fun _ => False) result) :
    ∃ a, result = .ok a := by
  cases result with
  | error fault => exact absurd rfl (never fault)
  | ok a => exact ⟨a, rfl⟩

theorem failsOnly_mapM {step : α → Except ε β} (fails : ∀ a, FailsOnly kind (step a)) (items : List α) :
    FailsOnly kind (items.mapM step) := by
  induction items with
  | nil => exact failsOnly_ok _
  | cons item items ih =>
    rw [List.mapM_cons]
    exact failsOnly_bind.mpr ⟨fails item, fun _ _ => failsOnly_bind.mpr ⟨ih, fun _ _ => failsOnly_ok _⟩⟩

end Computations

/-- Whether a computation, if it gives a result, gives a good one. -/
def Yields {ε α : Type} (good : α → Prop) (result : Except ε α) : Prop :=
  ∀ a, result = .ok a → good a

section Results

variable {ε α β : Type} {good : α → Prop}

@[simp] theorem yields_ok {a : α} : Yields good (.ok a : Except ε α) ↔ good a := by
  constructor
  · intro yields
    exact yields a rfl
  · rintro holds _ ⟨⟩
    exact holds

@[simp] theorem yields_error (fault : ε) : Yields good (.error fault : Except ε α) :=
  fun _ given => by cases given

@[simp] theorem yields_ite {condition : Prop} [Decidable condition] {first second : Except ε α} :
    Yields good (if condition then first else second) ↔
      (condition → Yields good first) ∧ (¬ condition → Yields good second) := by
  by_cases holds : condition <;> simp [holds]

@[simp] theorem yields_mapError {δ : Type} {result : Except ε α} {change : ε → δ} :
    Yields good (result.mapError change) ↔ Yields good result := by
  cases result with
  | error fault => exact iff_of_true (yields_error _) (yields_error _)
  | ok a =>
    show Yields good (.ok a : Except δ α) ↔ _
    rw [yields_ok, yields_ok]

theorem yields_any (result : Except ε α) : Yields (fun _ => True) result :=
  fun _ _ => trivial

theorem yields_bind {result : Except ε β} {next : β → Except ε α} :
    Yields good (result >>= next) ↔ Yields (fun b => Yields good (next b)) result := by
  cases result with
  | error fault => simp [bind, Except.bind]
  | ok b => simp [bind, Except.bind]

theorem Yields.bind {between : β → Prop} {result : Except ε β} {next : β → Except ε α}
    (first : Yields between result) (further : ∀ b, between b → Yields good (next b)) :
    Yields good (result >>= next) :=
  yields_bind.mpr fun b given => further b (first b given)

end Results

/-- Whether a step keeps what holds of the state and, if it fails, does so with a fault of a kind. -/
def Keeps {ε σ α : Type} (holds : σ → Prop) (kind : ε → Prop) (step : StateT σ (Except ε) α) : Prop :=
  ∀ state, holds state → FailsOnly kind (step state) ∧ Yields (fun result => holds result.2) (step state)

namespace Keeps

variable {ε σ α β : Type} {holds : σ → Prop} {kind : ε → Prop}

protected theorem pure (a : α) : Keeps holds kind (pure a : StateT σ (Except ε) α) :=
  fun _ held => ⟨failsOnly_ok _, yields_ok.mpr held⟩

protected theorem get : Keeps holds kind (get : StateT σ (Except ε) σ) :=
  fun _ held => ⟨failsOnly_ok _, yields_ok.mpr held⟩

protected theorem set {state : σ} (held : holds state) : Keeps holds kind (set state : StateT σ (Except ε) PUnit) :=
  fun _ _ => ⟨failsOnly_ok _, yields_ok.mpr held⟩

protected theorem modify {change : σ → σ} (kept : ∀ state, holds state → holds (change state)) :
    Keeps holds kind (modify change : StateT σ (Except ε) PUnit) :=
  fun state held => ⟨failsOnly_ok _, yields_ok.mpr (kept state held)⟩

protected theorem fail {fault : ε} (allowed : kind fault) :
    Keeps holds kind (fun _ => .error fault : StateT σ (Except ε) α) :=
  fun _ _ => ⟨failsOnly_error.mpr allowed, yields_error _⟩

protected theorem bind {step : StateT σ (Except ε) β} {next : β → StateT σ (Except ε) α}
    (first : Keeps holds kind step) (further : ∀ b, Keeps holds kind (next b)) :
    Keeps holds kind (step >>= next) := by
  intro state held
  obtain ⟨fails, yields⟩ := first state held
  constructor
  · refine failsOnly_bind.mpr ⟨fails, fun ⟨b, after⟩ given => ?_⟩
    exact (further b after (yields _ given)).1
  · exact yields.bind fun ⟨b, after⟩ kept => (further b after kept).2

theorem bind_get {next : σ → StateT σ (Except ε) α}
    (further : ∀ state, holds state → Keeps holds kind (next state)) :
    Keeps holds kind (get >>= next) :=
  fun state held => further state held state held

protected theorem map {step : StateT σ (Except ε) β} (keeps : Keeps holds kind step) (f : β → α) :
    Keeps holds kind (f <$> step) :=
  keeps.bind fun _ => .pure _

protected theorem ite {condition : Prop} [Decidable condition] {first second : StateT σ (Except ε) α}
    (one : Keeps holds kind first) (other : Keeps holds kind second) :
    Keeps holds kind (if condition then first else second) := by
  split
  · exact one
  · exact other

end Keeps

end ProjectSurvey
