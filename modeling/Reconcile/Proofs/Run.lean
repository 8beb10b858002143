/-!
Runs of operations on a state that may fail. A run leaves a state whatever its result; a relation
that every step keeps is kept by the run.
-/

namespace Reconcile

variable {ε σ α β : Type}

def leaves (operation : EStateM ε σ α) (state : σ) : σ :=
  match operation state with
  | .ok _ left => left
  | .error _ left => left

theorem leaves_of_ok {operation : EStateM ε σ α} {state left : σ} {value : α}
    (ran : operation state = .ok value left) : leaves operation state = left := by
  rw [leaves, ran]

theorem leaves_of_error {operation : EStateM ε σ α} {state left : σ} {error : ε}
    (ran : operation state = .error error left) : leaves operation state = left := by
  rw [leaves, ran]

def yields (operation : EStateM ε σ α) (state : σ) : Except ε α :=
  match operation state with
  | .ok value _ => .ok value
  | .error error _ => .error error

theorem yields_of_ok {operation : EStateM ε σ α} {state left : σ} {value : α}
    (ran : operation state = .ok value left) : yields operation state = .ok value := by
  rw [yields, ran]

theorem yields_of_error {operation : EStateM ε σ α} {state left : σ} {error : ε}
    (ran : operation state = .error error left) : yields operation state = .error error := by
  rw [yields, ran]

def succeeds (operation : EStateM ε σ α) (state : σ) : Bool :=
  match operation state with
  | .ok .. => true
  | .error .. => false

theorem ok_of_succeeds {operation : EStateM ε σ α} {state : σ}
    (success : succeeds operation state = true) :
    ∃ value, operation state = .ok value (leaves operation state) := by
  unfold succeeds leaves at *
  cases ran : operation state with
  | ok value left => exact ⟨value, rfl⟩
  | error error left => rw [ran] at success; cases success

theorem ne_error_of_succeeds {operation : EStateM ε σ α} {state left : σ} {error : ε}
    (success : succeeds operation state = true) : operation state ≠ .error error left := by
  obtain ⟨value, ran⟩ := ok_of_succeeds success
  rw [ran]
  exact fun failed => nomatch failed

theorem ne_error_of_isOk {outcome : Except ε α} (success : outcome.isOk = true) (error : ε) :
    outcome ≠ .error error := by
  rintro rfl
  cases success

theorem bind_of_ok {operation : EStateM ε σ α} {state left : σ} {value : α}
    (ran : operation state = .ok value left) (next : α → EStateM ε σ β) :
    (operation >>= next) state = next value left := by
  show EStateM.bind operation next state = _
  rw [EStateM.bind, ran]

theorem bind_of_error {operation : EStateM ε σ α} {state left : σ} {error : ε}
    (ran : operation state = .error error left) (next : α → EStateM ε σ β) :
    (operation >>= next) state = .error error left := by
  show EStateM.bind operation next state = _
  rw [EStateM.bind, ran]

theorem bind_error {operation : EStateM ε σ α} {next : α → EStateM ε σ β} {state left : σ}
    {error : ε} (ran : (operation >>= next) state = .error error left) :
    operation state = .error error left ∨
      ∃ first between, operation state = .ok first between ∧ next first between = .error error left := by
  cases first : operation state with
  | error error between =>
    rw [bind_of_error first] at ran
    cases ran
    exact .inl rfl
  | ok value between =>
    rw [bind_of_ok first] at ran
    exact .inr ⟨value, between, rfl, ran⟩

theorem leaves_bind_of_ok {operation : EStateM ε σ α} {state left : σ} {value : α}
    (ran : operation state = .ok value left) (next : α → EStateM ε σ β) :
    leaves (operation >>= next) state = leaves (next value) left := by
  rw [leaves, bind_of_ok ran, leaves]

/-! ### Relations that runs keep -/

def Keeps (relation : σ → σ → Prop) (operation : EStateM ε σ α) : Prop :=
  ∀ state, relation state (leaves operation state)

structure Onward (relation : σ → σ → Prop) : Prop where
  refl : ∀ state, relation state state
  trans : ∀ {first second third}, relation first second → relation second third → relation first third

variable {relation : σ → σ → Prop}

theorem Onward.keeps_pure (onward : Onward relation) (value : α) :
    Keeps relation (pure value : EStateM ε σ α) := onward.refl

theorem Onward.keeps_throw (onward : Onward relation) (error : ε) :
    Keeps relation (throw error : EStateM ε σ α) := onward.refl

theorem Onward.keeps_get (onward : Onward relation) :
    Keeps relation (get : EStateM ε σ σ) := onward.refl

theorem Onward.keeps_bind (onward : Onward relation) {operation : EStateM ε σ α}
    {next : α → EStateM ε σ β} (first : Keeps relation operation)
    (second : ∀ value, Keeps relation (next value)) : Keeps relation (operation >>= next) := by
  intro state
  have kept := first state
  cases ran : operation state with
  | error error left =>
    rw [leaves, bind_of_error ran]
    rwa [leaves_of_error ran] at kept
  | ok value left =>
    rw [leaves_of_ok ran] at kept
    rw [leaves_bind_of_ok ran]
    exact onward.trans kept (second value left)

/-! ### Runs that end well -/

/-- A run that ends in a fine state began in one. -/
def Preserves (fine : σ → Prop) (operation : EStateM ε σ α) : Prop :=
  Keeps (fun before after => fine after → fine before) operation

variable {fine : σ → Prop}

theorem Preserves.before {operation : EStateM ε σ α} {next : α → EStateM ε σ β} {state : σ}
    (kept : ∀ value, Preserves fine (next value)) (ends : fine (leaves (operation >>= next) state)) :
    fine (leaves operation state) := by
  cases ran : operation state with
  | error error left =>
    rw [leaves, bind_of_error ran] at ends
    rwa [leaves_of_error ran]
  | ok value left =>
    rw [leaves_bind_of_ok ran] at ends
    rw [leaves_of_ok ran]
    exact kept value left ends

/-! ### Runs that may fail -/

/-- A run that ends in a fine state has an outcome as given. -/
def EndsIn (fine : σ → Prop) (operation : EStateM ε σ α) (state : σ)
    (result : Except ε α → σ → Prop) : Prop :=
  fine (leaves operation state) → result (yields operation state) (leaves operation state)

namespace EndsIn

variable {state : σ} {operation : EStateM ε σ α} {result : Except ε α → σ → Prop}

theorem of_ok {left : σ} {value : α} (ran : operation state = .ok value left)
    (holds : fine left → result (.ok value) left) : EndsIn fine operation state result := by
  rw [EndsIn, leaves, yields, ran]
  exact holds

theorem of_error {left : σ} {error : ε} (ran : operation state = .error error left)
    (holds : fine left → result (.error error) left) : EndsIn fine operation state result := by
  rw [EndsIn, leaves, yields, ran]
  exact holds

theorem mono {weaker : Except ε α → σ → Prop} (ends : EndsIn fine operation state result)
    (weakens : ∀ outcome left, result outcome left → weaker outcome left) :
    EndsIn fine operation state weaker := fun fine => weakens _ _ (ends fine)

theorem after_ok {next : α → EStateM ε σ β} {final : Except ε β → σ → Prop} {left : σ} {value : α}
    (ran : operation state = .ok value left) (ends : EndsIn fine (next value) left final) :
    EndsIn fine (operation >>= next) state final := by
  rw [EndsIn, leaves, yields, bind_of_ok ran]
  exact ends

theorem bind {next : α → EStateM ε σ β} {final : Except ε β → σ → Prop}
    (first : EndsIn fine operation state result) (kept : ∀ value, Preserves fine (next value))
    (failed : ∀ error left, fine left → result (.error error) left → final (.error error) left)
    (second : ∀ value left, fine left → result (.ok value) left → EndsIn fine (next value) left final) :
    EndsIn fine (operation >>= next) state final := by
  cases ran : operation state with
  | error error left =>
    rw [EndsIn, leaves, yields, ran] at first
    exact of_error (bind_of_error ran next) fun ends => failed error left ends (first ends)
  | ok value left =>
    rw [EndsIn, leaves, yields, ran] at first
    refine after_ok ran fun ends => ?_
    have between := kept value left ends
    exact second value left between (first between) ends

end EndsIn

/-- A run has an outcome as given, wherever it ends. -/
def Ends (operation : EStateM ε σ α) (state : σ) (result : Except ε α → σ → Prop) : Prop :=
  result (yields operation state) (leaves operation state)

namespace Ends

variable {state : σ} {operation : EStateM ε σ α} {result : Except ε α → σ → Prop}

theorem of_ok {left : σ} {value : α} (ran : operation state = .ok value left)
    (holds : result (.ok value) left) : Ends operation state result := by
  rwa [Ends, yields_of_ok ran, leaves_of_ok ran]

theorem of_error {left : σ} {error : ε} (ran : operation state = .error error left)
    (holds : result (.error error) left) : Ends operation state result := by
  rwa [Ends, yields_of_error ran, leaves_of_error ran]

theorem mono {weaker : Except ε α → σ → Prop} (ends : Ends operation state result)
    (weakens : ∀ outcome left, result outcome left → weaker outcome left) :
    Ends operation state weaker := weakens _ _ ends

theorem after_ok {next : α → EStateM ε σ β} {final : Except ε β → σ → Prop} {left : σ} {value : α}
    (ran : operation state = .ok value left) (ends : Ends (next value) left final) :
    Ends (operation >>= next) state final := by
  rw [Ends, leaves, yields, bind_of_ok ran]
  exact ends

theorem bind {next : α → EStateM ε σ β} {final : Except ε β → σ → Prop}
    (first : Ends operation state result)
    (failed : ∀ error left, result (.error error) left → final (.error error) left)
    (second : ∀ value left, result (.ok value) left → Ends (next value) left final) :
    Ends (operation >>= next) state final := by
  cases ran : operation state with
  | error error left =>
    rw [Ends, yields_of_error ran, leaves_of_error ran] at first
    exact of_error (bind_of_error ran next) (failed error left first)
  | ok value left =>
    rw [Ends, yields_of_ok ran, leaves_of_ok ran] at first
    exact after_ok ran (second value left first)

end Ends

/-- A run that succeeds has a result as given, and one that fails leaves a state that is not fine.
-/
def Gives (fine : σ → Prop) (operation : EStateM ε σ α) (state : σ) (result : α → σ → Prop) : Prop :=
  Ends operation state fun outcome left =>
    match outcome with
    | .ok value => result value left
    | .error _ => ¬ fine left

namespace Gives

variable {state : σ} {operation : EStateM ε σ α} {result : α → σ → Prop}

theorem of_ok {left : σ} {value : α} (ran : operation state = .ok value left)
    (holds : result value left) : Gives fine operation state result := Ends.of_ok ran holds

theorem mono {weaker : α → σ → Prop} (gives : Gives fine operation state result)
    (weakens : ∀ value left, result value left → weaker value left) :
    Gives fine operation state weaker := by
  refine Ends.mono gives fun outcome left holds => ?_
  cases outcome with
  | ok value => exact weakens value left holds
  | error error => exact holds

theorem after_ok {next : α → EStateM ε σ β} {final : β → σ → Prop} {left : σ} {value : α}
    (ran : operation state = .ok value left) (gives : Gives fine (next value) left final) :
    Gives fine (operation >>= next) state final := Ends.after_ok ran gives

theorem bind {next : α → EStateM ε σ β} {final : β → σ → Prop}
    (first : Gives fine operation state result)
    (second : ∀ value left, result value left → Gives fine (next value) left final) :
    Gives fine (operation >>= next) state final :=
  Ends.bind first (fun _ _ unfit => unfit) second

theorem ran (gives : Gives fine operation state result) : Gives fine operation state fun value left =>
    operation state = .ok value left ∧ result value left := by
  cases ran : operation state with
  | ok value left =>
    rw [Gives, Ends, yields_of_ok ran, leaves_of_ok ran] at gives
    exact .of_ok ran ⟨rfl, gives⟩
  | error error left =>
    rw [Gives, Ends, yields_of_error ran, leaves_of_error ran] at gives
    exact Ends.of_error ran gives

end Gives

theorem Gives.then {state : σ} {operation : EStateM ε σ α} {result : α → σ → Prop}
    {next : α → EStateM ε σ β} {final : Except ε β → σ → Prop}
    (first : Gives fine operation state result) (kept : ∀ value, Preserves fine (next value))
    (second : ∀ value left, fine left → result value left → EndsIn fine (next value) left final) :
    EndsIn fine (operation >>= next) state final := by
  have ends : EndsIn fine operation state fun outcome left =>
      match outcome with
      | .ok value => result value left
      | .error _ => ¬ fine left := fun _ => first
  exact ends.bind kept (fun _ _ fine unfit => absurd fine unfit) second

end Reconcile
