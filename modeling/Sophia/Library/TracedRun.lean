import Mathlib.Data.List.Basic

namespace Sophia.TracedRun

-- A computation over a state that may raise and that leaves a trace. State and
-- trace survive a raised error: what was done before the error stays done.
structure Outcome (ε σ ω α : Type) where
  value : Except ε α
  state : σ
  trace : List ω

def Run (ε σ ω α : Type) := σ → Outcome ε σ ω α

variable {ε σ ω α β : Type} {m : Run ε σ ω α} {f : α → Run ε σ ω β} {s : σ}

def Run.pure (a : α) : Run ε σ ω α := fun s => ⟨.ok a,s,[]⟩

def Run.bind (m : Run ε σ ω α) (f : α → Run ε σ ω β) : Run ε σ ω β := fun s =>
  match (m s).value with
  | .ok a => ⟨(f a (m s).state).value,(f a (m s).state).state,(m s).trace ++ (f a (m s).state).trace⟩
  | .error e => ⟨.error e,(m s).state,(m s).trace⟩

instance : Monad (Run ε σ ω) where
  pure := Run.pure
  bind := Run.bind

def lift (x : Except ε α) : Run ε σ ω α := fun s => ⟨x,s,[]⟩
def emit (event : ω) : Run ε σ ω Unit := fun s => ⟨.ok (),s,[event]⟩
def overState (step : σ → σ × Except ε α) : Run ε σ ω α := fun s => ⟨(step s).2,(step s).1,[]⟩
def read (look : σ → α) : Run ε σ ω α := overState fun s => (s,.ok (look s))
def change (next : σ → σ) : Run ε σ ω Unit := overState fun s => (next s,.ok ())

-- An error is handed over; what was done before it stays done.
def rescue (handler : ε → Except ε α) (m : Run ε σ ω α) : Run ε σ ω α := fun s =>
  ⟨match (m s).value with
    | .ok a => .ok a
    | .error e => handler e,(m s).state,(m s).trace⟩

@[simp] theorem pure_value (a : α) : ((pure a : Run ε σ ω α) s).value = .ok a := rfl
@[simp] theorem pure_state (a : α) : ((pure a : Run ε σ ω α) s).state = s := rfl
@[simp] theorem pure_trace (a : α) : ((pure a : Run ε σ ω α) s).trace = [] := rfl
@[simp] theorem lift_value (x : Except ε α) : ((lift x : Run ε σ ω α) s).value = x := rfl
@[simp] theorem lift_state (x : Except ε α) : ((lift x : Run ε σ ω α) s).state = s := rfl
@[simp] theorem lift_trace (x : Except ε α) : ((lift x : Run ε σ ω α) s).trace = [] := rfl
@[simp] theorem emit_value (event : ω) : ((emit event : Run ε σ ω Unit) s).value = .ok () := rfl
@[simp] theorem emit_state (event : ω) : ((emit event : Run ε σ ω Unit) s).state = s := rfl
@[simp] theorem emit_trace (event : ω) : ((emit event : Run ε σ ω Unit) s).trace = [event] := rfl
@[simp] theorem overState_value (step : σ → σ × Except ε α) :
    ((overState step : Run ε σ ω α) s).value = (step s).2 := rfl
@[simp] theorem overState_state (step : σ → σ × Except ε α) :
    ((overState step : Run ε σ ω α) s).state = (step s).1 := rfl
@[simp] theorem overState_trace (step : σ → σ × Except ε α) :
    ((overState step : Run ε σ ω α) s).trace = [] := rfl

@[simp] theorem read_value (look : σ → α) : ((read look : Run ε σ ω α) s).value = .ok (look s) := rfl
@[simp] theorem read_state (look : σ → α) : ((read look : Run ε σ ω α) s).state = s := rfl
@[simp] theorem change_value (next : σ → σ) : ((change next : Run ε σ ω Unit) s).value = .ok () := rfl
@[simp] theorem change_state (next : σ → σ) : ((change next : Run ε σ ω Unit) s).state = next s := rfl

theorem bind_ok (returned : (m s).value = .ok a) : (m >>= f) s =
    ⟨(f a (m s).state).value,(f a (m s).state).state,(m s).trace ++ (f a (m s).state).trace⟩ := by
  change Run.bind m f s = _
  simp only [Run.bind,returned]

theorem bind_error (raised : (m s).value = .error e) :
    (m >>= f) s = ⟨.error e,(m s).state,(m s).trace⟩ := by
  change Run.bind m f s = _
  simp only [Run.bind,raised]

-- A half that ran without an event
theorem bind_ran (ran : m s = ⟨.ok a,t,[]⟩) : (m >>= f) s = f a t := by
  rw [bind_ok (by rw [ran]),ran]
  rfl

theorem bind_raised (ran : m s = ⟨.error e,t,[]⟩) : (m >>= f) s = ⟨.error e,t,[]⟩ := by
  rw [bind_error (by rw [ran]),ran]

theorem bind_value : ((m >>= f) s).value = (m s).value.bind fun a => (f a (m s).state).value := by
  cases first : (m s).value with
  | error e => rw [bind_error first]; rfl
  | ok a => rw [bind_ok first]; rfl

-- The shape of every returned sequence: both halves returned.
theorem bind_returns : ((m >>= f) s).value = .ok b ↔
    ∃ a, (m s).value = .ok a ∧ (f a (m s).state).value = .ok b := by
  constructor
  · intro returned
    cases first : (m s).value with
    | error e => rw [bind_error first] at returned; cases returned
    | ok a => rw [bind_ok first] at returned; exact ⟨a,rfl,returned⟩
  · intro halves
    obtain ⟨a,first,second⟩ := halves
    rw [bind_ok first]; exact second

theorem bind_state (first : (m s).value = .ok a) : ((m >>= f) s).state = (f a (m s).state).state := by
  rw [bind_ok first]

theorem bind_defined (first : (m s).value = .ok a) (second : ∃ b, (f a (m s).state).value = .ok b) :
    ∃ b, ((m >>= f) s).value = .ok b := by
  obtain ⟨b,returned⟩ := second
  exact ⟨b,bind_returns.mpr ⟨a,first,returned⟩⟩

@[simp] theorem read_bind (look : σ → α) : ((read look : Run ε σ ω α) >>= f) s = f (look s) s := by
  rw [bind_ok (read_value look)]; rfl

@[simp] theorem change_bind {g : Unit → Run ε σ ω β} (next : σ → σ) :
    ((change next : Run ε σ ω Unit) >>= g) s = g () (next s) := by
  rw [bind_ok (change_value next)]; rfl

@[simp] theorem lift_bind_ok (a : α) : ((lift (.ok a) : Run ε σ ω α) >>= f) s = f a s := by
  rw [bind_ok (lift_value _)]; rfl

@[simp] theorem lift_bind_error (e : ε) :
    ((lift (.error e) : Run ε σ ω α) >>= f) s = ⟨.error e,s,[]⟩ := bind_error rfl

instance : LawfulMonad (Run ε σ ω) := LawfulMonad.mk' (Run ε σ ω)
  (by
    intro α m
    funext s
    change (m >>= pure) s = m s
    cases first : (m s).value with
    | error e => rw [bind_error first,← first]
    | ok a => rw [bind_ok first,pure_value,pure_state,pure_trace,List.append_nil,← first])
  (by
    intro α β a f
    funext s
    rw [bind_ok (pure_value a)]
    rfl)
  (by
    intro α β γ m f g
    funext s
    cases first : (m s).value with
    | error e => rw [bind_error first,bind_error (by rw [bind_error first]),bind_error first]
    | ok a =>
      rw [bind_ok first]
      cases second : (f a (m s).state).value with
      | error e => rw [bind_error second,bind_error (by rw [bind_ok first]; exact second),bind_ok first]
      | ok b =>
        rw [bind_ok second,bind_ok (by rw [bind_ok first]; exact second),bind_ok first]
        exact congrArg _ (List.append_assoc _ _ _))

-- The events a view picks out of the trace, in order
def seen (view : ω → Option β) (m : Run ε σ ω α) (s : σ) : List β := (m s).trace.filterMap view

@[simp] theorem seen_pure (view : ω → Option β) (a : α) : seen view (pure a : Run ε σ ω α) s = [] := rfl
@[simp] theorem seen_lift (view : ω → Option β) (x : Except ε α) : seen view (lift x : Run ε σ ω α) s = [] := rfl

theorem seen_bind {γ : Type} (view : ω → Option γ) : seen view (m >>= f) s = seen view m s ++
    match (m s).value with
    | .ok a => seen view (f a) (m s).state
    | .error _ => [] := by
  cases value : (m s).value with
  | error e => rw [seen,bind_error value]; exact (List.append_nil _).symm
  | ok a => rw [seen,bind_ok value]; exact List.filterMap_append

theorem seen_lift_bind {γ : Type} (view : ω → Option γ) (x : Except ε α) : seen view (lift x >>= f) s = match x with
    | .ok a => seen view (f a) s
    | .error _ => [] := by
  rw [seen_bind]
  cases x <;> rfl

theorem mem_trace_left (present : event ∈ (m s).trace) : event ∈ ((m >>= f) s).trace := by
  cases value : (m s).value with
  | error e => rw [bind_error value]; exact present
  | ok a => rw [bind_ok value]; exact List.mem_append_left _ present

theorem mem_trace_right (returned : (m s).value = .ok a) (present : event ∈ (f a (m s).state).trace) :
    event ∈ ((m >>= f) s).trace := by
  rw [bind_ok returned]; exact List.mem_append_right _ present

-- Every event the computation leaves satisfies P, whether it returns or raises.
def Emits (P : ω → Prop) (m : Run ε σ ω α) : Prop := ∀ s, ∀ event ∈ (m s).trace, P event

variable {P : ω → Prop}

theorem Emits.pure (a : α) : Emits P (Pure.pure a : Run ε σ ω α) := by
  intro s event present; cases present

theorem Emits.lift (x : Except ε α) : Emits P (TracedRun.lift x : Run ε σ ω α) := by
  intro s event present; cases present

theorem Emits.overState (step : σ → σ × Except ε α) :
    Emits P (TracedRun.overState step : Run ε σ ω α) := by
  intro s event present; cases present

theorem Emits.emit (allowed : P event) : Emits P (TracedRun.emit event : Run ε σ ω Unit) := by
  intro s other present
  rw [emit_trace,List.mem_singleton] at present
  exact present ▸ allowed

theorem Emits.bind (first : Emits P m) (second : ∀ a, Emits P (f a)) : Emits P (m >>= f) := by
  intro s event present
  cases value : (m s).value with
  | error e => rw [bind_error value] at present; exact first s event present
  | ok a =>
    rw [bind_ok value] at present
    rcases List.mem_append.mp present with early | late
    · exact first s event early
    · exact second a _ event late

theorem Emits.ite {p : Prop} [Decidable p] {left right : Run ε σ ω α}
    (yes : Emits P left) (no : Emits P right) : Emits P (if p then left else right) := by
  split
  · exact yes
  · exact no

theorem Emits.rescue {handler : ε → Except ε α} (emits : Emits P m) : Emits P (TracedRun.rescue handler m) :=
  fun s => emits s

-- What holds before the computation holds after it, whether it returns or raises.
def Preserves (I : σ → Prop) (m : Run ε σ ω α) : Prop := ∀ s, I s → I (m s).state

variable {I : σ → Prop}

theorem Preserves.pure (a : α) : Preserves I (Pure.pure a : Run ε σ ω α) := fun _ holds => holds
theorem Preserves.lift (x : Except ε α) : Preserves I (TracedRun.lift x : Run ε σ ω α) := fun _ holds => holds
theorem Preserves.read (look : σ → α) : Preserves I (TracedRun.read look : Run ε σ ω α) := fun _ holds => holds

theorem Preserves.overState {step : σ → σ × Except ε α} (kept : ∀ s, I s → I (step s).1) :
    Preserves I (TracedRun.overState step : Run ε σ ω α) := kept

theorem Preserves.bind (first : Preserves I m) (second : ∀ a, Preserves I (f a)) : Preserves I (m >>= f) := by
  intro s holds
  cases value : (m s).value with
  | error e => rw [bind_error value]; exact first s holds
  | ok a => rw [bind_ok value]; exact second a _ (first s holds)

theorem Preserves.ite {p : Prop} [Decidable p] {left right : Run ε σ ω α}
    (yes : Preserves I left) (no : Preserves I right) : Preserves I (if p then left else right) := by
  split
  · exact yes
  · exact no

theorem Preserves.rescue {handler : ε → Except ε α} (kept : Preserves I m) : Preserves I (TracedRun.rescue handler m) := kept

-- Whatever the computation returns satisfies P.
def Yields (P : α → Prop) (m : Run ε σ ω α) : Prop := ∀ s a, (m s).value = .ok a → P a

theorem Yields.pure {P : α → Prop} (holds : P a) : Yields P (Pure.pure a : Run ε σ ω α) := by
  intro s b returned
  cases returned
  exact holds

theorem Yields.raise {P : α → Prop} (e : ε) : Yields P (TracedRun.lift (.error e) : Run ε σ ω α) := by
  intro s b returned
  cases returned

theorem Yields.bind {P : β → Prop} (second : ∀ a, Yields P (f a)) : Yields P (m >>= f) := by
  intro s b returned
  obtain ⟨a,_,later⟩ := bind_returns.mp returned
  exact second a _ b later

theorem Yields.ite {P : α → Prop} {p : Prop} [Decidable p] {left right : Run ε σ ω α}
    (yes : Yields P left) (no : Yields P right) : Yields P (if p then left else right) := by
  split
  · exact yes
  · exact no

-- The computation ends in the state it began in, whether it returns or raises.
def Keeps (m : Run ε σ ω α) : Prop := ∀ s, (m s).state = s

theorem Keeps.pure (a : α) : Keeps (Pure.pure a : Run ε σ ω α) := fun _ => rfl
theorem Keeps.lift (x : Except ε α) : Keeps (TracedRun.lift x : Run ε σ ω α) := fun _ => rfl
theorem Keeps.emit (event : ω) : Keeps (TracedRun.emit event : Run ε σ ω Unit) := fun _ => rfl

theorem Keeps.bind (first : Keeps m) (second : ∀ a, Keeps (f a)) : Keeps (m >>= f) := by
  intro s
  cases value : (m s).value with
  | error e => rw [bind_error value]; exact first s
  | ok a => rw [bind_ok value]; exact (second a _).trans (first s)

theorem Keeps.after (second : ∀ a, Keeps (f a)) : ((m >>= f) s).state = (m s).state := by
  cases value : (m s).value with
  | error e => rw [bind_error value]
  | ok a => rw [bind_ok value]; exact second a _

theorem Keeps.ite {p : Prop} [Decidable p] {left right : Run ε σ ω α}
    (yes : Keeps left) (no : Keeps right) : Keeps (if p then left else right) := by
  split
  · exact yes
  · exact no

-- The state is what the trace, played back, makes of the state before.
def Replays (apply : σ → ω → σ) (m : Run ε σ ω α) : Prop := ∀ s, (m s).state = (m s).trace.foldl apply s

theorem Replays.pure {apply : σ → ω → σ} (a : α) : Replays apply (Pure.pure a : Run ε σ ω α) := fun _ => rfl
theorem Replays.lift {apply : σ → ω → σ} (x : Except ε α) : Replays apply (TracedRun.lift x : Run ε σ ω α) := fun _ => rfl

theorem Replays.bind {apply : σ → ω → σ} (first : Replays apply m) (second : ∀ a, Replays apply (f a)) :
    Replays apply (m >>= f) := by
  intro s
  cases value : (m s).value with
  | error e => rw [bind_error value]; exact first s
  | ok a =>
    rw [bind_ok value]
    dsimp only
    rw [List.foldl_append,← first s]
    exact second a _

-- The events do not depend on the state.
def Leaves (m : Run ε σ ω α) (events : List ω) : Prop := ∀ s, (m s).trace = events

section
variable {events others : List ω}

theorem Leaves.pure (a : α) : Leaves (Pure.pure a : Run ε σ ω α) [] := fun _ => rfl
theorem Leaves.raises (e : ε) : Leaves ((TracedRun.lift (.error e) : Run ε σ ω α) >>= f) [] := fun _ => by rw [lift_bind_error]

theorem Leaves.known (rest : Leaves (f a) events) : Leaves ((TracedRun.lift (.ok a) : Run ε σ ω α) >>= f) events :=
  fun s => by rw [lift_bind_ok]; exact rest s

theorem Leaves.bind (first : Leaves m events) (returns : ∀ s, (m s).value = .ok a) (second : Leaves (f a) others) :
    Leaves (m >>= f) (events ++ others) := by
  intro s
  rw [bind_ok (returns s),← first s]
  exact congrArg _ (second _)

theorem Leaves.last (first : Leaves m events) (silent : ∀ a, Leaves (f a) []) : Leaves (m >>= f) events := by
  intro s
  rw [← first s]
  cases value : (m s).value with
  | error e => rw [bind_error value]
  | ok a => rw [bind_ok value]; exact (congrArg _ (silent a _)).trans (List.append_nil _)

end

-- The value does not depend on the state.
def Answers (m : Run ε σ ω α) (answer : Except ε α) : Prop := ∀ s, (m s).value = answer

theorem Answers.lift (x : Except ε α) : Answers (TracedRun.lift x : Run ε σ ω α) x := fun _ => rfl
theorem Answers.pure (a : α) : Answers (Pure.pure a : Run ε σ ω α) (.ok a) := fun _ => rfl

theorem Answers.bind {x : Except ε α} {g : α → Except ε β} (first : Answers m x) (second : ∀ a, Answers (f a) (g a)) :
    Answers (m >>= f) (x >>= g) := by
  intro s
  rw [bind_value,first s]
  cases x with
  | error e => rfl
  | ok a => exact second a _

theorem Answers.change {next : σ → σ} {rest : Unit → Run ε σ ω β} {x : Except ε β} (answers : Answers (rest ()) x) :
    Answers (TracedRun.change next >>= rest) x := by
  intro s
  rw [change_bind]
  exact answers _

-- The computation leaves what look sees of the state as it was, whether it returns or raises.
def Frames {τ : Type} (look : σ → τ) (m : Run ε σ ω α) : Prop := ∀ s, look (m s).state = look s

section
variable {τ : Type} {look : σ → τ}

theorem Frames.pure (a : α) : Frames look (Pure.pure a : Run ε σ ω α) := fun _ => rfl
theorem Frames.lift (x : Except ε α) : Frames look (TracedRun.lift x : Run ε σ ω α) := fun _ => rfl
theorem Frames.read (other : σ → α) : Frames look (TracedRun.read other : Run ε σ ω α) := fun _ => rfl

theorem Frames.change {next : σ → σ} (same : ∀ s, look (next s) = look s) :
    Frames look (TracedRun.change next : Run ε σ ω Unit) := same

theorem Frames.bind (first : Frames look m) (second : ∀ a, Frames look (f a)) : Frames look (m >>= f) := by
  intro s
  cases value : (m s).value with
  | error e => rw [bind_error value]; exact first s
  | ok a => rw [bind_ok value]; exact (second a _).trans (first s)

-- A computation on a part of the state
def focus (part : σ → τ) (put : τ → σ → σ) (m : Run ε τ ω α) : Run ε σ ω α := fun s =>
  ⟨(m (part s)).value,put (m (part s)).state s,(m (part s)).trace⟩

@[simp] theorem focus_value (part : σ → τ) (put : τ → σ → σ) (m : Run ε τ ω α) :
    (focus part put m s).value = (m (part s)).value := rfl

@[simp] theorem focus_state (part : σ → τ) (put : τ → σ → σ) (m : Run ε τ ω α) :
    (focus part put m s).state = put (m (part s)).state s := rfl

-- On a part that is put back whole, a sequence is the sequence of its steps.
theorem focus_bind (part : σ → τ) (put : τ → σ → σ) (held : ∀ t s, part (put t s) = t)
    (last : ∀ t u s, put t (put u s) = put t s) (m : Run ε τ ω α) (f : α → Run ε τ ω β) :
    focus part put (m >>= f) = focus part put m >>= fun a => focus part put (f a) := by
  funext s
  cases first : (m (part s)).value with
  | error e => rw [bind_error (show (focus part put m s).value = _ from first),focus,bind_error first]; rfl
  | ok a =>
    rw [bind_ok (show (focus part put m s).value = _ from first),focus,bind_ok first]
    simp only [focus,held,last]

theorem Frames.focus {υ : Type} {part : σ → υ} {put : υ → σ → σ} (apart : ∀ t s, look (put t s) = look s)
    (m : Run ε υ ω α) : Frames look (focus part put m) := fun _ => apart _ _

end

-- A computation that leaves the event returns, and its result is good.
def Notes (event : ω) (good : α → Prop) (m : Run ε σ ω α) : Prop :=
  ∀ s, event ∈ (m s).trace → ∃ a, (m s).value = .ok a ∧ good a

section
variable {event : ω} {good : β → Prop} {noted : α → Prop}

theorem Notes.silent (silent : Emits (fun other => other ≠ event) m) : Notes event noted m :=
  fun s present => absurd rfl (silent s event present)

-- The event is left before, so that the rest sees a noted result, or it is left after.
theorem Notes.bind (first : Notes event noted m) (passes : ∀ a, noted a → ∀ s, ∃ b, (f a s).value = .ok b ∧ good b)
    (later : ∀ a, Notes event good (f a)) : Notes event good (m >>= f) := by
  intro s present
  cases value : (m s).value with
  | error e =>
    rw [bind_error value] at present
    obtain ⟨a,returned,_⟩ := first s present
    rw [value] at returned
    cases returned
  | ok a =>
    rw [bind_ok value] at present ⊢
    rcases List.mem_append.mp present with early | late
    · obtain ⟨other,returned,known⟩ := first s early
      rw [value] at returned
      cases returned
      exact passes a known _
    · exact later a _ late

theorem Notes.lift_bind (x : Except ε α) (later : ∀ a, Notes event good (f a)) :
    Notes event good (TracedRun.lift x >>= f) :=
  have first : Notes event (fun _ : α => False) (TracedRun.lift x : Run ε σ ω α) := Notes.silent (Emits.lift x)
  first.bind (fun _ impossible => impossible.elim) later

theorem Notes.ite {p : Prop} [Decidable p] {left right : Run ε σ ω α} (yes : Notes event noted left)
    (no : Notes event noted right) : Notes event noted (if p then left else right) := by
  split
  · exact yes
  · exact no

end

-- From a state where I holds, a returned computation ends where J holds of its result, and all it
-- leaves on the way, returned or not, satisfies P.
def Triple (I : σ → Prop) (m : Run ε σ ω α) (J : α → σ → Prop) (P : ω → Prop) : Prop :=
  ∀ s, I s → (∀ a, (m s).value = .ok a → J a (m s).state) ∧ ∀ event ∈ (m s).trace, P event

section
variable {I I' : σ → Prop} {J : α → σ → Prop} {K : β → σ → Prop}

theorem Triple.bind (first : Triple I m J P) (second : ∀ a, Triple (J a) (f a) K P) : Triple I (m >>= f) K P := by
  intro s start
  obtain ⟨ends,leaves⟩ := first s start
  cases value : (m s).value with
  | error e =>
    rw [bind_error value]
    exact ⟨fun a impossible => (nomatch impossible),leaves⟩
  | ok a =>
    obtain ⟨later,leavesLater⟩ := second a (m s).state (ends a value)
    rw [bind_ok value]
    refine ⟨later,fun event present => ?_⟩
    rcases List.mem_append.mp present with early | late
    · exact leaves event early
    · exact leavesLater event late

theorem Triple.pure (a : α) : Triple (J a) (Pure.pure a : Run ε σ ω α) J P := by
  intro s start
  refine ⟨fun b returned => ?_,fun event present => (nomatch present)⟩
  cases returned
  exact start

theorem Triple.lift (x : Except ε α) : Triple I (TracedRun.lift x : Run ε σ ω α) (fun _ => I) P :=
  fun _ start => ⟨fun _ _ => start,fun _ present => (nomatch present)⟩

theorem Triple.read {look : σ → α} (known : ∀ s, I s → J (look s) s) : Triple I (TracedRun.read look : Run ε σ ω α) J P := by
  intro s start
  refine ⟨fun b returned => ?_,fun event present => (nomatch present)⟩
  cases returned
  exact known s start

theorem Triple.change {next : σ → σ} (keeps : ∀ s, I s → I' (next s)) :
    Triple I (TracedRun.change next : Run ε σ ω Unit) (fun _ => I') P :=
  fun s start => ⟨fun _ _ => keeps s start,fun _ present => (nomatch present)⟩

theorem Triple.ite {p : Prop} [Decidable p] {left right : Run ε σ ω α} (yes : Triple I left J P)
    (no : Triple I right J P) : Triple I (if p then left else right) J P := by
  split
  · exact yes
  · exact no

theorem Triple.weaken {J' : α → σ → Prop} (triple : Triple I m J P) (ends : ∀ a s, J a s → J' a s) : Triple I m J' P :=
  fun s start => ⟨fun a returned => ends a _ ((triple s start).1 a returned),(triple s start).2⟩

end

-- Independent tasks in list order; the first error ends the sequence.
def gather : List (Run ε σ ω α) → Run ε σ ω (List α)
  | [] => Pure.pure []
  | task :: rest => do
    let first ← task
    let others ← gather rest
    Pure.pure (first :: others)

theorem Emits.gather {tasks : List (Run ε σ ω α)} (each : ∀ task ∈ tasks, Emits P task) :
    Emits P (TracedRun.gather tasks) := by
  induction tasks with
  | nil => exact Emits.pure []
  | cons task rest ih =>
    refine Emits.bind (each task (by simp)) fun first => ?_
    refine Emits.bind (ih fun other present => each other (by simp [present])) fun others => ?_
    exact Emits.pure _

-- Tasks that answer the same in every state and change none
structure Stateless (run : α → Run ε σ ω β) (answer : α → Except ε β) : Prop where
  value : ∀ a s, (run a s).value = answer a
  state : ∀ a s, (run a s).state = s

theorem Stateless.gather {run : α → Run ε σ ω β} {answer : α → Except ε β} (stateless : Stateless run answer)
    (tasks : List α) (s : σ) : (TracedRun.gather (tasks.map run) s).value = tasks.mapM answer ∧
      (TracedRun.gather (tasks.map run) s).state = s := by
  induction tasks with
  | nil => exact ⟨rfl,rfl⟩
  | cons task rest ih =>
    rw [List.map_cons,TracedRun.gather,List.mapM_cons]
    cases first : answer task with
    | error e =>
      rw [bind_error ((stateless.value task s).trans first)]
      exact ⟨rfl,stateless.state task s⟩
    | ok b =>
      rw [bind_ok ((stateless.value task s).trans first),stateless.state task s]
      cases others : (TracedRun.gather (rest.map run) s).value with
      | error e =>
        rw [bind_error others]
        rw [others] at ih
        exact ⟨by rw [← ih.1]; rfl,ih.2⟩
      | ok bs =>
        rw [bind_ok others]
        rw [others] at ih
        exact ⟨by rw [← ih.1]; rfl,ih.2⟩

theorem Stateless.returns {run : α → Run ε σ ω β} {answer : α → Except ε β} {tasks : List α}
    (stateless : Stateless run answer) (returned : (TracedRun.gather (tasks.map run) s).value = .ok bs)
    (member : task ∈ tasks) : ∃ b, answer task = .ok b := by
  induction tasks generalizing bs with
  | nil => cases member
  | cons other rest ih =>
    obtain ⟨b,first,later⟩ := bind_returns.mp returned
    obtain ⟨others,second,_⟩ := bind_returns.mp later
    rcases List.mem_cons.mp member with rfl | inRest
    · exact ⟨b,(stateless.value task s).symm.trans first⟩
    · rw [stateless.state] at second
      exact ih second inRest

-- When all tasks returned, each left its events.
theorem Stateless.traces {run : α → Run ε σ ω β} {answer : α → Except ε β} {tasks : List α} (stateless : Stateless run answer)
    (returned : (TracedRun.gather (tasks.map run) s).value = .ok bs) (member : task ∈ tasks)
    (present : event ∈ (run task s).trace) : event ∈ (TracedRun.gather (tasks.map run) s).trace := by
  induction tasks generalizing bs with
  | nil => cases member
  | cons other rest ih =>
    rw [List.map_cons,TracedRun.gather] at returned ⊢
    obtain ⟨b,first,later⟩ := bind_returns.mp returned
    obtain ⟨others,second,_⟩ := bind_returns.mp later
    rcases List.mem_cons.mp member with rfl | inRest
    · exact mem_trace_left present
    · apply mem_trace_right first
      apply mem_trace_left
      rw [stateless.state] at second ⊢
      exact ih second inRest

-- What a view sees of tasks that each show it their own answer
theorem Stateless.gather_seen {run : α → Run ε σ ω β} {answer : α → Except ε β} {tasks : List α} {view : ω → Option β}
    (stateless : Stateless run answer) (shown : ∀ task b s, answer task = .ok b → seen view (run task) s = [b])
    (returned : (TracedRun.gather (tasks.map run) s).value = .ok bs) : seen view (TracedRun.gather (tasks.map run)) s = bs := by
  induction tasks generalizing bs with
  | nil => cases returned; rfl
  | cons task rest ih =>
    rw [List.map_cons,TracedRun.gather] at returned ⊢
    obtain ⟨b,first,later⟩ := bind_returns.mp returned
    obtain ⟨others,second,later⟩ := bind_returns.mp later
    cases later
    rw [stateless.state] at second
    rw [seen_bind,first,shown task b s ((stateless.value task s).symm.trans first)]
    dsimp only
    rw [seen_bind,stateless.state,second,ih second]
    dsimp only
    rw [seen_pure,List.append_nil,List.singleton_append]

-- What a view sees of a computation that leaves nothing for it
theorem Emits.seen_nil {view : ω → Option β} (silent : Emits (fun event => view event = none) m) (s : σ) :
    seen view m s = [] := by
  rw [seen,List.filterMap_eq_nil_iff]; exact silent s

-- A view sees a sequence through the half that has something for it.
theorem seen_then_silent {γ : Type} {view : ω → Option γ} (silent : ∀ a, Emits (fun event => view event = none) (f a)) :
    seen view (m >>= f) s = seen view m s := by
  rw [seen_bind]
  cases (m s).value with
  | ok a => dsimp only; rw [(silent a).seen_nil,List.append_nil]
  | error e => exact List.append_nil _

theorem seen_after_silent {γ : Type} {view : ω → Option γ} (silent : Emits (fun event => view event = none) m)
    (returned : (m s).value = .ok a) : seen view (m >>= f) s = seen view (f a) (m s).state := by
  rw [seen_bind,silent.seen_nil,returned,List.nil_append]

end Sophia.TracedRun
