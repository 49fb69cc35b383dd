import Sophia.Library.StepRun

namespace Sophia.HalfDuplex
open StepRun

-- A client with a view V that asks by a text T for a request Q, and the frames F that an exchange X
-- answers it with. It asks nothing while an answer is on its way, and notices change nothing.
structure Dialogue (V T Q X F : Type) where
  start : V
  busy : V → Bool
  request : V → T → Q
  asking : V → Q → V
  handle : V → F → V
  question : X → Q
  frames : X → List F
  closes : X → Bool
  notice : F → Bool
  asking_busy : ∀ v q, busy (asking v q) = true
  notice_idle : ∀ v f, notice f = true → handle v f = v
  frames_plain : ∀ x, ∀ f ∈ frames x, notice f = false
  busy_upto : ∀ v x sent rest, busy v = true → frames x = sent ++ rest → rest ≠ [] → busy (after handle v sent) = true
  busy_until : ∀ v x, busy v = true → busy (after handle v (frames x)) = false

-- The server's end of a connection
inductive Phase (X F : Type) where
  | opening
  | waiting
  | working (exchange : X) (pending : List F)
  | closed

variable {V T Q X F : Type}

def Phase.pending : Phase X F → List F
  | .working _ pending => pending
  | _ => []

-- What each end has written and the other has not read
structure Link (Q X F : Type) where
  up : List Q := []
  down : List F := []
  phase : Phase X F := .opening

structure System (V Q X F : Type) where
  view : V
  link : Option (Link Q X F) := none
  served : List X := []
  recorded : List X := []

inductive Input (T X F : Type) where
  | idle
  | connect
  | accept (notices : List F)
  | refuse
  | submit (text : T)
  | receive (exchange : X)
  | emit
  | finish
  | deliver
  | close
  | drop (through : Bool)

namespace Dialogue
variable (d : Dialogue V T Q X F)

def initial : System V Q X F := {view := d.start}

-- What a connection that goes down has still brought to its end
def carried (through : Bool) : Phase X F → List X
  | .working x pending => if (through || pending.isEmpty) && !d.closes x then [x] else []
  | _ => []

section
variable (s : System V Q X F) (l : Link Q X F)

-- The client asks when it is not busy. Without a connection nothing is sent.
def submit (text : T) : System V Q X F :=
  let q := d.request s.view text
  {s with view := d.asking s.view q,link := some {l with up := l.up ++ [q]}}

-- The server reads a request when it is done with the one before.
def receive [DecidableEq Q] (x : X) : System V Q X F :=
  match l.phase,l.up with
  | .waiting,q :: up => if d.question x = q
    then {s with link := some {l with up,phase := .working x (d.frames x)},served := s.served ++ [x]} else s
  | _,_ => s

def emit : System V Q X F :=
  match l.phase with
  | .working x (f :: pending) => {s with link := some {l with down := l.down ++ [f],phase := .working x pending}}
  | _ => s

-- An exchange is recorded when its frames are sent. One that closes the connection is not.
def finish : System V Q X F :=
  match l.phase with
  | .working x [] => if d.closes x then {s with link := some {l with phase := .closed}}
    else {s with link := some {l with phase := .waiting},recorded := s.recorded ++ [x]}
  | _ => s

def deliver : System V Q X F :=
  match l.down with
  | f :: down => {s with view := d.handle s.view f,link := some {l with down}}
  | [] => s

-- The client sees the end of the connection behind its last frame.
def close : System V Q X F :=
  match l.phase,l.down with
  | .closed,[] => {s with link := none}
  | _,_ => s

def opened (phase : Phase X F) (notices : List F) : System V Q X F :=
  match l.phase with
  | .opening => {s with link := some {l with down := l.down ++ notices,phase}}
  | _ => s

end

-- What is not enabled changes nothing.
def step [DecidableEq Q] (s : System V Q X F) (input : Input T X F) : System V Q X F :=
  match s.link with
  | none => match input with
    | .connect => {s with link := some {}}
    | _ => s
  | some l => match input with
    | .idle | .connect => s
    | .accept notices => if notices.all d.notice then opened s l .waiting notices else s
    | .refuse => opened s l .closed []
    | .submit text => if d.busy s.view then s else d.submit s l text
    | .receive x => d.receive s l x
    | .emit => emit s l
    | .finish => d.finish s l
    | .deliver => d.deliver s l
    | .close => close s l
    | .drop through => {s with link := none,recorded := s.recorded ++ d.carried through l.phase}

-- Everything that one step can do
inductive Moves : System V Q X F → System V Q X F → Prop where
  | connect : s.link = none → Moves s {s with link := some {}}
  | opens : s.link = some l → l.phase = .opening → phase.pending = [] → (∀ x pending, phase ≠ .working x pending) →
      notices.all d.notice → Moves s {s with link := some {l with down := l.down ++ notices,phase}}
  | submit : s.link = some l → d.busy s.view = false → Moves s (d.submit s l text)
  | receive : s.link = some l → l.phase = .waiting → l.up = d.question x :: up →
      Moves s {s with link := some {l with up,phase := .working x (d.frames x)},served := s.served ++ [x]}
  | emit : s.link = some l → l.phase = .working x (f :: pending) →
      Moves s {s with link := some {l with down := l.down ++ [f],phase := .working x pending}}
  | closing : s.link = some l → l.phase = .working x [] → d.closes x = true →
      Moves s {s with link := some {l with phase := .closed}}
  | record : s.link = some l → l.phase = .working x [] → d.closes x = false →
      Moves s {s with link := some {l with phase := .waiting},recorded := s.recorded ++ [x]}
  | deliver : s.link = some l → l.down = f :: down → Moves s {s with view := d.handle s.view f,link := some {l with down}}
  | close : s.link = some l → l.phase = .closed → l.down = [] → Moves s {s with link := none}
  | drop : s.link = some l → Moves s {s with link := none,recorded := s.recorded ++ d.carried through l.phase}

variable {d} {s : System V Q X F}

theorem step_moves [DecidableEq Q] (input : Input T X F) : d.step s input = s ∨ d.Moves s (d.step s input) := by
  unfold step
  cases linked : s.link with
  | none =>
    cases input with
    | connect => exact .inr (.connect linked)
    | _ => exact .inl rfl
  | some l =>
    cases input with
    | idle => exact .inl rfl
    | connect => exact .inl rfl
    | accept notices =>
      dsimp only
      split
      · next listed =>
        unfold opened
        split
        · next phase => exact .inr (.opens linked phase rfl (fun _ _ => nofun) listed)
        · exact .inl rfl
      · exact .inl rfl
    | refuse =>
      dsimp only [opened]
      split
      · next phase => exact .inr (.opens linked phase rfl (fun _ _ => nofun) rfl)
      · exact .inl rfl
    | submit text =>
      dsimp only
      split
      · exact .inl rfl
      · next idle => exact .inr (.submit linked (Bool.eq_false_iff.mpr idle))
    | receive x =>
      dsimp only [receive]
      split
      · next q up phase read =>
        split
        · next same => exact .inr (.receive linked phase (same ▸ read))
        · exact .inl rfl
      · exact .inl rfl
    | emit =>
      dsimp only [emit]
      split
      · next phase => exact .inr (.emit linked phase)
      · exact .inl rfl
    | finish =>
      dsimp only [finish]
      split
      · next x phase =>
        split
        · next closes => exact .inr (.closing linked phase closes)
        · next stays => exact .inr (.record linked phase (Bool.eq_false_iff.mpr stays))
      · exact .inl rfl
    | deliver =>
      dsimp only [deliver]
      split
      · next written => exact .inr (.deliver linked written)
      · exact .inl rfl
    | close =>
      dsimp only [close]
      split
      · next phase empty => exact .inr (.close linked phase empty)
      · exact .inl rfl
    | drop through => exact .inr (.drop linked)

-- The view after exchanges that were asked and answered one after another
variable (d) in
def sequel (served : List X) : V := served.foldl (fun v x => after d.handle (d.asking v (d.question x)) (d.frames x)) d.start

theorem sequel_last (served : List X) (x : X) :
    d.sequel (served ++ [x]) = after d.handle (d.asking (d.sequel served) (d.question x)) (d.frames x) := List.foldl_append

-- Where the client stands: the request that is still to be read, and the frames it still has to see
variable (d) in
inductive Standing : V → List X → Option Q → List F → Prop where
  | resting : Standing (d.sequel served) served none []
  | awaiting (text : T) : Standing (d.asking (d.sequel served) (d.request (d.sequel served) text)) served
      (some (d.request (d.sequel served) text)) []
  | hearing : d.frames x = sent ++ rest → rest ≠ [] →
      Standing (after d.handle (d.asking (d.sequel earlier) (d.question x)) sent) (earlier ++ [x]) none rest

variable {view : V} {served : List X} {q : Option Q} {rest : List F}

theorem Standing.busy (standing : d.Standing view served q rest) (unsettled : q ≠ none ∨ rest ≠ []) : d.busy view = true := by
  cases standing with
  | resting => simp at unsettled
  | awaiting text => exact d.asking_busy _ _
  | hearing split unfinished => exact d.busy_upto _ _ _ _ (d.asking_busy _ _) split unfinished

theorem Standing.idle (standing : d.Standing view served q rest) (idle : d.busy view = false) :
    view = d.sequel served ∧ q = none ∧ rest = [] := by
  cases standing with
  | resting => exact ⟨rfl,rfl,rfl⟩
  | awaiting text => rw [d.asking_busy] at idle; cases idle
  | hearing split unfinished => rw [d.busy_upto _ _ _ _ (d.asking_busy _ _) split unfinished] at idle; cases idle

theorem Standing.plain (standing : d.Standing view served q rest) : ∀ f ∈ rest, d.notice f = false := by
  cases standing with
  | resting => exact nofun
  | awaiting text => exact nofun
  | hearing split unfinished => exact fun f later => d.frames_plain _ f (split ▸ List.mem_append_right _ later)

theorem Standing.hear (standing : d.Standing view served q (f :: rest)) : d.Standing (d.handle view f) served q rest := by
  cases standing with
  | @hearing x sent _ earlier split unfinished =>
    have heard : d.frames x = (sent ++ [f]) ++ rest := by rw [split,List.append_assoc,List.singleton_append]
    have handled (v : V) : d.handle (after d.handle v sent) f = after d.handle v (sent ++ [f]) := after_last.symm
    rw [handled]
    cases rest with
    | nil =>
      rw [List.append_nil] at heard
      rw [← heard,← sequel_last]
      exact .resting
    | cons g rest => exact .hearing heard (List.cons_ne_nil _ _)

theorem frames_ne_nil (x : X) : d.frames x ≠ [] := by
  intro empty
  have still := d.busy_until _ x (d.asking_busy d.start (d.question x))
  rw [empty,after_nil,d.asking_busy] at still
  cases still

theorem Standing.awaited (standing : d.Standing view served (some asked) rest) :
    ∃ text, asked = d.request (d.sequel served) text ∧ view = d.asking (d.sequel served) asked ∧ rest = [] := by
  cases standing with
  | awaiting text => exact ⟨text,rfl,rfl,rfl⟩

-- The server reads the request.
theorem Standing.read (standing : d.Standing view served (some (d.question x)) rest) :
    d.Standing view (served ++ [x]) none (d.frames x) := by
  obtain ⟨text,_,rfl,_⟩ := standing.awaited
  exact .hearing (List.nil_append _).symm (frames_ne_nil x)

-- The frames of an answer that the client has not seen
variable (d) in
def incoming (l : Link Q X F) : List F := l.down.filter (fun f => !d.notice f) ++ l.phase.pending

variable (d) in
structure Carries (l : Link Q X F) (q : Option Q) (rest : List F) : Prop where
  up : l.up = q.toList
  down : d.incoming l = rest

-- A connection that carries nothing may stand for one that went down with all that was on it.
variable (d) in
structure Sound (s : System V Q X F) (q : Option Q) (rest : List F) : Prop where
  standing : d.Standing s.view s.served q rest
  linked : ∀ l, s.link = some l → d.Carries l q rest ∨ d.Carries l none []
  current : ∀ l x pending, s.link = some l → l.phase = .working x pending → ∃ earlier, s.served = earlier ++ [x]

section
variable {l other : Link Q X F} {recorded : List X}

theorem Carries.relink (carries : d.Carries l q rest) (up : other.up = l.up) (down : d.incoming other = d.incoming l) :
    d.Carries other q rest := ⟨up.trans carries.up,down.trans carries.down⟩

-- A step of one end that changes neither what the other has to read nor what comes of it
theorem Sound.relink (sound : d.Sound s q rest) (linked : s.link = some l) (up : other.up = l.up)
    (down : d.incoming other = d.incoming l)
    (phase : ∀ x pending, other.phase = .working x pending → ∃ before, l.phase = .working x before) :
    d.Sound {s with link := some other,recorded} q rest where
  standing := sound.standing
  linked := by
    rintro _ ⟨⟩
    exact (sound.linked l linked).imp (·.relink up down) (·.relink up down)
  current := by
    rintro _ x pending ⟨⟩ working
    obtain ⟨before,working⟩ := phase x pending working
    exact sound.current l x before linked working

theorem Sound.unlink (sound : d.Sound s q rest) : d.Sound {s with link := none,recorded} q rest :=
  ⟨sound.standing,fun _ => nofun,fun _ _ _ => nofun⟩

theorem Sound.idle (sound : d.Sound s q rest) (idle : d.busy s.view = false) (linked : s.link = some l) :
    d.Carries l none [] := by
  obtain ⟨_,rfl,rfl⟩ := sound.standing.idle idle
  exact (sound.linked l linked).elim id id

theorem Sound.submit (sound : d.Sound s q rest) (linked : s.link = some l) (idle : d.busy s.view = false) (text : T) :
    d.Sound (d.submit s l text) (some (d.request s.view text)) [] where
  standing := by
    have view := (sound.standing.idle idle).1
    change d.Standing (d.asking s.view (d.request s.view text)) s.served (some (d.request s.view text)) []
    rw [view]
    exact .awaiting text
  linked := by
    rintro _ ⟨⟩
    have carries := sound.idle idle linked
    exact .inl ⟨by simp [carries.up],carries.down⟩
  current := by
    rintro _ x pending ⟨⟩ working
    exact sound.current l x pending linked working

-- A request that is read is the one that the client waits for.
theorem Sound.unread (sound : d.Sound s q rest) (linked : s.link = some l) (up : l.up = asked :: others) :
    q = some asked ∧ others = [] ∧ d.Carries l q rest := by
  rcases sound.linked l linked with carries | carries
  · have queue := carries.up
    rw [up] at queue
    cases q with
    | none => cases queue
    | some own => cases queue; exact ⟨rfl,rfl,carries⟩
  · have queue := carries.up
    rw [up] at queue
    cases queue

theorem Sound.receive (sound : d.Sound s q rest) (linked : s.link = some l) (phase : l.phase = .waiting)
    (up : l.up = d.question x :: others) :
    d.Sound {s with link := some {l with up := others,phase := .working x (d.frames x)},served := s.served ++ [x]}
      none (d.frames x) where
  standing := by
    obtain ⟨rfl,_,_⟩ := sound.unread linked up
    exact sound.standing.read
  linked := by
    rintro _ ⟨⟩
    obtain ⟨rfl,rfl,carries⟩ := sound.unread linked up
    obtain ⟨_,_,_,rfl⟩ := sound.standing.awaited
    have quiet : l.down.filter (fun f => !d.notice f) = [] := by
      have down := carries.down
      rw [incoming,phase] at down
      exact (List.append_eq_nil_iff.mp down).1
    exact .inl ⟨rfl,by rw [incoming,quiet]; rfl⟩
  current := by
    rintro _ y pending ⟨⟩ working
    cases working
    exact ⟨s.served,rfl⟩

theorem Sound.emitted (sound : d.Sound s q rest) (linked : s.link = some l) (phase : l.phase = .working x (f :: pending)) :
    d.notice f = false := by
  have waits : f ∈ d.incoming l := by simp [incoming,phase,Phase.pending]
  rcases sound.linked l linked with carries | carries
  · exact sound.standing.plain f (carries.down ▸ waits)
  · rw [carries.down] at waits
    cases waits

theorem Sound.deliver (sound : d.Sound s q rest) (linked : s.link = some l) (down : l.down = f :: later) :
    ∃ rest, d.Sound {s with view := d.handle s.view f,link := some {l with down := later}} q rest := by
  have current : ∀ other x pending, some {l with down := later} = some other → other.phase = .working x pending →
      ∃ earlier, s.served = earlier ++ [x] := by
    rintro _ x pending ⟨⟩ working
    exact sound.current l x pending linked working
  by_cases notice : d.notice f = true
  · have same : d.incoming {l with down := later} = d.incoming l := by simp [incoming,down,notice]
    refine ⟨rest,?_,?_,current⟩
    · change d.Standing (d.handle s.view f) s.served q rest
      rw [d.notice_idle _ _ notice]
      exact sound.standing
    · rintro _ ⟨⟩
      exact (sound.linked l linked).imp (·.relink rfl same) (·.relink rfl same)
  · have first : d.incoming l = f :: d.incoming {l with down := later} := by simp [incoming,down,notice]
    rcases sound.linked l linked with carries | carries
    · have split := carries.down
      rw [first] at split
      subst split
      refine ⟨_,sound.standing.hear,?_,current⟩
      rintro _ ⟨⟩
      exact .inl ⟨carries.up,rfl⟩
    · have split := carries.down
      rw [first] at split
      cases split

theorem incoming_opened {phase : Phase X F} {notices : List F} (opening : l.phase = .opening) (empty : phase.pending = [])
    (listed : notices.all d.notice) : d.incoming {l with down := l.down ++ notices,phase} = d.incoming l := by
  have quiet : notices.filter (fun f => !d.notice f) = [] := by simpa using listed
  rw [incoming,incoming,List.filter_append,quiet,List.append_nil,opening]
  exact congrArg _ empty

theorem incoming_ended {phase : Phase X F} (working : l.phase = .working x []) (empty : phase.pending = []) :
    d.incoming {l with phase} = d.incoming l := by
  rw [incoming,incoming,working]
  exact congrArg _ empty

theorem Moves.sound (moves : d.Moves s next) (sound : d.Sound s q rest) : ∃ q rest, d.Sound next q rest := by
  cases moves with
  | connect unlinked =>
    refine ⟨q,rest,sound.standing,?_,?_⟩
    · rintro _ ⟨⟩
      exact .inr ⟨rfl,rfl⟩
    · rintro _ x pending ⟨⟩ working
      cases working
  | opens linked opening empty unstarted listed =>
    exact ⟨q,rest,sound.relink linked rfl (incoming_opened opening empty listed)
      fun x pending working => absurd working (unstarted x pending)⟩
  | submit linked idle => exact ⟨_,_,sound.submit linked idle _⟩
  | receive linked phase up => exact ⟨_,_,sound.receive linked phase up⟩
  | emit linked phase =>
    refine ⟨q,rest,sound.relink linked rfl ?_ fun x pending working => ?_⟩
    · simp [incoming,phase,Phase.pending,sound.emitted linked phase]
    · cases working
      exact ⟨_,phase⟩
  | closing linked phase closes => exact ⟨q,rest,sound.relink linked rfl (incoming_ended phase rfl) fun _ _ => nofun⟩
  | record linked phase stays => exact ⟨q,rest,sound.relink linked rfl (incoming_ended phase rfl) fun _ _ => nofun⟩
  | deliver linked down =>
    obtain ⟨rest,sound⟩ := sound.deliver linked down
    exact ⟨q,rest,sound⟩
  | close linked phase down => exact ⟨q,rest,sound.unlink⟩
  | drop linked => exact ⟨q,rest,sound.unlink⟩

end

theorem initial_sound : d.Sound d.initial none [] where
  standing := by
    have resting : d.Standing (d.sequel []) [] none [] := .resting
    exact resting
  linked := fun _ => nofun
  current := fun _ _ _ => nofun

-- Each exchange was asked of the view that the ones before it leave.
variable (d) in
def InTurn (served : List X) : Prop :=
  ∀ earlier x later, served = earlier ++ x :: later → ∃ text, d.question x = d.request (d.sequel earlier) text

theorem InTurn.next (turns : d.InTurn served) (asked : d.question x = d.request (d.sequel served) text) :
    d.InTurn (served ++ [x]) := by
  intro earlier y later split
  rcases List.append_eq_append_iff.mp split with ⟨between,rfl,last⟩ | ⟨between,rfl,last⟩
  · cases between with
    | nil =>
      obtain ⟨rfl,_⟩ := List.cons_eq_cons.mp last
      exact ⟨text,by simpa using asked⟩
    | cons first between => simp at last
  · cases between with
    | nil =>
      obtain ⟨rfl,_⟩ := List.cons_eq_cons.mp last
      exact ⟨text,by simpa using asked⟩
    | cons first between =>
      obtain ⟨rfl,_⟩ := List.cons_eq_cons.mp last
      exact turns earlier _ between rfl

theorem Moves.inTurn (moves : d.Moves s next) (sound : d.Sound s q rest) (turns : d.InTurn s.served) :
    d.InTurn next.served := by
  cases moves with
  | receive linked phase up =>
    obtain ⟨rfl,_,_⟩ := sound.unread linked up
    obtain ⟨text,asked,_,_⟩ := sound.standing.awaited
    exact turns.next asked
  | _ => exact turns

-- A busy client without a connection, or with one that carries nothing for it, waits for good.
variable (d) in
structure Stuck (s : System V Q X F) : Prop where
  busy : d.busy s.view = true
  nothing : ∀ l, s.link = some l → d.Carries l none []

theorem Moves.stuck (moves : d.Moves s next) (stuck : d.Stuck s) :
    d.Stuck next ∧ next.view = s.view ∧ next.served = s.served := by
  cases moves with
  | connect unlinked =>
    refine ⟨⟨stuck.busy,?_⟩,rfl,rfl⟩
    rintro _ ⟨⟩
    exact ⟨rfl,rfl⟩
  | opens linked opening empty unstarted listed =>
    refine ⟨⟨stuck.busy,?_⟩,rfl,rfl⟩
    rintro _ ⟨⟩
    exact (stuck.nothing _ linked).relink rfl (incoming_opened opening empty listed)
  | submit linked idle => rw [stuck.busy] at idle; cases idle
  | receive linked phase up =>
    have queue := (stuck.nothing _ linked).up
    rw [up] at queue
    cases queue
  | emit linked phase =>
    have down := (stuck.nothing _ linked).down
    simp [incoming,phase,Phase.pending] at down
  | closing linked phase closes =>
    refine ⟨⟨stuck.busy,?_⟩,rfl,rfl⟩
    rintro _ ⟨⟩
    exact (stuck.nothing _ linked).relink rfl (incoming_ended phase rfl)
  | record linked phase stays =>
    refine ⟨⟨stuck.busy,?_⟩,rfl,rfl⟩
    rintro _ ⟨⟩
    exact (stuck.nothing _ linked).relink rfl (incoming_ended phase rfl)
  | @deliver _ f _ _ linked down =>
    have empty := (stuck.nothing _ linked).down
    have notice : d.notice f = true := by
      by_contra plain
      simp [incoming,down,plain] at empty
    have view : d.handle s.view f = s.view := d.notice_idle _ _ notice
    refine ⟨⟨?_,?_⟩,view,rfl⟩
    · change d.busy (d.handle s.view f) = true
      rw [view]
      exact stuck.busy
    · rintro _ ⟨⟩
      exact (stuck.nothing _ linked).relink rfl (by simp [incoming,down,notice])
  | close linked phase down => exact ⟨⟨stuck.busy,fun _ => nofun⟩,rfl,rfl⟩
  | drop linked => exact ⟨⟨stuck.busy,fun _ => nofun⟩,rfl,rfl⟩

-- The exchanges that are to be recorded, and the one of them that the server is still at
variable (d) in
def answered (served : List X) : List X := served.filter fun x => !d.closes x

variable (d) in
def unfinished (s : System V Q X F) : List X := (s.link.map fun l => d.carried true l.phase).getD []

-- A connection that went down before the server had sent its answer
variable (d) in
structure Missing (s : System V Q X F) : Prop where
  stuck : d.Stuck s
  resting : ∀ l x pending, s.link = some l → l.phase ≠ .working x pending
  short : ∃ x, s.recorded ++ [x] = d.answered s.served

variable (d) in
def Accounted (s : System V Q X F) : Prop := s.recorded ++ d.unfinished s = d.answered s.served ∨ d.Missing s

theorem carried_working (x : X) (pending : List F) : d.carried true (.working x pending) = d.answered [x] := by
  cases closes : d.closes x <;> simp [carried,answered,closes]

theorem carried_unstarted {phase : Phase X F} (unstarted : ∀ x pending, phase ≠ .working x pending) (through : Bool) :
    d.carried through phase = [] := by
  cases phase with
  | working x pending => exact absurd rfl (unstarted x pending)
  | _ => rfl

-- A server that is cut off before its last frame records nothing.
theorem carried_cases (through : Bool) (phase : Phase X F) : d.carried through phase = d.carried true phase ∨
    d.carried through phase = [] ∧ ∃ x f pending, phase = .working x (f :: pending) ∧ d.carried true phase = [x] := by
  cases phase with
  | working x pending =>
    cases pending with
    | nil => left; simp [carried]
    | cons f pending =>
      cases through with
      | true => exact .inl rfl
      | false =>
        by_cases closes : d.closes x = true
        · left; simp [carried,closes]
        · right; simp [carried,closes]
  | _ => exact .inl rfl

theorem unfinished_linked (linked : s.link = some l) : d.unfinished s = d.carried true l.phase := by
  rw [unfinished,linked]
  rfl

theorem answered_last (served : List X) (x : X) : d.answered (served ++ [x]) = d.answered served ++ d.answered [x] :=
  List.filter_append ..

theorem Sound.unheard (sound : d.Sound s q rest) (linked : s.link = some l) (phase : l.phase = .working x (f :: pending)) :
    d.busy s.view = true := by
  have waits : f ∈ d.incoming l := by simp [incoming,phase,Phase.pending]
  rcases sound.linked l linked with carries | carries
  · rw [carries.down] at waits
    exact sound.standing.busy (.inr (List.ne_nil_of_mem waits))
  · rw [carries.down] at waits
    cases waits

theorem Moves.missing (moves : d.Moves s next) (missing : d.Missing s) : d.Missing next := by
  have stuck := (moves.stuck missing.stuck).1
  cases moves with
  | connect unlinked =>
    refine ⟨stuck,?_,missing.short⟩
    rintro _ x pending ⟨⟩
    exact nofun
  | opens linked opening empty unstarted listed =>
    refine ⟨stuck,?_,missing.short⟩
    rintro _ x pending ⟨⟩
    exact unstarted x pending
  | submit linked idle =>
    rw [missing.stuck.busy] at idle
    cases idle
  | receive linked phase up =>
    have queue := (missing.stuck.nothing _ linked).up
    rw [up] at queue
    cases queue
  | emit linked phase => exact absurd phase (missing.resting _ _ _ linked)
  | closing linked phase closes => exact absurd phase (missing.resting _ _ _ linked)
  | record linked phase stays => exact absurd phase (missing.resting _ _ _ linked)
  | deliver linked down =>
    refine ⟨stuck,?_,missing.short⟩
    rintro _ x pending ⟨⟩ working
    exact missing.resting _ x pending linked working
  | close linked phase down => exact ⟨stuck,fun _ _ _ => nofun,missing.short⟩
  | drop linked =>
    refine ⟨stuck,fun _ _ _ => nofun,?_⟩
    rw [carried_unstarted fun x pending => missing.resting _ x pending linked,List.append_nil]
    exact missing.short

theorem Moves.accounted (moves : d.Moves s next) (sound : d.Sound s q rest) (accounted : d.Accounted s) :
    d.Accounted next := by
  rcases accounted with whole | missing
  · cases moves with
    | connect unlinked =>
      left
      rw [unfinished,unlinked] at whole
      exact whole
    | opens linked opening empty unstarted listed =>
      left
      rw [unfinished_linked linked,opening] at whole
      rw [unfinished_linked rfl,carried_unstarted unstarted]
      exact whole
    | submit linked idle =>
      left
      rw [unfinished_linked linked] at whole
      exact whole
    | receive linked phase up =>
      left
      rw [unfinished_linked linked,phase,carried_unstarted (fun _ _ working => by cases working),List.append_nil] at whole
      rw [unfinished_linked rfl,carried_working,answered_last,whole]
    | emit linked phase =>
      left
      rw [unfinished_linked linked,phase] at whole
      exact whole
    | closing linked phase closes =>
      left
      rw [unfinished_linked linked,phase,carried_working,answered,List.filter_singleton,closes] at whole
      exact whole
    | record linked phase stays =>
      left
      rw [unfinished_linked linked,phase,carried_working,answered,List.filter_singleton,stays] at whole
      simpa [unfinished,carried] using whole
    | deliver linked down =>
      left
      rw [unfinished_linked linked] at whole
      exact whole
    | close linked phase down =>
      left
      rw [unfinished_linked linked,phase] at whole
      exact whole
    | @drop _ _ through linked =>
      rw [unfinished_linked linked] at whole
      rcases d.carried_cases through _ with same | ⟨nothing,x,f,pending,phase,all⟩
      · left
        rw [same]
        exact (List.append_nil _).trans whole
      · right
        refine ⟨⟨sound.unheard linked phase,fun _ => nofun⟩,fun _ _ _ => nofun,x,?_⟩
        rw [nothing,List.append_nil,← all]
        exact whole
  · exact .inr (moves.missing missing)

-- Soundness with all that it keeps
variable (d) in
structure Kept (s : System V Q X F) : Prop where
  sound : ∃ q rest, d.Sound s q rest
  inTurn : d.InTurn s.served
  accounted : d.Accounted s

theorem initial_kept : d.Kept d.initial where
  sound := ⟨none,[],initial_sound⟩
  inTurn := by
    intro earlier x later split
    cases earlier <;> cases split
  accounted := .inl rfl

theorem step_kept [DecidableEq Q] (s : System V Q X F) (input : Input T X F) (kept : d.Kept s) : d.Kept (d.step s input) := by
  obtain ⟨q,rest,sound⟩ := kept.sound
  rcases step_moves (d := d) (s := s) input with same | moves
  · rw [same]
    exact kept
  · exact ⟨moves.sound sound,moves.inTurn sound kept.inTurn,moves.accounted sound kept.accounted⟩

theorem run_kept [DecidableEq Q] (inputs : List (Input T X F)) : d.Kept (after d.step d.initial inputs) :=
  invariant step_kept initial_kept

-- A client at rest sees the exchanges so far, each asked of the view before it.
theorem Kept.rests (kept : d.Kept s) (idle : d.busy s.view = false) : s.view = d.sequel s.served := by
  obtain ⟨q,rest,sound⟩ := kept.sound
  exact (sound.standing.idle idle).1

-- A busy client sees a beginning of the last exchange.
theorem Kept.hears (kept : d.Kept s) : s.view = d.sequel s.served ∨
    (∃ text, s.view = d.asking (d.sequel s.served) (d.request (d.sequel s.served) text)) ∨
    ∃ earlier x sent rest, s.served = earlier ++ [x] ∧ d.frames x = sent ++ rest ∧ rest ≠ [] ∧
      s.view = after d.handle (d.asking (d.sequel earlier) (d.question x)) sent := by
  obtain ⟨q,rest,sound⟩ := kept.sound
  have standing := sound.standing
  revert standing
  generalize s.view = view
  generalize s.served = served
  intro standing
  cases standing with
  | resting => exact .inl rfl
  | awaiting text => exact .inr (.inl ⟨text,rfl⟩)
  | hearing split unfinished => exact .inr (.inr ⟨_,_,_,_,rfl,split,unfinished,rfl⟩)

-- All answers but at most the last are recorded, in order and once.
theorem Kept.recorded (kept : d.Kept s) : s.recorded = d.answered s.served ∨
    ∃ x, s.recorded ++ [x] = d.answered s.served := by
  rcases kept.accounted with whole | missing
  · unfold unfinished at whole
    cases linked : s.link with
    | none =>
      rw [linked] at whole
      exact .inl ((List.append_nil _).symm.trans whole)
    | some l =>
      rw [linked] at whole
      change s.recorded ++ d.carried true l.phase = _ at whole
      cases phase : l.phase with
      | working x pending =>
        rw [phase,carried_working] at whole
        cases closes : d.closes x with
        | true => left; simpa [answered,closes] using whole
        | false => right; exact ⟨x,by simpa [answered,closes] using whole⟩
      | _ =>
        rw [phase] at whole
        exact .inl ((List.append_nil _).symm.trans whole)
  · exact .inr missing.short

end Dialogue
end Sophia.HalfDuplex
