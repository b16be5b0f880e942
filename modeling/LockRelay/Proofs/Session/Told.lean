import LockRelay.Proofs.Session.BackgroundMoves

/-! What the caller is told, each time with the session in which it is told. An operation ends where
it was started, or in the caller's turn, of which settling is a series. -/
namespace LockRelay.Radio

variable {s t : Radio}

/-- What the caller is told by a step of its own. -/
def told : Radio × Option Outcome → List (Outcome × Radio)
  | (s, some outcome) => [(outcome, s)]
  | (_, none) => []

/-- What the caller is told in a turn. -/
def toldByTurn (s : Radio) : List (Outcome × Radio) :=
  match s.ready with
  | .caller :: rest => told { s with ready := rest }.resume
  | _ => []

def toldByTurns : Nat → Radio → List (Outcome × Radio)
  | 0, _ => []
  | n + 1, s => if s.ready.isEmpty then [] else s.toldByTurn ++ toldByTurns n s.poll

def toldBy (s : Radio) : Event → List (Outcome × Radio)
  | .start operation => told (s.start operation)
  | .turn => s.toldByTurn
  | .settle => toldByTurns (3 * s.ready.length) s
  | .abandon | .device _ => []

theorem mem_told {p : Radio × Option Outcome} {outcome : Outcome} :
    (outcome, t) ∈ told p ↔ p = (t, some outcome) := by
  obtain ⟨u, _ | outcome'⟩ := p
  · simp [told]
  · simp [told, and_comm, eq_comm]

theorem run_append (s : Radio) (before after : List Event) :
    s.run (before ++ after) = (s.run before).run after := List.foldl_append

theorem run_concat (s : Radio) (before : List Event) (event : Event) :
    s.run (before ++ [event]) = (s.run before).step event := run_append s before [event]

/-- In some event of a history something is so of the session before it and of the event. -/
def Meets (s : Radio) (P : Radio → Event → Prop) (history : List Event) : Prop :=
  ∃ before event, before ++ [event] <+: history ∧ P (s.run before) event

theorem not_meets_nil {P : Radio → Event → Prop} : ¬s.Meets P [] := by
  rintro ⟨before, event, hPrefix, -⟩
  simpa using List.prefix_nil.mp hPrefix

theorem meets_cons {P : Radio → Event → Prop} {event : Event} {rest : List Event} :
    s.Meets P (event :: rest) ↔ P s event ∨ (s.step event).Meets P rest := by
  constructor
  · rintro ⟨before, last, hPrefix, hMeets⟩
    cases before with
    | nil =>
        obtain ⟨rfl, -⟩ := List.cons_prefix_cons.mp hPrefix
        exact Or.inl hMeets
    | cons first before =>
        obtain ⟨rfl, hRest⟩ := List.cons_prefix_cons.mp hPrefix
        exact Or.inr ⟨before, last, hRest, hMeets⟩
  · rintro (hMeets | ⟨before, last, hPrefix, hMeets⟩)
    · exact ⟨[], event, List.cons_prefix_cons.mpr ⟨rfl, List.nil_prefix⟩, hMeets⟩
    · exact ⟨event :: before, last, List.cons_prefix_cons.mpr ⟨rfl, hPrefix⟩, hMeets⟩

theorem meets_concat {P : Radio → Event → Prop} {history : List Event} {event : Event} :
    s.Meets P (history ++ [event]) ↔ s.Meets P history ∨ P (s.run history) event := by
  constructor
  · rintro ⟨before, last, hPrefix, hMeets⟩
    rcases List.prefix_concat_iff.mp hPrefix with hSame | hPrefix
    · obtain ⟨rfl, hLast⟩ := List.append_inj' hSame rfl
      obtain rfl := List.singleton_injective hLast
      exact Or.inr hMeets
    · exact Or.inl ⟨before, last, hPrefix, hMeets⟩
  · rintro (⟨before, last, hPrefix, hMeets⟩ | hMeets)
    · exact ⟨before, last, hPrefix.trans (List.prefix_append _ _), hMeets⟩
    · exact ⟨history, event, List.prefix_rfl, hMeets⟩

/-- So many turns. -/
def turns (n : Nat) : List Event := List.replicate n .turn

theorem poll_of_ready_nil (h : s.ready = []) : s.poll = s := by
  unfold poll
  rw [h]

theorem pollTimes_of_ready_nil (h : s.ready = []) (n : Nat) : pollTimes n s = s := by
  cases n with
  | zero => rfl
  | succ n => simp [pollTimes, h]

theorem pollTimes_succ (n : Nat) (s : Radio) : pollTimes (n + 1) s = pollTimes n s.poll := by
  cases hReady : s.ready with
  | nil =>
      have hTimes := pollTimes_of_ready_nil hReady
      rw [poll_of_ready_nil hReady, hTimes, hTimes]
  | cons p rest => simp [pollTimes, hReady]

theorem pollTimes_eq_run (n : Nat) (s : Radio) : pollTimes n s = s.run (turns n) := by
  induction n generalizing s with
  | zero => rfl
  | succ n ih => exact (pollTimes_succ n s).trans (ih s.poll)

/-- Settling is a number of turns. -/
theorem settle_eq_run (s : Radio) : s.settle = s.run (turns (3 * s.ready.length)) :=
  pollTimes_eq_run _ s

theorem mem_toldByTurns {outcome : Outcome} {n : Nat} (hTold : (outcome, t) ∈ toldByTurns n s) :
    ∃ i, (outcome, t) ∈ (s.run (turns i)).toldByTurn := by
  induction n generalizing s with
  | zero => cases hTold
  | succ n ih =>
      unfold toldByTurns at hTold
      split_ifs at hTold
      · cases hTold
      · rcases List.mem_append.mp hTold with hTold | hTold
        · exact ⟨0, hTold⟩
        · obtain ⟨i, hTold⟩ := ih hTold
          exact ⟨i + 1, hTold⟩

/-- The caller is told the outcome of an operation where it starts it, or in a turn after so many
others. -/
theorem mem_toldBy {outcome : Outcome} {event : Event} (hTold : (outcome, t) ∈ s.toldBy event) :
    (∃ operation, event = .start operation ∧ s.start operation = (t, some outcome)) ∨
      (event = .turn ∨ event = .settle) ∧ ∃ i, (outcome, t) ∈ (s.run (turns i)).toldByTurn := by
  cases event with
  | start operation => exact Or.inl ⟨operation, rfl, mem_told.mp hTold⟩
  | turn => exact Or.inr ⟨Or.inl rfl, 0, hTold⟩
  | settle => exact Or.inr ⟨Or.inr rfl, mem_toldByTurns hTold⟩
  | abandon => cases hTold
  | device event => cases hTold

/-- In its turn the caller is told how the operation ends that has waited. -/
theorem mem_toldByTurn {outcome : Outcome} (hTold : (outcome, t) ∈ s.toldByTurn) :
    ∃ rest suspended, s.ready = .caller :: rest ∧ s.operation = some suspended ∧
      ({ s with ready := rest } : Radio).resume = (t, some outcome) := by
  unfold toldByTurn at hTold
  split at hTold
  · rename_i rest hReady
    have hResumed := mem_told.mp hTold
    cases hOperation : s.operation with
    | none => simp [resume_of_idle, hOperation] at hResumed
    | some suspended => exact ⟨rest, suspended, hReady, rfl, hOperation ▸ hResumed⟩
  · cases hTold

/-- An operation that starts or goes on in a session ends with an outcome. -/
structure Ended (m : Mover) (s : Radio) (outcome : Outcome) (t : Radio) : Prop where
  moves : s.MovesBy (· = m) t
  idle : t.operation = none
  justified : t.Justifies outcome
  ends : m.Ends outcome

theorem Concludes.ended {m : Mover} {payload : Option Bytes} {asked : Nat} {outcome : Outcome}
    (h : Concludes m payload asked s (t, some outcome)) : Ended m s outcome t :=
  ⟨h.moves, h.stands.1, h.stands.2.2, h.ends outcome rfl⟩

theorem start_ended {operation : Operation} {outcome : Outcome}
    (hTold : s.start operation = (t, some outcome)) :
    s.operation = none ∧ Ended (operation.mover s) s outcome t := by
  cases hOperation : s.operation with
  | none =>
      have hConcludes := start_concludes operation hOperation
      rw [hTold] at hConcludes
      exact ⟨rfl, hConcludes.ended⟩
  | some suspended => simp [start_of_busy hOperation] at hTold

theorem Sound.resume_ended {suspended : Suspended} {outcome : Outcome} (h : s.Sound)
    (hOperation : s.operation = some suspended) (hTold : s.resume = (t, some outcome)) :
    Ended suspended.point.mover { s with operation := none } outcome t := by
  have hConcludes := h.resume_concludes hOperation
  rw [hTold] at hConcludes
  exact hConcludes.ended

theorem toldBy_moves {outcome : Outcome} {event : Event} (h : s.Sound)
    (hTold : (outcome, t) ∈ s.toldBy event) : s.Moves t ∧ t.Justifies outcome := by
  rcases mem_toldBy hTold with ⟨operation, -, hStart⟩ | ⟨-, i, hTurn⟩
  · obtain ⟨-, hEnded⟩ := start_ended hStart
    exact ⟨hEnded.moves.moves, hEnded.justified⟩
  · have hTurns := h.run_moves (turns i)
    obtain ⟨rest, suspended, hReady, hOperation, hResume⟩ := mem_toldByTurn hTurn
    have hPolled := polled_sound (h.moves hTurns) hReady
    have hEnded := hPolled.resume_ended hOperation hResume
    refine ⟨hTurns.trans ?_, hEnded.justified⟩
    exact .head ⟨_, trivial, .polled _ _ _ hReady⟩
      (.head ⟨_, trivial, .resumed _⟩ hEnded.moves.moves)

end LockRelay.Radio
