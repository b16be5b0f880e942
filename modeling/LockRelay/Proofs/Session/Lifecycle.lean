import LockRelay.Proofs.Session.Told

/-! The states of a session as a machine: who may change the state, from what and to what. All moves
but those that make a connection keep to it by themselves. -/
namespace LockRelay

/-- How the state may change, and by whom. To assign the state that there is changes nothing. -/
inductive LinkState.Follows : Mover → LinkState → LinkState → Prop where
  | same (m : Mover) (state : LinkState) : Follows m state state
  | searching {k : ConnectionId} {state : LinkState}
      (hState : state = .idle ∨ state = .disconnected) : Follows (.connecting k) state .connecting
  | found {k : ConnectionId} : Follows (.connecting k) .connecting .bound
  | rejected {k : ConnectionId} : Follows (.connecting k) .connecting .disconnected
  | cancelled {k : ConnectionId} : Follows (.connecting k) .connecting .idle
  | replaced {k : ConnectionId} : Follows (.connecting k) .bound .disconnected
  | dropSeen {m : Mover} (hMover : m.observes = true) : Follows m .bound .disconnected
  | boundAgain : Follows .sending .disconnected .bound
  | tornDown (state : LinkState) : Follows .disconnecting state .disconnected

/-- Only who makes a connection or takes one down has to do with the connecting state. -/
theorem LinkState.Follows.connecting_iff {m : Mover} {before after : LinkState}
    (h : LinkState.Follows m before after) (hMover : m.tearsDown = false) :
    after = .connecting ↔ before = .connecting := by
  cases h with
  | same => exact Iff.rfl
  | searching | found | rejected | cancelled | replaced | tornDown => cases hMover
  | dropSeen | boundAgain => simp

/-- The request that is pursued while an operation waits at a point. -/
def Point.request? : Point → Option ConnectRequest
  | .replacing request _ | .binding request _ => some request
  | .sending _ | .rebinding _ | .disconnecting _ => none

/-- Changes of the state, each with who makes it, that follow one another from a state on. -/
def LinkState.Allows : LinkState → List (Mover × LinkState) → Prop
  | _, [] => True
  | before, (m, after) :: rest => LinkState.Follows m before after ∧ after.Allows rest

/-- The state after such changes. -/
def LinkState.after (before : LinkState) (changes : List (Mover × LinkState)) : LinkState :=
  (changes.map Prod.snd).getLastD before

theorem LinkState.after_append (before : LinkState) (changes later : List (Mover × LinkState)) :
    before.after (changes ++ later) = (before.after changes).after later := by
  induction changes generalizing before with
  | nil => rfl
  | cons change changes ih =>
      unfold after at ih ⊢
      rw [List.cons_append, List.map_cons, List.map_cons, List.getLastD_cons, List.getLastD_cons]
      exact ih change.2

theorem LinkState.Allows.append {before : LinkState} {changes later : List (Mover × LinkState)}
    (h : before.Allows changes) (hLater : (before.after changes).Allows later) :
    before.Allows (changes ++ later) := by
  induction changes generalizing before with
  | nil => exact hLater
  | cons change changes ih =>
      unfold after at ih hLater
      rw [List.map_cons, List.getLastD_cons] at hLater
      exact ⟨h.1, ih h.2 hLater⟩

namespace Radio

variable {s t u : Radio} {m : Mover} {a b : Prop}

/-- What is assigned on the way between two sessions, each time as the mover may change it, and
whether the session has been idle in between. -/
def Passes (m : Mover) (idles : Prop) (s t : Radio) : Prop :=
  ∃ states : List LinkState, t.assignments = s.assignments ++ states ∧
    s.session.state.Allows (states.map (m, ·)) ∧
    t.session.state = s.session.state.after (states.map (m, ·)) ∧ (.idle ∈ states ↔ idles)

theorem Passes.of_same (hAssignments : t.assignments = s.assignments)
    (hState : t.session.state = s.session.state) : Passes m False s t :=
  ⟨[], hAssignments.trans (List.append_nil _).symm, trivial, hState, by simp⟩

/-- A step that assigns no state. -/
theorem Passes.of_quiet (added : List Effect) (hTrace : t.trace = s.trace ++ added)
    (hAdded : ∀ effect ∈ added, effect.assigned? = none)
    (hState : t.session.state = s.session.state) : Passes m False s t := by
  have hNothing : added.filterMap Effect.assigned? = [] := List.filterMap_eq_nil_iff.mpr hAdded
  refine .of_same ?_ hState
  unfold assignments
  rw [hTrace, List.filterMap_append, hNothing, List.append_nil]

/-- A step that assigns one state. -/
theorem Passes.of_assigned {state : LinkState} (h : LinkState.Follows m s.session.state state)
    (hAssignments : t.assignments = s.assignments ++ [state]) (hState : t.session.state = state) :
    Passes m (state = .idle) s t := by
  refine ⟨[state], hAssignments, ⟨h, trivial⟩, hState, ?_⟩
  rw [List.mem_singleton]
  exact eq_comm

theorem Passes.trans (h : Passes m a s t) (h' : Passes m b t u) : Passes m (a ∨ b) s u := by
  obtain ⟨states, hAssignments, hAllows, hState, hIdle⟩ := h
  obtain ⟨states', hAssignments', hAllows', hState', hIdle'⟩ := h'
  rw [hState] at hAllows'
  refine ⟨states ++ states', ?_, ?_, ?_, ?_⟩
  · rw [hAssignments', hAssignments, List.append_assoc]
  · rw [List.map_append]
    exact hAllows.append hAllows'
  · rw [hState', hState, List.map_append, LinkState.after_append]
  · rw [List.mem_append, hIdle, hIdle']

theorem Passes.congr (h : Passes m a s t) (hIff : a ↔ b) : Passes m b s t := by
  rw [← propext hIff]
  exact h

theorem Passes.connecting_iff (h : Passes m a s t) (hMover : m.tearsDown = false) :
    t.session.state = .connecting ↔ s.session.state = .connecting := by
  obtain ⟨states, -, hAllows, hState, -⟩ := h
  rw [hState]
  clear hState
  generalize s.session.state = state at hAllows ⊢
  induction states generalizing state with
  | nil => exact Iff.rfl
  | cons next states ih =>
      obtain ⟨hFollows, hRest⟩ := hAllows
      have hLast : state.after ((next :: states).map (m, ·)) =
          next.after (states.map (m, ·)) := by
        unfold LinkState.after
        rw [List.map_cons, List.map_cons, List.getLastD_cons]
      rw [hLast]
      exact (ih next hRest).trans (hFollows.connecting_iff hMover)

theorem Called.passes (h : s.Called m t) : Passes m False s t :=
  .of_same h.assignments (congrArg Session.state h.session)

/-- A link comes with endpoints, and is bound or has been. -/
structure Furnished (s : Radio) : Prop where
  endpoints : s.session.endpoints.isSome = s.session.link.isSome
  linked : s.session.link ≠ none → s.session.state = .bound ∨ s.session.state = .disconnected

theorem Furnished.of_same (h : s.Furnished) (hSession : t.session = s.session) : t.Furnished := by
  refine ⟨?_, ?_⟩
  · rw [hSession]
    exact h.endpoints
  · rw [hSession]
    exact h.linked

theorem endpoints_readopt (s : Radio) (d : DeviceId) (endpoints : Endpoints) :
    (s.readopt d endpoints).session.endpoints = some endpoints := by
  unfold readopt
  simp only
  cases (s.abort s.session.notifyTask).session.onNotify <;> rfl

theorem Furnished.move (h : s.Furnished) (hMove : s.Move m t) : t.Furnished := by
  cases hMove with
  | assigned state hIdle hLink =>
      exact ⟨h.endpoints, fun hLinked => absurd hLink hLinked⟩
  | cleared => exact ⟨rfl, fun hLinked => absurd rfl hLinked⟩
  | adopted request d endpoints => exact ⟨rfl, fun _ => Or.inl rfl⟩
  | readopted d endpoints hIdle hLink =>
      obtain ⟨-, -, -, -, hLink', hBound⟩ := readopt_frame s d endpoints
      refine ⟨?_, fun _ => Or.inl hBound⟩
      rw [endpoints_readopt, hLink', hLink]
      rfl
  | demoted seen =>
      rcases dropped_cases s seen with ⟨hSame, -⟩ | ⟨-, -, hChanged⟩
      · rw [hSame]
        exact h
      · rw [hChanged]
        exact ⟨h.endpoints, fun _ => Or.inr rfl⟩
  | delivered id d connection queue =>
      rw [foldl_frames]
      exact h.of_same rfl
  | woken p =>
      unfold wake
      split_ifs <;> exact h.of_same rfl
  | reacted event => exact h.of_same (react_frame s event).1
  | _ => exact h.of_same rfl

/-- Without a link a session that is idle or connecting stays so while no operation moves. -/
theorem Move.state_eq (hSound : s.Sound) (hLink : s.session.link = none)
    (hMover : m.operates = false) (hMove : s.Move m t) : t.session.state = s.session.state := by
  have hFree : s.session.state ≠ .bound := fun hBound => hSound.bound hBound hLink
  cases hMove with
  | discovered | assigned | adopted | readopted => cases hMover
  | cleared hIdle hTearsDown =>
      cases m with
      | connecting | disconnecting => cases hMover
      | _ => cases hTearsDown
  | demoted seen =>
      rcases dropped_cases s seen with ⟨hSame, -⟩ | ⟨-, hBound, -⟩
      · rw [hSame]
      · exact absurd hBound hFree
  | delivered id d connection queue =>
      rw [foldl_frames]
      rfl
  | woken p =>
      unfold wake
      split_ifs <;> rfl
  | reacted event => exact congrArg Session.state (react_frame s event).1
  | _ => rfl

theorem dropped_passes (s : Radio) (seen : Option Nat) (hMover : m.observes = true) :
    Passes m False s (s.dropped seen) := by
  rcases dropped_cases s seen with ⟨hSame, -⟩ | ⟨-, hBound, hChanged⟩
  · rw [hSame]
    exact .of_same rfl rfl
  · have hFollows : LinkState.Follows m s.session.state .disconnected :=
      hBound ▸ .dropSeen hMover
    refine (Passes.of_assigned hFollows ?_ ?_).congr (by simp)
    · rw [hChanged]
      unfold assignments
      cases s.session.onDisconnect <;> simp [Effect.assigned?]
    · rw [hChanged]

/-- A move that makes no connection changes the state as its mover may, and never to idle. -/
theorem Move.passes (h : s.Furnished) (hMover : ∀ k, m ≠ .connecting k) (hMove : s.Move m t) :
    Passes m False s t := by
  cases hMove with
  | discovered | assigned | adopted => exact absurd rfl (hMover _)
  | called d device call succeeded => exact .of_quiet [_] rfl (by simp [Effect.assigned?]) rfl
  | returned outcome => exact .of_quiet [_] rfl (by simp [Effect.assigned?]) rfl
  | cleared hIdle hTearsDown =>
      obtain rfl : m = .disconnecting := by
        cases m with
        | connecting k => exact absurd rfl (hMover k)
        | disconnecting => rfl
        | _ => cases hTearsDown
      refine (Passes.of_assigned (.tornDown _) ?_ rfl).congr (by simp)
      unfold assignments
      rw [trace_clear]
      simp [Effect.assigned?]
  | readopted d endpoints hIdle hLink hState =>
      obtain ⟨-, -, -, hTrace, -, hBound⟩ := readopt_frame s d endpoints
      have hDropped : s.session.state = .disconnected :=
        (h.linked (by simp [hLink])).resolve_left hState
      have hFollows : LinkState.Follows .sending s.session.state .bound := hDropped ▸ .boundAgain
      refine (Passes.of_assigned hFollows ?_ hBound).congr (by simp)
      unfold assignments
      rw [hTrace]
      simp [Effect.assigned?]
  | demoted seen hDropped hObserves => exact dropped_passes s seen hObserves
  | delivered id d connection queue =>
      rw [foldl_frames]
      exact .of_quiet (queue.map _) rfl (by simp [Effect.assigned?]) rfl
  | woken p =>
      unfold wake
      split_ifs <;> exact .of_same rfl rfl
  | reacted event =>
      obtain ⟨hSession, -, hTrace, -⟩ := react_frame s event
      exact .of_quiet [] (hTrace.trans (List.append_nil _).symm) nofun
        (congrArg Session.state hSession)
  | _ => exact .of_same rfl rfl

theorem Furnished.moves {who : Mover → Prop} (h : s.Furnished) (hMoves : s.MovesBy who t) :
    t.Furnished :=
  hMoves.keeps (fun _ _ _ _ hMove h => h.move hMove) h

theorem Furnished.passes (h : s.Furnished) (hMover : ∀ k, m ≠ .connecting k)
    (hMoves : s.MovesBy (· = m) t) : Passes m False s t := by
  have hBoth : t.Furnished ∧ Passes m False s t := by
    refine hMoves.keeps (P := fun t => t.Furnished ∧ Passes m False s t) ?_ ⟨h, .of_same rfl rfl⟩
    rintro _ u v rfl hMove ⟨hFurnished, hPasses⟩
    exact ⟨hFurnished.move hMove,
      (hPasses.trans (hMove.passes hFurnished hMover)).congr (or_self_iff)⟩
  exact hBoth.2

theorem initial_furnished (devices : List Device) : (initial devices).Furnished :=
  ⟨rfl, fun hLinked => absurd rfl hLinked⟩

end Radio

end LockRelay
