import LockRelay.Proofs.Session.Provenance
import LockRelay.Proofs.Session.Representation
import LockRelay.Proofs.Session.Teardown

/-! What a connection hears once it is torn down. The session lets go of both callbacks before it
asks the device anything, and only the connection that the session holds is ever reported to, so
from the call that tears it down on, a connection hears nothing more. -/
namespace LockRelay.Radio

variable {s t : Radio} {m : Mover} {k : ConnectionId}

/-- The invocations of a connection's callbacks, oldest first. -/
def heardBy (s : Radio) (k : ConnectionId) : List Effect :=
  s.trace.filter (·.connection? = some k)

theorem heardBy_eq_heard (s : Radio) (k : ConnectionId) :
    s.heardBy k = s.heard.filter (·.connection? = some k) := by
  unfold heardBy heard
  rw [List.filter_filter]
  refine List.filter_congr fun effect _ => ?_
  cases effect <;> simp [Effect.connection?]

/-- Only who has the callbacks hears anything. -/
theorem Move.heardBy_eq (hSound : s.Sound) (hNumbered : s.Numbered)
    (hOther : s.session.onNotify ≠ some k) (hMove : s.Move m t) : t.heardBy k = s.heardBy k := by
  have hNotThis {i : ConnectionId} (hHeld : s.session.onNotify = some i) : i ≠ k :=
    fun hSame => hOther (hSame ▸ hHeld)
  rw [heardBy_eq_heard, heardBy_eq_heard]
  rcases hMove.heard_cases with hSame | ⟨i, hDrop⟩ | ⟨i, queue, hPayloads⟩
  · rw [hSame]
  · have hOthers := hNotThis (hNumbered.onDisconnect i hDrop.onDisconnect)
    rw [hDrop.heard, List.filter_append]
    simp [Effect.connection?, hOthers]
  · obtain ⟨id, e, -, hTask⟩ := hPayloads.task
    have hOthers := hNotThis (hSound.notifies (mem_of_task? hTask))
    rw [hPayloads.heard, List.filter_append]
    simp [Effect.connection?, hOthers]

/-- A number that was given out is not given out again, so nobody makes a connection any more that
nobody is making. -/
theorem Sound.run_movesBy_others (h : s.Sound) (hAsked : k < s.connections)
    (hWaits : s.InProgress (· ≠ .connecting k)) (after : List Event) :
    s.MovesBy (· ≠ .connecting k) (s.run after) := by
  refine h.run_movesBy ⟨nofun, fun _ => nofun⟩ hWaits fun event _ u hLater => ?_
  cases event with
  | start operation =>
      intro _ hMover
      have hLast := (Operation.connecting hMover).1
      exact (hAsked.trans_le hLater).ne hLast
  | device event => exact nofun
  | abandon | turn | settle => trivial

/-- The session has done with a connection: it does not hold it and is not making it. -/
structure Parted (s : Radio) (k : ConnectionId) : Prop where
  asked : k < s.connections
  held : s.session.onNotify ≠ some k
  waits : s.InProgress (· ≠ .connecting k)

/-- Whatever happens then, the connection hears nothing. -/
theorem Parted.silent (h : s.Parted k) (hSound : s.Sound) (hNumbered : s.Numbered)
    (after : List Event) : (s.run after).heardBy k = s.heardBy k := by
  have hMoves := hSound.run_movesBy_others h.asked h.waits after
  have hKept : (s.run after).Numbered ∧ (s.run after).session.onNotify ≠ some k ∧
      (s.run after).heardBy k = s.heardBy k := by
    refine hSound.keeps (P := fun t => t.Numbered ∧ t.session.onNotify ≠ some k ∧
      t.heardBy k = s.heardBy k) hMoves ?_ ⟨hNumbered, h.held, rfl⟩
    rintro m u v hMover hSound hMove ⟨hNumbered, hOther, hSame⟩
    refine ⟨hNumbered.move hSound hMove, fun hHeld => ?_, ?_⟩
    · rcases hMove.held_before hHeld with hBefore | ⟨hConnects, -⟩
      · exact hOther hBefore
      · exact hMover hConnects
    · exact (hMove.heardBy_eq hSound hNumbered hOther).trans hSame
  exact hKept.2.2

/-- After a teardown was called, the session holds the connection that it makes, if any. -/
theorem Regular.held_of_tearsDown (h : s.Regular) {operation : Operation}
    (hIdle : s.operation = none) (hTearsDown : (Event.start operation).TearsDown)
    (hHeld : (s.start operation).1.session.onNotify = some k) : k = s.connections := by
  cases operation with
  | send data => exact hTearsDown.elim
  | disconnect =>
      rw [start_disconnect hIdle, disconnect_session hIdle] at hHeld
      cases hHeld
  | connect serial =>
      obtain ⟨filter, hFilter⟩ := hTearsDown
      exact h.connect_held hIdle hFilter hHeld

/-- A teardown that is called ends every connection asked for before, silently. -/
theorem Regular.parted_of_tearsDown (h : s.Regular) {operation : Operation}
    (hIdle : s.operation = none) (hTearsDown : (Event.start operation).TearsDown)
    (hAsked : k < s.connections) : (s.start operation).1.Parted k ∧
      (s.start operation).1.heardBy k = s.heardBy k := by
  have hMoves := (start_concludes operation hIdle).moves
  have hMover : (operation.mover s).tearsDown = true :=
    Bool.eq_true_of_not_eq_false fun hSpares => tearsDown_iff.mp hSpares hTearsDown
  refine ⟨⟨?_, fun hHeld => ?_, fun suspended hOperation hConnects => ?_⟩, ?_⟩
  · exact hAsked.trans_le (grows_of_moves hMoves).connections
  · exact hAsked.ne (h.held_of_tearsDown hIdle hTearsDown hHeld)
  · have hSame := mover_of_moves hIdle hMoves hOperation
    exact hAsked.ne (Operation.connecting (hSame.symm.trans hConnects)).1
  · have hHeard : (s.start operation).1.heard = s.heard := by
      refine hMoves.keeps (P := fun t => t.heard = s.heard) ?_ rfl
      rintro _ u v rfl hMove hSame
      exact (hMove.heard_of_tearsDown hMover).trans hSame
    rw [heardBy_eq_heard, hHeard, heardBy_eq_heard]

/-- From the moment a disconnect is called, or a connect that is not refused for its serial number,
neither callback of any connection asked for before is invoked again: not while the call waits, not
after it has returned, failed or was abandoned, and not for what its tasks had in their queues or
were waiting for. -/
theorem silent_after_teardown (devices : List Device) (before after : List Event)
    (operation : Operation) (k : ConnectionId)
    (hIdle : ((initial devices).run before).operation = none)
    (hTearsDown : (Event.start operation).TearsDown)
    (hAsked : k < ((initial devices).run before).connections) :
    ((initial devices).run (before ++ .start operation :: after)).heardBy k =
      ((initial devices).run before).heardBy k := by
  have hSplit : (initial devices).run (before ++ .start operation :: after) =
      ((initial devices).run (before ++ [.start operation])).run after := by
    rw [← run_append, List.append_assoc, List.singleton_append]
  obtain ⟨hParted, hSame⟩ :=
    (run_regular devices before).parted_of_tearsDown hIdle hTearsDown hAsked
  have hStarted : (initial devices).run (before ++ [.start operation]) =
      (((initial devices).run before).start operation).1 := run_concat _ _ _
  have hSound := run_sound devices (before ++ [.start operation])
  have hNumbered := run_numbered devices (before ++ [.start operation])
  rw [hStarted] at hSplit hSound hNumbered
  rw [hSplit, hParted.silent hSound hNumbered after, hSame]

/-- A disconnect while a payload waits in its queue, and the watcher for a held answer that is going
to tell it of a drop. -/
theorem silent_after_teardown_held_check :
    let before : List Event := [.start (.connect 7), .device (.hold 0), .device (.drop 0), .turn,
      .turn, .device (.notify 0 [1])]
    ((initial [.ofSerial 7]).run before).operation = none ∧
      0 < ((initial [.ofSerial 7]).run before).connections ∧
      ((initial [.ofSerial 7]).run
        (before ++ .start .disconnect :: [.device (.release 0), .settle])).heardBy 0 = [] :=
  ⟨rfl, Nat.one_pos, silent_after_teardown [.ofSerial 7] _ _ .disconnect 0 rfl trivial Nat.one_pos⟩

end LockRelay.Radio
