import LockRelay.Proofs.Session.Queues

/-! Settling ends with nobody left who has a turn coming. A turn of a task gives nobody else a turn,
and a turn of the caller only the two tasks that there can be. -/
namespace LockRelay

/-- How many turns it takes at most until a participant has had its turn, and those who have one
coming by it. -/
def Participant.turns : Participant → Nat
  | .task _ => 1
  | .caller => 3

namespace Radio

variable {s t : Radio}

/-- How many turns it takes at most until nobody has one coming. -/
def turnsLeft (s : Radio) : Nat := (s.ready.map Participant.turns).sum

/-- Operations give turns to tasks only. -/
theorem Move.ready_of_operates {m : Mover} (hMover : m.operates = true) (hMove : s.Move m t)
    (hCaller : .caller ∉ s.ready) : Participant.caller ∉ t.ready := by
  have hAbort (s : Radio) (task : Option TaskId) (hCaller : .caller ∉ s.ready) :
      Participant.caller ∉ (s.abort task).ready := by
    cases task with
    | none => exact hCaller
    | some id => exact fun hMember => hCaller (List.mem_filter.mp hMember).1
  cases hMove with
  | cleared => exact hAbort _ _ (hAbort _ _ hCaller)
  | adopted request d endpoints => simpa [adopt, Radio.spawn, bound, assign, record] using hCaller
  | readopted d endpoints =>
      have hAborted := hAbort s s.session.notifyTask hCaller
      unfold readopt
      simp only
      cases (s.abort s.session.notifyTask).session.onNotify with
      | none => exact hAborted
      | some connection => simpa [Radio.spawn, bound, assign, record] using hAborted
  | demoted seen => exact (dropped_sameQueues s seen).ready ▸ hCaller
  | called | discovered | assigned | suspended | returned | numbered => exact hCaller
  | _ => cases hMover

theorem Sound.tasks_length_le (h : s.Sound) : s.tasks.length ≤ 2 := by
  rcases h.represented with hUnlinked | ⟨d, connection, notify, watch, queue, pending, check, hBy⟩
  · simp [hUnlinked.tasks]
  · exact hBy.tasks.length_eq.le

/-- Where the caller has no turn coming, each of the two tasks has one at most. -/
theorem Orderly.turnsLeft_le_two (h : s.Orderly) (hSound : s.Sound)
    (hCaller : .caller ∉ s.ready) : s.turnsLeft ≤ 2 := by
  have hTask (p : Participant) (hp : p ∈ s.ready) : ∃ id, p = .task id := by
    cases p with
    | task id => exact ⟨id, rfl⟩
    | caller => exact absurd hp hCaller
  have hOne : s.ready.map Participant.turns = s.ready.map fun _ => 1 := by
    refine List.map_congr_left fun p hp => ?_
    obtain ⟨id, rfl⟩ := hTask p hp
    rfl
  have hAlive : s.ready ⊆ s.tasks.map fun task => .task task.1 := by
    intro p hp
    obtain ⟨id, rfl⟩ := hTask p hp
    obtain ⟨task, hTask⟩ := h.alive id hp
    exact List.mem_map.mpr ⟨(id, task), hTask, rfl⟩
  have hLength := (List.nodup_append.mp h.once).1.length_le_of_subset hAlive
  rw [List.length_map] at hLength
  have hTwo := hSound.tasks_length_le
  rw [turnsLeft, hOne, List.map_const', List.sum_replicate, smul_eq_mul, mul_one]
  omega

/-- Every turn leaves fewer to be had. -/
theorem Orderly.turnsLeft_poll (h : s.Orderly) (hSound : s.Sound) (hReady : s.ready ≠ []) :
    s.poll.turnsLeft < s.turnsLeft := by
  obtain ⟨p, rest, hQueue⟩ := List.exists_cons_of_ne_nil hReady
  cases p with
  | task id =>
      obtain ⟨task, hTask⟩ := h.alive id (hQueue ▸ List.mem_cons_self)
      obtain ⟨other, hOther⟩ := task?_of_mem hTask
      have hRan : ({ s with ready := rest } : Radio).Ran id s.poll := by
        have hPolled := runTask_ran (s := { s with ready := rest }) hOther
        unfold Radio.poll
        rw [hQueue]
        exact hPolled
      have hAfter : s.poll.turnsLeft = (rest.map Participant.turns).sum := by
        rw [turnsLeft, hRan.ready]
      have hBefore : s.turnsLeft = 1 + (rest.map Participant.turns).sum := by
        rw [turnsLeft, hQueue]
        rfl
      omega
  | caller =>
      have hPoll : s.poll = ({ s with ready := rest } : Radio).resume.1 := by
        unfold Radio.poll
        rw [hQueue]
      have hOnce := h.once
      rw [queued, hQueue, List.cons_append, List.nodup_cons, List.mem_append, not_or] at hOnce
      obtain ⟨suspended, hOperation⟩ :=
        Option.ne_none_iff_exists'.mp (h.caller (by simp [queued, hQueue]))
      have hResumed := (polled_sound hSound hQueue).resume_concludes hOperation
      have hCaller : Participant.caller ∉ s.poll.ready := by
        rw [hPoll]
        refine hResumed.moves.keeps (P := fun t => Participant.caller ∉ t.ready) ?_ hOnce.1.1
        rintro m s t rfl hMove
        exact hMove.ready_of_operates suspended.point.mover_operates
      have hFew := (h.poll hSound).turnsLeft_le_two (hSound.moves hSound.poll_moves) hCaller
      have hBefore : s.turnsLeft = 3 + (rest.map Participant.turns).sum := by
        rw [turnsLeft, hQueue]
        rfl
      omega

theorem ready_pollTimes (n : Nat) (h : s.Orderly) (hSound : s.Sound) (hEnough : s.turnsLeft ≤ n) :
    (pollTimes n s).ready = [] := by
  induction n generalizing s with
  | zero =>
      by_contra hReady
      have hFewer := h.turnsLeft_poll hSound hReady
      omega
  | succ n ih =>
      by_cases hReady : s.ready = []
      · rw [pollTimes_of_ready_nil hReady, hReady]
      · have hFewer := h.turnsLeft_poll hSound hReady
        rw [pollTimes_succ]
        exact ih (h.poll hSound) (hSound.moves hSound.poll_moves) (by omega)

/-- After settling nobody has a turn coming. -/
theorem Orderly.ready_settle (h : s.Orderly) (hSound : s.Sound) : s.settle.ready = [] := by
  refine ready_pollTimes _ h hSound ?_
  have hThree : ∀ n ∈ s.ready.map Participant.turns, n ≤ 3 := by
    intro n hn
    obtain ⟨p, -, rfl⟩ := List.mem_map.mp hn
    cases p <;> simp [Participant.turns]
  have hSum := List.sum_le_card_nsmul _ 3 hThree
  rw [List.length_map, smul_eq_mul, mul_comm] at hSum
  exact hSum

end Radio

end LockRelay
