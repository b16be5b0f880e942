import LockRelay.Proofs.Dispatch.Strides

/-! A dispatcher moves its session only through operations and turns, so what every move of a
session keeps holds of the session of every dispatcher, handling commands or relaying frames. -/
namespace LockRelay

namespace Radio

/-- A chain of moves in which no device comes into range. -/
structure Reaches (s t : Radio) : Prop where
  moves : s.Moves t
  length : t.devices.length = s.devices.length

variable {s t u : Radio}

theorem Reaches.refl (s : Radio) : s.Reaches s := ⟨.refl, rfl⟩

theorem Reaches.trans (h : s.Reaches t) (h' : t.Reaches u) : s.Reaches u :=
  ⟨h.moves.trans h'.moves, h'.length.trans h.length⟩

variable {who : Mover → Prop}

theorem Advances.reaches (h : s.Advances who t) : s.Reaches t := ⟨h.moves.moves, h.length⟩

theorem Concludes.reaches {m : Mover} {payload : Option Bytes} {asked : Nat}
    {p : Radio × Option Outcome} (h : Concludes m payload asked s p) : s.Reaches p.1 :=
  ⟨h.moves.moves, h.length⟩

theorem start_reaches (s : Radio) (operation : Operation) : s.Reaches (s.start operation).1 := by
  cases hOperation : s.operation with
  | none => exact (start_concludes operation hOperation).reaches
  | some suspended =>
      rw [start_of_busy hOperation]
      exact .refl s

theorem Sound.resume_reaches (h : s.Sound) : s.Reaches s.resume.1 := by
  cases hOperation : s.operation with
  | none =>
      rw [resume_of_idle hOperation]
      exact .refl s
  | some suspended =>
      have hResumed := (h.resume_concludes hOperation).reaches
      exact ⟨hResumed.moves.head ⟨_, trivial, .resumed s⟩, hResumed.length⟩

theorem polled_advances {p : Participant} {rest : List Participant} (hReady : s.ready = p :: rest) :
    s.Advances (· = .scheduler) { s with ready := rest } :=
  .silent (.polled s p rest hReady) rfl rfl rfl rfl

/-- The turn of a task, or of nobody. -/
theorem Sound.poll_advances (h : s.Sound) (hReady : ∀ rest, s.ready ≠ .caller :: rest) :
    s.Advances (fun _ => True) s.poll := by
  unfold poll
  cases hQueue : s.ready with
  | nil => exact .refl s
  | cons p rest =>
  cases p with
  | caller => exact absurd hQueue (hReady rest)
  | task id =>
      exact (polled_advances hQueue).anyone.trans
        (runTask_advances (polled_sound h hQueue) id).anyone

theorem wake_advances (s : Radio) (p : Participant) :
    s.Advances (· = .scheduler) (s.wake p) := by
  have hMove := Move.woken s p
  unfold wake at hMove ⊢
  split_ifs at hMove ⊢
  · exact .refl s
  · exact .silent hMove rfl rfl rfl rfl

theorem Stirs.reaches (h : s.Stirs t) (hSound : s.Sound) : s.Reaches t := by
  cases h with
  | started operation => exact start_reaches s operation
  | resumed => exact hSound.resume_reaches
  | ran id => exact (runTask_advances hSound id).reaches
  | polled hReady => exact (polled_advances hReady).reaches
  | woken p => exact (wake_advances s p).reaches
  | abandoned => exact ⟨(Move.abandoned s).by trivial, rfl⟩

end Radio

namespace Dispatcher

/-- Taking a frame changes the inbound cipher, what is taken and what is noted, and nothing else. -/
theorem takeFrame_eq (d : Dispatcher) :
    ∃ cipher taken acts, d.takeFrame.1 = { d with cipher, taken, acts } := by
  unfold takeFrame
  cases d.radio.session.serial with
  | none => exact ⟨_, _, _, rfl⟩
  | some serial =>
      simp only
      split
      · rename_i frame rest hInbox
        obtain ⟨cipher, -, hRelayed⟩ :=
          relayFrame_eq { d.passDrops with taken := d.passDrops.taken + 1 } serial frame
        exact ⟨_, _, _, hRelayed⟩
      · exact ⟨_, _, _, rfl⟩

theorem radio_takeFrame (d : Dispatcher) : d.takeFrame.1.radio = d.radio := by
  obtain ⟨cipher, taken, acts, hTaken⟩ := takeFrame_eq d
  rw [hTaken]

theorem radio_of_takeFrame (d : Dispatcher) {replies : List Reply} {e : Dispatcher} {next : Next}
    (hTaken : { d with replies }.takeFrame = (e, next)) : e.radio = d.radio := by
  have hRadio := radio_takeFrame { d with replies }
  rw [hTaken] at hRadio
  exact hRadio

variable {d e : Dispatcher}

theorem Stride.reaches (h : d.Stride e) (hSound : d.radio.Sound) : d.radio.Reaches e.radio := by
  cases h with
  | stirred hRadio => exact hRadio.reaches hSound
  | noted hRadio => exact hRadio ▸ .refl _
  | took serial frame rest hSerial hInbox hRadio => exact hRadio ▸ .refl _

theorem reaches_of_strides (hSound : d.radio.Sound) (h : d.Strides e) :
    d.radio.Reaches e.radio := by
  induction h with
  | refl => exact .refl _
  | tail _ hLast ih => exact ih.trans (hLast.reaches (hSound.moves ih.moves))

theorem Asks.reaches {serial : UInt64} (h : d.Asks serial e) : d.radio.Reaches e.radio :=
  h.radio ▸ Radio.start_reaches d.radio (.connect serial)

theorem Arrives.reaches (h : d.Arrives e) (hSound : d.radio.Sound) : d.radio.Reaches e.radio := by
  rcases h with hStrides | ⟨serial, f, hAsks, hStrides⟩
  · exact reaches_of_strides hSound hStrides
  · exact hAsks.reaches.trans (reaches_of_strides (hSound.moves hAsks.reaches.moves) hStrides)

theorem poll_reaches (h : d.radio.Sound) : d.radio.Reaches d.poll.radio :=
  reaches_of_strides h (poll_strides d)

theorem step_reaches (h : d.radio.Sound) {event : Event} (hEvent : ∀ i, event ≠ .device i) :
    d.radio.Reaches (d.step event).radio :=
  (step_arrives d hEvent).reaches h

theorem step_moves (h : d.radio.Sound) (event : Event) : d.radio.Moves (d.step event).radio := by
  cases event with
  | device event => exact (Radio.Move.reacted d.radio event).by trivial
  | _ => exact (step_reaches h (by simp)).moves

theorem step_length (h : d.radio.Sound) {event : Event}
    (hEvent : ∀ device, event ≠ .device (.appear device)) :
    (d.step event).radio.devices.length = d.radio.devices.length := by
  cases event with
  | device event => exact Radio.react_length event fun device hSame => hEvent device (by rw [hSame])
  | _ => exact (step_reaches h (by simp)).length

theorem after_moves (h : d.radio.Sound) (history : List Event) :
    d.radio.Moves (d.after history).radio := by
  induction history generalizing d with
  | nil => exact .refl
  | cons event history ih =>
      exact (step_moves h event).trans (ih (h.moves (step_moves h event)))

/-- The session of every dispatcher is sound, whatever has happened. -/
theorem after_sound (devices : List Device) (cipher : Option ChannelCipher)
    (history : List Event) : ((initial devices cipher).after history).radio.Sound := by
  have hInitial := Radio.initial_sound devices
  exact hInitial.moves (after_moves (d := initial devices cipher) hInitial history)

end Dispatcher

end LockRelay
