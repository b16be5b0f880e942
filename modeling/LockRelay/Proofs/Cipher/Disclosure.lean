import LockRelay.Proofs.Cipher.KeyMaterial

/-! What the bookkeeping of a channel tells about it. How a call ends, what the counters are and what a
log may show follow from the lengths of the data and nothing else. So two channels that are called in
the same way with data of the same lengths cannot be told apart by them, whatever their keys, their
nonces and their data are. -/
namespace LockRelay

namespace StreamCipher

/-- The counter after a call and the length of its output, from the counter before it and the length
of its data. -/
def book (counter length : Nat) : Nat × Except CipherError Nat :=
  if counter + CounterMode.blocksFor length ≤ maxBlocks then
    (counter + CounterMode.blocksFor length, .ok length)
  else (counter, .error .counterExhausted)

theorem process_book (cipher : BlockCipher) (c : StreamCipher) (data : Bytes) :
    (c.process cipher data).1.counter = (book c.counter data.length).1 ∧
      (c.process cipher data).2.map List.length = (book c.counter data.length).2 := by
  unfold book
  split_ifs with h
  · rw [process_fits cipher c data h]
    exact ⟨rfl, congrArg Except.ok (CounterMode.length_mask _ _ data)⟩
  · rw [process_exhausted cipher c data (not_le.mp h)]
    exact ⟨rfl, rfl⟩

/-- Two ciphers that are at the same block stay so with data of the same length. -/
theorem process_level (cipher : BlockCipher) {c d : StreamCipher} {data other : Bytes}
    (h : c.counter = d.counter) (hLength : data.length = other.length) :
    (c.process cipher data).1.counter = (d.process cipher other).1.counter ∧
      (c.process cipher data).2.map List.length = (d.process cipher other).2.map List.length := by
  obtain ⟨hCounter, hOutcome⟩ := process_book cipher c data
  obtain ⟨hCounter', hOutcome'⟩ := process_book cipher d other
  rw [hCounter, hCounter', hOutcome, hOutcome', h, hLength]
  exact ⟨rfl, rfl⟩

/-- What can be seen of a cipher without its key and its nonce. -/
structure View where
  counter : Nat
  remaining : Nat
  summary : String
  deriving DecidableEq

def view (c : StreamCipher) : View := ⟨c.counter, c.remaining, c.summary⟩

variable {c d : StreamCipher}

theorem remaining_eq (h : c.counter = d.counter) : c.remaining = d.remaining := by
  unfold remaining
  rw [h]

theorem summary_eq (h : c.counter = d.counter) : c.summary = d.summary := by
  unfold summary
  rw [h]

theorem view_eq (h : c.counter = d.counter) : c.view = d.view := by
  unfold view
  rw [h, remaining_eq h, summary_eq h]

end StreamCipher

namespace ChannelCipher

/-- Two calls in the same direction with as much data. -/
inductive Call.SameShape : Call → Call → Prop where
  | sealFrame {plain other : Bytes} (h : plain.length = other.length) :
      SameShape (.sealFrame plain) (.sealFrame other)
  | openFrame {sealed other : Bytes} (h : sealed.length = other.length) :
      SameShape (.openFrame sealed) (.openFrame other)

/-- What can be seen of a channel. -/
structure View where
  outbound : StreamCipher.View
  inbound : StreamCipher.View
  summary : String
  deriving DecidableEq

def view (c : ChannelCipher) : View := ⟨c.outbound.view, c.inbound.view, c.summary⟩

/-- What can be seen of a call: how it ended, with the length of its output, and the channel after
it. -/
structure Sighting where
  outcome : Except CipherError Nat
  channel : View
  deriving DecidableEq

def sightings (cipher : BlockCipher) (c : ChannelCipher) : List Call → List Sighting
  | [] => []
  | call :: calls =>
      let next := c.perform cipher call
      ⟨next.2.map List.length, next.1.view⟩ :: next.1.sightings cipher calls

/-- Two channels that are at the same blocks in both directions. -/
structure Level (c d : ChannelCipher) : Prop where
  outbound : c.outbound.counter = d.outbound.counter
  inbound : c.inbound.counter = d.inbound.counter

variable (cipher : BlockCipher) {c d : ChannelCipher}

theorem Level.summary_eq (h : c.Level d) : c.summary = d.summary := by
  unfold summary
  rw [StreamCipher.summary_eq h.outbound, StreamCipher.summary_eq h.inbound]

theorem Level.view_eq (h : c.Level d) : c.view = d.view := by
  unfold view
  rw [StreamCipher.view_eq h.outbound, StreamCipher.view_eq h.inbound, h.summary_eq]

/-- Calls of the same shape end alike and leave the channels at the same blocks. -/
theorem Level.perform (h : c.Level d) {call other : Call} (hCalls : call.SameShape other) :
    (c.perform cipher call).1.Level (d.perform cipher other).1 ∧
      (c.perform cipher call).2.map List.length = (d.perform cipher other).2.map List.length := by
  cases hCalls with
  | sealFrame hLength =>
      obtain ⟨hCounter, hOutcome⟩ := StreamCipher.process_level cipher h.outbound hLength
      exact ⟨⟨hCounter, h.inbound⟩, hOutcome⟩
  | openFrame hLength =>
      obtain ⟨hCounter, hOutcome⟩ := StreamCipher.process_level cipher h.inbound hLength
      exact ⟨⟨h.outbound, hCounter⟩, hOutcome⟩

theorem Level.sightings_eq (h : c.Level d) {calls others : List Call}
    (hCalls : List.Forall₂ Call.SameShape calls others) :
    c.sightings cipher calls = d.sightings cipher others := by
  induction hCalls generalizing c d with
  | nil => rfl
  | cons hCall _ ih =>
      obtain ⟨hLevel, hOutcome⟩ := h.perform cipher hCall
      simp only [sightings, hOutcome, hLevel.view_eq, ih hLevel]

/-- An output is as long as the data of its call. -/
theorem outputs_as_long (c : ChannelCipher) (calls : List Call) :
    List.Forall₂ (fun call sighting => ∀ length, sighting.outcome = .ok length →
      length = call.data.length) calls (c.sightings cipher calls) := by
  induction calls generalizing c with
  | nil => exact .nil
  | cons call calls ih =>
      refine .cons (fun length hOutcome => ?_) (ih _)
      have hBook := (StreamCipher.process_book cipher (c.side call) call.data).2
      rw [← perform_result] at hBook
      rw [hBook, StreamCipher.book] at hOutcome
      split_ifs at hOutcome
      exact (Except.ok.inj hOutcome).symm

/-- Two channels with any keys and nonces, called in the same directions with data of the same
lengths, look alike before every call and after it: they end each call in the same way, with the same
error or with outputs as long as the data, and show the same counters, the same number of blocks left
and the same text in a log. -/
theorem sightings_told_by_lengths {key outbound inbound otherKey otherOutbound otherInbound : Bytes}
    (hUsable : Usable key outbound inbound) (hOther : Usable otherKey otherOutbound otherInbound)
    {calls others : List Call} (hCalls : List.Forall₂ Call.SameShape calls others) :
    ∃ c d, new key outbound inbound = .ok c ∧ new otherKey otherOutbound otherInbound = .ok d ∧
      c.view = d.view ∧ c.sightings cipher calls = d.sightings cipher others ∧
      List.Forall₂ (fun call sighting => ∀ length, sighting.outcome = .ok length →
        length = call.data.length) calls (c.sightings cipher calls) := by
  obtain ⟨k, o, i, -, -, -, hNew⟩ := hUsable.exists_new
  obtain ⟨k', o', i', -, -, -, hNew'⟩ := hOther.exists_new
  have hLevel : Level ⟨⟨k, o, 0, Nat.zero_le _⟩, ⟨k, i, 0, Nat.zero_le _⟩⟩
      ⟨⟨k', o', 0, Nat.zero_le _⟩, ⟨k', i', 0, Nat.zero_le _⟩⟩ := ⟨rfl, rfl⟩
  exact ⟨_, _, hNew, hNew', hLevel.view_eq, hLevel.sightings_eq cipher hCalls,
    outputs_as_long cipher _ calls⟩

/-- A frame for the lock and one from it, under keys, nonces and data that differ in every byte. -/
theorem sightings_told_by_lengths_all_bytes_differ :
    ∃ c d, new (List.replicate 16 0) (List.replicate 13 1) (List.replicate 13 2) = .ok c ∧
      new (List.replicate 16 9) (List.replicate 13 8) (List.replicate 13 7) = .ok d ∧
      c.sightings Aes.encrypt [.sealFrame [1, 2], .openFrame [3]] =
        d.sightings Aes.encrypt [.sealFrame [5, 6], .openFrame [4]] := by
  have hUsable : Usable (List.replicate 16 0) (List.replicate 13 1) (List.replicate 13 2) :=
    ⟨rfl, rfl, rfl, by decide⟩
  have hOther : Usable (List.replicate 16 9) (List.replicate 13 8) (List.replicate 13 7) :=
    ⟨rfl, rfl, rfl, by decide⟩
  have hCalls : List.Forall₂ Call.SameShape [.sealFrame [1, 2], .openFrame [3]]
      [.sealFrame [5, 6], .openFrame [4]] :=
    .cons (.sealFrame rfl) (.cons (.openFrame rfl) .nil)
  obtain ⟨c, d, hNew, hNew', -, hSightings, -⟩ :=
    sightings_told_by_lengths Aes.encrypt hUsable hOther hCalls
  exact ⟨c, d, hNew, hNew', hSightings⟩

end ChannelCipher

end LockRelay
