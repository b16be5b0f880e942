import LockRelay.Proofs.Cipher.ChannelCalls

/-! Two ends of a channel that exchange frames over two queues. Each end reads under the nonce that
the other writes under, and a frame takes as many blocks where it is opened as where it was sealed.
Nothing but a successful seal puts a frame on its way, so the ends stay in step however their calls
interleave. -/
namespace LockRelay

namespace StreamCipher

variable (cipher : BlockCipher) {c d : StreamCipher}

/-- What a call gave, the same cipher gives back. -/
theorem process_symm {data masked : Bytes} (h : c.process cipher data = (d, .ok masked)) :
    c.process cipher masked = (d, .ok data) := by
  rcases Nat.lt_or_ge maxBlocks (c.counter + CounterMode.blocksFor data.length) with hFit | hFit
  · rw [process_exhausted _ _ _ hFit] at h
    cases h
  · rw [process_fits _ _ _ hFit] at h
    cases h
    have hLength := CounterMode.length_mask (cipher c.key) c.inputBlock data
    rw [process_fits _ _ _ (by rwa [hLength]), CounterMode.mask_mask]
    simp only [advance, hLength]

theorem counter_of_process {data masked : Bytes} (h : c.process cipher data = (d, .ok masked)) :
    c.counter + CounterMode.blocksFor masked.length = d.counter := by
  rcases Nat.lt_or_ge maxBlocks (c.counter + CounterMode.blocksFor data.length) with hFit | hFit
  · rw [process_exhausted _ _ _ hFit] at h
    cases h
  · rw [process_fits _ _ _ hFit] at h
    cases h
    rw [CounterMode.length_mask]
    rfl

theorem eq_of_process_error {data : Bytes} {error : CipherError}
    (h : c.process cipher data = (d, .error error)) : d = c := by
  rcases Nat.lt_or_ge maxBlocks (c.counter + CounterMode.blocksFor data.length) with hFit | hFit
  · rw [process_exhausted _ _ _ hFit] at h
    cases h
    rfl
  · rw [process_fits _ _ _ hFit] at h
    cases h

/-- From one state of a cipher to another, the payloads are masked to the frames, one after
another. -/
inductive Masks : StreamCipher → List Bytes → List Bytes → StreamCipher → Prop where
  | nil (c : StreamCipher) : Masks c [] [] c
  | cons {c d e : StreamCipher} {payload frame : Bytes} {payloads frames : List Bytes}
      (first : c.process cipher payload = (d, .ok frame)) (rest : Masks d payloads frames e) :
      Masks c (payload :: payloads) (frame :: frames) e

variable {cipher}

theorem Masks.concat {e : StreamCipher} {payloads frames : List Bytes} {payload frame : Bytes}
    (h : Masks cipher c payloads frames d) (last : d.process cipher payload = (e, .ok frame)) :
    Masks cipher c (payloads ++ [payload]) (frames ++ [frame]) e := by
  induction h with
  | nil c => exact .cons last (.nil e)
  | cons first rest ih => exact .cons first (ih last)

theorem Masks.length_eq {payloads frames : List Bytes} (h : Masks cipher c payloads frames d) :
    frames.length = payloads.length := by
  induction h with
  | nil c => rfl
  | cons first rest ih => simp [ih]

theorem Masks.counter {payloads frames : List Bytes} (h : Masks cipher c payloads frames d) :
    c.counter + blocksOf frames = d.counter := by
  induction h with
  | nil c => rfl
  | cons first rest ih =>
      have hFirst := counter_of_process cipher first
      rw [← ih, ← hFirst, blocksOf_cons]
      omega

end StreamCipher

/-- The two ends of a channel. -/
inductive Peer where
  | host
  | lock
  deriving DecidableEq, Repr

namespace Peer

def other : Peer → Peer
  | .host => .lock
  | .lock => .host

@[simp] theorem other_other (p : Peer) : p.other.other = p := by cases p <;> rfl

@[simp] theorem other_ne (p : Peer) : p.other ≠ p := by cases p <;> decide

@[simp] theorem ne_other (p : Peer) : p ≠ p.other := (other_ne p).symm

theorem eq_other {p q : Peer} (h : p ≠ q) : p = q.other := by
  cases p <;> cases q <;> first | rfl | exact (h rfl).elim

end Peer

/-- Two ends and what is on its way between them. -/
structure Exchange where
  ends : Peer → ChannelCipher
  /-- Frames on their way to an end, oldest first. -/
  inFlight : Peer → List Bytes
  /-- Payloads that were sealed for an end, in order. -/
  sealed : Peer → List Bytes
  /-- What deliveries to an end gave, in order. -/
  opened : Peer → List (Except CipherError Bytes)

namespace Exchange

inductive Event where
  /-- An end seals a payload and sends the frame, if there is one. -/
  | send (sender : Peer) (payload : Bytes)
  /-- An end opens the oldest frame on its way to it, if there is one. -/
  | deliver (receiver : Peer)
  deriving DecidableEq, Repr

def between (host lock : ChannelCipher) : Exchange where
  ends
    | .host => host
    | .lock => lock
  inFlight _ := []
  sealed _ := []
  opened _ := []

def send (cipher : BlockCipher) (x : Exchange) (sender : Peer) (payload : Bytes) : Exchange :=
  match (x.ends sender).sealFrame cipher payload with
  | (c, .error _) => { x with ends := Function.update x.ends sender c }
  | (c, .ok frame) =>
      { x with
        ends := Function.update x.ends sender c
        inFlight :=
          Function.update x.inFlight sender.other (x.inFlight sender.other ++ [frame])
        sealed := Function.update x.sealed sender.other (x.sealed sender.other ++ [payload]) }

def deliver (cipher : BlockCipher) (x : Exchange) (receiver : Peer) : Exchange :=
  match x.inFlight receiver with
  | [] => x
  | frame :: rest =>
      let (c, result) := (x.ends receiver).openFrame cipher frame
      { x with
        ends := Function.update x.ends receiver c
        inFlight := Function.update x.inFlight receiver rest
        opened := Function.update x.opened receiver (x.opened receiver ++ [result]) }

def step (cipher : BlockCipher) (x : Exchange) : Event → Exchange
  | .send sender payload => x.send cipher sender payload
  | .deliver receiver => x.deliver cipher receiver

def after (cipher : BlockCipher) (x : Exchange) (events : List Event) : Exchange :=
  events.foldl (step cipher) x

/-- Towards an end, what was delivered came out as it was sealed, and what is still to come are the
frames in flight: opened from where the receiver is they lead to where the sender is. -/
def InStep (cipher : BlockCipher) (x : Exchange) (receiver : Peer) : Prop :=
  ∃ delivered pending,
    x.sealed receiver = delivered ++ pending ∧
    x.opened receiver = delivered.map .ok ∧
    StreamCipher.Masks cipher (x.ends receiver).inbound pending (x.inFlight receiver)
      (x.ends receiver.other).outbound

variable {cipher : BlockCipher} {x : Exchange}

/-- A step that leaves one direction alone. -/
theorem InStep.of_same {y : Exchange} {receiver : Peer} (h : x.InStep cipher receiver)
    (hInbound : (y.ends receiver).inbound = (x.ends receiver).inbound)
    (hOutbound : (y.ends receiver.other).outbound = (x.ends receiver.other).outbound)
    (hInFlight : y.inFlight receiver = x.inFlight receiver)
    (hSealed : y.sealed receiver = x.sealed receiver)
    (hOpened : y.opened receiver = x.opened receiver) : y.InStep cipher receiver := by
  unfold InStep at h ⊢
  rwa [hInbound, hOutbound, hInFlight, hSealed, hOpened]

/-- An end that seals goes on along its own direction and is where it was in the other one. -/
theorem InStep.send (h : ∀ receiver, x.InStep cipher receiver) (sender : Peer) (payload : Bytes) :
    ∀ receiver, (x.send cipher sender payload).InStep cipher receiver := by
  intro receiver
  obtain ⟨delivered, pending, hSealed, hOpened, hMasks⟩ := h sender.other
  rw [Peer.other_other] at hMasks
  rcases hProcess : (x.ends sender).outbound.process cipher payload with ⟨outbound, error | frame⟩
  · have hSame := StreamCipher.eq_of_process_error cipher hProcess
    have hStay : x.send cipher sender payload = x := by
      simp [Exchange.send, ChannelCipher.sealFrame, hProcess, hSame]
    rw [hStay]
    exact h receiver
  have hSend : x.send cipher sender payload =
      { x with
        ends := Function.update x.ends sender { x.ends sender with outbound }
        inFlight :=
          Function.update x.inFlight sender.other (x.inFlight sender.other ++ [frame])
        sealed := Function.update x.sealed sender.other (x.sealed sender.other ++ [payload]) } := by
    simp [Exchange.send, ChannelCipher.sealFrame, hProcess]
  rw [hSend]
  by_cases hReceiver : receiver = sender
  · subst hReceiver
    apply (h receiver).of_same <;> simp
  · obtain rfl := Peer.eq_other hReceiver
    refine ⟨delivered, pending ++ [payload], ?_, hOpened, ?_⟩
    · simp [hSealed]
    · simpa using hMasks.concat hProcess

/-- The oldest frame opens to the oldest payload, and the rest leads on from there. -/
theorem InStep.deliver (h : ∀ receiver, x.InStep cipher receiver) (opener : Peer) :
    ∀ receiver, (x.deliver cipher opener).InStep cipher receiver := by
  intro receiver
  obtain ⟨delivered, pending, hSealed, hOpened, hMasks⟩ := h opener
  cases hFrames : x.inFlight opener with
  | nil =>
      have hStay : x.deliver cipher opener = x := by simp [Exchange.deliver, hFrames]
      rw [hStay]
      exact h receiver
  | cons frame rest =>
  rw [hFrames] at hMasks
  cases hMasks with
  | @cons _ inbound _ payload _ pending _ hFirst hRest =>
  have hProcess := StreamCipher.process_symm cipher hFirst
  have hDeliver : x.deliver cipher opener =
      { x with
        ends := Function.update x.ends opener { x.ends opener with inbound }
        inFlight := Function.update x.inFlight opener rest
        opened := Function.update x.opened opener (x.opened opener ++ [.ok payload]) } := by
    simp [Exchange.deliver, hFrames, ChannelCipher.openFrame, hProcess]
  rw [hDeliver]
  by_cases hReceiver : receiver = opener
  · subst hReceiver
    refine ⟨delivered ++ [payload], pending, ?_, ?_, ?_⟩
    · simp [hSealed]
    · simp [hOpened]
    · simpa using hRest
  · obtain rfl := Peer.eq_other hReceiver
    apply (h opener.other).of_same <;> simp

theorem InStep.step (h : ∀ receiver, x.InStep cipher receiver) (event : Event) :
    ∀ receiver, (x.step cipher event).InStep cipher receiver := by
  cases event with
  | send sender payload => exact InStep.send h sender payload
  | deliver receiver => exact InStep.deliver h receiver

theorem InStep.after (h : ∀ receiver, x.InStep cipher receiver) (events : List Event) :
    ∀ receiver, (x.after cipher events).InStep cipher receiver := by
  induction events generalizing x with
  | nil => exact h
  | cons event events ih => exact ih (InStep.step h event)

theorem between_inStep {host lock : ChannelCipher} (hOut : host.outbound = lock.inbound)
    (hIn : lock.outbound = host.inbound) :
    ∀ receiver, (between host lock).InStep cipher receiver := by
  intro receiver
  refine ⟨[], [], rfl, rfl, ?_⟩
  cases receiver with
  | host => exact hIn ▸ .nil lock.outbound
  | lock => exact hOut ▸ .nil host.outbound

/-- However two ends seal and open, every delivery succeeds and gives the payload that was sealed,
in the order of sealing, and an end is behind the other one by the blocks of the frames on their way
to it. -/
theorem deliveries_give_what_was_sealed (cipher : BlockCipher) (key : Key) {a b : Nonce}
    (h : a ≠ b) :
    ∃ host lock,
      ChannelCipher.new key.toList a.toList b.toList = .ok host ∧
      ChannelCipher.new key.toList b.toList a.toList = .ok lock ∧
      ∀ (events : List Event) (receiver : Peer),
        let x := (between host lock).after cipher events
        x.opened receiver = ((x.sealed receiver).take (x.opened receiver).length).map .ok ∧
        (x.opened receiver).length + (x.inFlight receiver).length = (x.sealed receiver).length ∧
        (x.ends receiver).inbound.counter + blocksOf (x.inFlight receiver) =
          (x.ends receiver.other).outbound.counter := by
  refine ⟨_, _, ChannelCipher.new_toList key h, ChannelCipher.new_toList key h.symm, ?_⟩
  intro events receiver x
  obtain ⟨delivered, pending, hSealed, hOpened, hMasks⟩ : x.InStep cipher receiver :=
    InStep.after (between_inStep rfl rfl) events receiver
  refine ⟨?_, ?_, hMasks.counter⟩
  · simp [x, hSealed, hOpened]
  · simp [x, hSealed, hOpened, hMasks.length_eq]

/-- Two nonces that differ, with a payload of no block and one of two blocks on their way at once. -/
theorem deliveries_give_what_was_sealed_zero_one :
    (Vector.replicate 13 0 : Nonce) ≠ Vector.replicate 13 1 ∧
      ∃ host lock,
        ChannelCipher.new (List.replicate 16 7) (List.replicate 13 0) (List.replicate 13 1) =
          .ok host ∧
        ChannelCipher.new (List.replicate 16 7) (List.replicate 13 1) (List.replicate 13 0) =
          .ok lock ∧
        let x := (between host lock).after Aes.encrypt
          [.send .host [], .send .host (List.replicate 17 2), .send .lock [1], .deliver .lock]
        x.opened .lock = ((x.sealed .lock).take (x.opened .lock).length).map .ok ∧
        (x.ends .lock).inbound.counter + blocksOf (x.inFlight .lock) =
          (x.ends .host).outbound.counter := by
  have hNonces : (Vector.replicate 13 0 : Nonce) ≠ Vector.replicate 13 1 := by decide
  obtain ⟨host, lock, hHost, hLock, hInStep⟩ :=
    deliveries_give_what_was_sealed Aes.encrypt (Vector.replicate 16 7) hNonces
  obtain ⟨hOpened, -, hCounter⟩ := hInStep [.send .host [], .send .host (List.replicate 17 2),
    .send .lock [1], .deliver .lock] .lock
  exact ⟨hNonces, host, lock, hHost, hLock, hOpened, hCounter⟩

end Exchange

end LockRelay
