import LockRelay.Dispatch.Relay

/-! What becomes of the frames of a lock. Each is noted as it is taken. Without ciphers it is put to the
controller as it is. Otherwise it is unmasked, with the counter that the frames before it have led to,
and put to the controller if that succeeds. -/
namespace LockRelay

/-- A payload that was put to the controller, with the serial number that went with it and the frame
that it came in. -/
structure Relay where
  serial : UInt32
  frame : Bytes
  payload : Bytes
  deriving DecidableEq

def Relay.opened (r : Relay) : Bytes × Bytes := (r.frame, r.payload)

/-- The payload of a frame, and the inbound cipher after it. -/
def unmask (inbound : Option StreamCipher) (frame : Bytes) :
    Option StreamCipher × Except CipherError Bytes :=
  match inbound with
  | none => (none, .ok frame)
  | some inbound =>
      let (inbound, result) := inbound.process Aes.encrypt frame
      (some inbound, result)

/-- The frames that can be unmasked in their turn, each with its payload, and the inbound cipher after
all of them. -/
def unmaskAll : Option StreamCipher → List Bytes → Option StreamCipher × List (Bytes × Bytes)
  | inbound, [] => (inbound, [])
  | inbound, frame :: frames =>
      let (inbound, result) := unmask inbound frame
      let (inbound, opened) := unmaskAll inbound frames
      (inbound, (result.toOption.map (frame, ·)).toList ++ opened)

/-- What has come from the lock: the inbound cipher by now, all frames that were taken, and what of them
was put to the controller. -/
structure Heard where
  inbound : Option StreamCipher
  received : List Bytes
  relayed : List Relay

namespace Heard

/-- One more frame is taken. -/
def hear (h : Heard) (serial : UInt32) (frame : Bytes) : Heard where
  inbound := (unmask h.inbound frame).1
  received := h.received ++ [frame]
  relayed := h.relayed ++
    ((unmask h.inbound frame).2.toOption.map (Relay.mk serial frame)).toList

/-- Frames are taken, each with a serial number. -/
def hearAll (h : Heard) (takes : List (UInt32 × Bytes)) : Heard :=
  takes.foldl (fun h take => h.hear take.1 take.2) h

theorem hearAll_append (h : Heard) (takes more : List (UInt32 × Bytes)) :
    h.hearAll (takes ++ more) = (h.hearAll takes).hearAll more :=
  List.foldl_append

/-- Later is what it was, frames that were taken since, and what of them was put to the controller. -/
structure Follows (takes : List (UInt32 × Bytes)) (relays : List Relay) (h later : Heard) : Prop where
  received : later.received = h.received ++ takes.map Prod.snd
  relayed : later.relayed = h.relayed ++ relays
  unmasked : (later.inbound, relays.map Relay.opened) = unmaskAll h.inbound (takes.map Prod.snd)
  serials : ∀ relay ∈ relays, ∃ take ∈ takes, take.1 = relay.serial

theorem hearAll_follows (h : Heard) (takes : List (UInt32 × Bytes)) :
    ∃ relays, Follows takes relays h (h.hearAll takes) := by
  induction takes generalizing h with
  | nil => exact ⟨[], by simp [hearAll], by simp [hearAll], rfl, nofun⟩
  | cons take takes ih =>
      obtain ⟨relays, hReceived, hRelayed, hUnmasked, hSerials⟩ := ih (h.hear take.1 take.2)
      refine ⟨((unmask h.inbound take.2).2.toOption.map (Relay.mk take.1 take.2)).toList ++ relays,
        ?_, ?_, ?_, ?_⟩
      · refine hReceived.trans ?_
        simp [hear]
      · exact hRelayed.trans (List.append_assoc ..)
      · rw [List.map_append, List.map_cons, unmaskAll]
        have hInbound : (h.hear take.1 take.2).inbound = (unmask h.inbound take.2).1 := rfl
        rw [hInbound] at hUnmasked
        simp only [← hUnmasked, Prod.mk.injEq, List.append_cancel_right_eq]
        refine ⟨rfl, ?_⟩
        cases (unmask h.inbound take.2).2 <;> rfl
      · intro relay hRelay
        rcases List.mem_append.mp hRelay with hFirst | hLater
        · refine ⟨take, List.mem_cons_self, ?_⟩
          obtain ⟨payload, -, rfl⟩ := Option.map_eq_some_iff.mp (Option.mem_toList.mp hFirst)
          rfl
        · obtain ⟨other, hTake, hSerial⟩ := hSerials relay hLater
          exact ⟨other, List.mem_cons_of_mem _ hTake, hSerial⟩

end Heard

/-- Frames that can be unmasked are frames. -/
theorem unmaskAll_sublist (inbound : Option StreamCipher) (frames : List Bytes) :
    ((unmaskAll inbound frames).2.map Prod.fst).Sublist frames := by
  induction frames generalizing inbound with
  | nil => exact List.Sublist.refl _
  | cons frame frames ih =>
      have hRest := ih (unmask inbound frame).1
      simp only [unmaskAll, List.map_append]
      cases (unmask inbound frame).2 with
      | error error => exact hRest.cons frame
      | ok payload => exact hRest.cons_cons frame

end LockRelay
