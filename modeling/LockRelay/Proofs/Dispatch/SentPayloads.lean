import LockRelay.Proofs.Dispatch.Strides

/-! Who gets what a session or a dispatcher sends. Whatever has happened, each device has acknowledged,
one after another and once each, just the payloads of the sends that succeeded while the session was
bound to it, and the device that the session is bound to advertises the serial number of the session. -/
namespace LockRelay

namespace Radio

/-- A journal that accounts for all that was written, of a session that is bound to nobody but the lock
with its serial number. -/
structure Journal.Accounts (j : Journal) : Prop where
  written : ∀ d, (j.radio.device d).written = (j.arrived.getD d {}).written ++ sentTo d j.sent
  announced : ∀ d serial, j.radio.session.link = some d → j.radio.session.serial = some serial →
    ∃ entry ∈ (j.radio.device d).adverts, entry.Announces serial

theorem Journal.Faithful.accounts {j : Journal} (h : j.Faithful) : j.Accounts :=
  ⟨h.written_eq, fun _ _ hLink hSerial => h.admitted.announces hLink hSerial⟩

end Radio

namespace Dispatcher

/-- What a device does in an event, if the event is a device's. -/
def Event.device? : Event → Option Radio.DeviceEvent
  | .device event => some event
  | _ => none

/-- Prompts by which a dispatcher has brought its session along. The acts tell of the operations that
it put to the session, and the devices did nothing else than given. -/
structure Prompted (events : List Radio.DeviceEvent) (d : Dispatcher)
    (prompts : List Radio.Prompt) (e : Dispatcher) : Prop where
  radio : e.radio = d.radio.led prompts
  operations : e.operations = d.operations ++ prompts.filterMap Radio.Prompt.operation?
  events : prompts.filterMap Radio.Prompt.event? = events

variable {d e f : Dispatcher} {prompts later : List Radio.Prompt}
  {events others : List Radio.DeviceEvent}

/-- A step by which the session is not touched. -/
theorem Prompted.of_same (hRadio : e.radio = d.radio) (hOperations : e.operations = d.operations) :
    Prompted [] d [] e :=
  ⟨hRadio, hOperations.trans (List.append_nil _).symm, rfl⟩

theorem Prompted.trans (h : Prompted events d prompts e) (h' : Prompted others e later f) :
    Prompted (events ++ others) d (prompts ++ later) f := by
  refine ⟨?_, ?_, ?_⟩
  · rw [h'.radio, h.radio, Radio.led_append]
  · rw [h'.operations, h.operations, List.filterMap_append, List.append_assoc]
  · rw [List.filterMap_append, h.events, h'.events]

/-- One prompt. -/
theorem Prompted.single (prompt : Radio.Prompt) (hRadio : e.radio = (d.radio.prompted prompt).1)
    (hOperations : e.operations = d.operations ++ prompt.operation?.toList) :
    Prompted prompt.event?.toList d [prompt] e := by
  refine ⟨hRadio, ?_, ?_⟩
  · rw [hOperations]
    cases prompt <;> rfl
  · cases prompt <;> rfl

theorem Stride.prompted (h : d.Stride e) : ∃ prompts, Prompted [] d prompts e := by
  cases h with
  | stirred _ _ _ _ _ hPrompts =>
      obtain ⟨prompt, hRadio, hOperations, hInner⟩ := hPrompts
      have hSingle := Prompted.single prompt hRadio hOperations
      rw [hInner] at hSingle
      exact ⟨[prompt], hSingle⟩
  | noted hRadio _ _ _ _ hOperations => exact ⟨[], .of_same hRadio hOperations⟩
  | took _ _ _ _ _ hRadio _ _ _ _ hOperations => exact ⟨[], .of_same hRadio hOperations⟩

theorem strides_prompted (h : d.Strides e) : ∃ prompts, Prompted [] d prompts e := by
  induction h with
  | refl => exact ⟨[], .of_same rfl rfl⟩
  | tail _ hLast ih =>
      obtain ⟨prompts, hFirst⟩ := ih
      obtain ⟨later, hLater⟩ := hLast.prompted
      exact ⟨prompts ++ later, hFirst.trans hLater⟩

theorem Arrives.prompted (h : d.Arrives e) : ∃ prompts, Prompted [] d prompts e := by
  rcases h with hStrides | ⟨serial, f, hAsks, hStrides⟩
  · exact strides_prompted hStrides
  · have hAsked : Prompted [] d [.start (.connect serial)] f :=
      .single (.start (.connect serial)) hAsks.radio hAsks.operations
    obtain ⟨later, hLater⟩ := strides_prompted hStrides
    exact ⟨_, hAsked.trans hLater⟩

/-- Every event prompts the session to what the acts tell of. -/
theorem step_prompted (d : Dispatcher) (event : Event) :
    ∃ prompts, Prompted event.device?.toList d prompts (d.step event) := by
  cases event with
  | device event =>
      exact ⟨[.device event], .single (.device event) rfl (List.append_nil _).symm⟩
  | _ => exact (step_arrives d (by simp)).prompted

theorem after_prompted (d : Dispatcher) (history : List Event) :
    ∃ prompts, Prompted (history.filterMap Event.device?) d prompts (d.after history) := by
  induction history generalizing d with
  | nil => exact ⟨[], .of_same rfl rfl⟩
  | cons event history ih =>
      obtain ⟨prompts, hStep⟩ := step_prompted d event
      obtain ⟨later, hRest⟩ := ih (d.step event)
      have hEvents : (event :: history).filterMap Event.device? =
          event.device?.toList ++ history.filterMap Event.device? := by
        cases event <;> rfl
      rw [hEvents]
      exact ⟨prompts ++ later, hStep.trans hRest⟩

/-- The session of every dispatcher holds a device that its filter admits. -/
theorem after_admitted (devices : List Device) (cipher : Option ChannelCipher)
    (history : List Event) : ((initial devices cipher).after history).radio.Admitted := by
  obtain ⟨prompts, hPrompted⟩ := after_prompted (initial devices cipher) history
  have hFaithful := (Radio.Journal.initial_faithful devices).after prompts
  have hRadio := (Radio.Journal.initial devices).radio_after prompts
  rw [hPrompted.radio]
  exact hRadio ▸ hFaithful.admitted

/-- Whatever has happened to a session, or to a dispatcher with its session: there is a journal of it in
which each device has acknowledged just what was sent to it with success, and the session is bound to
nobody but the lock with its serial number. The operations in the journal of a dispatcher are those that
its acts tell of, and the devices did what the history says. -/
theorem written_by_successful_sends (devices : List Device) :
    (∀ history : List Radio.Event,
      ((Radio.Journal.initial devices).after ((Radio.initial devices).prompts history)).radio =
        (Radio.initial devices).run history ∧
      ((Radio.Journal.initial devices).after
        ((Radio.initial devices).prompts history)).Accounts) ∧
    ∀ (cipher : Option ChannelCipher) (history : List Event), ∃ prompts,
      ((Radio.Journal.initial devices).after prompts).radio =
        ((initial devices cipher).after history).radio ∧
      prompts.filterMap Radio.Prompt.operation? =
        ((initial devices cipher).after history).operations ∧
      prompts.filterMap Radio.Prompt.event? = history.filterMap Event.device? ∧
      ((Radio.Journal.initial devices).after prompts).Accounts := by
  have hFaithful := Radio.Journal.initial_faithful devices
  constructor
  · intro history
    have hSame := (Radio.Journal.initial devices).after_prompts history
    exact ⟨hSame, (hFaithful.after _).accounts⟩
  · intro cipher history
    obtain ⟨prompts, hPrompted⟩ := after_prompted (initial devices cipher) history
    have hRadio := (Radio.Journal.initial devices).radio_after prompts
    exact ⟨prompts, hRadio.trans hPrompted.radio.symm, hPrompted.operations.symm, hPrompted.events,
      (hFaithful.after prompts).accounts⟩

end Dispatcher

end LockRelay
