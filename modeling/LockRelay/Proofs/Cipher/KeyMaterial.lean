import LockRelay.Proofs.Cipher.KeystreamUse
import LockRelay.Proofs.Text.Hexadecimal

/-! Which key material makes a channel. Whatever is wrong with three texts is found when they are read,
and the first of it is reported. What was read once makes the same fresh channel every time, so nothing
is left that could fail later. -/
namespace LockRelay

namespace StreamCipher

theorem sized_eq_none {n : Nat} {data : Bytes} (h : data.length ≠ n) : sized n data = none := by
  rw [sized, dif_neg (by simpa using h)]

theorem exists_toList_eq {n : Nat} {data : Bytes} (h : data.length = n) :
    ∃ v : Vector UInt8 n, v.toList = data :=
  ⟨⟨data.toArray, by simpa using h⟩, rfl⟩

theorem new_of_key_length {key nonce : Bytes} (h : key.length ≠ 16) :
    new key nonce = .error (.invalidKeyLength key.length) := by
  rw [new, resume, sized_eq_none h]

theorem new_of_nonce_length (key : Key) {nonce : Bytes} (h : nonce.length ≠ 13) :
    new key.toList nonce = .error (.invalidNonceLength nonce.length) := by
  rw [new, resume, sized_toList, sized_eq_none h]

end StreamCipher

namespace ChannelCipher

/-- Everything that keeps key material from making a channel, in the order in which it is judged. -/
def faults (key outbound inbound : Bytes) : List CipherError :=
  (if key.length = 16 then [] else [.invalidKeyLength key.length]) ++
    (if outbound.length = 13 then [] else [.invalidNonceLength outbound.length]) ++
    (if inbound.length = 13 then [] else [.invalidNonceLength inbound.length]) ++
    if outbound = inbound then [.nonceReuse] else []

/-- Key material of the right lengths with two nonces. -/
structure Usable (key outbound inbound : Bytes) : Prop where
  keyLength : key.length = 16
  outboundLength : outbound.length = 13
  inboundLength : inbound.length = 13
  noncesDiffer : outbound ≠ inbound

variable {key outbound inbound : Bytes}

theorem faults_eq_nil_iff : faults key outbound inbound = [] ↔ Usable key outbound inbound := by
  simp only [faults, List.append_eq_nil_iff, ite_eq_left_iff, ite_eq_right_iff, List.cons_ne_nil,
    imp_false, not_not]
  constructor
  · rintro ⟨⟨⟨hKey, hOutbound⟩, hInbound⟩, hDiffer⟩
    exact ⟨hKey, hOutbound, hInbound, hDiffer⟩
  · rintro ⟨hKey, hOutbound, hInbound, hDiffer⟩
    exact ⟨⟨⟨hKey, hOutbound⟩, hInbound⟩, hDiffer⟩

/-- Usable key material makes a fresh channel out of just its bytes. -/
theorem Usable.exists_new (h : Usable key outbound inbound) :
    ∃ (k : Key) (o i : Nonce), k.toList = key ∧ o.toList = outbound ∧ i.toList = inbound ∧
      new key outbound inbound = .ok ⟨⟨k, o, 0, Nat.zero_le _⟩, ⟨k, i, 0, Nat.zero_le _⟩⟩ := by
  obtain ⟨k, rfl⟩ := StreamCipher.exists_toList_eq h.keyLength
  obtain ⟨o, rfl⟩ := StreamCipher.exists_toList_eq h.outboundLength
  obtain ⟨i, rfl⟩ := StreamCipher.exists_toList_eq h.inboundLength
  exact ⟨k, o, i, rfl, rfl, rfl, new_toList k fun hSame => h.noncesDiffer (congrArg _ hSame)⟩

/-- The first fault is the one that is reported. -/
theorem new_of_fault {error : CipherError}
    (h : (faults key outbound inbound).head? = some error) :
    new key outbound inbound = .error error := by
  unfold faults at h
  by_cases hKey : key.length = 16
  swap
  · simp only [if_neg hKey, List.cons_append, List.head?_cons, Option.some.injEq] at h
    rw [new, StreamCipher.new_of_key_length hKey, h]
  obtain ⟨k, rfl⟩ := StreamCipher.exists_toList_eq hKey
  by_cases hOutbound : outbound.length = 13
  swap
  · simp only [if_pos hKey, if_neg hOutbound, List.nil_append, List.cons_append, List.head?_cons,
      Option.some.injEq] at h
    rw [new, StreamCipher.new_of_nonce_length k hOutbound, h]
  obtain ⟨o, rfl⟩ := StreamCipher.exists_toList_eq hOutbound
  by_cases hInbound : inbound.length = 13
  swap
  · simp only [if_pos hKey, if_pos hOutbound, if_neg hInbound, List.nil_append, List.cons_append,
      List.head?_cons, Option.some.injEq] at h
    rw [new, StreamCipher.new_toList, StreamCipher.new_of_nonce_length k hInbound, h]
  obtain ⟨i, rfl⟩ := StreamCipher.exists_toList_eq hInbound
  simp only [if_pos hKey, if_pos hOutbound, if_pos hInbound, List.nil_append] at h
  split_ifs at h with hSame
  · simp only [List.head?_cons, Option.some.injEq] at h
    rw [new, StreamCipher.new_toList, StreamCipher.new_toList, ← h]
    exact if_pos (Vector.toList_inj.mp hSame)
  · simp at h

end ChannelCipher

/-- Texts that are read as the same bytes differ at most in letter case and in the white space at
their ends. -/
theorem decodeHex_same_iff {field otherField text other : String} {data : Bytes}
    (h : decodeHex field text = .ok data) :
    decodeHex otherField other = .ok data ↔
      (Text.trim other.toList).map Char.toLower = (Text.trim text.toList).map Char.toLower := by
  rw [decodeHex_eq_ok_iff (Text.trimmed_trim _)] at h ⊢
  rw [h]

theorem exists_fault_of_decodeHex {field text : String} {error : CredentialError}
    (h : decodeHex field text = .error error) : ∃ fault, error = .hex field fault := by
  unfold decodeHex at h
  split at h
  · cases h
  · cases h
    exact ⟨_, rfl⟩

namespace Credentials

/-- What is wrong with a text that cannot be read. -/
def unread? : Except CredentialError Bytes → Option CredentialError
  | .ok _ => none
  | .error error => some error

/-- Everything that keeps three texts from being credentials, in the order in which it is judged: the
texts that cannot be read, and if all can, what is wrong with their bytes. -/
def faults (key outbound inbound : String) : List CredentialError :=
  match decodeHex "key" key, decodeHex "tx nonce" outbound, decodeHex "rx nonce" inbound with
  | .ok key, .ok outbound, .ok inbound => (ChannelCipher.faults key outbound inbound).map .cipher
  | key, outbound, inbound => [key, outbound, inbound].filterMap unread?

variable {key outbound inbound : String}

theorem parse_of_fault {error : CredentialError}
    (h : (faults key outbound inbound).head? = some error) :
    parse key outbound inbound = .error error := by
  unfold faults at h
  unfold parse
  cases hKey : decodeHex "key" key with
  | error e =>
      simp only [hKey, unread?, List.filterMap_cons, List.head?_cons, Option.some.injEq] at h
      rw [h]
  | ok k =>
  cases hOutbound : decodeHex "tx nonce" outbound with
  | error e =>
      simp only [hKey, hOutbound, unread?, List.filterMap_cons, List.head?_cons,
        Option.some.injEq] at h
      rw [h]
  | ok o =>
  cases hInbound : decodeHex "rx nonce" inbound with
  | error e =>
      simp only [hKey, hOutbound, hInbound, unread?, List.filterMap_cons, List.head?_cons,
        Option.some.injEq] at h
      rw [h]
  | ok i =>
      simp only [hKey, hOutbound, hInbound, List.head?_map, Option.map_eq_some_iff] at h
      obtain ⟨cipherError, hFirst, rfl⟩ := h
      simp only [cipher, ChannelCipher.new_of_fault hFirst]

/-- Three texts without a fault are read, and their bytes make a channel. -/
theorem exists_parse (h : faults key outbound inbound = []) :
    ∃ c channel, parse key outbound inbound = .ok c ∧ c.cipher = .ok channel ∧
      channel.outbound.counter = 0 ∧ channel.inbound.counter = 0 ∧
      decodeHex "key" key = .ok channel.outbound.key.toList ∧
      decodeHex "key" key = .ok channel.inbound.key.toList ∧
      decodeHex "tx nonce" outbound = .ok channel.outbound.nonce.toList ∧
      decodeHex "rx nonce" inbound = .ok channel.inbound.nonce.toList := by
  unfold faults at h
  cases hKey : decodeHex "key" key with
  | error e => simp [hKey, unread?] at h
  | ok k =>
  cases hOutbound : decodeHex "tx nonce" outbound with
  | error e => simp [hKey, hOutbound, unread?] at h
  | ok o =>
  cases hInbound : decodeHex "rx nonce" inbound with
  | error e => simp [hKey, hOutbound, hInbound, unread?] at h
  | ok i =>
      simp only [hKey, hOutbound, hInbound, List.map_eq_nil_iff] at h
      obtain ⟨k, o, i, rfl, rfl, rfl, hNew⟩ := (ChannelCipher.faults_eq_nil_iff.mp h).exists_new
      refine ⟨⟨k.toList, o.toList, i.toList⟩, _, ?_, hNew, rfl, rfl, rfl, rfl, rfl, rfl⟩
      simp only [parse, hKey, hOutbound, hInbound, cipher, hNew]

theorem parse_eq_error_iff {error : CredentialError} :
    parse key outbound inbound = .error error ↔
      (faults key outbound inbound).head? = some error := by
  refine ⟨fun h => ?_, parse_of_fault⟩
  cases hFaults : (faults key outbound inbound).head? with
  | none =>
      obtain ⟨c, -, hParse, -⟩ := exists_parse (List.head?_eq_none_iff.mp hFaults)
      rw [hParse] at h
      cases h
  | some first =>
      rw [parse_of_fault hFaults] at h
      rw [Except.error.inj h]

theorem unread?_decodeHex {field text : String} {error : CredentialError}
    (h : unread? (decodeHex field text) = some error) : error ≠ .incomplete := by
  cases hRead : decodeHex field text with
  | ok data => simp [hRead, unread?] at h
  | error fault =>
      rw [hRead] at h
      obtain ⟨symbol, rfl⟩ := exists_fault_of_decodeHex hRead
      cases h
      exact nofun

theorem ne_incomplete_of_mem_faults {error : CredentialError}
    (h : error ∈ faults key outbound inbound) : error ≠ .incomplete := by
  unfold faults at h
  split at h
  · obtain ⟨cipherError, -, rfl⟩ := List.mem_map.mp h
    exact nofun
  · obtain ⟨text, hText, hUnread⟩ := List.mem_filterMap.mp h
    simp only [List.mem_cons, List.not_mem_nil, or_false] at hText
    rcases hText with rfl | rfl | rfl <;> exact unread?_decodeHex hUnread

/-- That a text is missing is not said of three texts. -/
theorem parse_ne_incomplete : parse key outbound inbound ≠ .error .incomplete := fun h =>
  ne_incomplete_of_mem_faults (List.mem_of_head? (parse_eq_error_iff.mp h)) rfl

/-- Texts that are read as the same bytes are the same credentials, or have the same fault. -/
theorem parse_congr {otherKey otherOutbound otherInbound : String}
    (hKey : decodeHex "key" otherKey = decodeHex "key" key)
    (hOutbound : decodeHex "tx nonce" otherOutbound = decodeHex "tx nonce" outbound)
    (hInbound : decodeHex "rx nonce" otherInbound = decodeHex "rx nonce" inbound) :
    parse otherKey otherOutbound otherInbound = parse key outbound inbound := by
  simp only [parse, hKey, hOutbound, hInbound]

theorem ofTexts_of_parse {c : Credentials} (h : parse key outbound inbound = .ok c) :
    ofTexts (some key) (some outbound) (some inbound) = .ok (some c) := by
  simp only [ofTexts, h]

theorem ofTexts_eq_error_iff {error : CredentialError} :
    ofTexts (some key) (some outbound) (some inbound) = .error error ↔
      parse key outbound inbound = .error error := by
  cases hParse : parse key outbound inbound <;> simp [ofTexts, hParse]

theorem ofTexts_eq_none_iff (key outbound inbound : Option String) :
    ofTexts key outbound inbound = .ok none ↔ key = none ∧ outbound = none ∧ inbound = none := by
  match key, outbound, inbound with
  | none, none, none => exact iff_of_true rfl ⟨rfl, rfl, rfl⟩
  | some key, some outbound, some inbound =>
      refine iff_of_false (fun h => ?_) nofun
      cases hParse : parse key outbound inbound <;> simp [ofTexts, hParse] at h
  | some _, none, none | none, some _, none | none, none, some _ | some _, some _, none
  | some _, none, some _ | none, some _, some _ => exact iff_of_false nofun nofun

theorem ofTexts_eq_incomplete_iff (key outbound inbound : Option String) :
    ofTexts key outbound inbound = .error .incomplete ↔
      (∃ text ∈ [key, outbound, inbound], text ≠ none) ∧
        ∃ text ∈ [key, outbound, inbound], text = none := by
  match key, outbound, inbound with
  | none, none, none => exact iff_of_false nofun (by simp)
  | some key, some outbound, some inbound =>
      exact iff_of_false (fun h => parse_ne_incomplete (ofTexts_eq_error_iff.mp h)) (by simp)
  | some _, none, none | none, some _, none | none, none, some _ | some _, some _, none
  | some _, none, some _ | none, some _, some _ => exact iff_of_true rfl (by simp)

/-- Nothing is wrong with a key and two nonces but that the nonces are written the same, up to letter
case and white space. -/
theorem parse_eq_reuse_iff {k o : Bytes} (hKey : decodeHex "key" key = .ok k) (hk : k.length = 16)
    (hOutbound : decodeHex "tx nonce" outbound = .ok o) (ho : o.length = 13) :
    parse key outbound inbound = .error (.cipher .nonceReuse) ↔
      (Text.trim inbound.toList).map Char.toLower =
        (Text.trim outbound.toList).map Char.toLower := by
  have hSpelling : decodeHex "rx nonce" inbound = .ok o ↔ _ := decodeHex_same_iff hOutbound
  rw [← hSpelling, parse_eq_error_iff, faults]
  simp only [hKey, hOutbound]
  cases hInbound : decodeHex "rx nonce" inbound with
  | error e =>
      obtain ⟨fault, rfl⟩ := exists_fault_of_decodeHex hInbound
      simp [unread?, List.filterMap_cons, -List.head?_filterMap]
  | ok i =>
      by_cases hSame : o = i
      · simp [ChannelCipher.faults, hk, ho, ← hSame]
      · by_cases hi : i.length = 13 <;> simp [ChannelCipher.faults, hk, ho, hi, hSame, Ne.symm hSame]

/-- What comes of three optional texts. They are no credentials exactly if none is there, and
incomplete exactly if some are there and some are not. Of three texts the first fault is reported: one
that cannot be read, then a length, then that both nonces are the same, however they are written.
Three texts without a fault are credentials from which a channel can be made at any time, with both
counters at zero and just the bytes that were read. Other texts that are read as the same bytes make
a channel with the same results for all calls. -/
theorem ofTexts_reports_first_fault :
    (∀ key outbound inbound : Option String,
      (ofTexts key outbound inbound = .ok none ↔
        key = none ∧ outbound = none ∧ inbound = none) ∧
      (ofTexts key outbound inbound = .error .incomplete ↔
        (∃ text ∈ [key, outbound, inbound], text ≠ none) ∧
          ∃ text ∈ [key, outbound, inbound], text = none)) ∧
    ∀ key outbound inbound : String,
      (∀ error, ofTexts (some key) (some outbound) (some inbound) = .error error ↔
        (faults key outbound inbound).head? = some error) ∧
      (∀ k o, decodeHex "key" key = .ok k → k.length = 16 →
        decodeHex "tx nonce" outbound = .ok o → o.length = 13 →
          (ofTexts (some key) (some outbound) (some inbound) = .error (.cipher .nonceReuse) ↔
            (Text.trim inbound.toList).map Char.toLower =
              (Text.trim outbound.toList).map Char.toLower)) ∧
      (faults key outbound inbound = [] →
        ∃ c channel, ofTexts (some key) (some outbound) (some inbound) = .ok (some c) ∧
          c.cipher = .ok channel ∧
          channel.outbound.counter = 0 ∧ channel.inbound.counter = 0 ∧
          decodeHex "key" key = .ok channel.outbound.key.toList ∧
          decodeHex "key" key = .ok channel.inbound.key.toList ∧
          decodeHex "tx nonce" outbound = .ok channel.outbound.nonce.toList ∧
          decodeHex "rx nonce" inbound = .ok channel.inbound.nonce.toList ∧
          ∀ otherKey otherOutbound otherInbound,
            decodeHex "key" otherKey = decodeHex "key" key →
            decodeHex "tx nonce" otherOutbound = decodeHex "tx nonce" outbound →
            decodeHex "rx nonce" otherInbound = decodeHex "rx nonce" inbound →
              ∃ other otherChannel,
                ofTexts (some otherKey) (some otherOutbound) (some otherInbound) =
                  .ok (some other) ∧
                other.cipher = .ok otherChannel ∧
                ∀ cipher calls, (otherChannel.uses cipher calls).map (·.result) =
                  (channel.uses cipher calls).map (·.result)) := by
  refine ⟨fun key outbound inbound => ⟨?_, ?_⟩, fun key outbound inbound => ⟨?_, ?_, ?_⟩⟩
  · exact ofTexts_eq_none_iff key outbound inbound
  · exact ofTexts_eq_incomplete_iff key outbound inbound
  · exact fun error => ofTexts_eq_error_iff.trans parse_eq_error_iff
  · exact fun k o hKey hk hOutbound ho =>
      ofTexts_eq_error_iff.trans (parse_eq_reuse_iff hKey hk hOutbound ho)
  · intro hFaults
    obtain ⟨c, channel, hParse, hCipher, hFresh⟩ := exists_parse hFaults
    obtain ⟨hOutCounter, hInCounter, hOutKey, hInKey, hOutNonce, hInNonce⟩ := hFresh
    refine ⟨c, channel, ofTexts_of_parse hParse, hCipher, hOutCounter, hInCounter, hOutKey, hInKey,
      hOutNonce, hInNonce, fun otherKey otherOutbound otherInbound hKey hOutbound hInbound => ?_⟩
    have hOther := (parse_congr hKey hOutbound hInbound).trans hParse
    exact ⟨c, channel, ofTexts_of_parse hOther, hCipher, fun _ _ => rfl⟩

/-- A key in both letter cases and a nonce between line ends; nonces that differ in letter case only;
and texts with two faults. -/
theorem ofTexts_reports_first_fault_of_texts :
    (∃ c channel, ofTexts (some "00112233445566778899AABBCCDDeeff")
        (some "\n01010101010101010101010101\n") (some "0a0a0a0a0a0a0a0a0a0a0a0a0a") = .ok (some c) ∧
      c.cipher = .ok channel ∧ channel.outbound.counter = 0 ∧
      channel.inbound.nonce.toList = List.replicate 13 0x0A) ∧
    ofTexts (some "00112233445566778899AABBCCDDeeff") (some " 0A0A0A0A0A0A0A0A0A0A0A0A0A")
      (some "0a0a0a0a0a0a0a0a0a0a0a0a0a") = .error (.cipher .nonceReuse) ∧
    ofTexts (some "00") (some "0g") (some "000") = .error (.hex "tx nonce" (.symbol 1)) := by
  obtain ⟨-, hTexts⟩ := ofTexts_reports_first_fault
  have hTens (field : String) :
      decodeHex field "0a0a0a0a0a0a0a0a0a0a0a0a0a" = .ok (List.replicate 13 0x0A) := by rfl
  refine ⟨?_, ?_, ?_⟩
  · obtain ⟨-, -, hUsable⟩ := hTexts "00112233445566778899AABBCCDDeeff"
      "\n01010101010101010101010101\n" "0a0a0a0a0a0a0a0a0a0a0a0a0a"
    obtain ⟨c, channel, hParsed, hCipher, hCounter, -, -, -, -, hNonce, -⟩ :=
      hUsable (by decide +kernel)
    exact ⟨c, channel, hParsed, hCipher, hCounter, Except.ok.inj (hNonce.symm.trans (hTens _))⟩
  · obtain ⟨-, hReuse, -⟩ := hTexts "00112233445566778899AABBCCDDeeff"
      " 0A0A0A0A0A0A0A0A0A0A0A0A0A" "0a0a0a0a0a0a0a0a0a0a0a0a0a"
    exact (hReuse _ (List.replicate 13 0x0A) rfl rfl rfl rfl).mpr (by decide +kernel)
  · obtain ⟨hFirst, -⟩ := hTexts "00" "0g" "000"
    exact (hFirst _).mpr (by decide +kernel)

end Credentials

end LockRelay
