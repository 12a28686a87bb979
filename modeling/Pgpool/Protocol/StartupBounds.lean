-- The reads of read_startup_packet and cancel_request that leave the packet:
-- a length of 1 to 3 bytes, a V2 packet shorter than its database and user
-- fields, a V3 packet without its final NUL, a well-formed V3 packet whose
-- last value is a name the loop knows, a cancel or SSL request (the user
-- name nothing wrote), and a cancel packet shorter than CancelPacket.
import Pgpool.Protocol.StartupPacket

namespace pgpool.protocol

/-! ## Reads of a word and of a string -/

theorem byteAt_of_lt {buf : List UInt8} {i : Nat} (h : i < buf.length) : byteAt buf i = .ok buf[i] :=
  dif_pos h

theorem byteAt_of_le {buf : List UInt8} {i : Nat} (h : buf.length ≤ i) :
    byteAt buf i = .error (.outOfBounds i) :=
  dif_neg (by omega)

/-- A word that runs into the end of the buffer faults there. -/
theorem wordAt_short {buf : List UInt8} {i : Nat} (h₁ : i ≤ buf.length) (h₂ : buf.length < i + 4) :
    wordAt buf i = .error (.outOfBounds buf.length) := by
  rcases (by omega : buf.length = i ∨ buf.length = i + 1 ∨ buf.length = i + 2 ∨ buf.length = i + 3)
    with e | e | e | e <;> simp [wordAt, byteAt, e, Except.bind, Except.map]

theorem wordAt_ok {buf : List UInt8} {i : Nat} (h : i + 4 ≤ buf.length) : ∃ w, wordAt buf i = .ok w :=
  ⟨_, by
    rw [wordAt, byteAt_of_lt (by omega), byteAt_of_lt (by omega), byteAt_of_lt (by omega),
      byteAt_of_lt (by omega)]
    rfl⟩

/-- `strncpy` from a place after which the buffer holds no NUL copies its `n`
bytes when they are there, and otherwise reads at the buffer's end. -/
theorem strncpyAt_nonzero {buf : List UInt8} :
    ∀ (n i : Nat), i ≤ buf.length → 0 ∉ buf.drop i →
      strncpyAt buf i n =
        if i + n ≤ buf.length then .ok ((buf.drop i).take n) else .error (.outOfBounds buf.length)
  | 0, i, hi, _ => by simp [strncpyAt, hi]
  | n + 1, i, hi, hz => by
    rcases Nat.lt_or_ge i buf.length with hlt | hge
    · rw [List.drop_eq_getElem_cons hlt, List.mem_cons, not_or] at hz
      rw [strncpyAt, byteAt_of_lt hlt, List.drop_eq_getElem_cons hlt]
      simp only [Except.bind, if_neg (Ne.symm hz.1), strncpyAt_nonzero n (i + 1) hlt hz.2]
      split_ifs <;> first | omega | rfl
    · have e : i = buf.length := by omega
      rw [strncpyAt, byteAt_of_le hge, if_neg (by omega), ← e]
      rfl

/-! ## The packets that are read past their end -/

section
variable (optSort : OptSort) (smDatabase smUser : Nat)

/-- The protocol word of a packet of 1 to 3 bytes. -/
theorem startupPacketSwitch_short {packet : List UInt8} (h : packet.length < 4) :
    startupPacketSwitch optSort smDatabase smUser packet = .error (.outOfBounds packet.length) := by
  rw [startupPacketSwitch, wordAt_short (Nat.zero_le _) h]
  rfl

/-- A V2 packet without a NUL that ends before its user field does: one of
the two `strncpy` calls reads at its end. -/
theorem startupPacketSwitch_v2_short {minor : Nat} {rest : List UInt8} (hm : minor < 65536) (hz : 0 ∉ rest)
    (hl : rest.length < smDatabase + smUser) :
    startupPacketSwitch optSort smDatabase smUser (watchdog.bytes32 (2 * 65536 + minor) ++ rest) =
      .error (.outOfBounds (watchdog.bytes32 (2 * 65536 + minor) ++ rest).length) := by
  have hlen : (watchdog.bytes32 (2 * 65536 + minor) ++ rest).length = 4 + rest.length := by
    rw [List.length_append, watchdog.length_bytes32]
  have hz4 : 0 ∉ (watchdog.bytes32 (2 * 65536 + minor) ++ rest).drop 4 := by
    rwa [List.drop_left' (watchdog.length_bytes32 _)]
  have hmaj : (2 * 65536 + minor) / 65536 = 2 := by omega
  rw [startupPacketSwitch, wordAt_bytes32 (by omega)]
  simp only [Except.bind, hmaj, if_true]
  rw [strncpyAt_nonzero smDatabase 4 (by omega) hz4]
  by_cases hd : rest.length < smDatabase
  · rw [if_neg (by omega)]
  · rw [if_pos (by omega)]
    simp only
    rw [strncpyAt_nonzero smUser (4 + smDatabase) (by omega)
      (fun m => hz4 (List.drop_subset_drop_left _ (by omega) m)), if_neg (by omega)]

/-- A V3 packet whose options are not followed by the empty name: the count
loop reads at its end. -/
theorem startupPacketSwitch_v3_unterminated {minor : Nat} {opts : List StartupOption} (hm : minor < 65536)
    (h : WellFormedOptions opts) :
    startupPacketSwitch optSort smDatabase smUser (watchdog.bytes32 (3 * 65536 + minor) ++ optionBytes opts) =
      .error (.outOfBounds (watchdog.bytes32 (3 * 65536 + minor) ++ optionBytes opts).length) := by
  have hs := splitStrings_optionBytes (fun o ho => (h o ho).2) []
  have hp := parseOptions_append (watchdog.bytes32 (3 * 65536 + minor) ++ optionBytes opts).length
    (fun o ho => (h o ho).1) []
  have hmaj : (3 * 65536 + minor) / 65536 = 3 := by omega
  rw [List.append_nil] at hs hp
  rw [startupPacketSwitch, wordAt_bytes32 (by omega)]
  simp only [Except.bind, hmaj, if_true, List.drop_left' (watchdog.length_bytes32 _), hs]
  rw [show (splitStrings []).1 = [] from rfl, List.append_nil, hp]
  rfl

/-- A cancel or SSL request: the database defaults to the user name, which
is `pstrdup`ed from the byte `palloc` gave and nothing wrote. -/
theorem startupPacketSwitch_cancel {minor : Nat} (hm : minor < 65536) (rest : List UInt8) :
    startupPacketSwitch optSort smDatabase smUser (watchdog.bytes32 (1234 * 65536 + minor) ++ rest) =
      .error .uninitialised := by
  have hmaj : (1234 * 65536 + minor) / 65536 = 1234 := by omega
  rw [startupPacketSwitch, wordAt_bytes32 (by omega)]
  simp only [Except.bind, hmaj]
  rfl

/-- A well-formed V3 packet with one option, whose value is `user` and whose
name the loop does not know: the loop takes the value for a name, and the
final NUL for its value, and reads past it. -/
theorem readStartupPacket_v3_value_user {minor : Nat} {name : List UInt8} (hm : minor < 65536)
    (hn : name ≠ []) (hn0 : 0 ∉ name) (hk : ¬ KnownOption name)
    (hl : (v3Packet minor [(name, cstr "user")]).length < 10000) :
    readStartupPacket optSort smDatabase smUser ((v3Packet minor [(name, cstr "user")]).length + 4)
        (v3Packet minor [(name, cstr "user")]) =
      .error (.outOfBounds (v3Packet minor [(name, cstr "user")]).length) := by
  have hw : WellFormedOptions [(name, cstr "user")] := by
    simp only [WellFormedOptions, List.mem_singleton, forall_eq]
    exact ⟨hn, hn0, by decide⟩
  rw [readStartupPacket_v3Packet optSort smDatabase smUser hm hw hl,
    optSort.sort_eq_self hw (List.nodup_singleton _) (List.sorted_singleton _)]
  simp only [List.flatMap_cons, List.flatMap_nil, List.cons_append, List.nil_append, List.append_nil]
  rw [extractOptions_unknown _ _ _ hn hk, extractOptions_user]
  rfl

/-- `cancel_request` on a packet of 4 to 11 bytes reads at its end. -/
theorem cancelRequest_short {packet : List UInt8} (h₁ : 4 ≤ packet.length) (h₂ : packet.length < 12) :
    cancelRequest packet = .error (.outOfBounds packet.length) := by
  unfold cancelRequest
  rcases Nat.lt_or_ge packet.length 8 with h | h
  · rw [wordAt_short h₁ h]
    rfl
  · obtain ⟨pid, hp⟩ := wordAt_ok (show 4 + 4 ≤ packet.length by omega)
    rw [hp, wordAt_short h h₂]
    rfl

end

/-! ## What a client can make the parser read -/

/-- Packets every client can send whose length word passes the check, and
the first byte each one makes `read_startup_packet` or `cancel_request` read
outside what the client wrote: the end of the packet, or the user name of a
cancel or SSL request. -/
theorem startup_packet_reads_past_buffer (optSort : OptSort) (smDatabase smUser : Nat) :
    (∀ packet : List UInt8, 0 < packet.length → packet.length < 4 →
      readStartupPacket optSort smDatabase smUser (packet.length + 4) packet =
        .error (.outOfBounds packet.length)) ∧
    (∀ (minor : Nat) (rest : List UInt8), minor < 65536 → 0 ∉ rest → rest.length < smDatabase + smUser →
      (watchdog.bytes32 (2 * 65536 + minor) ++ rest).length < 10000 →
      readStartupPacket optSort smDatabase smUser ((watchdog.bytes32 (2 * 65536 + minor) ++ rest).length + 4)
          (watchdog.bytes32 (2 * 65536 + minor) ++ rest) =
        .error (.outOfBounds (watchdog.bytes32 (2 * 65536 + minor) ++ rest).length)) ∧
    (∀ (minor : Nat) (opts : List StartupOption), minor < 65536 → WellFormedOptions opts →
      (watchdog.bytes32 (3 * 65536 + minor) ++ optionBytes opts).length < 10000 →
      readStartupPacket optSort smDatabase smUser
          ((watchdog.bytes32 (3 * 65536 + minor) ++ optionBytes opts).length + 4)
          (watchdog.bytes32 (3 * 65536 + minor) ++ optionBytes opts) =
        .error (.outOfBounds (watchdog.bytes32 (3 * 65536 + minor) ++ optionBytes opts).length)) ∧
    (∀ (minor : Nat) (name : List UInt8), minor < 65536 → name ≠ [] → 0 ∉ name → ¬ KnownOption name →
      (v3Packet minor [(name, cstr "user")]).length < 10000 →
      readStartupPacket optSort smDatabase smUser ((v3Packet minor [(name, cstr "user")]).length + 4)
          (v3Packet minor [(name, cstr "user")]) =
        .error (.outOfBounds (v3Packet minor [(name, cstr "user")]).length)) ∧
    (∀ (minor : Nat) (rest : List UInt8), minor < 65536 →
      (watchdog.bytes32 (1234 * 65536 + minor) ++ rest).length < 10000 →
      readStartupPacket optSort smDatabase smUser ((watchdog.bytes32 (1234 * 65536 + minor) ++ rest).length + 4)
          (watchdog.bytes32 (1234 * 65536 + minor) ++ rest) = .error .uninitialised) ∧
    (∀ packet : List UInt8, 4 ≤ packet.length → packet.length < 12 →
      cancelRequest packet = .error (.outOfBounds packet.length)) := by
  have whole : ∀ packet : List UInt8, 0 < packet.length → packet.length < 10000 →
      readStartupPacket optSort smDatabase smUser (packet.length + 4) packet =
        startupPacketSwitch optSort smDatabase smUser packet := fun packet h0 hl => by
    rw [readStartupPacket_of_length optSort smDatabase smUser h0 hl le_rfl, List.take_length]
  have word : ∀ (w : Nat) (rest : List UInt8), 0 < (watchdog.bytes32 w ++ rest).length := fun w rest => by
    rw [List.length_append, watchdog.length_bytes32]; omega
  refine ⟨fun packet h0 h4 => ?_, fun minor rest hm hz hs hl => ?_, fun minor opts hm h hl => ?_,
    fun minor name hm hn hn0 hk hl => readStartupPacket_v3_value_user optSort smDatabase smUser hm hn hn0 hk hl,
    fun minor rest hm hl => ?_, fun packet => cancelRequest_short⟩
  · rw [whole packet h0 (by omega), startupPacketSwitch_short optSort smDatabase smUser h4]
  · rw [whole _ (word _ rest) hl, startupPacketSwitch_v2_short optSort smDatabase smUser hm hz hs]
  · rw [whole _ (word _ _) hl, startupPacketSwitch_v3_unterminated optSort smDatabase smUser hm h]
  · rw [whole _ (word _ rest) hl, startupPacketSwitch_cancel optSort smDatabase smUser hm rest]

/-- A packet of 2 bytes; a V2 packet that ends after the database name `db`;
the V3 packet `user=bob` without its final NUL; the V3 packet `x=user`; a
cancel request; and a cancel packet of 8 bytes. -/
theorem startup_packets_read_past_buffer :
    readStartupPacket insertionOptSort 64 32 6 [0, 3] = .error (.outOfBounds 2) ∧
    readStartupPacket insertionOptSort 64 32 10 [0, 2, 0, 0, 100, 98] = .error (.outOfBounds 6) ∧
    readStartupPacket insertionOptSort 64 32 17 (watchdog.bytes32 (3 * 65536) ++ optionBytes [(cstr "user", cstr "bob")]) =
      .error (.outOfBounds 13) ∧
    readStartupPacket insertionOptSort 64 32 16 (v3Packet 0 [(cstr "x", cstr "user")]) =
      .error (.outOfBounds 12) ∧
    readStartupPacket insertionOptSort 64 32 16 [4, 210, 22, 46, 0, 0, 0, 7, 0, 0, 0, 9] = .error .uninitialised ∧
    cancelRequest [4, 210, 22, 46, 0, 0, 0, 7] = .error (.outOfBounds 8) :=
  ⟨(startup_packet_reads_past_buffer insertionOptSort 64 32).1 [0, 3] (by decide) (by decide),
    (startup_packet_reads_past_buffer insertionOptSort 64 32).2.1 0 [100, 98] (by decide) (by decide)
      (by decide) (by decide),
    (startup_packet_reads_past_buffer insertionOptSort 64 32).2.2.1 0 [(cstr "user", cstr "bob")] (by decide)
      (by decide) (by decide),
    (startup_packet_reads_past_buffer insertionOptSort 64 32).2.2.2.1 0 (cstr "x") (by decide) (by decide)
      (by decide) (by decide) (by decide),
    (startup_packet_reads_past_buffer insertionOptSort 64 32).2.2.2.2.1 5678 [0, 0, 0, 7, 0, 0, 0, 9] (by decide)
      (by decide),
    (startup_packet_reads_past_buffer insertionOptSort 64 32).2.2.2.2.2 [4, 210, 22, 46, 0, 0, 0, 7] (by decide)
      (by decide)⟩

end pgpool.protocol
