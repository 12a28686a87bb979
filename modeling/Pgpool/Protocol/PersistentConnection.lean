-- The startup packet pgpool sends to a backend for a persistent connection
-- (make_persistent_db_connection and send_startup_packet of child.c): a V3
-- packet with the options user and database, built in a buffer of 1024 bytes
-- with snprintf. The laws:
--   * the packet is built exactly when the user and database names take at
--     most 1007 bytes together; a user name of 1009 bytes or more fails with
--     "user name is too long", and any other pair that does not fit with
--     "database name is too long";
--   * what send_startup_packet writes, read_startup_packet reads back as a
--     record with the same length, protocol version, user and database, the
--     two options in sorted order.
import Pgpool.Protocol.StartupPacket

namespace pgpool.protocol

/-! ## The pure model -/

/-- `MAX_USER_AND_DATABASE`: the size of the data after the protocol word. -/
def maxUserAndDatabase : Nat := 1024

/-- The V3 startup packet `make_persistent_db_connection` builds for the
names `dbname` and `user`: the protocol word and the `len` bytes of data, or
the `errdetail` of the `ereport(ERROR)` when a name does not fit. Each
`snprintf` gives the length it would write, and the check after it fails
when that length and the NUL do not fit in what is left. -/
def persistentStartupPacket (dbname user : List UInt8) : Except String (List UInt8) :=
  let len := (cstr "user").length + 1
  if user.length + 1 ≥ maxUserAndDatabase - len then .error "user name is too long" else
  let len := len + (user.length + 1)
  if (cstr "database").length + 1 ≥ maxUserAndDatabase - len then .error "user name is too long" else
  let len := len + ((cstr "database").length + 1)
  if dbname.length + 1 ≥ maxUserAndDatabase - len then .error "database name is too long" else
  .ok (watchdog.bytes32 (3 * 65536) ++
    (cstr "user" ++ [0] ++ user ++ [0] ++ cstr "database" ++ [0] ++ dbname ++ [0] ++ [0]))

/-- `send_startup_packet`: the length word, `sp->len` and its own four bytes,
then the `sp->len` bytes of the packet. -/
def sendStartupPacket (packet : List UInt8) : List UInt8 :=
  watchdog.bytes32 (packet.length + 4) ++ packet

/-! ## The packet and its read -/

/-- The packet is built exactly when the names take at most 1007 bytes
together: a user name of 1009 bytes or more fails the check after the user
name or the one after the word `database`, both with "user name is too
long"; any other pair that does not fit fails the check after the database
name, even a user name of 1008 bytes with an empty database name. The packet
built is the V3 packet of version 3.0 with the options `user` and
`database`. -/
theorem persistentStartupPacket_eq (dbname user : List UInt8) :
    persistentStartupPacket dbname user =
      if 1009 ≤ user.length then .error "user name is too long"
      else if 1008 ≤ user.length + dbname.length then .error "database name is too long"
      else .ok (v3Packet 0 [(cstr "user", user), (cstr "database", dbname)]) := by
  have hu : (cstr "user").length = 4 := rfl
  have hd : (cstr "database").length = 8 := rfl
  unfold persistentStartupPacket
  simp only [hu, hd, maxUserAndDatabase]
  by_cases h1 : 1009 ≤ user.length
  · rw [if_pos h1]
    split_ifs <;> first | rfl | omega
  · by_cases h2 : 1008 ≤ user.length + dbname.length
    · rw [if_neg h1, if_pos h2, if_neg (by omega), if_neg (by omega), if_pos (by omega)]
    · rw [if_neg h1, if_neg h2, if_neg (by omega), if_neg (by omega), if_neg (by omega)]
      simp [v3Packet, optionBytes]

section
variable (optSort : OptSort) (smDatabase smUser : Nat) {dbname user : List UInt8}

theorem wellFormed_userDatabase (hu0 : 0 ∉ user) (hd0 : 0 ∉ dbname) :
    WellFormedOptions [(cstr "user", user), (cstr "database", dbname)] := by
  simp only [WellFormedOptions, List.mem_cons, List.mem_singleton, List.not_mem_nil, or_false,
    forall_eq_or_imp, forall_eq]
  exact ⟨⟨by decide, by decide, hu0⟩, ⟨by decide, by decide, hd0⟩⟩

/-- `qsort` puts `database` before `user`. -/
theorem sort_userDatabase (hu0 : 0 ∉ user) (hd0 : 0 ∉ dbname) :
    optSort.sort [(cstr "user", user), (cstr "database", dbname)] =
      [(cstr "database", dbname), (cstr "user", user)] := by
  have hw := wellFormed_userDatabase hu0 hd0
  have hw' : WellFormedOptions [(cstr "database", dbname), (cstr "user", user)] :=
    hw.perm (List.Perm.swap _ _ _)
  rw [(optSort.sort_eq_iff hw hw' (by simp only [List.map_cons, List.map_nil]; decide)
      (by simp only [List.map_cons, List.map_nil]; decide)).2 (List.Perm.swap _ _ _),
    optSort.sort_eq_self hw' (by simp only [List.map_cons, List.map_nil]; decide) (by simp [NameLe]; decide)]

theorem extractOptions_database_user (len : Nat) (ex : Extracted) (dbname user : List UInt8)
    (rest : List (List UInt8)) :
    extractOptions len ex (cstr "database" :: dbname :: cstr "user" :: user :: rest) =
      extractOptions len { ex with database := .bytes dbname, user := .bytes user } rest :=
  rfl

/-- What `send_startup_packet` writes for a persistent connection,
`read_startup_packet` reads back as a record with the same length, protocol
version 3.0, user and database: the names are taken back whatever bytes they
hold, and only the order of the two options changes. -/
theorem persistent_startup_packet_read_back (hu0 : 0 ∉ user) (hd0 : 0 ∉ dbname) (hu : user ≠ [])
    (hd : dbname ≠ []) (hn : user.length + dbname.length ≤ 1007) :
    ∃ packet, persistentStartupPacket dbname user = .ok packet ∧
      readStartupPacket optSort smDatabase smUser (watchdog.ntohl ((sendStartupPacket packet).take 4))
          ((sendStartupPacket packet).drop 4) =
        .ok (.packet ⟨v3Packet 0 [(cstr "database", dbname), (cstr "user", user)], packet.length, 3, 0, dbname,
          .bytes user, none⟩) := by
  have hw := wellFormed_userDatabase hu0 hd0
  have hl : (v3Packet 0 [(cstr "user", user), (cstr "database", dbname)]).length =
      user.length + dbname.length + 21 := by
    simp [v3Packet, optionBytes, show (cstr "user").length = 4 from rfl,
      show (cstr "database").length = 8 from rfl]
    omega
  refine ⟨_, by rw [persistentStartupPacket_eq, if_neg (by omega), if_neg (by omega)], ?_⟩
  rw [sendStartupPacket, List.take_left' (watchdog.length_bytes32 _), List.drop_left' (watchdog.length_bytes32 _),
    watchdog.ntohl_bytes32 (by omega)]
  push_cast
  rw [readStartupPacket_v3Packet optSort smDatabase smUser (by decide) hw (by omega),
    sort_userDatabase optSort hu0 hd0]
  simp only [List.flatMap_cons, List.flatMap_nil, List.cons_append, List.nil_append, List.append_nil]
  rw [extractOptions_database_user]
  simp [extractOptions, finishStartupPacket, CStr.isNullOrEmpty, CStr.pstrdup, hu, hd, Except.bind, Except.map,
    length_v3Packet_perm 0 (List.Perm.swap (cstr "user", user) (cstr "database", dbname) [])]

end

/-- The persistent connection of user `pgpool` to database `postgres`. -/
theorem persistent_packet_of_pgpool_read_back :
    0 ∉ cstr "pgpool" ∧ 0 ∉ cstr "postgres" ∧ cstr "pgpool" ≠ [] ∧ cstr "postgres" ≠ [] ∧
      (cstr "pgpool").length + (cstr "postgres").length ≤ 1007 ∧
      ∃ packet, persistentStartupPacket (cstr "postgres") (cstr "pgpool") = .ok packet ∧
        readStartupPacket insertionOptSort 64 32 (watchdog.ntohl ((sendStartupPacket packet).take 4))
            ((sendStartupPacket packet).drop 4) =
          .ok (.packet ⟨v3Packet 0 [(cstr "database", cstr "postgres"), (cstr "user", cstr "pgpool")], packet.length,
            3, 0, cstr "postgres", .bytes (cstr "pgpool"), none⟩) :=
  have hu0 : 0 ∉ cstr "pgpool" := by decide
  have hd0 : 0 ∉ cstr "postgres" := by decide
  have hu : cstr "pgpool" ≠ [] := by decide
  have hd : cstr "postgres" ≠ [] := by decide
  have hn : (cstr "pgpool").length + (cstr "postgres").length ≤ 1007 := by decide
  ⟨hu0, hd0, hu, hd, hn, persistent_startup_packet_read_back insertionOptSort 64 32 hu0 hd0 hu hd hn⟩

end pgpool.protocol
