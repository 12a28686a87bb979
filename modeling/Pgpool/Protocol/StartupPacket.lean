-- The startup packet of a client connection: read_startup_packet of child.c,
-- cancel_request, and the start of get_backend_connection. Every read of a
-- buffer is checked: a read at or past its end, or of a byte nothing wrote,
-- ends the run in a fault. A V3 packet's options are sorted by name and
-- written back in place, and a second loop takes the user, database and
-- application name from the sorted bytes.
import Mathlib.Data.List.Sort
import Pgpool.Watchdog.Frames

namespace pgpool.protocol

/-! ## Checked reads -/

/-- What goes wrong in a read: an index at or past the end of the buffer, a
byte of a buffer nothing wrote, or a NULL pointer. -/
inductive Fault
  | outOfBounds (i : Nat)
  | uninitialised
  | nullPointer
  deriving DecidableEq, Repr

/-- Results of checked reads compare by value, so a run on a given packet is
decided. -/
instance decEqExcept {ε α : Type} [DecidableEq ε] [DecidableEq α] : DecidableEq (Except ε α)
  | .ok a, .ok b => decidable_of_iff (a = b) ⟨congrArg _, Except.ok.inj⟩
  | .error a, .error b => decidable_of_iff (a = b) ⟨congrArg _, Except.error.inj⟩
  | .ok _, .error _ => isFalse nofun
  | .error _, .ok _ => isFalse nofun

theorem bind_eq_ok {ε α β : Type} {x : Except ε α} {f : α → Except ε β} {b : β} :
    x.bind f = .ok b ↔ ∃ a, x = .ok a ∧ f a = .ok b := by
  cases x <;> simp [Except.bind]

theorem map_eq_ok {ε α β : Type} {x : Except ε α} {f : α → β} {b : β} :
    x.map f = .ok b ↔ ∃ a, x = .ok a ∧ f a = b := by
  cases x <;> simp [Except.map]

/-- A checked read of byte `i` of a buffer. -/
def byteAt (buf : List UInt8) (i : Nat) : Except Fault UInt8 :=
  if h : i < buf.length then .ok buf[i] else .error (.outOfBounds i)

/-- The reads of `strncpy(dst, src, n)` with `src` at index `i`: at most `n`
bytes, the last of them a NUL when one comes first; the string copied. -/
def strncpyAt (buf : List UInt8) (i : Nat) : Nat → Except Fault (List UInt8)
  | 0 => .ok []
  | n + 1 => (byteAt buf i).bind fun b =>
    if b = 0 then .ok [] else (strncpyAt buf (i + 1) n).map (b :: ·)

/-- The bytes of a C string literal. -/
def cstr (s : String) : List UInt8 := s.toList.map Char.toUInt8

/-- A string field of the startup packet record: NULL, the bytes of a copy,
or the byte `palloc` returned with nothing written to it. -/
inductive CStr
  | null
  | bytes (s : List UInt8)
  | uninit
  deriving DecidableEq, Repr

/-- `pstrdup` of a field, which reads it: its bytes. -/
def CStr.pstrdup : CStr → Except Fault (List UInt8)
  | .null => .error .nullPointer
  | .bytes s => .ok s
  | .uninit => .error .uninitialised

/-- `s == NULL || s[0] == '\0'`, which reads the first byte of a string that
is there. -/
def CStr.isNullOrEmpty : CStr → Except Fault Bool
  | .null => .ok true
  | .bytes s => .ok (s = [])
  | .uninit => .error .uninitialised

/-! ## The V3 options -/

/-- `opt_sort`: `strcmp` of two option names, on their bytes as unsigned
chars, a string's end read as its NUL. -/
def strcmp : List UInt8 → List UInt8 → Int
  | a :: as, b :: bs => if a = b ∧ a ≠ 0 then strcmp as bs else (a.toNat : Int) - b.toNat
  | a :: _, [] => a.toNat
  | [], b :: _ => -(b.toNat : Int)
  | [], [] => 0

/-! ### The order of `strcmp` -/

theorem uint8_eq_iff {x y : UInt8} : x = y ↔ x.toNat = y.toNat := ⟨congrArg _, UInt8.toNat.inj⟩

@[simp] theorem uint8_toNat_zero : (0 : UInt8).toNat = 0 := rfl

theorem strcmp_cons_cons (x y : UInt8) (as bs : List UInt8) :
    strcmp (x :: as) (y :: bs) = if x = y ∧ x ≠ 0 then strcmp as bs else (x.toNat : Int) - y.toNat := rfl

theorem strcmp_swap : ∀ a b : List UInt8, strcmp b a = -strcmp a b
  | [], [] => rfl
  | [], _ :: _ => by simp [strcmp]
  | _ :: _, [] => by simp [strcmp]
  | x :: as, y :: bs => by
    rw [strcmp_cons_cons, strcmp_cons_cons]
    by_cases hxy : x = y
    · subst hxy; by_cases h0 : x = 0 <;> simp [h0, strcmp_swap as bs]
    · simp only [hxy, Ne.symm hxy, false_and, if_false]; omega

theorem strcmp_nil_left : ∀ b : List UInt8, strcmp [] b ≤ 0
  | [] => le_refl 0
  | _ :: _ => by simp only [strcmp]; omega

theorem strcmp_zero_left (as : List UInt8) : ∀ b : List UInt8, strcmp (0 :: as) b ≤ 0
  | [] => by simp [strcmp]
  | _ :: _ => by rw [strcmp_cons_cons, if_neg fun h => h.2 rfl]; simp only [uint8_toNat_zero]; omega

theorem strcmp_trans : ∀ a b c : List UInt8, strcmp a b ≤ 0 → strcmp b c ≤ 0 → strcmp a c ≤ 0
  | [], _, c => fun _ _ => strcmp_nil_left c
  | x :: as, [], c => fun h _ => by
    obtain rfl : x = 0 := uint8_eq_iff.2 (by simp only [strcmp] at h; simp; omega)
    exact strcmp_zero_left as c
  | x :: as, y :: bs, [] => fun h1 h2 => by
    obtain rfl : y = 0 := uint8_eq_iff.2 (by simp only [strcmp] at h2; simp; omega)
    rw [strcmp_cons_cons, if_neg fun h => h.2 h.1, uint8_toNat_zero] at h1
    simp only [strcmp]; omega
  | x :: as, y :: bs, z :: cs => fun h1 h2 => by
    -- equal bytes pass the comparison on to the tails; the first other pair decides it
    have ih := strcmp_trans as bs cs
    rw [strcmp_cons_cons] at h1 h2 ⊢
    simp only [ne_eq, uint8_eq_iff, uint8_toNat_zero] at h1 h2 ⊢
    split_ifs at h1 h2 ⊢ <;> first | exact ih h1 h2 | omega

/-- An option of a V3 packet: its name and its value. -/
abbrev StartupOption := List UInt8 × List UInt8

/-- `opt_sort` on two options: the first name is at most the second by
`strcmp`. -/
def NameLe (a b : StartupOption) : Prop := strcmp a.1 b.1 ≤ 0

instance : DecidableRel NameLe := fun a b => inferInstanceAs (Decidable (strcmp a.1 b.1 ≤ 0))

/-- `qsort` with `opt_sort`, which src/ does not hold (it is the C
library's): some arrangement of the options in which each name is at most
the next by `strcmp`. -/
structure OptSort where
  sort : List StartupOption → List StartupOption
  perm : ∀ l, (sort l).Perm l
  sorted : ∀ l, (sort l).Sorted NameLe

instance : IsTotal StartupOption NameLe :=
  ⟨fun a b => by
    unfold NameLe; rw [strcmp_swap a.1 b.1]; omega⟩

instance : IsTrans StartupOption NameLe := ⟨fun a b c => strcmp_trans a.1 b.1 c.1⟩

/-- One `qsort`: insertion sort by `opt_sort`. -/
def insertionOptSort : OptSort :=
  ⟨List.insertionSort NameLe, List.perm_insertionSort NameLe, List.sorted_insertionSort NameLe⟩

/-- The bytes of a buffer as the loops over its strings walk them: each run
of bytes up to a NUL, and the bytes after the last NUL, which run into the
end of the buffer. -/
def splitStrings : List UInt8 → List (List UInt8) × List UInt8
  | [] => ([], [])
  | b :: s =>
    let r := splitStrings s
    if b = 0 then ([] :: r.1, r.2)
    else match r.1 with
      | [] => ([], b :: r.2)
      | str :: strs => ((b :: str) :: strs, r.2)

/-- The count loop of the V3 arm over the strings of the copy `sp_sort` after
the protocol word: the name and value of each option, up to the empty name
that ends them. A string that runs into the end of the buffer is read past
it, at index `len`. The pointer loop after it walks the same strings
again. -/
def parseOptions (len : Nat) : List (List UInt8) → Except Fault (List StartupOption)
  | [] => .error (.outOfBounds len)
  | [] :: _ => .ok []
  | [_] => .error (.outOfBounds len)
  | name :: value :: rest => (parseOptions len rest).map ((name, value) :: ·)

/-- The bytes of options written one after another, each name and value
with its NUL. -/
def optionBytes (opts : List StartupOption) : List UInt8 :=
  opts.flatMap fun o => o.1 ++ 0 :: o.2 ++ [0]

/-- The copy loop: the sorted options written over the packet after its
protocol word; the bytes after them keep their place. -/
def rewriteOptions (buf : List UInt8) (opts : List StartupOption) : List UInt8 :=
  buf.take 4 ++ optionBytes opts ++ buf.drop (4 + (optionBytes opts).length)

/-- What the loop over the rewritten options keeps. -/
structure Extracted where
  user : CStr
  database : CStr
  applicationName : Option (List UInt8)
  deriving DecidableEq, Repr

/-- The loop of the V3 arm that takes `user`, `database` and
`application_name` from the strings of the rewritten packet. A name it knows
is skipped with its value; any other name is skipped alone, by the
`p += strlen(p) + 1` after the tests. -/
def extractOptions (len : Nat) (ex : Extracted) : List (List UInt8) → Except Fault Extracted
  | [] => .error (.outOfBounds len)
  | [] :: _ => .ok ex
  | name :: rest =>
    if name = cstr "user" then
      match rest with
      | [] => .error (.outOfBounds len)
      | v :: rest => extractOptions len { ex with user := .bytes v } rest
    else if name = cstr "database" then
      match rest with
      | [] => .error (.outOfBounds len)
      | v :: rest => extractOptions len { ex with database := .bytes v } rest
    else if name = cstr "application_name" then
      match rest with
      | [] => .error (.outOfBounds len)
      | v :: rest => extractOptions len { ex with applicationName := some v } rest
    else extractOptions len ex rest

/-! ## The strings of a well-formed option list -/

theorem splitStrings_append_nul {s : List UInt8} (hs : 0 ∉ s) (t : List UInt8) :
    splitStrings (s ++ 0 :: t) = (s :: (splitStrings t).1, (splitStrings t).2) := by
  induction s with
  | nil => simp [splitStrings]
  | cons b s ih =>
    have hb : b ≠ 0 := fun h => hs (h ▸ List.mem_cons_self _ _)
    simp [splitStrings, hb, ih (fun h => hs (List.mem_cons_of_mem _ h))]

theorem optionBytes_cons (o : StartupOption) (opts : List StartupOption) :
    optionBytes (o :: opts) = o.1 ++ 0 :: (o.2 ++ 0 :: optionBytes opts) := by
  simp [optionBytes]

/-- Each name and value of a list of options is a string of its own, as long
as none holds a NUL. -/
theorem splitStrings_optionBytes {opts : List StartupOption} (h : ∀ o ∈ opts, 0 ∉ o.1 ∧ 0 ∉ o.2)
    (t : List UInt8) :
    splitStrings (optionBytes opts ++ t) =
      ((opts.flatMap fun o => [o.1, o.2]) ++ (splitStrings t).1, (splitStrings t).2) := by
  induction opts with
  | nil => rfl
  | cons o opts ih =>
    have ho := h o (List.mem_cons_self _ _)
    rw [optionBytes_cons]
    simp only [List.append_assoc, List.cons_append]
    rw [splitStrings_append_nul ho.1, splitStrings_append_nul ho.2,
      ih (fun o' h' => h o' (List.mem_cons_of_mem _ h'))]
    simp

/-- The count loop reads back every option whose name is not empty, and goes
on with the strings after them. -/
theorem parseOptions_append (len : Nat) {opts : List StartupOption} (h : ∀ o ∈ opts, o.1 ≠ [])
    (rest : List (List UInt8)) :
    parseOptions len ((opts.flatMap fun o => [o.1, o.2]) ++ rest) = (parseOptions len rest).map (opts ++ ·) := by
  induction opts with
  | nil =>
    show parseOptions len rest = _
    cases parseOptions len rest <;> rfl
  | cons o opts ih =>
    obtain ⟨n, v⟩ := o
    obtain ⟨b, n, rfl⟩ := List.exists_cons_of_ne_nil (h _ (List.mem_cons_self _ _))
    show (parseOptions len ((opts.flatMap fun o => [o.1, o.2]) ++ rest)).map ((b :: n, v) :: ·) = _
    rw [ih (fun o' h' => h o' (List.mem_cons_of_mem _ h'))]
    cases parseOptions len rest <;> rfl

/-- Up to the empty name that ends them. -/
theorem parseOptions_flatMap (len : Nat) {opts : List StartupOption} (h : ∀ o ∈ opts, o.1 ≠ [])
    (rest : List (List UInt8)) :
    parseOptions len ((opts.flatMap fun o => [o.1, o.2]) ++ [] :: rest) = .ok opts := by
  simp only [parseOptions_append len h, parseOptions, Except.map, List.append_nil]

/-! ## read_startup_packet -/

/-- `MAX_STARTUP_PACKET_LENGTH`. -/
def maxStartupPacketLength : Int := 10000

/-- The startup packet record `read_startup_packet` returns. -/
structure StartupPacket where
  startupPacket : List UInt8
  len : Nat
  major : Nat
  minor : Nat
  database : List UInt8
  user : CStr
  applicationName : Option (List UInt8)
  deriving DecidableEq, Repr

/-- How `read_startup_packet` ends: with the record, with `ereport(ERROR)`
(a length out of range, a connection that ends first, an unknown major
number), or with `ereport(FATAL)` for a packet without a user name. -/
inductive StartupRead
  | packet (sp : StartupPacket)
  | error
  | fatal
  deriving DecidableEq, Repr

/-- The `int` at index `i` of a buffer, after `ntohl`: a read of its four
bytes. -/
def wordAt (buf : List UInt8) (i : Nat) : Except Fault Nat :=
  (byteAt buf i).bind fun b0 => (byteAt buf (i + 1)).bind fun b1 => (byteAt buf (i + 2)).bind fun b2 =>
    (byteAt buf (i + 3)).map fun b3 => watchdog.ntohl [b0, b1, b2, b3]

/-- The end of `read_startup_packet`: a user name is required except for a
cancel or SSL request, and the database defaults to the user name. -/
def finishStartupPacket (packet : List UInt8) (major minor : Nat) (database user : CStr)
    (applicationName : Option (List UInt8)) : Except Fault StartupRead :=
  (if major = 1234 then .ok false else user.isNullOrEmpty).bind fun noUser =>
  if noUser then .ok .fatal
  else database.isNullOrEmpty.bind fun noDatabase =>
    (if noDatabase then user.pstrdup else database.pstrdup).map fun database =>
      .packet ⟨packet, packet.length, major, minor, database, user, applicationName⟩

/-- `read_startup_packet` after the packet is read: the protocol word, the
switch on its major number, and the checks after the switch. `SM_DATABASE`
and `SM_USER`, which src/ does not hold, are `smDatabase` and `smUser`, and
`qsort` is `optSort`. -/
def startupPacketSwitch (optSort : OptSort) (smDatabase smUser : Nat) (packet : List UInt8) :
    Except Fault StartupRead :=
  -- memcpy(&protov, sp->startup_packet, sizeof(protov))
  (wordAt packet 0).bind fun protov =>
  let major := protov / 65536
  let minor := protov % 65536
  if major = 2 then
    (strncpyAt packet 4 smDatabase).bind fun database =>
    (strncpyAt packet (4 + smDatabase) smUser).bind fun user =>
      finishStartupPacket packet major minor (.bytes database) (.bytes user) none
  else if major = 3 then
    (parseOptions packet.length (splitStrings (packet.drop 4)).1).bind fun opts =>
    let packet := rewriteOptions packet (optSort.sort opts)
    (extractOptions packet.length ⟨.null, .null, none⟩ (splitStrings (packet.drop 4)).1).bind fun ex =>
      finishStartupPacket packet major minor ex.database ex.user ex.applicationName
  else if major = 1234 then finishStartupPacket packet major minor (.bytes []) .uninit none
  else .ok .error

/-- `read_startup_packet` on the length word `lenWord`, after `ntohl`, and
the bytes that follow it on the connection. -/
def readStartupPacket (optSort : OptSort) (smDatabase smUser : Nat) (lenWord : Int)
    (stream : List UInt8) : Except Fault StartupRead :=
  let len := lenWord - 4
  if len ≤ 0 ∨ len ≥ maxStartupPacketLength then .ok .error
  else if stream.length < len.toNat then .ok .error
  else startupPacketSwitch optSort smDatabase smUser (stream.take len.toNat)

/-- `cancel_request` reads the process id and the cancel key of the
`CancelPacket` the startup packet holds: bytes 4 to 11. Both are read on
every path, the key in the test that finds the connection or in the log line
that says none has it; the search of the connection table, which reads
nothing else of the packet, is left out. -/
def cancelRequest (packet : List UInt8) : Except Fault (Nat × Nat) :=
  (wordAt packet 4).bind fun pid => (wordAt packet 8).map fun key => (pid, key)

/-- The check of `get_backend_connection` that an existing connection was
opened with the same startup packet: the same `len`, and `memcmp` of `len`
bytes finds no difference. -/
def StartupPacketIdentical (sp cached : StartupPacket) : Prop :=
  sp.len = cached.len ∧ sp.startupPacket.take sp.len = cached.startupPacket.take sp.len

instance (sp cached : StartupPacket) : Decidable (StartupPacketIdentical sp cached) :=
  inferInstanceAs (Decidable (_ ∧ _))

/-- A length word that passes the check, and a connection that holds as many
bytes: the rest of `read_startup_packet` runs on the first `len` of them. -/
theorem readStartupPacket_of_length (optSort : OptSort) (smDatabase smUser : Nat) {n : Nat}
    {stream : List UInt8} (h0 : 0 < n) (hn : n < 10000) (hs : n ≤ stream.length) :
    readStartupPacket optSort smDatabase smUser (n + 4) stream =
      startupPacketSwitch optSort smDatabase smUser (stream.take n) := by
  unfold readStartupPacket
  simp only [maxStartupPacketLength, add_sub_cancel_right, Int.toNat_natCast]
  rw [if_neg (by omega), if_neg (by omega)]

/-- A record from the end of `read_startup_packet` holds the packet it was
given and that packet's length. -/
theorem finishStartupPacket_packet {packet : List UInt8} {major minor : Nat} {database user : CStr}
    {applicationName : Option (List UInt8)} {sp : StartupPacket}
    (h : finishStartupPacket packet major minor database user applicationName = .ok (.packet sp)) :
    sp.startupPacket = packet ∧ sp.len = packet.length := by
  obtain ⟨noUser, -, h⟩ := bind_eq_ok.1 h
  split_ifs at h
  · cases h
  · obtain ⟨noDatabase, -, h⟩ := bind_eq_ok.1 h
    obtain ⟨database, -, h⟩ := map_eq_ok.1 h
    cases h
    exact ⟨rfl, rfl⟩

/-- The reuse check compares whole packets, each as long as its `len`. -/
theorem startupPacketIdentical_iff {sp cached : StartupPacket} (h : sp.len = sp.startupPacket.length)
    (h' : cached.len = cached.startupPacket.length) :
    StartupPacketIdentical sp cached ↔ sp.startupPacket = cached.startupPacket := by
  unfold StartupPacketIdentical
  rw [h, h', List.take_length]
  constructor
  · rintro ⟨hl, e⟩
    rwa [hl, List.take_length] at e
  · intro e
    rw [e, List.take_length]
    exact ⟨rfl, rfl⟩

/-! ## Well-formed V3 packets -/

/-- The options of a well-formed V3 packet: no name is empty, and no name or
value holds a NUL. -/
def WellFormedOptions (opts : List StartupOption) : Prop :=
  ∀ o ∈ opts, o.1 ≠ [] ∧ 0 ∉ o.1 ∧ 0 ∉ o.2

/-- A well-formed V3 startup packet: the protocol word of version
3.`minor`, the options, and the NUL that ends them as the last byte. -/
def v3Packet (minor : Nat) (opts : List StartupOption) : List UInt8 :=
  watchdog.bytes32 (3 * 65536 + minor) ++ optionBytes opts ++ [0]

instance : DecidablePred WellFormedOptions := fun _ => inferInstanceAs (Decidable (∀ o ∈ _, _))

theorem length_optionBytes_perm {opts opts' : List StartupOption} (hp : opts'.Perm opts) :
    (optionBytes opts').length = (optionBytes opts).length :=
  (hp.flatMap_right _).length_eq

theorem length_v3Packet_perm (minor : Nat) {opts opts' : List StartupOption} (hp : opts'.Perm opts) :
    (v3Packet minor opts').length = (v3Packet minor opts).length := by
  simp only [v3Packet, List.length_append, length_optionBytes_perm hp]

theorem WellFormedOptions.perm {opts opts' : List StartupOption} (h : WellFormedOptions opts)
    (hp : opts'.Perm opts) : WellFormedOptions opts' :=
  fun o ho => h o (hp.subset ho)

theorem wordAt_cons (b0 b1 b2 b3 : UInt8) (t : List UInt8) :
    wordAt (b0 :: b1 :: b2 :: b3 :: t) 0 = .ok (watchdog.ntohl [b0, b1, b2, b3]) := by
  simp [wordAt, byteAt, Except.bind, Except.map]

theorem wordAt_bytes32 {w : Nat} (hw : w < 2 ^ 32) (t : List UInt8) :
    wordAt (watchdog.bytes32 w ++ t) 0 = .ok w := by
  conv_rhs => rw [← watchdog.ntohl_bytes32 hw]
  exact wordAt_cons _ _ _ _ t

theorem strings_v3Packet (minor : Nat) {opts : List StartupOption} (h : WellFormedOptions opts) :
    (splitStrings ((v3Packet minor opts).drop 4)).1 = (opts.flatMap fun o => [o.1, o.2]) ++ [[]] := by
  rw [v3Packet, List.append_assoc, List.drop_left' (watchdog.length_bytes32 _),
    splitStrings_optionBytes (fun o ho => (h o ho).2)]
  rfl

/-- The copy loop writes the options back in the order `qsort` gives them,
after the same protocol word and before the same final NUL. -/
theorem rewriteOptions_v3Packet (minor : Nat) {opts opts' : List StartupOption}
    (hp : opts'.Perm opts) : rewriteOptions (v3Packet minor opts) opts' = v3Packet minor opts' := by
  have hl := length_optionBytes_perm hp
  unfold rewriteOptions v3Packet
  simp only [List.append_assoc]
  rw [← watchdog.length_bytes32 (3 * 65536 + minor), List.take_left, List.drop_append, hl,
    List.drop_left]

/-- The V3 arm on a well-formed packet: the options read back, sorted and
written back, and the loop that takes the user, database and application
name run over the sorted strings. -/
theorem readStartupPacket_v3Packet (optSort : OptSort) (smDatabase smUser : Nat) {minor : Nat}
    {opts : List StartupOption} (hm : minor < 65536) (h : WellFormedOptions opts)
    (hl : (v3Packet minor opts).length < 10000) :
    readStartupPacket optSort smDatabase smUser ((v3Packet minor opts).length + 4) (v3Packet minor opts) =
      (extractOptions (v3Packet minor (optSort.sort opts)).length ⟨.null, .null, none⟩
          ((optSort.sort opts).flatMap (fun o => [o.1, o.2]) ++ [[]])).bind fun ex =>
        finishStartupPacket (v3Packet minor (optSort.sort opts)) 3 minor ex.database ex.user
          ex.applicationName := by
  have h5 : 5 ≤ (v3Packet minor opts).length := by
    simp only [v3Packet, List.length_append, watchdog.length_bytes32, List.length_singleton]; omega
  have hw : wordAt (v3Packet minor opts) 0 = .ok (3 * 65536 + minor) := by
    rw [v3Packet, List.append_assoc]; exact wordAt_bytes32 (by omega) _
  have hmaj : (3 * 65536 + minor) / 65536 = 3 := by omega
  have hmin : (3 * 65536 + minor) % 65536 = minor := by omega
  rw [readStartupPacket_of_length optSort smDatabase smUser (by omega) hl le_rfl, List.take_length,
    startupPacketSwitch, hw]
  simp only [Except.bind, hmaj, hmin]
  rw [if_pos trivial, strings_v3Packet minor h,
    parseOptions_flatMap _ (fun o ho => (h o ho).1)]
  simp only
  rw [rewriteOptions_v3Packet minor (optSort.perm opts),
    strings_v3Packet minor (h.perm (optSort.perm opts))]
  rfl

/-! ## Sorting distinct names -/

/-- On strings without a NUL, `strcmp` is 0 only for equal strings. -/
theorem strcmp_eq_zero : ∀ {a b : List UInt8}, 0 ∉ a → 0 ∉ b → strcmp a b = 0 → a = b
  | [], [], _, _, _ => rfl
  | [], y :: _, _, hb, h => by
    obtain rfl : y = 0 := uint8_eq_iff.2 (by simp only [strcmp] at h; simp only [uint8_toNat_zero]; omega)
    exact absurd (List.mem_cons_self _ _) hb
  | x :: _, [], ha, _, h => by
    obtain rfl : x = 0 := uint8_eq_iff.2 (by simp only [strcmp] at h; simp only [uint8_toNat_zero]; omega)
    exact absurd (List.mem_cons_self _ _) ha
  | x :: as, y :: bs, ha, hb, h => by
    have hx : x ≠ 0 := fun e => ha (e ▸ List.mem_cons_self x _)
    rw [strcmp_cons_cons] at h
    split_ifs at h with hxy
    · rw [hxy.1, strcmp_eq_zero (fun m => ha (List.mem_cons_of_mem _ m))
        (fun m => hb (List.mem_cons_of_mem _ m)) h]
    · exact absurd ⟨uint8_eq_iff.2 (by omega), hx⟩ hxy

/-- `opt_sort` strictly: the first name comes before the second. -/
def NameLt (a b : StartupOption) : Prop := strcmp a.1 b.1 < 0

instance : IsAntisymm StartupOption NameLt :=
  ⟨fun a b h h' => by unfold NameLt at h h'; rw [strcmp_swap] at h'; omega⟩

/-- Options sorted by `opt_sort` with distinct names and no NUL are sorted
strictly. -/
theorem sorted_nameLt {l : List StartupOption} (hw : WellFormedOptions l) (hn : (l.map Prod.fst).Nodup)
    (hs : l.Sorted NameLe) : l.Sorted NameLt :=
  (hs.and (List.pairwise_map.1 hn)).imp_of_mem fun ha hb h =>
    lt_of_le_of_ne h.1 fun e => h.2 (strcmp_eq_zero (hw _ ha).2.1 (hw _ hb).2.1 e)

theorem OptSort.wellFormed (optSort : OptSort) {l : List StartupOption} (hw : WellFormedOptions l) :
    WellFormedOptions (optSort.sort l) :=
  hw.perm (optSort.perm l)

theorem OptSort.nodup (optSort : OptSort) {l : List StartupOption} (hn : (l.map Prod.fst).Nodup) :
    ((optSort.sort l).map Prod.fst).Nodup :=
  ((optSort.perm l).map _).nodup_iff.2 hn

/-- With distinct names every `qsort` gives the one sorted order: two lists
of options sort alike exactly when they hold the same options. -/
theorem OptSort.sort_eq_iff (optSort : OptSort) {o₁ o₂ : List StartupOption}
    (h₁ : WellFormedOptions o₁) (h₂ : WellFormedOptions o₂) (n₁ : (o₁.map Prod.fst).Nodup)
    (n₂ : (o₂.map Prod.fst).Nodup) : optSort.sort o₁ = optSort.sort o₂ ↔ o₁.Perm o₂ := by
  constructor
  · intro e
    exact (optSort.perm o₁).symm.trans (e ▸ optSort.perm o₂)
  · intro p
    exact List.eq_of_perm_of_sorted ((optSort.perm o₁).trans (p.trans (optSort.perm o₂).symm))
      (sorted_nameLt (optSort.wellFormed h₁) (optSort.nodup n₁) (optSort.sorted o₁))
      (sorted_nameLt (optSort.wellFormed h₂) (optSort.nodup n₂) (optSort.sorted o₂))

/-- Options already in order by distinct names are left as they are. -/
theorem OptSort.sort_eq_self (optSort : OptSort) {l : List StartupOption} (hw : WellFormedOptions l)
    (hn : (l.map Prod.fst).Nodup) (hs : l.Sorted NameLe) : optSort.sort l = l :=
  List.eq_of_perm_of_sorted (optSort.perm l)
    (sorted_nameLt (optSort.wellFormed hw) (optSort.nodup hn) (optSort.sorted l)) (sorted_nameLt hw hn hs)

/-- A well-formed V3 packet is told apart by its options. -/
theorem v3Packet_injective (minor : Nat) {o₁ o₂ : List StartupOption} (h₁ : WellFormedOptions o₁)
    (h₂ : WellFormedOptions o₂) (e : v3Packet minor o₁ = v3Packet minor o₂) : o₁ = o₂ := by
  have r₁ := parseOptions_flatMap 0 (fun o ho => (h₁ o ho).1) []
  have r₂ := parseOptions_flatMap 0 (fun o ho => (h₂ o ho).1) []
  rw [← strings_v3Packet minor h₁, e, strings_v3Packet minor h₂] at r₁
  exact Except.ok.inj (r₁.symm.trans r₂)

/-! ## The loop over the rewritten options -/

/-- The option names the loop knows. -/
def KnownOption (name : List UInt8) : Prop :=
  name = cstr "user" ∨ name = cstr "database" ∨ name = cstr "application_name"

instance : DecidablePred KnownOption := fun _ => inferInstanceAs (Decidable (_ ∨ _))

/-- Any other name is skipped alone, and the loop goes on at the next
string, which is the option's value. -/
theorem extractOptions_unknown (len : Nat) (ex : Extracted) {name : List UInt8} (rest : List (List UInt8))
    (hn : name ≠ []) (hk : ¬ KnownOption name) :
    extractOptions len ex (name :: rest) = extractOptions len ex rest := by
  obtain ⟨b, name, rfl⟩ := List.exists_cons_of_ne_nil hn
  simp only [KnownOption, not_or] at hk
  cases rest <;> simp only [extractOptions, if_neg hk.1, if_neg hk.2.1, if_neg hk.2.2]

theorem extractOptions_user (len : Nat) (ex : Extracted) (v : List UInt8) (rest : List (List UInt8)) :
    extractOptions len ex (cstr "user" :: v :: rest) = extractOptions len { ex with user := .bytes v } rest :=
  rfl

/-- The V3 arm reads a user name where a value `user` follows a name it
does not know: for every such name sorted before `user` and every value of
the real `user` option, the record holds `user`, and the database defaults
to it. -/
theorem readStartupPacket_misreads_user (optSort : OptSort) (smDatabase smUser : Nat) {minor : Nat}
    {name value : List UInt8} (hm : minor < 65536) (hn : name ≠ []) (hn0 : 0 ∉ name) (hv0 : 0 ∉ value)
    (hk : ¬ KnownOption name) (hkv : ¬ KnownOption value) (hlt : strcmp name (cstr "user") < 0)
    (hl : (v3Packet minor [(name, cstr "user"), (cstr "user", value)]).length < 10000) :
    readStartupPacket optSort smDatabase smUser
        ((v3Packet minor [(name, cstr "user"), (cstr "user", value)]).length + 4)
        (v3Packet minor [(name, cstr "user"), (cstr "user", value)]) =
      .ok (.packet ⟨v3Packet minor [(name, cstr "user"), (cstr "user", value)],
        (v3Packet minor [(name, cstr "user"), (cstr "user", value)]).length, 3, minor, cstr "user",
        .bytes (cstr "user"), none⟩) := by
  have hu : 0 ∉ cstr "user" := by decide
  have hw : WellFormedOptions [(name, cstr "user"), (cstr "user", value)] := by
    simp only [WellFormedOptions, List.mem_cons, List.mem_singleton, List.not_mem_nil, or_false,
      forall_eq_or_imp, forall_eq]
    exact ⟨⟨hn, hn0, hu⟩, ⟨by decide, hu, hv0⟩⟩
  have hne : name ≠ cstr "user" := fun e => hk (.inl e)
  have hs : optSort.sort [(name, cstr "user"), (cstr "user", value)] =
      [(name, cstr "user"), (cstr "user", value)] :=
    optSort.sort_eq_self hw (by simp [hne]) (by simp [NameLe, le_of_lt hlt])
  rw [readStartupPacket_v3Packet optSort smDatabase smUser hm hw hl, hs]
  simp only [List.flatMap_cons, List.flatMap_nil, List.cons_append, List.nil_append, List.append_nil]
  rw [extractOptions_unknown _ _ _ hn hk, extractOptions_user]
  by_cases hv : value = []
  · subst hv; rfl
  · rw [extractOptions_unknown _ _ _ hv hkv]; rfl

/-! ## What the reuse check sees -/

/-- A V3 read that gives a record holds the packet rewritten with the sorted
options, with the length of the one received. -/
theorem readStartupPacket_v3Packet_packet (optSort : OptSort) (smDatabase smUser : Nat) {minor : Nat}
    {opts : List StartupOption} {sp : StartupPacket} (hm : minor < 65536) (h : WellFormedOptions opts)
    (hl : (v3Packet minor opts).length < 10000)
    (hr : readStartupPacket optSort smDatabase smUser ((v3Packet minor opts).length + 4) (v3Packet minor opts) =
      .ok (.packet sp)) :
    sp.startupPacket = v3Packet minor (optSort.sort opts) ∧ sp.len = (v3Packet minor opts).length := by
  rw [readStartupPacket_v3Packet optSort smDatabase smUser hm h hl] at hr
  obtain ⟨ex, -, hr⟩ := bind_eq_ok.1 hr
  obtain ⟨hp, hn⟩ := finishStartupPacket_packet hr
  exact ⟨hp, hn.trans (length_v3Packet_perm minor (optSort.perm opts))⟩

/-- The V3 arm writes the options back sorted by name, after the same
protocol word, before the same final NUL and within the same `len`; with
distinct names the reuse check then finds two packets identical exactly when
they hold the same options. The loop that reads the user back does not skip
the value of an option it does not know, so a value `user` is taken for the
name of the option that follows it. -/
theorem v3_startup_options_sorted_canonically (optSort : OptSort) (smDatabase smUser : Nat) :
    (∀ (minor : Nat) (opts : List StartupOption) (sp : StartupPacket), minor < 65536 →
      WellFormedOptions opts → (v3Packet minor opts).length < 10000 →
      readStartupPacket optSort smDatabase smUser ((v3Packet minor opts).length + 4) (v3Packet minor opts) =
        .ok (.packet sp) →
      sp.startupPacket = v3Packet minor (optSort.sort opts) ∧ sp.len = (v3Packet minor opts).length ∧
        (optSort.sort opts).Perm opts ∧ (optSort.sort opts).Sorted NameLe) ∧
    (∀ (minor : Nat) (o₁ o₂ : List StartupOption) (sp₁ sp₂ : StartupPacket), minor < 65536 →
      WellFormedOptions o₁ → WellFormedOptions o₂ → (o₁.map Prod.fst).Nodup → (o₂.map Prod.fst).Nodup →
      (v3Packet minor o₁).length < 10000 → (v3Packet minor o₂).length < 10000 →
      readStartupPacket optSort smDatabase smUser ((v3Packet minor o₁).length + 4) (v3Packet minor o₁) =
        .ok (.packet sp₁) →
      readStartupPacket optSort smDatabase smUser ((v3Packet minor o₂).length + 4) (v3Packet minor o₂) =
        .ok (.packet sp₂) →
      (StartupPacketIdentical sp₁ sp₂ ↔ o₁.Perm o₂)) ∧
    (∀ (minor : Nat) (name value : List UInt8), minor < 65536 → name ≠ [] → 0 ∉ name → 0 ∉ value →
      ¬ KnownOption name → ¬ KnownOption value → strcmp name (cstr "user") < 0 →
      (v3Packet minor [(name, cstr "user"), (cstr "user", value)]).length < 10000 →
      readStartupPacket optSort smDatabase smUser
          ((v3Packet minor [(name, cstr "user"), (cstr "user", value)]).length + 4)
          (v3Packet minor [(name, cstr "user"), (cstr "user", value)]) =
        .ok (.packet ⟨v3Packet minor [(name, cstr "user"), (cstr "user", value)],
          (v3Packet minor [(name, cstr "user"), (cstr "user", value)]).length, 3, minor, cstr "user",
          .bytes (cstr "user"), none⟩)) := by
  refine ⟨fun minor opts sp hm h hl hr => ?_, fun minor o₁ o₂ sp₁ sp₂ hm h₁ h₂ n₁ n₂ hl₁ hl₂ hr₁ hr₂ => ?_,
    fun minor name value => readStartupPacket_misreads_user optSort smDatabase smUser⟩
  · exact ⟨(readStartupPacket_v3Packet_packet optSort smDatabase smUser hm h hl hr).1,
      (readStartupPacket_v3Packet_packet optSort smDatabase smUser hm h hl hr).2, optSort.perm opts,
      optSort.sorted opts⟩
  · obtain ⟨e₁, l₁⟩ := readStartupPacket_v3Packet_packet optSort smDatabase smUser hm h₁ hl₁ hr₁
    obtain ⟨e₂, l₂⟩ := readStartupPacket_v3Packet_packet optSort smDatabase smUser hm h₂ hl₂ hr₂
    have k₁ : sp₁.len = sp₁.startupPacket.length := by rw [l₁, e₁, length_v3Packet_perm minor (optSort.perm o₁)]
    have k₂ : sp₂.len = sp₂.startupPacket.length := by rw [l₂, e₂, length_v3Packet_perm minor (optSort.perm o₂)]
    rw [startupPacketIdentical_iff k₁ k₂, e₁, e₂, ← optSort.sort_eq_iff h₁ h₂ n₁ n₂]
    exact ⟨v3Packet_injective minor (optSort.wellFormed h₁) (optSort.wellFormed h₂), congrArg _⟩

/-- Two clients that send `database` and `user` in either order get one
record, and the reuse check matches them; a client that sends `a=user` and
`user=bob` is taken for the user `user`. -/
theorem v3_startup_reorder_and_misread :
    (StartupPacketIdentical
        ⟨v3Packet 0 [(cstr "database", cstr "db"), (cstr "user", cstr "bob")],
          (v3Packet 0 [(cstr "user", cstr "bob"), (cstr "database", cstr "db")]).length, 3, 0, cstr "db",
          .bytes (cstr "bob"), none⟩
        ⟨v3Packet 0 [(cstr "database", cstr "db"), (cstr "user", cstr "bob")],
          (v3Packet 0 [(cstr "user", cstr "bob"), (cstr "database", cstr "db")]).length, 3, 0, cstr "db",
          .bytes (cstr "bob"), none⟩ ↔
      [(cstr "user", cstr "bob"), (cstr "database", cstr "db")].Perm
        [(cstr "database", cstr "db"), (cstr "user", cstr "bob")]) ∧
    readStartupPacket insertionOptSort 64 32
        ((v3Packet 0 [(cstr "a", cstr "user"), (cstr "user", cstr "bob")]).length + 4)
        (v3Packet 0 [(cstr "a", cstr "user"), (cstr "user", cstr "bob")]) =
      .ok (.packet ⟨v3Packet 0 [(cstr "a", cstr "user"), (cstr "user", cstr "bob")],
        (v3Packet 0 [(cstr "a", cstr "user"), (cstr "user", cstr "bob")]).length, 3, 0, cstr "user",
        .bytes (cstr "user"), none⟩) :=
  ⟨(v3_startup_options_sorted_canonically insertionOptSort 64 32).2.1 0
      [(cstr "user", cstr "bob"), (cstr "database", cstr "db")]
      [(cstr "database", cstr "db"), (cstr "user", cstr "bob")] _ _ (by decide) (by decide) (by decide)
      (by decide) (by decide) (by decide) (by decide) (by decide) (by decide),
    (v3_startup_options_sorted_canonically insertionOptSort 64 32).2.2 0 (cstr "a") (cstr "bob") (by decide)
      (by decide) (by decide) (by decide) (by decide) (by decide) (by decide) (by decide)⟩

end pgpool.protocol
