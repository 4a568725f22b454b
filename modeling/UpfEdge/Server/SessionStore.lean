import UpfEdge.Lib.Decimal
import UpfEdge.Server.State

/-!
# The session store

`upf-edge/src/session_store.rs`.  Redis is a table of hashes, every key and value a text: a session
is the hash `upf:session:<seid>` with four fields, written by `save` and read back by `loadAll`,
which parses what it finds and puts a default where a field is missing or is not what it should be.

What a store says about a SEID is `stored`; a save and a delete change it for their own SEID only
(`stored_perform`), and `mem_loadAll` says that `loadAll` returns exactly that.
-/

namespace UpfEdge

open Lib

/-! ### Addresses as text -/

/-- One octet as `Ipv4Addr::from_str` reads it: one to three digits without a leading zero. -/
def readOctet (cs : List Char) : Option (UInt8 × List Char) :=
  let (digits, rest) := readDigits cs
  if digits = [] ∨ 3 < digits.length ∨ (1 < digits.length ∧ digits.head? = some '0') ∨
      255 < Nat.ofDigitChars 10 digits 0 then none
  else some (UInt8.ofNat (Nat.ofDigitChars 10 digits 0), rest)

def readDot : List Char → Option (List Char)
  | '.' :: cs => some cs
  | _ => none

/-- `Ipv4Addr::from_str`. -/
def Ipv4Addr.parse (s : String) : Option Ipv4Addr := do
  let (a, cs) ← readOctet s.toList
  let (b, cs) ← readOctet (← readDot cs)
  let (c, cs) ← readOctet (← readDot cs)
  let (d, cs) ← readOctet (← readDot cs)
  if cs = [] then some ⟨a, b, c, d⟩ else none

theorem octet_digits : ∀ n < 256, ¬ (Nat.toDigits 10 n = [] ∨ 3 < (Nat.toDigits 10 n).length ∨
    (1 < (Nat.toDigits 10 n).length ∧ (Nat.toDigits 10 n).head? = some '0') ∨
      255 < Nat.ofDigitChars 10 (Nat.toDigits 10 n) 0) := by
  decide +kernel

theorem readOctet_toDigits (a : UInt8) {rest : List Char}
    (h : ∀ c ∈ rest.head?, c.isDigit = false) :
    readOctet (Nat.toDigits 10 a.toNat ++ rest) = some (a, rest) := by
  unfold readOctet
  rw [readDigits_toDigits a.toNat h]
  simp only
  rw [if_neg (octet_digits a.toNat a.toNat_lt), Nat.ofDigitChars_ten_toDigits, UInt8.ofNat_toNat]

theorem toList_toString_octet (a : UInt8) : (toString a).toList = Nat.toDigits 10 a.toNat :=
  Nat.toList_repr

/-- An address is read back from its text. -/
theorem Ipv4Addr.parse_text (ip : Ipv4Addr) : Ipv4Addr.parse ip.text = some ip := by
  obtain ⟨a, b, c, d⟩ := ip
  have htext : (Ipv4Addr.text ⟨a, b, c, d⟩).toList = Nat.toDigits 10 a.toNat ++ '.' ::
      (Nat.toDigits 10 b.toNat ++ '.' :: (Nat.toDigits 10 c.toNat ++ '.' ::
        (Nat.toDigits 10 d.toNat ++ []))) := by
    simp [Ipv4Addr.text, toList_toString_octet]
  have hdot : ∀ (cs : List Char), ∀ c ∈ ('.' :: cs).head?, c.isDigit = false := by
    rintro cs c ⟨⟩
    rfl
  unfold Ipv4Addr.parse
  rw [htext, readOctet_toDigits a (hdot _)]
  simp only [readDot, Option.bind_eq_bind, Option.bind_some]
  rw [readOctet_toDigits b (hdot _)]
  simp only [Option.bind_some]
  rw [readOctet_toDigits c (hdot _)]
  simp only [Option.bind_some]
  rw [readOctet_toDigits d (by simp)]
  rfl

namespace Server

/-! ### Redis -/

/-- The hashes of a Redis database. -/
abbrev Redis : Type := Table String (Table String String)

namespace Redis

def hset (r : Redis) (key field value : String) : Redis :=
  r.insert key (((r.lookup key).getD ∅).insert field value)

def del (r : Redis) (key : String) : Redis := r.erase key

def hgetall (r : Redis) (key : String) : Table String String := (r.lookup key).getD ∅

/-- `KEYS start*`, in an order Redis chooses. -/
def keysFrom (r : Redis) (order : IterOrder String) (start : String) : List String :=
  order.perm ((AList.keys r).filter fun key => start.toList.isPrefixOf key.toList)

end Redis

/-! ### The store -/

namespace SessionStore

def keyPrefix : String := "upf:session:"

def key (seid : UInt64) : String := keyPrefix ++ toString seid

def save (seid : UInt64) (data : SessionData) (r : Redis) : Redis :=
  let r := Redis.hset r (key seid) "ue_ip" data.ueIp.text
  let r := Redis.hset r (key seid) "teid" (toString data.teid)
  let r := Redis.hset r (key seid) "gnb_ip" data.gnbIp.text
  Redis.hset r (key seid) "cp_seid" (toString data.cpSeid)

def delete (seid : UInt64) (r : Redis) : Redis := Redis.del r (key seid)

/-- The SEID a key is for, if it is for one. -/
def parseSeid (key : String) : Option UInt64 :=
  (parseUnsigned (2 ^ 64) (trimStartMatches keyPrefix.toList key.length key.toList)).map
    UInt64.ofNat

/-- A session from the fields of its hash. -/
def readData (fields : Table String String) : SessionData where
  ueIp := ((fields.lookup "ue_ip").bind Ipv4Addr.parse).getD .unspecified
  teid := ((fields.lookup "teid").bind fun s =>
    (parseUnsigned (2 ^ 32) s.toList).map UInt32.ofNat).getD 0
  gnbIp := ((fields.lookup "gnb_ip").bind Ipv4Addr.parse).getD .unspecified
  cpSeid := ((fields.lookup "cp_seid").bind fun s =>
    (parseUnsigned (2 ^ 64) s.toList).map UInt64.ofNat).getD 0

/-- `load_all`; a key that is for no SEID is skipped. -/
def loadAll (order : IterOrder String) (r : Redis) : List (UInt64 × SessionData) :=
  (Redis.keysFrom r order keyPrefix).filterMap fun key =>
    (parseSeid key).map fun seid => (seid, readData (Redis.hgetall r key))

/-! ### What is stored for a SEID -/

theorem parse_toString_u64 (n : UInt64) :
    (parseUnsigned (2 ^ 64) (toString n).toList).map UInt64.ofNat = some n := by
  have htext : (toString n).toList = Nat.toDigits 10 n.toNat := Nat.toList_repr
  rw [htext, parseUnsigned_toDigits n.toNat_lt, Option.map_some, UInt64.ofNat_toNat]

theorem parse_toString_u32 (n : UInt32) :
    (parseUnsigned (2 ^ 32) (toString n).toList).map UInt32.ofNat = some n := by
  have htext : (toString n).toList = Nat.toDigits 10 n.toNat := Nat.toList_repr
  rw [htext, parseUnsigned_toDigits n.toNat_lt, Option.map_some, UInt32.ofNat_toNat]

/-- A key is read back. -/
theorem parseSeid_key (s : UInt64) : parseSeid (key s) = some s := by
  have hkey : (key s).toList = keyPrefix.toList ++ (toString s).toList := String.toList_append
  have hfuel : 1 ≤ (key s).length := by
    rw [← String.length_toList, hkey, List.length_append]
    exact Nat.le_add_right_of_le (by decide)
  have hstop : keyPrefix.toList.isPrefixOf (toString s).toList = false := by
    have htext : (toString s).toList = Nat.toDigits 10 s.toNat := Nat.toList_repr
    have hdigits := all_isDigit_toDigits s.toNat
    rw [htext]
    cases hcs : Nat.toDigits 10 s.toNat with
    | nil => rfl
    | cons c cs =>
      rw [hcs, List.all_cons, Bool.and_eq_true] at hdigits
      have hu : ('u' == c) = false := by
        refine beq_eq_false_iff_ne.mpr ?_
        rintro rfl
        exact absurd hdigits.1 (by decide)
      simp [keyPrefix, List.isPrefixOf, hu]
  unfold parseSeid
  rw [hkey, trimStartMatches_append hfuel hstop]
  exact parse_toString_u64 s

theorem key_inj {s t : UInt64} (h : key s = key t) : s = t := by
  have hs := parseSeid_key s
  rw [h, parseSeid_key] at hs
  exact (Option.some.inj hs).symm

/-- What a save writes is read back. -/
theorem lookup_save (seid : UInt64) (data : SessionData) (r : Redis) :
    (Table.lookup (save seid data r) (key seid)).map readData = some data := by
  obtain ⟨ueIp, teid, gnbIp, cpSeid⟩ := data
  simp only [save, Redis.hset, Table.lookup_insert_ite, if_true, Option.getD_some,
    Option.map_some, readData]
  have h1 : ("ue_ip" : String) ≠ "cp_seid" := by decide
  have h2 : ("ue_ip" : String) ≠ "gnb_ip" := by decide
  have h3 : ("ue_ip" : String) ≠ "teid" := by decide
  have h4 : ("teid" : String) ≠ "cp_seid" := by decide
  have h5 : ("teid" : String) ≠ "gnb_ip" := by decide
  have h6 : ("gnb_ip" : String) ≠ "cp_seid" := by decide
  simp only [if_neg h1, if_neg h2, if_neg h3, if_neg h4, if_neg h5, if_neg h6, Option.bind_some,
    Ipv4Addr.parse_text, parse_toString_u32, parse_toString_u64, Option.getD_some]

theorem lookup_save_ne {seid : UInt64} {data : SessionData} {r : Redis} {k : String}
    (hk : k ≠ key seid) : Table.lookup (save seid data r) k = r.lookup k := by
  simp only [save, Redis.hset, Table.lookup_insert_ite, if_neg hk]

/-- The session a store has under a SEID. -/
def stored (r : Redis) (s : UInt64) : Option SessionData := (r.lookup (key s)).map readData

end SessionStore

/-- The SEID of a task. -/
def StoreTask.seid : StoreTask → UInt64
  | .save seid _ => seid
  | .delete seid => seid

/-- What a task leaves for its SEID. -/
def StoreTask.left : StoreTask → Option SessionData
  | .save _ data => some data
  | .delete _ => none

namespace SessionStore

/-- Run a task. -/
def perform (r : Redis) : StoreTask → Redis
  | .save seid data => save seid data r
  | .delete seid => delete seid r

/-- **What a task changes**: what is stored for its own SEID. -/
theorem stored_perform (r : Redis) (t : StoreTask) (s : UInt64) :
    stored (perform r t) s = if s = t.seid then t.left else stored r s := by
  cases t with
  | save seid data =>
    split_ifs with hs
    · obtain rfl : s = seid := hs
      exact lookup_save s data r
    · exact congrArg _ (lookup_save_ne fun h => hs (key_inj h))
  | delete seid =>
    refine (congrArg _ (Table.lookup_erase_ite _ _ _)).trans ?_
    split_ifs with hk hs hs
    · rfl
    · exact absurd (key_inj hk) hs
    · exact absurd (congrArg key hs) hk
    · rfl

/-- Every key of the store is for a SEID. -/
def Ours (r : Redis) : Prop := ∀ k ∈ r, ∃ s, k = key s

theorem Ours.perform {r : Redis} (h : Ours r) (t : StoreTask) : Ours (perform r t) := by
  intro k hk
  rw [← Table.lookup_isSome] at hk
  cases t with
  | save seid data =>
    by_cases hkey : k = key seid
    · exact ⟨seid, hkey⟩
    · have hsave : Table.lookup (SessionStore.perform r (.save seid data)) k = r.lookup k :=
        lookup_save_ne hkey
      rw [hsave] at hk
      exact h k (Table.lookup_isSome.mp hk)
  | delete seid =>
    have hdel : Table.lookup (SessionStore.perform r (.delete seid)) k = _ :=
      Table.lookup_erase_ite r (key seid) k
    rw [hdel] at hk
    split_ifs at hk with hkey
    · cases hk
    · exact h k (Table.lookup_isSome.mp hk)

/-- A list of tasks, one after the other. -/
def performAll (r : Redis) (ts : List StoreTask) : Redis := ts.foldl perform r

theorem Ours.performAll {r : Redis} (h : Ours r) (ts : List StoreTask) : Ours (performAll r ts) :=
  List.foldlRecOn ts _ h fun _ hr t _ => hr.perform t

theorem ours_empty : Ours ∅ := by
  intro k hk
  cases hk

theorem mem_loadAll {r : Redis} (h : Ours r) (order : IterOrder String) {s : UInt64}
    {data : SessionData} : (s, data) ∈ loadAll order r ↔ stored r s = some data := by
  unfold loadAll Redis.keysFrom stored
  rw [List.mem_filterMap]
  constructor
  · rintro ⟨k, hk, heq⟩
    obtain ⟨s', hs', heq⟩ := Option.map_eq_some_iff.mp heq
    have hmem := List.mem_of_mem_filter (order.mem_perm.mp hk)
    obtain ⟨t, rfl⟩ := h k (AList.mem_keys.mpr hmem)
    rw [parseSeid_key, Option.some.injEq] at hs'
    obtain ⟨rfl, rfl⟩ := Prod.mk.inj heq
    subst hs'
    obtain ⟨fields, hfields⟩ := Option.isSome_iff_exists.mp
      (Table.lookup_isSome.mpr (AList.mem_keys.mpr hmem))
    simp [Redis.hgetall, hfields]
  · intro hs
    obtain ⟨fields, hfields, rfl⟩ := Option.map_eq_some_iff.mp hs
    refine ⟨key s, order.mem_perm.mpr (List.mem_filter.mpr ⟨?_, ?_⟩), ?_⟩
    · exact AList.mem_keys.mp (Table.lookup_isSome.mp (by rw [hfields]; rfl))
    · simp [key]
    · simp [parseSeid_key, Redis.hgetall, hfields]

theorem nodup_loadAll {r : Redis} (h : Ours r) (order : IterOrder String) :
    (loadAll order r).Nodup := by
  have hkeys : (Redis.keysFrom r order keyPrefix).Nodup :=
    (order.isPerm _).nodup_iff.mpr (r.keys_nodup.filter _)
  have hours : ∀ k ∈ Redis.keysFrom r order keyPrefix, ∃ s, k = key s := fun k hk =>
    h k (AList.mem_keys.mpr (List.mem_of_mem_filter (order.mem_perm.mp hk)))
  refine List.pairwise_filterMap.mpr (hkeys.imp_of_mem fun {k k'} hk hk' hne b hb b' hb' => ?_)
  obtain ⟨s, rfl⟩ := hours k hk
  obtain ⟨s', rfl⟩ := hours k' hk'
  simp only [parseSeid_key, Option.map_some, Option.some.injEq] at hb hb'
  subst hb hb'
  exact fun heq => hne (congrArg key (Prod.mk.inj heq).1)

/-- A store holds the sessions of a table exactly when it has the same under every SEID. -/
theorem loadAll_perm_iff {r : Redis} (h : Ours r) (order : IterOrder String)
    (t : Table UInt64 SessionData) :
    (loadAll order r).Perm (t.entries.map fun x => (x.1, x.2)) ↔
      ∀ s, stored r s = t.lookup s := by
  have hmem : ∀ s data, (s, data) ∈ t.entries.map (fun x => (x.1, x.2)) ↔
      t.lookup s = some data := by
    intro s data
    rw [Table.lookup_eq_some, List.mem_map]
    constructor
    · rintro ⟨⟨s', data'⟩, hx, heq⟩
      obtain ⟨rfl, rfl⟩ := Prod.mk.inj heq
      exact hx
    · exact fun hx => ⟨_, hx, rfl⟩
  have hnodup : (t.entries.map fun x => (x.1, x.2)).Nodup := by
    refine (List.nodupKeys_iff_pairwise.mp t.nodupKeys).map _ fun x y hne heq => ?_
    exact hne (Prod.mk.inj heq).1
  rw [List.perm_ext_iff_of_nodup (nodup_loadAll h order) hnodup]
  constructor
  · intro hiff s
    refine Option.ext fun data => ?_
    rw [← mem_loadAll h order, hiff, hmem]
  · rintro hsame ⟨s, data⟩
    rw [mem_loadAll h order, hsame, hmem]

end SessionStore

/-! ### Restoring -/

/-- The restore loop of `pfcp_server::run`. -/
def PfcpServer.restore (srv : PfcpServer) (sessions : List (UInt64 × SessionData)) : PfcpServer :=
  { srv with sessions := sessions.foldl (fun t p => t.insert p.1 p.2) srv.sessions }

/-- A server without sessions that restores a store has the sessions of the store. -/
theorem restore_loadAll {r : Redis} (h : SessionStore.Ours r) (order : IterOrder String)
    {srv : PfcpServer} (hsrv : srv.sessions = ∅) (s : UInt64) :
    (srv.restore (SessionStore.loadAll order r)).sessions.lookup s = SessionStore.stored r s := by
  have hall : ∀ p ∈ SessionStore.loadAll order r, SessionStore.stored r p.1 = some p.2 :=
    fun p hp => (SessionStore.mem_loadAll h order).mp hp
  unfold PfcpServer.restore
  simp only
  rw [Table.lookup_foldl_insert hall, hsrv]
  split_ifs with hs
  · rfl
  · cases hdata : SessionStore.stored r s with
    | none => rfl
    | some data =>
      exact absurd (List.mem_map_of_mem ((SessionStore.mem_loadAll h order).mpr hdata)) hs

end Server

end UpfEdge
