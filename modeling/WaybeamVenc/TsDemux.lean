import Mathlib.Algebra.Group.Nat.Defs
import Mathlib.Data.List.Chain
import WaybeamVenc.Crc
import WaybeamVenc.Fallible

namespace WaybeamVenc.TsDemux

open Fallible Crc

structure TsPacket where
  pid : Nat
  unitStart : Bool
  cc : Nat
  randomAccess : Bool
  payload : List UInt8
deriving DecidableEq

/-- The random access flag and what follows the adaptation field. -/
def skipAdaptation : List UInt8 → Option (Bool × List UInt8)
  | [] => none
  | len :: rest =>
    if len.toNat ≤ rest.length then
      some (decide (0 < len.toNat) && (rest.headD 0).toNat.testBit 6, rest.drop len.toNat)
    else none

def parsePacket : List UInt8 → Option TsPacket
  | sync :: b1 :: b2 :: b3 :: rest =>
    if sync = 0x47 ∧ rest.length = 184 then
      (if b3.toNat.testBit 5 then skipAdaptation rest else some (false, rest)).map fun r =>
        ⟨b1.toNat % 32 * 256 + b2.toNat, b1.toNat.testBit 6, b3.toNat % 16, r.1,
          if b3.toNat.testBit 4 then r.2 else []⟩
    else none
  | _ => none

def chunks : Nat → List UInt8 → List (List UInt8)
  | 0, _ => []
  | n + 1, bytes => bytes.take 188 :: chunks n (bytes.drop 188)

def parseStream (bytes : List UInt8) : Option (List TsPacket) :=
  if bytes.length % 188 = 0 then (chunks (bytes.length / 188) bytes).mapM parsePacket else none

def ofPid (pid : Nat) (ps : List TsPacket) : List TsPacket := ps.filter (·.pid = pid)

/-- A payload from one unit start up to the next. -/
structure Payload where
  randomAccess : Bool
  bytes : List UInt8
deriving DecidableEq

/-- The bytes before the first unit start, and the units. -/
def reassemble : List TsPacket → List UInt8 × List Payload
  | [] => ([], [])
  | p :: ps =>
    let (before, units) := reassemble ps
    if p.unitStart then ([], ⟨p.randomAccess, p.payload ++ before⟩ :: units)
    else (p.payload ++ before, units)

structure PesUnit where
  streamId : UInt8
  pts : Option Nat
  randomAccess : Bool
  data : List UInt8
deriving DecidableEq

def readPts : List UInt8 → Option Nat
  | b0 :: b1 :: b2 :: b3 :: b4 :: _ =>
    some (b0.toNat / 2 % 8 * 2 ^ 30 + b1.toNat * 2 ^ 22 + b2.toNat / 2 * 2 ^ 15 + b3.toNat * 2 ^ 7 + b4.toNat / 2)
  | _ => none

/-- One unit behind its start code. A PES_packet_length of zero leaves the
unit unbounded, any other cuts it. -/
def parsePes (u : Payload) : Option PesUnit :=
  match u.bytes with
  | 0x00 :: 0x00 :: 0x01 :: streamId :: l1 :: l0 :: _ :: flags :: headerLen :: rest =>
    let len := l1.toNat * 256 + l0.toNat
    let data := rest.drop headerLen.toNat
    some ⟨streamId, if flags.toNat.testBit 7 then readPts (rest.take headerLen.toNat) else none, u.randomAccess,
      if len = 0 then data else data.take (len - 3 - headerLen.toNat)⟩
  | _ => none

def pesUnits (pid : Nat) (ps : List TsPacket) : Option (List PesUnit) :=
  (reassemble (ofPid pid ps)).2.mapM parsePes

def crcPoly : BitVec 32 := 0x04C11DB7

/-- The section behind the pointer field, without its CRC, when the CRC
checks. -/
def parseSection (u : Payload) : Option (List UInt8) :=
  match u.bytes with
  | [] => none
  | pointer :: rest =>
    match rest.drop pointer.toNat with
    | tableId :: l1 :: l0 :: body =>
      let len := l1.toNat % 16 * 256 + l0.toNat
      let bytes := tableId :: l1 :: l0 :: body.take len
      if 4 ≤ len ∧ len ≤ body.length ∧ crc crcPoly 0xFFFFFFFF bytes = 0 then some (bytes.take (len - 1)) else none
    | _ => none

def sections (pid : Nat) (ps : List TsPacket) : Option (List (List UInt8)) :=
  (reassemble (ofPid pid ps)).2.mapM parseSection

def Continues (a b : Nat) : Prop := b = (a + 1) % 16

/-- Counters that run without a gap from a up to the one before b. -/
def Counts : Nat → List Nat → Nat → Prop
  | a, [], b => a = b
  | a, cc :: ccs, b => cc = a ∧ Counts ((a + 1) % 16) ccs b

theorem Counts.append {a b c : Nat} {xs ys : List Nat} (h : Counts a xs b) (k : Counts b ys c) :
    Counts a (xs ++ ys) c := by
  induction xs generalizing a with
  | nil => cases h; exact k
  | cons x xs ih => exact ⟨h.1, ih h.2⟩

theorem Counts.continues {a b : Nat} {xs : List Nat} (h : Counts a xs b) : xs.IsChain Continues := by
  induction xs generalizing a with
  | nil => exact .nil
  | cons x xs ih =>
      cases xs with
      | nil => exact .singleton x
      | cons y ys =>
          have htail := ih h.2
          exact .cons_cons (by rw [Continues, h.1, h.2.1]) htail

theorem parsePacket_length {bytes : List UInt8} {p : TsPacket} (h : parsePacket bytes = some p) :
    bytes.length = 188 := by
  unfold parsePacket at h
  split at h
  · split at h
    · next hsync => simp [hsync.2]
    · cases h
  · cases h

theorem parsePacket_sync {bytes : List UInt8} {p : TsPacket} (h : parsePacket bytes = some p) :
    bytes.head? = some 0x47 := by
  unfold parsePacket at h
  split at h
  · split at h
    · next hsync => simp [hsync.1]
    · cases h
  · cases h

theorem flatten_length {raw : List (List UInt8)} (h : ∀ bytes ∈ raw, bytes.length = 188) :
    raw.flatten.length = raw.length * 188 := by
  induction raw with
  | nil => rfl
  | cons bytes raw ih =>
      rw [List.flatten_cons, List.length_append, h bytes (List.mem_cons_self ..),
        ih (fun b hb => h b (List.mem_cons_of_mem _ hb)), List.length_cons]
      omega

theorem chunks_flatten {raw : List (List UInt8)} (h : ∀ bytes ∈ raw, bytes.length = 188) :
    chunks raw.length raw.flatten = raw := by
  induction raw with
  | nil => rfl
  | cons bytes raw ih =>
      have hlen := h bytes (List.mem_cons_self ..)
      rw [List.length_cons, chunks, List.flatten_cons, List.take_left' hlen, List.drop_left' hlen,
        ih (fun b hb => h b (List.mem_cons_of_mem _ hb))]

theorem parseStream_flatten {raw : List (List UInt8)} {ps : List TsPacket}
    (h : raw.mapM parsePacket = some ps) : parseStream raw.flatten = some ps := by
  have hlen : ∀ bytes ∈ raw, bytes.length = 188 := by
    intro bytes hmem
    obtain ⟨p, -, hp⟩ := mem_of_mapM h hmem
    exact parsePacket_length hp
  have hcount : raw.flatten.length = raw.length * 188 := flatten_length hlen
  rw [parseStream, hcount, if_pos (Nat.mul_mod_left ..), Nat.mul_div_cancel _ (by decide), chunks_flatten hlen, h]

theorem chunks_length (n : Nat) (bytes : List UInt8) : (chunks n bytes).length = n := by
  induction n generalizing bytes with
  | zero => rfl
  | succ n ih => rw [chunks, List.length_cons, ih]

theorem parseStream_length {bytes : List UInt8} {ps : List TsPacket} (h : parseStream bytes = some ps) :
    bytes.length = 188 * ps.length := by
  rw [parseStream] at h
  by_cases hwhole : bytes.length % 188 = 0
  · rw [if_pos hwhole] at h
    have hcount := mapM_length h
    rw [chunks_length] at hcount
    omega
  · rw [if_neg hwhole] at h
    cases h

theorem ofPid_append (pid : Nat) (ps qs : List TsPacket) : ofPid pid (ps ++ qs) = ofPid pid ps ++ ofPid pid qs :=
  List.filter_append ..

theorem reassemble_append {ps qs : List TsPacket} (h : (reassemble qs).1 = []) :
    reassemble (ps ++ qs) = ((reassemble ps).1, (reassemble ps).2 ++ (reassemble qs).2) := by
  induction ps with
  | nil =>
      rw [List.nil_append, reassemble, List.nil_append, ← h]
  | cons p ps ih =>
      rw [List.cons_append, reassemble, ih, reassemble]
      cases p.unitStart <;> rfl

theorem reassemble_continuation {ps : List TsPacket} (h : ∀ p ∈ ps, p.unitStart = false) :
    reassemble ps = (ps.flatMap (·.payload), []) := by
  induction ps with
  | nil => rfl
  | cons p ps ih =>
      rw [reassemble, ih (fun q hq => h q (List.mem_cons_of_mem _ hq)), h p (List.mem_cons_self ..)]
      rfl

theorem reassemble_unit {p : TsPacket} {ps : List TsPacket} (hstart : p.unitStart = true)
    (h : ∀ q ∈ ps, q.unitStart = false) :
    reassemble (p :: ps) = ([], [⟨p.randomAccess, p.payload ++ ps.flatMap (·.payload)⟩]) := by
  rw [reassemble, reassemble_continuation h, hstart]
  rfl

def Carries {β : Type} (f : Payload → Option β) (ps : List TsPacket) (units : List β) : Prop :=
  ∃ payloads, reassemble ps = ([], payloads) ∧ payloads.mapM f = some units

theorem Carries.nil {β : Type} {f : Payload → Option β} : Carries f [] [] := ⟨[], rfl, rfl⟩

theorem Carries.append {β : Type} {f : Payload → Option β} {ps qs : List TsPacket} {us vs : List β}
    (h : Carries f ps us) (k : Carries f qs vs) : Carries f (ps ++ qs) (us ++ vs) := by
  obtain ⟨payloads, hps, hus⟩ := h
  obtain ⟨payloads', hqs, hvs⟩ := k
  refine ⟨payloads ++ payloads', ?_, mapM_append_some hus hvs⟩
  rw [reassemble_append (congrArg Prod.fst hqs), hps, hqs]

theorem Carries.unit {β : Type} {f : Payload → Option β} {p : TsPacket} {ps : List TsPacket} {u : β}
    (hstart : p.unitStart = true) (hcont : ∀ q ∈ ps, q.unitStart = false)
    (hf : f ⟨p.randomAccess, p.payload ++ ps.flatMap (·.payload)⟩ = some u) : Carries f (p :: ps) [u] :=
  ⟨_, reassemble_unit hstart hcont, mapM_cons_some hf rfl⟩

/-- The packets of a single unit, with the random access flag of the first. -/
def OneUnit {β : Type} (f : Payload → Option β) (ps : List TsPacket) (rai : Bool) (u : β) : Prop :=
  ∃ p qs, ps = p :: qs ∧ p.unitStart = true ∧ p.randomAccess = rai ∧ (∀ q ∈ qs, q.unitStart = false) ∧
    f ⟨rai, p.payload ++ qs.flatMap (·.payload)⟩ = some u

theorem OneUnit.carries {β : Type} {f : Payload → Option β} {ps : List TsPacket} {rai : Bool} {u : β}
    (h : OneUnit f ps rai u) : Carries f ps [u] := by
  obtain ⟨p, qs, rfl, hstart, hrai, hcont, hf⟩ := h
  rw [← hrai] at hf
  exact Carries.unit hstart hcont hf

theorem OneUnit.read {β : Type} {f : Payload → Option β} {ps : List TsPacket} {rai : Bool} {u : β}
    (h : OneUnit f ps rai u) : (reassemble ps).1 = [] ∧ (reassemble ps).2.head?.bind f = some u := by
  obtain ⟨p, qs, rfl, hstart, hrai, hcont, hf⟩ := h
  rw [reassemble_unit hstart hcont, hrai]
  exact ⟨rfl, hf⟩

theorem Carries.read {β : Type} {f : Payload → Option β} {ps : List TsPacket} {us : List β}
    (h : Carries f ps us) : (reassemble ps).2.mapM f = some us := by
  obtain ⟨payloads, hps, hus⟩ := h
  rw [hps, hus]

theorem ofPid_same {pid : Nat} {ps : List TsPacket} (h : ∀ p ∈ ps, p.pid = pid) : ofPid pid ps = ps :=
  List.filter_eq_self.mpr (fun p hp => decide_eq_true (h p hp))

theorem ofPid_other {pid pid' : Nat} {ps : List TsPacket} (h : ∀ p ∈ ps, p.pid = pid) (hne : pid ≠ pid') :
    ofPid pid' ps = [] :=
  List.filter_eq_nil_iff.mpr (fun p hp => by simp [h p hp, hne])

theorem sync_bytes {raw : List (List UInt8)} {ps : List TsPacket} (h : raw.mapM parsePacket = some ps) :
    ∀ bytes ∈ chunks (raw.flatten.length / 188) raw.flatten, bytes.length = 188 ∧ bytes.head? = some 0x47 := by
  have hlen : ∀ bytes ∈ raw, bytes.length = 188 := by
    intro bytes hmem
    obtain ⟨p, -, hp⟩ := mem_of_mapM h hmem
    exact parsePacket_length hp
  rw [flatten_length hlen, Nat.mul_div_cancel _ (by decide), chunks_flatten hlen]
  intro bytes hmem
  obtain ⟨p, -, hp⟩ := mem_of_mapM h hmem
  exact ⟨hlen bytes hmem, parsePacket_sync hp⟩

end WaybeamVenc.TsDemux
