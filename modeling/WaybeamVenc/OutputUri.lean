import WaybeamVenc.CNumber
import WaybeamVenc.OutputSocket

namespace WaybeamVenc.OutputUri

open CNumber OutputSocket

/-- What follows a scheme at the front of a text. -/
def behind (scheme uri : CString) : Option CString :=
  if scheme.isPrefixOf uri then some (uri.drop scheme.length) else none

/-- The text before and after the last occurrence of a character. -/
def cutLast (sep : Char) : CString → Option (CString × CString)
  | [] => none
  | c :: s =>
    match cutLast sep s with
    | some r => some (c :: r.1, r.2)
    | none => if c = sep then some ([], s) else none

def bytes (s : CString) : List UInt8 := s.map fun c => UInt8.ofNat c.toNat

def parsePort (text : CString) : Option UInt16 :=
  match strtol text with
  | some (pval, []) => if pval ≤ 0 ∨ 65535 < pval then none else some pval.toUInt32.toUInt16
  | _ => none

def vencConfigParseOutputUri (uri : CString) : Option OutputUri :=
  match behind "udp://".toList uri, behind "unix://".toList uri, behind "shm://".toList uri with
  | some p, _, _ =>
    match cutLast ':' p with
    | none | some ([], _) => none
    | some (host, port) => (parsePort port).map fun port => ⟨.udp, bytes (clip 127 host).1, port, []⟩
  | none, some p, _ => if p = [] then none else some ⟨.unix, [], 0, bytes (clip 255 p).1⟩
  | none, none, some p => if p = [] then none else some ⟨.shm, [], 0, bytes (clip 255 p).1⟩
  | none, none, none => none

theorem toUInt16_ne_zero {n : Int32} (hpos : 0 < n) (hle : n ≤ 65535) : n.toUInt32.toUInt16 ≠ 0 := by
  intro hz
  have hpos' : 0 < n.toBitVec.toInt := Int32.lt_iff_toInt_lt.1 hpos
  have hle' : n.toBitVec.toInt ≤ 65535 := Int32.le_iff_toInt_le.1 hle
  have hz' : n.toBitVec.toNat % 65536 = 0 := congrArg UInt16.toNat hz
  rw [BitVec.toInt_eq_toNat_cond] at hpos' hle'
  have hlt := n.toBitVec.isLt
  split at hpos' <;> omega

theorem parse_wellFormed {uri : CString} {parsed : OutputUri} (h : vencConfigParseOutputUri uri = some parsed) :
    (parsed.type = .udp → parsed.host ≠ [] ∧ parsed.port ≠ 0) ∧ (parsed.type ≠ .udp → parsed.endpoint ≠ []) := by
  have hbytes : ∀ (n : Nat) (p : CString), 0 < n → p ≠ [] → bytes (clip n p).1 ≠ [] := by
    intro n p hn hp
    cases p with
    | nil => exact absurd rfl hp
    | cons c p =>
        cases n with
        | zero => cases hn
        | succ n => simp [bytes, clip]
  rw [vencConfigParseOutputUri] at h
  split at h
  · split at h
    · cases h
    · cases h
    next host port hne hc =>
      obtain ⟨port', hp, rfl⟩ := Option.map_eq_some_iff.1 h
      refine ⟨fun _ => ⟨hbytes 127 host (by decide) fun he => hne he, ?_⟩, fun hu => absurd rfl hu⟩
      rw [parsePort] at hp
      split at hp
      next pval _ =>
        split at hp
        · cases hp
        next hr =>
          cases hp
          rw [not_or, Int32.not_le, Int32.not_lt] at hr
          exact toUInt16_ne_zero hr.1 hr.2
      next => cases hp
  · split at h
    · cases h
    next hp =>
      cases h
      exact ⟨nofun, fun _ => hbytes 255 _ (by decide) hp⟩
  · split at h
    · cases h
    next hp =>
      cases h
      exact ⟨nofun, fun _ => hbytes 255 _ (by decide) hp⟩
  · cases h

end WaybeamVenc.OutputUri
