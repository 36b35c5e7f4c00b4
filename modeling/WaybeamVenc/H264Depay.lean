import WaybeamVenc.Reassembly

namespace WaybeamVenc.H264Depay

open Reassembly

def nalType (b0 : UInt8) : UInt8 := b0 &&& 0x1F

def unitHeader (indicator fu : UInt8) : UInt8 := (indicator &&& 0xE0) ||| (fu &&& 0x1F)

/-- A fragment that starts a unit when none is open, or continues the one that
is. -/
def receiveFragment (got : Option (List UInt8)) (indicator : UInt8) :
    List UInt8 → Option (Option (List UInt8) × List (List UInt8))
  | fu :: fragment =>
    if fragment = [] then none
    else
      match got with
      | none =>
        if fu.toNat.testBit 7 ∧ ¬ fu.toNat.testBit 6 then some (some (unitHeader indicator fu :: fragment), [])
        else none
      | some nal =>
        if fu.toNat.testBit 7 then none
        else some (if fu.toNat.testBit 6 then (none, [nal ++ fragment]) else (some (nal ++ fragment), []))
  | [] => none

/-- A fragment, or a unit on its own between two fragmented ones. -/
def receive : Receiver (Option (List UInt8)) (List UInt8) (List UInt8)
  | _, [] => none
  | got, b0 :: bytes =>
    if nalType b0 = 28 then receiveFragment got b0 bytes
    else if got ≠ none then none
    else if nalType b0 < 24 then some (none, [b0 :: bytes])
    else none

def depacketize (payloads : List (List UInt8)) : Option (List (List UInt8)) := reassemble receive payloads

theorem receive_single {b0 : UInt8} {bytes : List UInt8} (htype : nalType b0 < 24) :
    receive none (b0 :: bytes) = some (none, [b0 :: bytes]) := by
  have hfragment : nalType b0 ≠ 28 := by
    intro h
    rw [h] at htype
    exact absurd htype (by decide)
  rw [receive, if_neg hfragment, if_neg (not_not_intro rfl), if_pos htype]

theorem receive_start {b0 fu : UInt8} {fragment : List UInt8} (htype : nalType b0 = 28)
    (hstart : fu.toNat.testBit 7 = true) (hlast : fu.toNat.testBit 6 = false) (hne : fragment ≠ []) :
    receive none (b0 :: fu :: fragment) = some (some (unitHeader b0 fu :: fragment), []) := by
  have hbits : fu.toNat.testBit 7 = true ∧ ¬ fu.toNat.testBit 6 = true := ⟨hstart, by rw [hlast]; decide⟩
  rw [receive, if_pos htype, receiveFragment, if_neg hne]
  exact if_pos hbits

theorem receive_later {b0 fu : UInt8} (nal : List UInt8) {fragment : List UInt8} (htype : nalType b0 = 28)
    (hstart : fu.toNat.testBit 7 = false) (hne : fragment ≠ []) :
    receive (some nal) (b0 :: fu :: fragment) =
      some (if fu.toNat.testBit 6 then (none, [nal ++ fragment]) else (some (nal ++ fragment), [])) := by
  have hbit : ¬ fu.toNat.testBit 7 = true := by
    rw [hstart]
    decide
  rw [receive, if_pos htype, receiveFragment, if_neg hne]
  exact if_neg hbit

end WaybeamVenc.H264Depay
