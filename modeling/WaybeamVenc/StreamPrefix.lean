import Mathlib.Data.List.Infix
import WaybeamVenc.IdrAgreement
import WaybeamVenc.RawRecorder

namespace WaybeamVenc.StreamPrefix

open HevcRtp IdrAgreement
open RawRecorder (packVectors frameVectors infoSlice_ne_nil)

/-- The valid NALs of a stream, in order. -/
def streamUnits (packs : List StreamPack) : List (List UInt8) := frameVectors (packs.map StreamPack.toMiVencPack)

/-- The bytes that star6e_ts_recorder_write_stream hands to the muxer. -/
def handed (packs : List StreamPack) : List UInt8 := ((star6eTsRecorderWriteStream packs).map Recorded.nalBuf).getD []

/-- The inner loop on the valid units of a pack. -/
def fill (buf : List UInt8) : List (List UInt8) → List UInt8
  | [] => buf
  | u :: us => if sizeofNalBuf < buf.length + u.length then buf else fill (buf ++ u) us

/-- The outer loop; only a pack without a list leaves it. -/
def pour (buf : List UInt8) : List StreamPack → List UInt8
  | [] => buf
  | pack :: packs =>
    let us := packVectors pack.toMiVencPack
    if 0 < pack.packNum ∨ buf.length + us.flatten.length ≤ sizeofNalBuf then pour (fill buf us) packs else buf

theorem recordInfos_fill (data : List UInt8) (infos : List MiVencPackInfo) (r : Recorded) :
    (recordInfos data infos r).nalBuf = fill r.nalBuf (infos.filterMap (infoSlice data)) := by
  induction infos generalizing r with
  | nil => rfl
  | cons info infos ih =>
      rw [recordInfos]
      cases hslice : infoSlice data info with
      | none =>
          rw [List.filterMap_cons_none hslice]
          exact ih r
      | some slice =>
          rw [List.filterMap_cons_some hslice, fill, infoSlice_length hslice]
          dsimp only
          split_ifs
          · rfl
          · exact ih _

theorem fill_le {buf : List UInt8} (hbuf : buf.length ≤ sizeofNalBuf) (us : List (List UInt8)) :
    (fill buf us).length ≤ sizeofNalBuf := by
  induction us generalizing buf with
  | nil => exact hbuf
  | cons u us ih =>
      rw [fill]
      split_ifs with hfull
      · exact hbuf
      · exact ih (by rw [List.length_append]; omega)

theorem fill_of_fits {buf : List UInt8} {us : List (List UInt8)} (h : buf.length + us.flatten.length ≤ sizeofNalBuf) :
    fill buf us = buf ++ us.flatten := by
  induction us generalizing buf with
  | nil => exact (List.append_nil buf).symm
  | cons u us ih =>
      rw [List.flatten_cons, List.length_append] at h
      rw [fill, if_neg (by omega), ih (by rw [List.length_append]; omega), List.flatten_cons, List.append_assoc]

theorem pour_cons {pack : StreamPack} {us : List (List UInt8)} (h : packVectors pack.toMiVencPack = us)
    (buf : List UInt8) (packs : List StreamPack) :
    pour buf (pack :: packs) =
      if 0 < pack.packNum ∨ buf.length + us.flatten.length ≤ sizeofNalBuf then pour (fill buf us) packs else buf := by
  rw [← h]
  rfl

theorem recordPacks_pour (packs : List StreamPack) {r : Recorded} (hr : r.nalBuf.length ≤ sizeofNalBuf) :
    (recordPacks packs r).nalBuf = pour r.nalBuf packs := by
  induction packs generalizing r with
  | nil => rfl
  | cons pack packs ih =>
      have hnothing : packVectors pack.toMiVencPack = [] → pour r.nalBuf (pack :: packs) = pour r.nalBuf packs := by
        intro h
        rw [pour_cons h, if_pos (.inr hr)]
        rfl
      rw [recordPacks]
      cases hdata : pack.data with
      | none =>
          rw [hnothing (by rw [packVectors, hdata])]
          exact ih hr
      | some data =>
          dsimp only
          by_cases hlisted : 0 < pack.packNum
          · have hvectors : packVectors pack.toMiVencPack =
                (pack.packetInfo.toList.take pack.packNum).filterMap (infoSlice data) := by
              rw [packVectors, hdata]
              exact if_pos hlisted
            have hfill := recordInfos_fill data (pack.packetInfo.toList.take pack.packNum) r
            rw [pour_cons hvectors, if_pos hlisted, if_pos (.inl hlisted), ← hfill]
            apply ih
            rw [hfill]
            exact fill_le hr _
          · have hvectors : packVectors pack.toMiVencPack =
                if data.length ≤ pack.offset then [] else [data.drop pack.offset] := by
              rw [packVectors, hdata]
              exact if_neg hlisted
            rw [if_neg hlisted]
            by_cases hempty : data.length ≤ pack.offset
            · rw [if_pos hempty] at hvectors
              rw [if_pos hempty, hnothing hvectors]
              exact ih hr
            · rw [if_neg hempty] at hvectors
              have hone : [data.drop pack.offset].flatten = data.drop pack.offset := List.flatten_singleton
              rw [if_neg hempty, pour_cons hvectors, hone, ← List.length_drop]
              by_cases hfull : sizeofNalBuf < r.nalBuf.length + (data.drop pack.offset).length
              · rw [if_pos hfull, if_neg (not_or.mpr ⟨hlisted, by omega⟩)]
              · have hfits : r.nalBuf.length + (data.drop pack.offset).length ≤ sizeofNalBuf := by omega
                rw [if_neg hfull, if_pos (.inr hfits), fill_of_fits (by rw [hone]; exact hfits), hone]
                exact ih (by rw [List.length_append]; exact hfits)

theorem handed_eq (packs : List StreamPack) : handed packs = pour [] packs := by
  have hpour := @recordPacks_pour packs ⟨[], false⟩ (Nat.zero_le _)
  rw [handed, star6eTsRecorderWriteStream]
  split_ifs with hempty
  · rw [← hpour]
    exact (List.eq_nil_of_length_eq_zero hempty).symm
  · exact hpour

/-- What the buffer holds once the inner loop has left a pack. -/
def fitting (held : Nat) : List (List UInt8) → Nat
  | [] => held
  | u :: us => if sizeofNalBuf < held + u.length then held else fitting (held + u.length) us

/-- With the room that is left, no pack that the outer loop still comes to
begins with a NAL that fits. -/
def NoneFits (held : Nat) : List StreamPack → Prop
  | [] => True
  | pack :: packs =>
    match packVectors pack.toMiVencPack with
    | [] => NoneFits held packs
    | u :: _ => sizeofNalBuf < held + u.length ∧ (0 < pack.packNum → NoneFits held packs)

/-- Behind the first NAL that does not fit, if a list has it, nothing else fits. -/
def EndsAtCut (held : Nat) : List StreamPack → Prop
  | [] => True
  | pack :: packs =>
    let us := packVectors pack.toMiVencPack
    if held + us.flatten.length ≤ sizeofNalBuf then EndsAtCut (held + us.flatten.length) packs
    else 0 < pack.packNum → NoneFits (fitting held us) packs

/-- The bytes handed over end at a NAL, nothing in front of it is missing, they
fit the buffer, and they are all of a stream that does. -/
structure NalPrefix (packs : List StreamPack) : Prop where
  boundary : ∃ k, handed packs = ((streamUnits packs).take k).flatten
  bounded : (handed packs).length ≤ sizeofNalBuf
  whole : (streamUnits packs).flatten.length ≤ sizeofNalBuf → handed packs = (streamUnits packs).flatten

theorem streamUnits_cons (pack : StreamPack) (packs : List StreamPack) :
    streamUnits (pack :: packs) = packVectors pack.toMiVencPack ++ streamUnits packs := by
  rw [streamUnits, List.map_cons, frameVectors, List.flatMap_cons]
  rfl

theorem pour_le {buf : List UInt8} (hbuf : buf.length ≤ sizeofNalBuf) (packs : List StreamPack) :
    (pour buf packs).length ≤ sizeofNalBuf := by
  induction packs generalizing buf with
  | nil => exact hbuf
  | cons pack packs ih =>
      rw [pour_cons rfl]
      split_ifs
      · exact ih (fill_le hbuf _)
      · exact hbuf

theorem pour_of_fits {buf : List UInt8} {packs : List StreamPack}
    (h : buf.length + (streamUnits packs).flatten.length ≤ sizeofNalBuf) :
    pour buf packs = buf ++ (streamUnits packs).flatten := by
  induction packs generalizing buf with
  | nil => exact (List.append_nil buf).symm
  | cons pack packs ih =>
      rw [streamUnits_cons, List.flatten_append, List.length_append] at h
      have hfits : buf.length + (packVectors pack.toMiVencPack).flatten.length ≤ sizeofNalBuf := by omega
      rw [pour_cons rfl, if_pos (.inr hfits), fill_of_fits hfits, ih (by rw [List.length_append]; omega), streamUnits_cons,
        List.flatten_append, List.append_assoc]

/-- The inner loop stops in front of the first NAL that does not fit. -/
theorem fill_cut {buf : List UInt8} {us : List (List UInt8)} (hbuf : buf.length ≤ sizeofNalBuf)
    (hcut : ¬ buf.length + us.flatten.length ≤ sizeofNalBuf) :
    ∃ before u after, us = before ++ u :: after ∧ fill buf us = buf ++ before.flatten ∧
      (fill buf us).length = fitting buf.length us ∧ sizeofNalBuf < (fill buf us).length + u.length := by
  induction us generalizing buf with
  | nil => exact absurd hbuf hcut
  | cons u us ih =>
      rw [fill, fitting]
      by_cases hfull : sizeofNalBuf < buf.length + u.length
      · rw [if_pos hfull, if_pos hfull]
        exact ⟨[], u, us, rfl, (List.append_nil buf).symm, rfl, hfull⟩
      · rw [List.flatten_cons, List.length_append] at hcut
        rw [if_neg hfull, if_neg hfull, ← List.length_append]
        obtain ⟨before, v, after, hus, hfill, hlength, hnext⟩ :=
          @ih (buf ++ u) (by rw [List.length_append]; omega) (by rw [List.length_append]; omega)
        refine ⟨u :: before, v, after, ?_, ?_, hlength, hnext⟩
        · rw [hus]
          rfl
        · rw [hfill, List.flatten_cons, List.append_assoc]

theorem fill_extends (buf : List UInt8) (us : List (List UInt8)) : buf <+: fill buf us := by
  induction us generalizing buf with
  | nil => exact List.prefix_refl buf
  | cons u us ih =>
      rw [fill]
      split_ifs
      · exact List.prefix_refl buf
      · exact (List.prefix_append buf u).trans (ih _)

theorem pour_extends (buf : List UInt8) (packs : List StreamPack) : buf <+: pour buf packs := by
  induction packs generalizing buf with
  | nil => exact List.prefix_refl buf
  | cons pack packs ih =>
      rw [pour_cons rfl]
      split_ifs
      · exact (fill_extends buf _).trans (ih _)
      · exact List.prefix_refl buf

theorem streamUnit_ne_nil {packs : List StreamPack} {u : List UInt8} (h : u ∈ streamUnits packs) : u ≠ [] :=
  RawRecorder.frameVectors_ne_nil h

/-- A pack without a list has one NAL at most. -/
theorem unlisted_units {pack : StreamPack} (h : ¬ 0 < pack.packNum) {u : List UInt8} {us : List (List UInt8)}
    (hus : packVectors pack.toMiVencPack = u :: us) : us = [] := by
  rw [packVectors] at hus
  cases hdata : pack.data with
  | none =>
      rw [hdata] at hus
      cases hus
  | some data =>
      rw [hdata] at hus
      dsimp only at hus
      rw [if_neg h] at hus
      split_ifs at hus
      exact (List.cons.inj hus).2.symm

theorem pour_keeps_iff {buf : List UInt8} (hbuf : buf.length ≤ sizeofNalBuf) (packs : List StreamPack) :
    pour buf packs = buf ↔ NoneFits buf.length packs := by
  induction packs with
  | nil => exact iff_of_true rfl trivial
  | cons pack packs ih =>
      rw [NoneFits]
      cases hus : packVectors pack.toMiVencPack with
      | nil =>
          rw [pour_cons hus, if_pos (.inr hbuf)]
          exact ih
      | cons u us =>
          have hu : 0 < u.length := by
            apply List.length_pos_iff.mpr
            apply @streamUnit_ne_nil (pack :: packs)
            rw [streamUnits_cons, hus]
            exact List.mem_cons_self
          rw [pour_cons hus, fill]
          dsimp only
          by_cases hfull : sizeofNalBuf < buf.length + u.length
          · rw [if_pos hfull, and_iff_right hfull, List.flatten_cons, List.length_append]
            by_cases hlisted : 0 < pack.packNum
            · rw [if_pos (.inl hlisted), ih]
              exact (imp_iff_right hlisted).symm
            · rw [if_neg (not_or.mpr ⟨hlisted, by omega⟩)]
              exact iff_of_true rfl fun h => absurd h hlisted
          · rw [if_neg hfull]
            refine iff_of_false ?_ fun h => hfull h.1
            have hgoes : 0 < pack.packNum ∨ buf.length + (u :: us).flatten.length ≤ sizeofNalBuf := by
              by_cases hlisted : 0 < pack.packNum
              · exact .inl hlisted
              · rw [unlisted_units hlisted hus, List.flatten_singleton]
                exact .inr (not_lt.mp hfull)
            rw [if_pos hgoes]
            intro hkeeps
            have hlonger := ((fill_extends (buf ++ u) us).trans (pour_extends _ packs)).length_le
            rw [hkeeps, List.length_append] at hlonger
            omega

/-- No shorter part of the units has as many bytes as a longer one. -/
theorem take_flatten_lt {units : List (List UInt8)} (hunits : ∀ u ∈ units, u ≠ []) {j k : Nat} (hjk : j < k)
    (hj : j < units.length) : ((units.take j).flatten).length < ((units.take k).flatten).length := by
  have hnext : units.take (j + 1) <+: units.take k := List.take_prefix_take_left hjk
  have hlast : units.take (j + 1) = units.take j ++ [units[j]] := List.take_succ_eq_append_getElem hj
  have hpos : 0 < units[j].length := List.length_pos_iff.mpr (hunits _ (List.getElem_mem hj))
  have hle := (List.IsPrefix.flatten hnext).length_le
  rw [hlast, List.flatten_append, List.length_append, List.flatten_singleton] at hle
  omega

/-- Behind a pack that fits, the boundaries are those of the packs that follow. -/
theorem boundary_behind {buf bytes : List UInt8} {us rest : List (List UInt8)} (hus : ∀ u ∈ us, u ≠ [])
    (hbytes : buf ++ us.flatten <+: bytes) :
    (∃ k, bytes = buf ++ ((us ++ rest).take k).flatten) ↔ ∃ k, bytes = buf ++ us.flatten ++ (rest.take k).flatten := by
  constructor
  · rintro ⟨k, hk⟩
    by_cases hlong : us.length ≤ k
    · obtain ⟨j, rfl⟩ := Nat.exists_eq_add_of_le hlong
      rw [List.take_length_add_append, List.flatten_append, ← List.append_assoc] at hk
      exact ⟨j, hk⟩
    · have hshort := take_flatten_lt hus (Nat.lt_of_not_le hlong) (Nat.lt_of_not_le hlong)
      rw [List.take_length] at hshort
      have hle := hbytes.length_le
      rw [hk, List.take_append_of_le_length (by omega), List.length_append, List.length_append] at hle
      omega
  · rintro ⟨k, hk⟩
    refine ⟨us.length + k, ?_⟩
    rw [List.take_length_add_append, List.flatten_append, ← List.append_assoc]
    exact hk

/-- In front of a NAL that does not fit there is one boundary left. -/
theorem boundary_at_cut {buf bytes u : List UInt8} {before rest : List (List UInt8)}
    (hbytes : buf ++ before.flatten <+: bytes) (hbounded : bytes.length ≤ sizeofNalBuf)
    (hcut : sizeofNalBuf < (buf ++ before.flatten).length + u.length) :
    (∃ k, bytes = buf ++ ((before ++ u :: rest).take k).flatten) ↔ bytes = buf ++ before.flatten := by
  constructor
  · rintro ⟨k, hk⟩
    have hle : k ≤ before.length := by
      by_contra hlong
      obtain ⟨j, hj⟩ := Nat.exists_eq_add_of_lt (Nat.lt_of_not_le hlong)
      rw [hj, Nat.add_assoc, List.take_length_add_append, List.take_succ_cons, List.flatten_append, List.flatten_cons] at hk
      rw [hk] at hbounded
      simp only [List.length_append] at hbounded hcut
      omega
    have hprefix : (before ++ u :: rest).take k <+: before := by
      rw [List.take_append_of_le_length hle]
      exact List.take_prefix k before
    have hshort := (List.IsPrefix.flatten hprefix).length_le
    refine (hbytes.eq_of_length_le ?_).symm
    rw [hk, List.length_append, List.length_append]
    omega
  · intro h
    refine ⟨before.length, ?_⟩
    rw [List.take_left]
    exact h

theorem pour_boundary_iff {buf : List UInt8} (hbuf : buf.length ≤ sizeofNalBuf) (packs : List StreamPack) :
    (∃ k, pour buf packs = buf ++ ((streamUnits packs).take k).flatten) ↔ EndsAtCut buf.length packs := by
  induction packs generalizing buf with
  | nil => exact iff_of_true ⟨0, (List.append_nil buf).symm⟩ trivial
  | cons pack packs ih =>
      rw [streamUnits_cons, EndsAtCut, pour_cons rfl]
      by_cases hfits : buf.length + (packVectors pack.toMiVencPack).flatten.length ≤ sizeofNalBuf
      · have hus : ∀ u ∈ packVectors pack.toMiVencPack, u ≠ [] := by
          intro u hu
          apply @streamUnit_ne_nil (pack :: packs)
          rw [streamUnits_cons]
          exact List.mem_append_left _ hu
        rw [if_pos hfits, if_pos (.inr hfits), fill_of_fits hfits, boundary_behind hus (pour_extends _ packs),
          ← List.length_append]
        exact ih (by rw [List.length_append]; exact hfits)
      · rw [if_neg hfits]
        by_cases hlisted : 0 < pack.packNum
        · obtain ⟨before, u, after, hus, hfill, hlength, hcut⟩ := fill_cut hbuf hfits
          have hheld := fill_le hbuf (packVectors pack.toMiVencPack)
          rw [if_pos (.inl hlisted), imp_iff_right hlisted, ← hlength, ← pour_keeps_iff hheld, hus, List.append_assoc,
            List.cons_append]
          rw [hus] at hfill hcut hheld
          rw [hfill] at hcut hheld ⊢
          exact boundary_at_cut (pour_extends _ packs) (pour_le hheld packs) hcut
        · rw [if_neg (not_or.mpr ⟨hlisted, hfits⟩)]
          exact iff_of_true ⟨0, (List.append_nil buf).symm⟩ fun h => absurd h hlisted

theorem handed_boundary_iff (packs : List StreamPack) :
    (∃ k, handed packs = ((streamUnits packs).take k).flatten) ↔ EndsAtCut 0 packs := by
  rw [handed_eq]
  exact @pour_boundary_iff [] (Nat.zero_le _) packs

theorem NalPrefix.endsAtCut {packs : List StreamPack} (h : NalPrefix packs) : EndsAtCut 0 packs :=
  (handed_boundary_iff packs).mp h.boundary

/-- The recorder hands over a prefix of the NALs exactly when, behind the first
that does not fit, none of the packs it goes on to begins with one that does. -/
theorem nal_prefix_iff (packs : List StreamPack) : NalPrefix packs ↔ EndsAtCut 0 packs := by
  constructor
  · exact NalPrefix.endsAtCut
  · intro h
    refine ⟨(handed_boundary_iff packs).mpr h, ?_, fun hfits => ?_⟩
    · rw [handed_eq]
      exact pour_le (Nat.zero_le _) packs
    · rw [handed_eq, pour_of_fits (by rw [List.length_nil, Nat.zero_add]; exact hfits)]
      rfl

/-- A pack that lists one NAL. -/
def listing (n : Nat) (byte : UInt8) : StreamPack where
  data := some (List.replicate n byte)
  offset := 0
  packNum := 1
  packetInfo := Vector.replicate 8 ⟨1, 0, n⟩
  naluType := 1

theorem listing_vectors {n : Nat} (hn : 0 < n) (byte : UInt8) :
    packVectors (listing n byte).toMiVencPack = [List.replicate n byte] := by
  have hslice : infoSlice (List.replicate n byte) ⟨1, 0, n⟩ = some (List.replicate n byte) := by
    rw [infoSlice, if_neg (by rw [List.length_replicate]; dsimp only; omega)]
    simp
  change [⟨1, 0, n⟩].filterMap (infoSlice (List.replicate n byte)) = _
  rw [List.filterMap_cons_some hslice]
  rfl

/-- Three packs, of which the first and the second list NALs of one length. -/
def three (m k : Nat) : List StreamPack := [listing m 1, listing m 2, listing k 3]

/-- Where the second NAL does not fit and the third one does, the third one
follows the first one. -/
theorem handed_three {m k : Nat} (hm : 0 < m) (hk : 0 < k) (hcut : sizeofNalBuf < m + m) (hfits : m + k ≤ sizeofNalBuf) :
    handed (three m k) = List.replicate m 1 ++ List.replicate k 3 := by
  have hlisted : ∀ n byte, 0 < (listing n byte).packNum := fun _ _ => Nat.one_pos
  rw [handed_eq, three, pour_cons (listing_vectors hm 1), if_pos (.inl (hlisted m 1)), fill, fill,
    if_neg (by rw [List.length_nil, List.length_replicate]; omega), List.nil_append, pour_cons (listing_vectors hm 2),
    if_pos (.inl (hlisted m 2)), fill, if_pos (by rw [List.length_replicate, List.length_replicate]; exact hcut),
    pour_cons (listing_vectors hk 3), if_pos (.inl (hlisted k 3)), fill, fill,
    if_neg (by rw [List.length_replicate, List.length_replicate]; omega)]
  rfl

theorem not_endsAtCut_three {m k : Nat} (hm : 0 < m) (hk : 0 < k) (hcut : sizeofNalBuf < m + m)
    (hfits : m + k ≤ sizeofNalBuf) : ¬ EndsAtCut 0 (three m k) := by
  have hfirst : 0 + m ≤ sizeofNalBuf := by omega
  have hsecond : ¬ 0 + m + m ≤ sizeofNalBuf := by omega
  intro h
  rw [three, EndsAtCut, listing_vectors hm, List.flatten_singleton, List.length_replicate] at h
  rw [if_pos hfirst, EndsAtCut, listing_vectors hm, List.flatten_singleton, List.length_replicate] at h
  rw [if_neg hsecond, fitting, List.length_replicate, if_pos (not_le.mp hsecond)] at h
  have hnone := h Nat.one_pos
  rw [NoneFits, listing_vectors hk] at hnone
  have hthird := hnone.1
  rw [List.length_replicate] at hthird
  omega

/-- The second of three packs does not fit, the third one does. -/
def oversized : List StreamPack := three 300000 10

theorem middle_unit_lost :
    handed oversized = List.replicate 300000 1 ++ List.replicate 10 3 ∧ ¬ NalPrefix oversized := by
  have hcut : sizeofNalBuf < 300000 + 300000 := by decide
  have hfits : 300000 + 10 ≤ sizeofNalBuf := by decide
  constructor
  · exact handed_three (by decide) (by decide) hcut hfits
  · exact mt NalPrefix.endsAtCut (not_endsAtCut_three (by decide) (by decide) hcut hfits)

end WaybeamVenc.StreamPrefix
