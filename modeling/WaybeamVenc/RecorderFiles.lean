import Mathlib.Data.List.Nodup
import Mathlib.Tactic.SplitIfs
import WaybeamVenc.TsRecorder

namespace WaybeamVenc.RecorderFiles

open CNumber TsMux TsRecorder

def total : List File → Nat
  | [] => 0
  | f :: disk => f.bytes.length + total disk

theorem total_append (disk disk' : List File) : total (disk ++ disk') = total disk + total disk' := by
  induction disk with
  | nil => exact (Nat.zero_add _).symm
  | cons f disk ih => rw [List.cons_append, total, total, ih, Nat.add_assoc]

theorem total_pos {disk : List File} {f : File} (hf : f ∈ disk) (hbytes : f.bytes ≠ []) : 0 < total disk := by
  induction disk with
  | nil => cases hf
  | cons g disk ih =>
      rw [total]
      cases hf with
      | head => exact Nat.add_pos_left (List.length_pos_of_ne_nil hbytes) _
      | tail _ hf => exact Nat.add_pos_right _ (ih hf)

def hasPath (disk : List File) (path : CString) : Prop := path ∈ disk.map File.path

@[simp] theorem appendFile_paths (disk : List File) (path : CString) (bytes : List UInt8) :
    (appendFile disk path bytes).map File.path = disk.map File.path := by
  rw [appendFile, List.map_map]
  apply List.map_congr_left
  intro f _
  simp only [Function.comp_apply]
  split_ifs <;> rfl

theorem appendFile_absent {disk : List File} {path : CString} (bytes : List UInt8) (h : ¬ hasPath disk path) :
    appendFile disk path bytes = disk := by
  rw [appendFile]
  conv_rhs => rw [← List.map_id disk]
  apply List.map_congr_left
  intro f hf
  have hother : ¬ f.path = path := fun hpath => h (List.mem_map.mpr ⟨f, hf, hpath⟩)
  rw [if_neg hother, id]

@[simp] theorem appendFile_nil (disk : List File) (path : CString) : appendFile disk path [] = disk := by
  rw [appendFile]
  conv_rhs => rw [← List.map_id disk]
  apply List.map_congr_left
  intro f _
  simp only [List.append_nil, ite_self, id]

theorem mem_appendFile {disk : List File} {path : CString} {bytes : List UInt8} {g : File}
    (h : g ∈ appendFile disk path bytes) :
    g ∈ disk ∧ g.path ≠ path ∨ ∃ f ∈ disk, f.path = path ∧ g = { f with bytes := f.bytes ++ bytes } := by
  obtain ⟨f, hf, rfl⟩ := List.mem_map.mp h
  by_cases hpath : f.path = path
  · rw [if_pos hpath]
    exact .inr ⟨f, hf, hpath, rfl⟩
  · rw [if_neg hpath]
    exact .inl ⟨hf, hpath⟩

theorem appended_mem {disk : List File} {path : CString} (bytes : List UInt8) {f : File} (hf : f ∈ disk)
    (hpath : f.path = path) : { f with bytes := f.bytes ++ bytes } ∈ appendFile disk path bytes :=
  List.mem_map.mpr ⟨f, hf, if_pos hpath⟩

theorem other_mem {disk : List File} {path : CString} (bytes : List UInt8) {f : File} (hf : f ∈ disk)
    (hpath : f.path ≠ path) : f ∈ appendFile disk path bytes := List.mem_map.mpr ⟨f, hf, if_neg hpath⟩

theorem appendFile_total {disk : List File} {path : CString} (bytes : List UInt8)
    (hnodup : (disk.map File.path).Nodup) (hpath : hasPath disk path) :
    total (appendFile disk path bytes) = total disk + bytes.length := by
  induction disk with
  | nil => cases hpath
  | cons f disk ih =>
      rw [List.map_cons, List.nodup_cons] at hnodup
      by_cases hf : f.path = path
      · have habsent : ¬ hasPath disk path := hf ▸ hnodup.1
        have hrest := appendFile_absent bytes habsent
        rw [appendFile] at hrest ⊢
        rw [List.map_cons, if_pos hf, hrest]
        rw [total, total, List.length_append]
        omega
      · have hmem : hasPath disk path := by
          rw [hasPath, List.map_cons] at hpath
          exact (List.mem_cons.mp hpath).resolve_left (fun h => hf h.symm)
        have hrest := ih hnodup.2 hmem
        rw [appendFile] at hrest ⊢
        rw [List.map_cons, if_neg hf]
        rw [total, total, hrest, Nat.add_assoc]

/-- The disk once a segment has been opened and its first bytes written. -/
def openedDisk (disk : List File) (path : CString) (opener : Option Frame) (bytes : List UInt8) : List File :=
  disk.filter (fun f => f.path ≠ path) ++ [⟨path, opener, bytes⟩]

theorem hasPath_filter {disk : List File} {path : CString} :
    ¬ hasPath (disk.filter (fun f => f.path ≠ path)) path := by
  intro h
  obtain ⟨f, hf, hpath⟩ := List.mem_map.mp h
  exact absurd hpath (of_decide_eq_true (List.mem_filter.mp hf).2)

theorem append_createFile (disk : List File) (path : CString) (opener : Option Frame) (bytes : List UInt8) :
    appendFile (createFile disk path opener) path bytes = openedDisk disk path opener bytes := by
  have habsent : ¬ hasPath (disk.filter (fun f => f.path ≠ path)) path := hasPath_filter
  have hothers := appendFile_absent bytes habsent
  rw [appendFile] at hothers ⊢
  rw [createFile, List.map_append, hothers, openedDisk, List.map_singleton, if_pos rfl, List.nil_append]

theorem openedDisk_nodup {disk : List File} (path : CString) (opener : Option Frame) (bytes : List UInt8)
    (h : (disk.map File.path).Nodup) : ((openedDisk disk path opener bytes).map File.path).Nodup := by
  rw [openedDisk, List.map_append, List.map_singleton]
  apply List.Nodup.append _ (List.nodup_singleton path)
  · intro p hp hq
    rw [List.mem_singleton.mp hq] at hp
    exact hasPath_filter hp
  · exact h.sublist (List.Sublist.map _ List.filter_sublist)

theorem append_openedDisk {disk : List File} {path : CString} (opener : Option Frame) (bytes more : List UInt8)
    (h : ¬ hasPath disk path) :
    appendFile (openedDisk disk path opener bytes) path more = disk ++ [⟨path, opener, bytes ++ more⟩] := by
  have hkept : disk.filter (fun f => f.path ≠ path) = disk :=
    List.filter_eq_self.mpr (fun f hf => decide_eq_true (fun hpath => h (List.mem_map.mpr ⟨f, hf, hpath⟩)))
  have hothers := appendFile_absent more h
  rw [appendFile] at hothers ⊢
  rw [openedDisk, hkept, List.map_append, hothers, List.map_singleton, if_pos rfl]

/-- What a segment's opening cuts away of the files before it. -/
def overwritten (disk : List File) (path : CString) : Nat := total (disk.filter (fun f => f.path = path))

theorem openedDisk_total (disk : List File) (path : CString) (opener : Option Frame) (bytes : List UInt8) :
    total (openedDisk disk path opener bytes) + overwritten disk path = total disk + bytes.length := by
  have hsplit : total (disk.filter (fun f => f.path ≠ path)) + overwritten disk path = total disk := by
    induction disk with
    | nil => rfl
    | cons f disk ih =>
        by_cases hf : f.path = path
        · simp only [total, overwritten, List.filter_cons, hf, ne_eq, not_true_eq_false, decide_false, decide_true, if_true,
            Bool.false_eq_true, if_false] at ih ⊢
          omega
        · simp only [total, overwritten, List.filter_cons, hf, ne_eq, not_false_eq_true, decide_false, decide_true, if_true,
            Bool.false_eq_true, if_false] at ih ⊢
          omega
  have hnew : total (openedDisk disk path opener bytes) = total (disk.filter (fun f => f.path ≠ path)) + bytes.length := by
    rw [openedDisk, total_append, total, total, Nat.add_zero]
  omega

theorem overwritten_absent {disk : List File} {path : CString} (h : ¬ hasPath disk path) : overwritten disk path = 0 := by
  have hnone : disk.filter (fun f => f.path = path) = [] :=
    List.filter_eq_nil_iff.mpr (fun f hf hpath => h (List.mem_map.mpr ⟨f, hf, of_decide_eq_true hpath⟩))
  rw [overwritten, hnone]
  rfl

theorem overwritten_pos {disk : List File} {path : CString} (h : hasPath disk path) (hfull : ∀ f ∈ disk, f.bytes ≠ []) :
    0 < overwritten disk path := by
  obtain ⟨f, hf, hpath⟩ := List.mem_map.mp h
  have hmem : f ∈ disk.filter (fun f => f.path = path) := List.mem_filter.mpr ⟨hf, decide_eq_true hpath⟩
  exact total_pos hmem (hfull f hf)

/-! What write_all does when no write is cut short. -/

def WholeWrites (rets : List WriteRet) : Prop := ∀ n, .wrote n ∉ rets

def Fails (rets : List WriteRet) : Prop := ∃ noSpace, .failed noSpace ∈ rets

theorem writeAll_completes {rets : List WriteRet} (data : List UInt8) (hwhole : WholeWrites rets) (hok : ¬ Fails rets) :
    writeAll rets data = (data, .ok data.length) := by
  induction rets with
  | nil => cases data <;> rfl
  | cons ret rets ih =>
      have hrest := ih (fun n h => hwhole n (List.mem_cons_of_mem _ h))
        (fun ⟨e, h⟩ => hok ⟨e, List.mem_cons_of_mem _ h⟩)
      cases data with
      | nil => rfl
      | cons b data =>
          cases ret with
          | wrote n => exact absurd (List.mem_cons_self ..) (hwhole n)
          | interrupted => exact hrest
          | failed e => exact absurd ⟨e, List.mem_cons_self ..⟩ hok

theorem writeAll_fails {rets : List WriteRet} {data : List UInt8} (hwhole : WholeWrites rets) (hfails : Fails rets)
    (hdata : data ≠ []) : ∃ noSpace, writeAll rets data = ([], .error noSpace) := by
  induction rets with
  | nil =>
      obtain ⟨e, h⟩ := hfails
      cases h
  | cons ret rets ih =>
      cases data with
      | nil => exact absurd rfl hdata
      | cons b data =>
          cases ret with
          | wrote n => exact absurd (List.mem_cons_self ..) (hwhole n)
          | failed e => exact ⟨e, rfl⟩
          | interrupted =>
              apply ih (fun n h => hwhole n (List.mem_cons_of_mem _ h))
              obtain ⟨e, h⟩ := hfails
              exact ⟨e, (List.mem_cons.mp h).resolve_left (by simp)⟩

end WaybeamVenc.RecorderFiles
